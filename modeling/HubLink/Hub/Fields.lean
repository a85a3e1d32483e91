import HubLink.Error
import HubLink.Hub.Message
/-!
Reading the fields of a hub message body, each under its field name: array and map headers,
64-bit integers, strings (whose bytes must all be present and be UTF-8), nullable strings
(nil is none), headers (an empty map is none; a key given twice is refused) and stream ids
(an empty array is none). A failed read names the field and the family it was read as.
-/
namespace HubLink.Fields

open MsgPack

/-- Lifts a MessagePack read error to a field error. -/
def lift {α : Type} (name : String) (shape : FieldShape) :
    Except ReadError (α × List UInt8) → Except Error (α × List UInt8)
  | .ok r => .ok r
  | .error e => .error (.field name shape (.read e))

/-- An array header's item count. -/
def arrayLen (name : String) (input : List UInt8) : Except Error (Nat × List UInt8) :=
  lift name .array (readArrayLen input)

/-- A map header's entry count. -/
def mapLen (name : String) (input : List UInt8) : Except Error (Nat × List UInt8) :=
  lift name .map (readMapLen input)

/-- A signed 64-bit integer. -/
def int (name : String) (input : List UInt8) : Except Error (Int × List UInt8) :=
  lift name .int64 (readInt input)

/-- A string. -/
def string (name : String) (input : List UInt8) : Except Error (String × List UInt8) := do
  let (len, rest) ← lift name .string (readStrLen input)
  let bytes := rest.take len
  if bytes.length < len then .error (.field name .string (.short len rest.length))
  else
    match Utf8.decode bytes with
    | .ok s => .ok (s, rest.drop len)
    | .error e => .error (.field name .string (.utf8 e))

/-- A string or nil. -/
def nullableString (name : String) (input : List UInt8) :
    Except Error (Option String × List UInt8) :=
  match input with
  | 0xC0 :: rest => .ok (none, rest)
  | _ => do
    let (s, rest) ← string name input
    .ok (some s, rest)

/-- `n` header entries into `acc`. -/
def headerEntries (acc : Headers) : Nat → List UInt8 → Except Error (Headers × List UInt8)
  | 0, input => .ok (acc, input)
  | n + 1, input => do
    let (key, rest) ← string "headers.key" input
    let (value, rest) ← string "headers.value" rest
    if (acc.entries.lookup key).isSome then .error (.duplicateHeader key)
    else headerEntries (acc.insert key value) n rest

/-- The headers map; an empty map is none. -/
def headers (input : List UInt8) : Except Error (Option Headers × List UInt8) := do
  let (count, rest) ← mapLen "headers" input
  if count = 0 then .ok (none, rest)
  else
    let (h, rest) ← headerEntries .empty count rest
    .ok (some h, rest)

/-- `n` stream ids. -/
def streamIdItems : Nat → List UInt8 → Except Error (List String × List UInt8)
  | 0, input => .ok ([], input)
  | n + 1, input => do
    let (id, rest) ← string "streamIds" input
    let (ids, rest) ← streamIdItems n rest
    .ok (id :: ids, rest)

/-- The stream ids; an empty array is none. -/
def streamIds (input : List UInt8) : Except Error (Option (List String) × List UInt8) := do
  let (count, rest) ← arrayLen "streamIds" input
  if count = 0 then .ok (none, rest)
  else
    let (ids, rest) ← streamIdItems count rest
    .ok (some ids, rest)

end HubLink.Fields
