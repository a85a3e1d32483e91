import HubLink.Value.Basic
import HubLink.MsgPack.Marker
import HubLink.Text.Utf8
import HubLink.Text.Quote
import HubLink.Decimal.FloatText
/-!
Reading a typed value from the front of a MessagePack byte list, consuming exactly its bytes.

Numbers and booleans are read strictly: their marker must be nil, a boolean, an integer or a
float, otherwise the marker itself is refused. Every other type first reads the whole item the
marker announces and then judges what it found: text read as a byte buffer is its UTF-8 bytes,
a binary read as text must be UTF-8, a binary read as a list gives one integer per byte, a
binary read as a record gives its fields one byte each, an array read as a record fills the
fields in order, and a map read as a record matches keys to
field names (or positions), skipping unknown keys whole. An integer must fit its type; a float
read as an integer is refused, an integer read as a float is rounded to it.

Arrays, maps and extension items nest at most 1023 deep: each opens one level of a budget of
1024, and opening the last one fails.
-/
namespace HubLink

/-- What a reader met when it expected something else. -/
inductive Unexpected where
  | bool (b : Bool)
  | unsigned (n : Nat)
  | signed (n : Int)
  | float (x : Binary64)
  | str (s : String)
  | bytes
  | unit
  | seq
  | map
  | newtypeStruct
  deriving Repr

/-- Floats in error texts: every digit written out, with at least one after the point. -/
def FloatStyle.plain : FloatStyle :=
  { scientificFrom := none, scientificBelow := none, minFraction := 1 }

/-- How an error text describes what was met. -/
def Unexpected.describe : Unexpected → String
  | .bool b => "boolean `" ++ toString b ++ "`"
  | .unsigned n => "integer `" ++ toString n ++ "`"
  | .signed n => "integer `" ++ toString n ++ "`"
  | .float x => "floating point `" ++ FloatStyle.plain.render Binary.Format.double x.bits.toNat ++ "`"
  | .str s => "string " ++ Text.quote s
  | .bytes => "byte array"
  | .unit => "unit value"
  | .seq => "sequence"
  | .map => "map"
  | .newtypeStruct => "newtype struct"

/-- Why a typed value could not be read. -/
inductive DecodeError where
  /-- The input ended where a marker should start. -/
  | markerMissing
  /-- The input ended inside the length or number a marker announced. -/
  | dataMissing
  /-- The input ended inside the bytes of a string, binary or extension. -/
  | bodyMissing
  /-- The marker starts no item the type can be read from. -/
  | wrongMarker (m : MsgPack.Marker)
  /-- An array held more items than the record has fields; `n` were read. -/
  | lengthMismatch (n : Nat)
  /-- Text that is no UTF-8 was read as a string. -/
  | invalidUtf8 (e : Utf8.Error)
  /-- The nesting budget ran out. -/
  | depthExceeded
  /-- An item of the wrong kind. -/
  | invalidType (found : Unexpected) (expected : String)
  /-- An item of the right kind with a value the type does not hold. -/
  | invalidValue (found : Unexpected) (expected : String)
  /-- An array with too few items for a record. -/
  | invalidLength (n : Nat) (expected : String)
  /-- A map without an entry for one of the record's fields. -/
  | missingField (name : String)
  /-- A map with two entries for one of the record's fields. -/
  | duplicateField (name : String)
  deriving Repr

/-- The text of a decoding error. -/
def DecodeError.message : DecodeError → String
  | .markerMissing => "IO error while reading marker: failed to fill whole buffer"
  | .dataMissing => "IO error while reading data: failed to fill whole buffer"
  | .bodyMissing => "IO error while reading data: unexpected end of file"
  | .wrongMarker m => "wrong msgpack marker " ++ m.name
  | .lengthMismatch n => "array had incorrect length, expected " ++ toString n
  | .invalidUtf8 e => "string found to be invalid utf8: " ++ e.message
  | .depthExceeded => "depth limit exceeded"
  | .invalidType u e => "invalid type: " ++ u.describe ++ ", expected " ++ e
  | .invalidValue u e => "invalid value: " ++ u.describe ++ ", expected " ++ e
  | .invalidLength n e => "invalid length " ++ toString n ++ ", expected " ++ e
  | .missingField f => "missing field `" ++ f ++ "`"
  | .duplicateField f => "duplicate field `" ++ f ++ "`"

/-- A scalar item: nil, a boolean, an integer or a float. -/
inductive Scalar where
  | unit
  | bool (b : Bool)
  | unsigned (n : Nat)
  | signed (n : Int)
  | float32 (x : Binary32)
  | float64 (x : Binary64)
  deriving Repr

/-- How an error text describes a scalar; a binary32 is described as the binary64 it equals. -/
def Scalar.unexpected : Scalar → Unexpected
  | .unit => .unit
  | .bool b => .bool b
  | .unsigned n => .unsigned n
  | .signed n => .signed n
  | .float32 x => .float x.toBinary64
  | .float64 x => .float x

namespace Decode

open MsgPack

/-- The marker a caller already read, or the next one. -/
def takeMarker (peeked : Option Marker) (input : List UInt8) : Except DecodeError (Marker × List UInt8) :=
  match peeked, input with
  | some m, _ => .ok (m, input)
  | none, [] => .error .markerMissing
  | none, b :: rest => .ok (Marker.ofByte b, rest)

/-- A big-endian number of `width` bytes. -/
def readNumber (width : Nat) (input : List UInt8) : Except DecodeError (Nat × List UInt8) :=
  match readBigEndian width input with
  | some r => .ok r
  | none => .error .dataMissing

/-- The `n` bytes of a string, binary or extension body. -/
def readBody (n : Nat) (input : List UInt8) : Except DecodeError (List UInt8 × List UInt8) :=
  match takeBytes n input with
  | some r => .ok r
  | none => .error .bodyMissing

/-- The scalar a scalar marker starts, with the bytes after it; `none` for other markers. -/
def readScalar (m : Marker) (input : List UInt8) : Option (Except DecodeError (Scalar × List UInt8)) :=
  let unsigned (width : Nat) : Except DecodeError (Scalar × List UInt8) := do
    let (n, rest) ← readNumber width input
    .ok (.unsigned n, rest)
  let signed (width : Nat) : Except DecodeError (Scalar × List UInt8) := do
    let (n, rest) ← readNumber width input
    .ok (.signed (toSigned (8 * width) n), rest)
  match m with
  | .nil => some (.ok (.unit, input))
  | .bool b => some (.ok (.bool b, input))
  | .fixPos n => some (.ok (.unsigned n, input))
  | .fixNeg n => some (.ok (.signed n, input))
  | .uint8 => some (unsigned 1)
  | .uint16 => some (unsigned 2)
  | .uint32 => some (unsigned 4)
  | .uint64 => some (unsigned 8)
  | .int8 => some (signed 1)
  | .int16 => some (signed 2)
  | .int32 => some (signed 4)
  | .int64 => some (signed 8)
  | .float32 => some (do
      let (n, rest) ← readNumber 4 input
      .ok (.float32 ⟨n.toUInt32⟩, rest))
  | .float64 => some (do
      let (n, rest) ← readNumber 8 input
      .ok (.float64 ⟨n.toUInt64⟩, rest))
  | _ => none

/-- The length a string marker announces. -/
def strLength? (m : Marker) (input : List UInt8) : Option (Except DecodeError (Nat × List UInt8)) :=
  match m with
  | .fixStr n => some (.ok (n, input))
  | .str8 => some (readNumber 1 input)
  | .str16 => some (readNumber 2 input)
  | .str32 => some (readNumber 4 input)
  | _ => none

/-- The length a binary marker announces. -/
def binLength? (m : Marker) (input : List UInt8) : Option (Except DecodeError (Nat × List UInt8)) :=
  match m with
  | .bin8 => some (readNumber 1 input)
  | .bin16 => some (readNumber 2 input)
  | .bin32 => some (readNumber 4 input)
  | _ => none

/-- The item count an array marker announces. -/
def arrayLength? (m : Marker) (input : List UInt8) : Option (Except DecodeError (Nat × List UInt8)) :=
  match m with
  | .fixArray n => some (.ok (n, input))
  | .array16 => some (readNumber 2 input)
  | .array32 => some (readNumber 4 input)
  | _ => none

/-- The entry count a map marker announces. -/
def mapLength? (m : Marker) (input : List UInt8) : Option (Except DecodeError (Nat × List UInt8)) :=
  match m with
  | .fixMap n => some (.ok (n, input))
  | .map16 => some (readNumber 2 input)
  | .map32 => some (readNumber 4 input)
  | _ => none

/-- The body length an extension marker announces (the type byte not counted). -/
def extLength? (m : Marker) (input : List UInt8) : Option (Except DecodeError (Nat × List UInt8)) :=
  match m with
  | .fixExt1 => some (.ok (1, input))
  | .fixExt2 => some (.ok (2, input))
  | .fixExt4 => some (.ok (4, input))
  | .fixExt8 => some (.ok (8, input))
  | .fixExt16 => some (.ok (16, input))
  | .ext8 => some (readNumber 1 input)
  | .ext16 => some (readNumber 2 input)
  | .ext32 => some (readNumber 4 input)
  | _ => none

/-- Opens one nesting level: the budget left inside, or an error when none is left. -/
def enter (depth : Nat) : Except DecodeError Nat :=
  if depth - 1 = 0 then .error .depthExceeded else .ok (depth - 1)

/-- A scalar read as a value of type `t`. Integers must lie in the type's range; integers and
floats become floats of the type's format by rounding; every other pairing is refused. -/
def ofScalar (t : ValueType) (s : Scalar) : Except DecodeError Value :=
  match t, s with
  | .bool, .bool b => .ok (.bool b)
  | .f32, .float32 x => .ok (.f32 x)
  | .f32, .float64 x => .ok (.f32 x.toBinary32)
  | .f32, .unsigned n => .ok (.f32 (Binary32.ofInt n))
  | .f32, .signed n => .ok (.f32 (Binary32.ofInt n))
  | .f64, .float64 x => .ok (.f64 x)
  | .f64, .float32 x => .ok (.f64 x.toBinary64)
  | .f64, .unsigned n => .ok (.f64 (Binary64.ofInt n))
  | .f64, .signed n => .ok (.f64 (Binary64.ofInt n))
  | t, .unsigned n =>
    match t.intRange? with
    | some (_, hi) =>
      if (n : Int) ≤ hi then .ok (.int n) else .error (.invalidValue (.unsigned n) t.expecting)
    | none => .error (.invalidType (.unsigned n) t.expecting)
  | t, .signed n =>
    match t.intRange? with
    | some (lo, hi) =>
      if lo ≤ n ∧ n ≤ hi then .ok (.int n) else .error (.invalidValue (.signed n) t.expecting)
    | none => .error (.invalidType (.signed n) t.expecting)
  | t, s => .error (.invalidType s.unexpected t.expecting)

/-- Valid text read as a value of type `t`. -/
def ofText (t : ValueType) (s : String) : Except DecodeError Value :=
  match t with
  | .string => .ok (.string s)
  | .bytes => .ok (.bytes (Utf8.encode s))
  | t => .error (.invalidType (.str s) t.expecting)

/-- Raw bytes read as a value of type `t`: a byte buffer, or text if they are UTF-8. -/
def ofBytes (t : ValueType) (b : List UInt8) : Except DecodeError Value :=
  match t with
  | .string =>
    match Utf8.decode b with
    | .ok s => .ok (.string s)
    | .error _ => .error (.invalidValue .bytes "a string")
  | .bytes => .ok (.bytes b)
  | t => .error (.invalidType .bytes t.expecting)

/-- The phrase for a record read from an array that is too short. -/
def recordLength (r : Record) : String :=
  let n := r.fields.length
  "struct " ++ r.name ++ " with " ++ toString n ++ (if n = 1 then " element" else " elements")

/-- A record read from raw bytes, which stand for a sequence of small unsigned integers: each
field in turn takes the next byte, too few bytes are refused with the count read, and bytes
left over are ignored. -/
def recordOfBytes (r : Record) (b : List UInt8) : Except DecodeError Value :=
  (go 0 r.fields b).map (.record r)
where
  /-- Fills the fields `fs` from field index `i` on. -/
  go (i : Nat) : List (String × ValueType) → List UInt8 → Except DecodeError (List Value)
    | [], _ => .ok []
    | (_, ft) :: fs, x :: xs => do
      let v ← ofScalar ft (.unsigned x.toNat)
      let vs ← go (i + 1) fs xs
      .ok (v :: vs)
    | _ :: _, [] => .error (.invalidLength i (recordLength r))

/-- Which field a map key names: by name (as text or bytes) or by position; `none` for a key
that names no field. Keys of other kinds are refused. -/
def fieldKey (depth : Nat) (r : Record) (peeked : Option Marker) (input : List UInt8) :
    Except DecodeError (Option Nat × List UInt8) := do
  let (m, rest) ← takeMarker peeked input
  let names := r.fields.map Prod.fst
  let byBytes (b : List UInt8) : Option Nat := names.findIdx? (fun n => Utf8.encode n == b)
  let refuse (u : Unexpected) : Except DecodeError (Option Nat × List UInt8) :=
    .error (.invalidType u "field identifier")
  match readScalar m rest with
  | some step =>
    let (s, rest) ← step
    match s with
    | .unsigned n => .ok (if n < names.length then some n else none, rest)
    | s => refuse s.unexpected
  | none =>
  match strLength? m rest with
  | some step =>
    let (n, rest) ← step
    let (b, rest) ← readBody n rest
    .ok (byBytes b, rest)
  | none =>
  match binLength? m rest with
  | some step =>
    let (n, rest) ← step
    let (b, rest) ← readBody n rest
    .ok (byBytes b, rest)
  | none =>
  match arrayLength? m rest with
  | some step =>
    let _ ← step
    let _ ← enter depth
    refuse .seq
  | none =>
  match mapLength? m rest with
  | some step =>
    let _ ← step
    let _ ← enter depth
    refuse .map
  | none =>
  match extLength? m rest with
  | some step =>
    let _ ← step
    let _ ← enter depth
    refuse .newtypeStruct
  | none => .error (.wrongMarker m)

/-- Stores the value of field `i`. -/
def setField (slots : List (Option Value)) (i : Nat) (v : Value) : List (Option Value) :=
  slots.set i (some v)

/-- The record from filled slots, or the first field left empty. -/
def fillRecord (r : Record) (slots : List (Option Value)) : Except DecodeError Value :=
  let rec go : List (String × ValueType) → List (Option Value) → Except DecodeError (List Value)
    | (_, _) :: fs, some v :: vs => do
      let rest ← go fs vs
      .ok (v :: rest)
    | (name, _) :: _, _ => .error (.missingField name)
    | [], _ => .ok []
  (go r.fields slots).map (.record r)

mutual

/-- Reads a value of type `t` with nesting budget `depth`, taking the marker from `peeked` when
it was already read. -/
def value (depth : Nat) (t : ValueType) (peeked : Option Marker) (input : List UInt8) :
    Except DecodeError (Value × List UInt8) :=
  match t with
  | .option u => do
    let (m, rest) ← takeMarker peeked input
    if m = .nil then .ok (.none, rest)
    else
      let (v, rest) ← value depth u (some m) rest
      .ok (.some v, rest)
  | .bool | .i8 | .i16 | .i32 | .i64 | .u8 | .u16 | .u32 | .u64 | .f32 | .f64 => do
    let (m, rest) ← takeMarker peeked input
    match readScalar m rest with
    | some step =>
      let (s, rest) ← step
      let v ← ofScalar t s
      .ok (v, rest)
    | none => .error (.wrongMarker m)
  | .string | .bytes | .list _ | .map _ | .record _ => do
    let (m, rest) ← takeMarker peeked input
    match readScalar m rest with
    | some step =>
      let (s, rest) ← step
      let v ← ofScalar t s
      .ok (v, rest)
    | none =>
    match strLength? m rest with
    | some step =>
      let (n, rest) ← step
      let (b, rest) ← readBody n rest
      match Utf8.decode b with
      | .ok s =>
        let v ← ofText t s
        .ok (v, rest)
      | .error e =>
        match ofBytes t b with
        | .ok v => .ok (v, rest)
        | .error _ => .error (.invalidUtf8 e)
    | none =>
    match binLength? m rest with
    | some step =>
      let (n, rest) ← step
      let (b, rest) ← readBody n rest
      match t with
      | .list u =>
        let vs ← b.mapM fun x => ofScalar u (.unsigned x.toNat)
        .ok (.list vs, rest)
      | .record r =>
        let v ← recordOfBytes r b
        .ok (v, rest)
      | t =>
        let v ← ofBytes t b
        .ok (v, rest)
    | none =>
    match arrayLength? m rest with
    | some step =>
      let (n, rest) ← step
      if depth ≤ 1 then .error .depthExceeded else
      let inner := depth - 1
      match t with
      | .list u =>
        let (vs, rest) ← items inner u n rest
        .ok (.list vs, rest)
      | .bytes =>
        let (vs, rest) ← items inner .u8 n rest
        .ok (.bytes (vs.map fun v => match v with
          | .int k => k.toNat.toUInt8
          | _ => 0), rest)
      | .record r =>
        let (slots, rest) ← fieldsInOrder inner r r.fields 0 n rest
        let v ← fillRecord r slots
        if n > r.fields.length then .error (.lengthMismatch r.fields.length)
        else .ok (v, rest)
      | t => .error (.invalidType .seq t.expecting)
    | none =>
    match mapLength? m rest with
    | some step =>
      let (n, rest) ← step
      if depth ≤ 1 then .error .depthExceeded else
      let inner := depth - 1
      match t with
      | .map u =>
        let (es, rest) ← entries inner u n [] rest
        .ok (.map es, rest)
      | .record r =>
        let (slots, rest) ← fieldsByKey inner r n (r.fields.map fun _ => none) rest
        let v ← fillRecord r slots
        .ok (v, rest)
      | t => .error (.invalidType .map t.expecting)
    | none =>
    match extLength? m rest with
    | some step =>
      let _ ← step
      let _ ← enter depth
      .error (.invalidType .newtypeStruct t.expecting)
    | none => .error (.wrongMarker m)
termination_by (depth, sizeOf t + 1, 0)
decreasing_by
  all_goals simp_wf
  all_goals first
    | (apply Prod.Lex.right; apply Prod.Lex.left; omega)
    | (rw [Nat.sub_add_cancel (by omega)]; apply Prod.Lex.right; apply Prod.Lex.left; omega)

/-- Reads `n` values of type `t`, each with budget `depth`. -/
def items (depth : Nat) (t : ValueType) (n : Nat) (input : List UInt8) : Except DecodeError (List Value × List UInt8) :=
  match n with
  | 0 => .ok ([], input)
  | n + 1 => do
    let (v, rest) ← value depth t none input
    let (vs, rest) ← items depth t n rest
    .ok (v :: vs, rest)
termination_by (depth + 1, 0, n)

/-- Reads the fields of a record from an array of `n` items, from field index `i` on. -/
def fieldsInOrder (depth : Nat) (r : Record) (fs : List (String × ValueType)) (i n : Nat)
    (input : List UInt8) : Except DecodeError (List (Option Value) × List UInt8) :=
  match fs with
  | [] => .ok ([], input)
  | (_, ft) :: rest =>
    if i < n then do
      let (v, input) ← value depth ft none input
      let (vs, input) ← fieldsInOrder depth r rest (i + 1) n input
      .ok (some v :: vs, input)
    else .error (.invalidLength i (recordLength r))
termination_by (depth + 1, 0, fs.length)

/-- Reads `n` map entries of values of type `t`, a later key replacing an earlier one. -/
def entries (depth : Nat) (t : ValueType) (n : Nat) (acc : List (String × Value))
    (input : List UInt8) : Except DecodeError (List (String × Value) × List UInt8) :=
  match n with
  | 0 => .ok (acc, input)
  | n + 1 => do
    let (k, rest) ← value depth .string none input
    let (v, rest) ← value depth t none rest
    let key := match k with
      | .string s => s
      | _ => ""
    entries depth t n (Value.insertEntry key v acc) rest
termination_by (depth + 1, 0, n)

/-- Reads `n` map entries into the slots of a record's fields; unknown keys are skipped with
their values, a field named twice is refused. -/
def fieldsByKey (depth : Nat) (r : Record) (n : Nat) (slots : List (Option Value))
    (input : List UInt8) : Except DecodeError (List (Option Value) × List UInt8) :=
  match n with
  | 0 => .ok (slots, input)
  | n + 1 => do
    let (key, rest) ← fieldKey depth r none input
    match key with
    | some i =>
      match r.fields[i]? with
      | some (name, ft) =>
        if (slots[i]?).getD none |>.isSome then .error (.duplicateField name)
        else
          let (v, rest) ← value depth ft none rest
          fieldsByKey depth r n (setField slots i v) rest
      | none => fieldsByKey depth r n slots rest
    | none =>
      let rest ← skip depth rest
      fieldsByKey depth r n slots rest
termination_by (depth + 1, 0, n)

/-- Skips one item of any kind with nesting budget `depth`. -/
def skip (depth : Nat) (input : List UInt8) : Except DecodeError (List UInt8) := do
  let (m, rest) ← takeMarker none input
  match readScalar m rest with
  | some step =>
    let (_, rest) ← step
    .ok rest
  | none =>
  match strLength? m rest with
  | some step =>
    let (n, rest) ← step
    let (_, rest) ← readBody n rest
    .ok rest
  | none =>
  match binLength? m rest with
  | some step =>
    let (n, rest) ← step
    let (_, rest) ← readBody n rest
    .ok rest
  | none =>
  match arrayLength? m rest with
  | some step =>
    let (n, rest) ← step
    if depth ≤ 1 then .error .depthExceeded else
    let inner := depth - 1
    skipMany inner n rest
  | none =>
  match mapLength? m rest with
  | some step =>
    let (n, rest) ← step
    if depth ≤ 1 then .error .depthExceeded else
    let inner := depth - 1
    skipMany inner (2 * n) rest
  | none =>
  match extLength? m rest with
  | some step =>
    let (n, rest) ← step
    let _ ← enter depth
    let (_, rest) ← readNumber 1 rest
    let (_, rest) ← readBody n rest
    .ok rest
  | none => .error (.wrongMarker m)
termination_by (depth, 1, 0)
decreasing_by
  all_goals (rw [Nat.sub_add_cancel (by omega)]; apply Prod.Lex.right; apply Prod.Lex.left; omega)

/-- Skips `n` items, each with budget `depth`. -/
def skipMany (depth : Nat) (n : Nat) (input : List UInt8) : Except DecodeError (List UInt8) :=
  match n with
  | 0 => .ok input
  | n + 1 => do
    let rest ← skip depth input
    skipMany depth n rest
termination_by (depth + 1, 0, n)

end

end Decode

/-- The nesting budget of a fresh read. -/
def Decode.maxDepth : Nat := 1024

/-- Reads one value of type `t` from the front of `input`: the value and the bytes after it. -/
def Value.decode (t : ValueType) (input : List UInt8) : Except DecodeError (Value × List UInt8) :=
  Decode.value Decode.maxDepth t Option.none input

end HubLink
