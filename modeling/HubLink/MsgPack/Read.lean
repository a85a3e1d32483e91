import HubLink.MsgPack.Marker
/-!
Reading MessagePack headers and integers one item at a time, as the hub envelope reader does.
Each read takes its marker, checks that the marker belongs to the family asked for, and then
takes the bytes the marker announces. It fails when the marker is missing, when the bytes after
it are missing, when the marker is of another family, or (for integers) when the value does not
fit a signed 64-bit integer.
-/
namespace HubLink.MsgPack

/-- Why an item could not be read. -/
inductive ReadError where
  | markerMissing
  | dataMissing
  | typeMismatch
  | outOfRange
  deriving DecidableEq, Repr

/-- The text of a read error. -/
def ReadError.message : ReadError → String
  | .markerMissing => "failed to read MessagePack marker"
  | .dataMissing => "failed to read MessagePack data"
  | .typeMismatch => "the type decoded isn't match with the expected one"
  | .outOfRange => "out of range integral type conversion attempted"

/-- Takes the marker at the front. -/
def readMarker : List UInt8 → Except ReadError (Marker × List UInt8)
  | [] => .error .markerMissing
  | b :: rest => .ok (Marker.ofByte b, rest)

/-- A big-endian number of `width` bytes that the marker announced. -/
def readData (width : Nat) (input : List UInt8) : Except ReadError (Nat × List UInt8) :=
  match readBigEndian width input with
  | some r => .ok r
  | none => .error .dataMissing

/-- The length of an array header. -/
def readArrayLen (input : List UInt8) : Except ReadError (Nat × List UInt8) := do
  let (m, rest) ← readMarker input
  match m with
  | .fixArray n => .ok (n, rest)
  | .array16 => readData 2 rest
  | .array32 => readData 4 rest
  | _ => .error .typeMismatch

/-- The entry count of a map header. -/
def readMapLen (input : List UInt8) : Except ReadError (Nat × List UInt8) := do
  let (m, rest) ← readMarker input
  match m with
  | .fixMap n => .ok (n, rest)
  | .map16 => readData 2 rest
  | .map32 => readData 4 rest
  | _ => .error .typeMismatch

/-- The byte length of a string header. -/
def readStrLen (input : List UInt8) : Except ReadError (Nat × List UInt8) := do
  let (m, rest) ← readMarker input
  match m with
  | .fixStr n => .ok (n, rest)
  | .str8 => readData 1 rest
  | .str16 => readData 2 rest
  | .str32 => readData 4 rest
  | _ => .error .typeMismatch

/-- Any integer item, as a signed 64-bit integer; an unsigned value above `2^63 - 1` is out of
range. -/
def readInt (input : List UInt8) : Except ReadError (Int × List UInt8) := do
  let (m, rest) ← readMarker input
  let signed (width : Nat) : Except ReadError (Int × List UInt8) := do
    let (n, rest) ← readData width rest
    .ok (toSigned (8 * width) n, rest)
  let unsigned (width : Nat) : Except ReadError (Int × List UInt8) := do
    let (n, rest) ← readData width rest
    if n < Nat.pow 2 63 then .ok (n, rest) else .error .outOfRange
  match m with
  | .fixPos n => .ok (n, rest)
  | .fixNeg n => .ok (n, rest)
  | .uint8 => unsigned 1
  | .uint16 => unsigned 2
  | .uint32 => unsigned 4
  | .uint64 => unsigned 8
  | .int8 => signed 1
  | .int16 => signed 2
  | .int32 => signed 4
  | .int64 => signed 8
  | _ => .error .typeMismatch

end HubLink.MsgPack
