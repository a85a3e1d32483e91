/-!
The first byte of every MessagePack item, its marker. A marker names the item's family (nil,
boolean, integer, float, string, binary, array, map, extension) and either carries a small
value or length itself (the `fix` forms) or says how many bytes of length or value follow.
The byte `0xC1` is reserved and starts no item.
-/
namespace HubLink.MsgPack

/-- A MessagePack marker. -/
inductive Marker where
  | fixPos (n : Nat)
  | fixNeg (n : Int)
  | fixMap (n : Nat)
  | fixArray (n : Nat)
  | fixStr (n : Nat)
  | nil
  | reserved
  | bool (b : Bool)
  | bin8 | bin16 | bin32
  | ext8 | ext16 | ext32
  | float32 | float64
  | uint8 | uint16 | uint32 | uint64
  | int8 | int16 | int32 | int64
  | fixExt1 | fixExt2 | fixExt4 | fixExt8 | fixExt16
  | str8 | str16 | str32
  | array16 | array32
  | map16 | map32
  deriving DecidableEq, Repr

namespace Marker

/-- The marker a byte stands for. -/
def ofByte (b : UInt8) : Marker :=
  let n := b.toNat
  if n < 0x80 then .fixPos n
  else if n < 0x90 then .fixMap (n - 0x80)
  else if n < 0xA0 then .fixArray (n - 0x90)
  else if n < 0xC0 then .fixStr (n - 0xA0)
  else if n ≥ 0xE0 then .fixNeg ((n : Int) - 256)
  else match n with
    | 0xC0 => .nil
    | 0xC2 => .bool false
    | 0xC3 => .bool true
    | 0xC4 => .bin8
    | 0xC5 => .bin16
    | 0xC6 => .bin32
    | 0xC7 => .ext8
    | 0xC8 => .ext16
    | 0xC9 => .ext32
    | 0xCA => .float32
    | 0xCB => .float64
    | 0xCC => .uint8
    | 0xCD => .uint16
    | 0xCE => .uint32
    | 0xCF => .uint64
    | 0xD0 => .int8
    | 0xD1 => .int16
    | 0xD2 => .int32
    | 0xD3 => .int64
    | 0xD4 => .fixExt1
    | 0xD5 => .fixExt2
    | 0xD6 => .fixExt4
    | 0xD7 => .fixExt8
    | 0xD8 => .fixExt16
    | 0xD9 => .str8
    | 0xDA => .str16
    | 0xDB => .str32
    | 0xDC => .array16
    | 0xDD => .array32
    | 0xDE => .map16
    | 0xDF => .map32
    | _ => .reserved

/-- The marker's name, as error texts write it: `FixStr(3)`, `Str8`, `Reserved`. -/
def name : Marker → String
  | .fixPos n => s!"FixPos({n})"
  | .fixNeg n => s!"FixNeg({n})"
  | .fixMap n => s!"FixMap({n})"
  | .fixArray n => s!"FixArray({n})"
  | .fixStr n => s!"FixStr({n})"
  | .nil => "Null"
  | .reserved => "Reserved"
  | .bool true => "True"
  | .bool false => "False"
  | .bin8 => "Bin8"
  | .bin16 => "Bin16"
  | .bin32 => "Bin32"
  | .ext8 => "Ext8"
  | .ext16 => "Ext16"
  | .ext32 => "Ext32"
  | .float32 => "F32"
  | .float64 => "F64"
  | .uint8 => "U8"
  | .uint16 => "U16"
  | .uint32 => "U32"
  | .uint64 => "U64"
  | .int8 => "I8"
  | .int16 => "I16"
  | .int32 => "I32"
  | .int64 => "I64"
  | .fixExt1 => "FixExt1"
  | .fixExt2 => "FixExt2"
  | .fixExt4 => "FixExt4"
  | .fixExt8 => "FixExt8"
  | .fixExt16 => "FixExt16"
  | .str8 => "Str8"
  | .str16 => "Str16"
  | .str32 => "Str32"
  | .array16 => "Array16"
  | .array32 => "Array32"
  | .map16 => "Map16"
  | .map32 => "Map32"

end Marker

/-- Splits off the first `n` bytes, if there are that many. -/
def takeBytes (n : Nat) (input : List UInt8) : Option (List UInt8 × List UInt8) :=
  let taken := input.take n
  if taken.length = n then some (taken, input.drop n) else none

/-- The big-endian number in a list of bytes. -/
def ofBigEndian (bytes : List UInt8) : Nat :=
  bytes.foldl (fun acc b => acc * 256 + b.toNat) 0

/-- Reads a big-endian unsigned number of `width` bytes. -/
def readBigEndian (width : Nat) (input : List UInt8) : Option (Nat × List UInt8) :=
  (takeBytes width input).map fun (bytes, rest) => (ofBigEndian bytes, rest)

/-- The `width` big-endian bytes of `n` modulo `256^width`. -/
def toBigEndian (width n : Nat) : List UInt8 :=
  (List.range width).reverse.map fun i => (n / Nat.pow 256 i % 256).toUInt8

/-- A two's-complement reading of an unsigned number of `bits` bits. -/
def toSigned (bits n : Nat) : Int :=
  if n < Nat.pow 2 (bits - 1) then n else (n : Int) - Nat.pow 2 bits

end HubLink.MsgPack
