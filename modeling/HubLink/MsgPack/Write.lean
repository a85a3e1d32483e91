import HubLink.MsgPack.Marker
import HubLink.Text.Utf8
/-!
Writing MessagePack items. Every writer picks the shortest form that holds its value: a
non-negative integer is a positive fixint below 128 and otherwise the narrowest of the
unsigned forms; a negative one is a negative fixint from -32 and otherwise the narrowest of the
signed forms. Lengths of strings, binaries, arrays and maps likewise take the `fix` form when it
fits, then 8 (strings and binaries only), 16 and 32 bits.
-/
namespace HubLink.MsgPack

/-- `nil`. -/
def writeNil : List UInt8 := [0xC0]

/-- A boolean. -/
def writeBool (b : Bool) : List UInt8 := [if b then 0xC3 else 0xC2]

/-- A non-negative integer below `2^64`, in the shortest form. -/
def writeUInt (n : Nat) : List UInt8 :=
  if n < 0x80 then [n.toUInt8]
  else if n < 0x100 then 0xCC :: toBigEndian 1 n
  else if n < 0x10000 then 0xCD :: toBigEndian 2 n
  else if n < 0x100000000 then 0xCE :: toBigEndian 4 n
  else 0xCF :: toBigEndian 8 n

/-- An integer from `-2^63` to `2^64 - 1`, in the shortest form; non-negative integers are
written as unsigned ones. -/
def writeInt (i : Int) : List UInt8 :=
  if 0 ≤ i then writeUInt i.toNat
  else if -32 ≤ i then [(256 + i).toNat.toUInt8]
  else if -0x80 ≤ i then 0xD0 :: toBigEndian 1 (i + 0x100).toNat
  else if -0x8000 ≤ i then 0xD1 :: toBigEndian 2 (i + 0x10000).toNat
  else if -0x80000000 ≤ i then 0xD2 :: toBigEndian 4 (i + 0x100000000).toNat
  else 0xD3 :: toBigEndian 8 (i + 0x10000000000000000).toNat

/-- A binary32 float, by its bits. -/
def writeFloat32 (bits : UInt32) : List UInt8 := 0xCA :: toBigEndian 4 bits.toNat

/-- A binary64 float, by its bits. -/
def writeFloat64 (bits : UInt64) : List UInt8 := 0xCB :: toBigEndian 8 bits.toNat

/-- The header of a string of `n` bytes. -/
def writeStrLen (n : Nat) : List UInt8 :=
  if n < 32 then [(0xA0 + n).toUInt8]
  else if n < 0x100 then 0xD9 :: toBigEndian 1 n
  else if n < 0x10000 then 0xDA :: toBigEndian 2 n
  else 0xDB :: toBigEndian 4 n

/-- A string: its header, then its UTF-8 bytes. -/
def writeStr (s : String) : List UInt8 :=
  let bytes := Utf8.encode s
  writeStrLen bytes.length ++ bytes

/-- A binary item: its header (never a `fix` form), then the bytes. -/
def writeBin (bytes : List UInt8) : List UInt8 :=
  let n := bytes.length
  let header :=
    if n < 0x100 then 0xC4 :: toBigEndian 1 n
    else if n < 0x10000 then 0xC5 :: toBigEndian 2 n
    else 0xC6 :: toBigEndian 4 n
  header ++ bytes

/-- The header of an array of `n` items. -/
def writeArrayLen (n : Nat) : List UInt8 :=
  if n < 16 then [(0x90 + n).toUInt8]
  else if n < 0x10000 then 0xDC :: toBigEndian 2 n
  else 0xDD :: toBigEndian 4 n

/-- The header of a map of `n` entries. -/
def writeMapLen (n : Nat) : List UInt8 :=
  if n < 16 then [(0x80 + n).toUInt8]
  else if n < 0x10000 then 0xDE :: toBigEndian 2 n
  else 0xDF :: toBigEndian 4 n

end HubLink.MsgPack
