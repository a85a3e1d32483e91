import HubLink.Frame.OpCode
import HubLink.Frame.Mask
import HubLink.Error
/-!
Frame headers. The first byte holds the final-fragment bit, three reserved bits and the
opcode; the second the mask bit and a seven-bit length, where 126 announces a 16-bit length
and 127 a 64-bit one (big-endian, top bit clear) in the bytes after it; a masked frame then
has its four-byte key. Writing picks the shortest length form.
-/
namespace HubLink

/-- A frame header. `mask` is the key read as a big-endian number; it is 0 when the frame is
not masked. -/
structure FrameHeader where
  fin : Bool
  rsv : Nat
  opcode : OpCode
  masked : Bool
  payloadLength : Nat
  mask : UInt32
  deriving DecidableEq, Repr

namespace FrameHeader

/-- Reads a header from the front of `buf`: the header and its length in bytes, or `none`
while the bytes are too few. A 64-bit length with its top bit set is refused. -/
def parse (buf : List UInt8) : Except Error (Option (FrameHeader × Nat)) :=
  match buf with
  | b0 :: b1 :: rest =>
    let fin := b0.toNat / 128 = 1
    let rsv := b0.toNat / 16 % 8
    let opcode := OpCode.ofNat b0.toNat
    let masked := b1.toNat / 128 = 1
    let short := b1.toNat % 128
    let length : Except Error (Option (Nat × List UInt8 × Nat)) :=
      if short = 126 then
        match MsgPack.readBigEndian 2 rest with
        | some (n, rest) => .ok (some (n, rest, 4))
        | none => .ok none
      else if short = 127 then
        match MsgPack.readBigEndian 8 rest with
        | some (n, rest) =>
          if n ≥ Nat.pow 2 63 then .error .lengthTopBit else .ok (some (n, rest, 10))
        | none => .ok none
      else .ok (some (short, rest, 2))
    match length with
    | .error e => .error e
    | .ok none => .ok none
    | .ok (some (payloadLength, rest, offset)) =>
      if masked then
        match MsgPack.readBigEndian 4 rest with
        | some (key, _) =>
          .ok (some ({ fin, rsv, opcode, masked, payloadLength, mask := key.toUInt32 }, offset + 4))
        | none => .ok none
      else .ok (some ({ fin, rsv, opcode, masked, payloadLength, mask := 0 }, offset))
  | _ => .ok none

/-- The number of length bytes after the second byte: none up to 125, two up to 65535, eight
above. -/
def extendedLengthBytes (n : Nat) : Nat :=
  if n ≤ 125 then 0 else if n ≤ 0xFFFF then 2 else 8

/-- The length of the written header. -/
def encodedLen (h : FrameHeader) : Nat :=
  2 + extendedLengthBytes h.payloadLength + (if h.masked then 4 else 0)

/-- The header's bytes, with the shortest length form; only the low three bits of `rsv` are
written. -/
def encode (h : FrameHeader) : List UInt8 :=
  let first := (if h.fin then 128 else 0) + h.rsv % 8 * 16 + h.opcode.toNat
  let maskBit := if h.masked then 128 else 0
  let n := h.payloadLength
  let lengthBytes :=
    if n ≤ 125 then [(maskBit + n).toUInt8]
    else if n ≤ 0xFFFF then (maskBit + 126).toUInt8 :: MsgPack.toBigEndian 2 n
    else (maskBit + 127).toUInt8 :: MsgPack.toBigEndian 8 n
  first.toUInt8 :: lengthBytes ++ (if h.masked then MsgPack.toBigEndian 4 h.mask.toNat else [])

end FrameHeader

/-- A whole frame as a client sends it: the header, then the payload, masked from key position
0 when a mask is given. -/
def buildFrame (opcode : OpCode) (fin : Bool) (mask : Option UInt32) (payload : List UInt8) :
    List UInt8 :=
  let header : FrameHeader :=
    { fin, rsv := 0, opcode, masked := mask.isSome, payloadLength := payload.length,
      mask := mask.getD 0 }
  header.encode ++
    match mask with
    | some key => (Mask.byBlocks key 0 payload).1
    | none => payload

end HubLink
