/-!
Frame opcodes: the low four bits of a frame's first byte. Continuation, text and binary frames
carry data; close, ping and pong are control frames, marked by bit 3. The other ten values are
reserved. A reserved opcode remembers the value it was made from, and its wire value is that
value's low four bits.
-/
namespace HubLink

/-- A frame opcode. -/
inductive OpCode where
  | continuation
  | text
  | binary
  | close
  | ping
  | pong
  | reserved (n : Nat)
  deriving DecidableEq, Repr

namespace OpCode

/-- The four-bit wire value. -/
def toNat : OpCode → Nat
  | .continuation => 0
  | .text => 1
  | .binary => 2
  | .close => 8
  | .ping => 9
  | .pong => 10
  | .reserved n => n % 16

/-- The opcode of a byte's low four bits. -/
def ofNat (n : Nat) : OpCode :=
  match n % 16 with
  | 0 => .continuation
  | 1 => .text
  | 2 => .binary
  | 8 => .close
  | 9 => .ping
  | 10 => .pong
  | k => .reserved k

/-- Close, ping and pong: bit 3 is set. -/
def isControl (op : OpCode) : Bool := op.toNat / 8 % 2 == 1

/-- Whether the opcode is one of the reserved ones. -/
def isReserved : OpCode → Bool
  | .reserved _ => true
  | _ => false

/-- The opcode's name: `Binary`, `Ping`, `Reserved(3)`. -/
def name : OpCode → String
  | .continuation => "Continuation"
  | .text => "Text"
  | .binary => "Binary"
  | .close => "Close"
  | .ping => "Ping"
  | .pong => "Pong"
  | .reserved n => s!"Reserved({n})"

end OpCode

end HubLink
