/-!
Hexadecimal text of bytes: two lowercase digits a byte. Reading accepts both cases and refuses
text of odd length before it looks at any digit.
-/
namespace HubLink.Hex

/-- Why a text is no hex. -/
inductive HexError where
  | oddLength
  | invalidDigit
  deriving DecidableEq, Repr

/-- The text of a hex error. -/
def HexError.message : HexError → String
  | .oddLength => "odd hex length"
  | .invalidDigit => "invalid digit found in string"

/-- The value of a hex digit of either case. -/
def digit? (c : Char) : Option Nat :=
  if '0' ≤ c && c ≤ '9' then some (c.toNat - '0'.toNat)
  else if 'a' ≤ c && c ≤ 'f' then some (c.toNat - 'a'.toNat + 10)
  else if 'A' ≤ c && c ≤ 'F' then some (c.toNat - 'A'.toNat + 10)
  else none

/-- Bytes from pairs of digits. -/
def pairs : List Char → Except HexError (List UInt8)
  | a :: b :: rest =>
    match digit? a, digit? b with
    | some x, some y => do pure ((x * 16 + y).toUInt8 :: (← pairs rest))
    | _, _ => .error .invalidDigit
  | _ => pure []

/-- The bytes a hex text stands for. -/
def decode (s : String) : Except HexError (List UInt8) :=
  if s.length % 2 ≠ 0 then .error .oddLength else pairs s.toList

/-- The number a hex text stands for. -/
def number (s : String) : Except HexError Nat :=
  s.toList.foldlM (fun acc c =>
    match digit? c with
    | some d => .ok (acc * 16 + d)
    | none => .error .invalidDigit) 0

/-- `n` in lowercase hex, padded with zeros to `width` digits. -/
def padded (n width : Nat) : String :=
  let d := Nat.toDigits 16 n
  String.ofList (List.replicate (width - d.length) '0' ++ d)

/-- The hex text of bytes. -/
def encode (bs : List UInt8) : String :=
  String.join (bs.map fun b => padded b.toNat 2)

end HubLink.Hex
