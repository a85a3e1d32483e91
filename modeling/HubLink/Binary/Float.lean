/-!
IEEE 754 binary interchange formats, held as their bit patterns. A pattern stands for a NaN,
an infinity or a finite value `mantissa × 2^exponent` (`Format.shape`). `Format.round` gives
the pattern of the value nearest to `m × 2^e`: a tie goes to the even mantissa, and a value
beyond the largest finite one becomes an infinity. Integers become floats, and doubles become
singles, through it; a single becomes a double exactly.

A NaN keeps its sign and the top bits of its payload when it changes format, and always comes
out quiet.
-/
namespace HubLink.Binary

/-- A binary interchange format: the widths of its exponent and fraction fields. -/
structure Format where
  exponentBits : Nat
  fractionBits : Nat
  deriving DecidableEq, Repr

namespace Format

/-- binary32: eight exponent bits, twenty-three fraction bits. -/
def single : Format := ⟨8, 23⟩

/-- binary64: eleven exponent bits, fifty-two fraction bits. -/
def double : Format := ⟨11, 52⟩

/-- The exponent bias. -/
def bias (f : Format) : Nat := Nat.pow 2 (f.exponentBits - 1) - 1

/-- The exponent field of infinities and NaNs: all ones. -/
def topField (f : Format) : Nat := Nat.pow 2 f.exponentBits - 1

/-- The weight of the sign bit. -/
def signBit (f : Format) : Nat := Nat.pow 2 (f.exponentBits + f.fractionBits)

/-- The weight of the fraction's top bit, which marks a NaN as quiet. -/
def quietBit (f : Format) : Nat := Nat.pow 2 (f.fractionBits - 1)

/-- The smallest exponent of a normal value. -/
def minExponent (f : Format) : Int := 1 - (f.bias : Int)

end Format

/-- What a bit pattern stands for. A finite value is `mantissa × 2^exponent`, with the
mantissa below `2^(fractionBits + 1)`. -/
inductive Shape where
  | nan (negative : Bool) (payload : Nat)
  | infinite (negative : Bool)
  | finite (negative : Bool) (mantissa : Nat) (exponent : Int)
  deriving DecidableEq, Repr

namespace Format

/-- Splits a bit pattern into sign, exponent field and fraction. -/
def shape (f : Format) (bits : Nat) : Shape :=
  let negative := bits / f.signBit % 2 == 1
  let field := bits / Nat.pow 2 f.fractionBits % Nat.pow 2 f.exponentBits
  let fraction := bits % Nat.pow 2 f.fractionBits
  if field == f.topField then
    if fraction == 0 then .infinite negative else .nan negative fraction
  else if field == 0 then
    .finite negative fraction (f.minExponent - f.fractionBits)
  else
    .finite negative (fraction + Nat.pow 2 f.fractionBits) ((field : Int) - f.bias - f.fractionBits)

/-- The sign bit's contribution to a pattern. -/
def signPart (f : Format) (negative : Bool) : Nat :=
  if negative then f.signBit else 0

/-- The pattern of an infinity. -/
def infinity (f : Format) (negative : Bool) : Nat :=
  f.signPart negative + f.topField * Nat.pow 2 f.fractionBits

/-- The pattern of a quiet NaN with the given fraction bits. -/
def quietNaN (f : Format) (negative : Bool) (fraction : Nat) : Nat :=
  f.signPart negative + f.topField * Nat.pow 2 f.fractionBits +
    (fraction % Nat.pow 2 f.fractionBits ||| f.quietBit)

end Format

/-- `n / d`, rounded to the nearest integer, a tie to the even one. -/
def divRoundHalfEven (n d : Nat) : Nat :=
  let q := n / d
  let r := n % d
  if 2 * r > d ∨ (2 * r = d ∧ q % 2 = 1) then q + 1 else q

namespace Format

/-- The exponent of the leading binary digit of `num / den` (both positive): the `l` with
`2^l ≤ num / den < 2^(l+1)`. The difference of the two bit lengths is that or one more. -/
def leadExponent (num den : Nat) : Int :=
  let l : Int := (Nat.log2 num : Int) - Nat.log2 den
  if num * Nat.pow 2 (-l).toNat ≥ den * Nat.pow 2 l.toNat then l else l - 1

/-- The pattern of the value of the format nearest to `num / den × 2^e`, with the given sign.
The value is placed on the grid of its binade (or of the subnormals) and rounded there, a tie
to the even neighbour; a mantissa that rounds up to the next binade moves there, and one past
the largest exponent is infinite. -/
def roundFraction (f : Format) (negative : Bool) (num den : Nat) (e : Int) : Nat :=
  if num = 0 ∨ den = 0 then f.signPart negative
  else
    let exp0 := max (leadExponent num den + e) f.minExponent
    let shift := e - (exp0 - f.fractionBits)
    let mant0 := divRoundHalfEven (num * Nat.pow 2 shift.toNat) (den * Nat.pow 2 (-shift).toNat)
    let carry := mant0 = Nat.pow 2 (f.fractionBits + 1)
    let mant := if carry then mant0 / 2 else mant0
    let exp := if carry then exp0 + 1 else exp0
    if exp > (f.bias : Int) then f.infinity negative
    else if mant < Nat.pow 2 f.fractionBits then f.signPart negative + mant
    else
      f.signPart negative + (exp + f.bias).toNat * Nat.pow 2 f.fractionBits +
        (mant - Nat.pow 2 f.fractionBits)

/-- The pattern of the value of the format nearest to `m × 2^e`, with the given sign. -/
def round (f : Format) (negative : Bool) (m : Nat) (e : Int) : Nat :=
  f.roundFraction negative m 1 e

/-- The pattern nearest to an integer; zero is the positive zero. -/
def ofInt (f : Format) (i : Int) : Nat :=
  f.round (i < 0) i.natAbs 0

/-- The pattern nearest to the decimal `m × 10^k`, with the given sign. -/
def ofDecimal (f : Format) (negative : Bool) (m : Nat) (k : Int) : Nat :=
  if k ≥ 0 then f.round negative (m * Nat.pow 10 k.toNat) 0
  else f.roundFraction negative m (Nat.pow 10 (-k).toNat) 0

/-- Converts a pattern of format `f` to format `g`: finite values are rounded, infinities keep
their sign, and a NaN becomes a quiet NaN whose payload keeps its top bits. -/
def convert (f g : Format) (bits : Nat) : Nat :=
  match f.shape bits with
  | .finite negative m e => g.round negative m e
  | .infinite negative => g.infinity negative
  | .nan negative payload =>
    let fraction :=
      if f.fractionBits ≤ g.fractionBits then
        payload * Nat.pow 2 (g.fractionBits - f.fractionBits)
      else payload / Nat.pow 2 (f.fractionBits - g.fractionBits)
    g.quietNaN negative fraction

end Format

end HubLink.Binary

namespace HubLink

open Binary

/-- A binary32 floating-point number, as its bit pattern. -/
structure Binary32 where
  bits : UInt32
  deriving DecidableEq, Repr

/-- A binary64 floating-point number, as its bit pattern. -/
structure Binary64 where
  bits : UInt64
  deriving DecidableEq, Repr

namespace Binary32

/-- What the pattern stands for. -/
def shape (x : Binary32) : Shape := Format.single.shape x.bits.toNat

/-- The number nearest to an integer. -/
def ofInt (i : Int) : Binary32 := ⟨(Format.single.ofInt i).toUInt32⟩

/-- The same number as a binary64; every single is a double, so only NaNs change. -/
def toBinary64 (x : Binary32) : Binary64 :=
  ⟨(Format.single.convert Format.double x.bits.toNat).toUInt64⟩

/-- Whether the pattern is a NaN. -/
def isNaN (x : Binary32) : Bool :=
  match x.shape with
  | .nan _ _ => true
  | _ => false

/-- Numeric equality: a NaN equals nothing, and the two zeros are equal. -/
def equalsNumber (x y : Binary32) : Bool :=
  !x.isNaN && !y.isNaN && (x.bits == y.bits || (x.bits ||| y.bits) &&& 0x7FFFFFFF == 0)

end Binary32

namespace Binary64

/-- What the pattern stands for. -/
def shape (x : Binary64) : Shape := Format.double.shape x.bits.toNat

/-- The number nearest to an integer. -/
def ofInt (i : Int) : Binary64 := ⟨(Format.double.ofInt i).toUInt64⟩

/-- The number nearest to the decimal `m × 10^k`. -/
def ofDecimal (m : Int) (k : Int) : Binary64 :=
  ⟨(Format.double.ofDecimal (m < 0) m.natAbs k).toUInt64⟩

/-- The number nearest to the decimal `m × 10^k` with the given sign. Unlike `ofDecimal`, this
reaches the negative zero, which text such as `-0.0` or `-1e-400` stands for. -/
def ofSignedDecimal (negative : Bool) (m : Nat) (k : Int) : Binary64 :=
  ⟨(Format.double.ofDecimal negative m k).toUInt64⟩

/-- The binary32 nearest to the number, with NaNs kept quiet and signed. -/
def toBinary32 (x : Binary64) : Binary32 :=
  ⟨(Format.double.convert Format.single x.bits.toNat).toUInt32⟩

/-- Whether the pattern is a NaN. -/
def isNaN (x : Binary64) : Bool :=
  match x.shape with
  | .nan _ _ => true
  | _ => false

/-- Numeric equality: a NaN equals nothing, and the two zeros are equal. -/
def equalsNumber (x y : Binary64) : Bool :=
  !x.isNaN && !y.isNaN &&
    (x.bits == y.bits || (x.bits ||| y.bits) &&& 0x7FFFFFFFFFFFFFFF == 0)

end Binary64

end HubLink
