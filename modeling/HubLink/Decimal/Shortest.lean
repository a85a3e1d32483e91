import HubLink.Binary.Float
import HubLink.Decimal.Basic
/-!
The shortest decimal that reads back as a given binary float. A positive finite value
`v = m × 2^e` of a format owns the interval of reals that round to it: half-way to each
neighbour, ends included when `m` is even. For one, two, ... significant digits, the two
decimals of that many digits next to `v` are tested against the interval; the first length
with a hit wins, of two hits the nearer to `v`, and an exact tie the larger.

All comparisons are exact: every quantity is an integer multiple of `2^(e-2)` or of a power of
ten, and two such are compared after clearing both denominators.
-/
namespace HubLink.Decimal

/-- `a × 2^p` against `b × 10^q`, exactly. -/
def compareScaled (a : Nat) (p : Int) (b : Nat) (q : Int) : Ordering :=
  let lhs := a * Nat.pow 2 p.toNat * Nat.pow 10 (-q).toNat
  let rhs := b * Nat.pow 10 q.toNat * Nat.pow 2 (-p).toNat
  compare lhs rhs

/-- `⌊a × 2^p / 10^q⌋`. -/
def floorScaled (a : Nat) (p : Int) (q : Int) : Nat :=
  (a * Nat.pow 2 p.toNat * Nat.pow 10 (-q).toNat) / (Nat.pow 2 (-p).toNat * Nat.pow 10 q.toNat)

/-- The exponent of the leading decimal digit of `a × 2^p` (`a > 0`): the largest `d` with
`10^d ≤ a × 2^p`. The estimate from the binary exponent is off by at most two. -/
def leadingExponent (a : Nat) (p : Int) : Int :=
  let lead : Int := (Nat.log2 a : Int) + p
  let start := lead * 30103 / 100000 - 2
  climb start 5
where
  /-- Moves up while the next power of ten still fits. -/
  climb (d : Int) : Nat → Int
    | 0 => d
    | fuel + 1 =>
      if compareScaled a p 1 (d + 1) != .lt then climb (d + 1) fuel else d

/-- The rounding interval of `m × 2^e`, in units of `2^(e-2)`: the value is `4m`, the upper
end `4m + 2`, the lower end `4m - 2`, or `4m - 1` when the neighbour below lies in the
binade below (`lowerHalfGap`). -/
structure Interval where
  mantissa : Nat
  exponent : Int
  lowerHalfGap : Bool
  inclusive : Bool
  deriving DecidableEq, Repr

namespace Interval

/-- Four times the value, in units of `2^(e-2)`. -/
def value (i : Interval) : Nat := 4 * i.mantissa

/-- The lower end, in units of `2^(e-2)`. -/
def low (i : Interval) : Nat := 4 * i.mantissa - (if i.lowerHalfGap then 1 else 2)

/-- The upper end, in units of `2^(e-2)`. -/
def high (i : Interval) : Nat := 4 * i.mantissa + 2

/-- The scale exponent of the units. -/
def unit (i : Interval) : Int := i.exponent - 2

/-- Whether `c × 10^k` lies above the lower end (or on it, when ends count). -/
def aboveLow (i : Interval) (c : Nat) (k : Int) : Bool :=
  match compareScaled i.low i.unit c k with
  | .lt => true
  | .eq => i.inclusive
  | .gt => false

/-- Whether `c × 10^k` lies below the upper end (or on it, when ends count). -/
def belowHigh (i : Interval) (c : Nat) (k : Int) : Bool :=
  match compareScaled i.high i.unit c k with
  | .gt => true
  | .eq => i.inclusive
  | .lt => false

/-- The decimal of `n` significant digits chosen in the interval, if one lies in it: the value's
lower neighbour `c × 10^k` or its upper neighbour `(c + 1) × 10^k` on that grid. -/
def candidate (i : Interval) (lead : Int) (n : Nat) : Option Decimal :=
  let k : Int := lead - n + 1
  let c := floorScaled i.value i.unit k
  let down := i.aboveLow c k
  let up := i.belowHigh (c + 1) k
  if up && (!down || compareScaled (2 * i.value) i.unit (2 * c + 1) k != .lt) then
    some ⟨c + 1, k⟩
  else if down then some ⟨c, k⟩
  else none

/-- The first length from `n` on, up to `n + fuel`, with a candidate. -/
def search (i : Interval) (lead : Int) (n : Nat) : Nat → Option Decimal
  | 0 => none
  | fuel + 1 =>
    match i.candidate lead n with
    | some d => some d
    | none => i.search lead (n + 1) fuel

/-- The shortest decimal in the interval, nearest the value. The value's own digits, at most
`digitsBound`, always lie in it, so the search ends with a hit; the fallback writes them out. -/
def shortest (i : Interval) : Decimal :=
  let lead := leadingExponent i.value i.unit
  match i.search lead 1 digitsBound with
  | some d => d.normalize
  | none => (Decimal.mk (floorScaled i.value i.unit (lead - digitsBound + 1))
      (lead - digitsBound + 1)).normalize
where
  /-- Seventeen digits tell every binary64 apart; far more than a binary32 needs. -/
  digitsBound : Nat := 17

end Interval

/-- The rounding interval of a positive finite value of format `f`, from its mantissa and
exponent as `Format.shape` gives them. -/
def interval (f : Binary.Format) (m : Nat) (e : Int) : Interval :=
  { mantissa := m, exponent := e,
    lowerHalfGap := m = Nat.pow 2 f.fractionBits ∧ e > f.minExponent - f.fractionBits,
    inclusive := m % 2 = 0 }

/-- The shortest decimal that reads back as the positive finite value `m × 2^e` of format `f`. -/
def shortest (f : Binary.Format) (m : Nat) (e : Int) : Decimal :=
  (interval f m e).shortest

end HubLink.Decimal
