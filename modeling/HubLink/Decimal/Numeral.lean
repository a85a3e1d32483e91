import HubLink.Binary.Float
import HubLink.Decimal.Basic
/-!
How request numerals become numbers. A numeral with neither point nor exponent that fits
64 bits is an integer (`u64` when it has no minus sign, `i64` when it has one); every other
numeral is a binary64, found the quick way rather than the nearest way:

* the digits are gathered into a significand of at most `2^64 - 1`; once the next digit would
  pass that, it and all later digits are dropped (integer digits still count as powers of ten);
* the significand becomes the binary64 nearest to it, which is then multiplied or divided by
  the binary64 nearest to `10^k`, rounding once more; for `k` beyond 308 it is first divided
  by `10^308` as often as needed (a zero stays zero);
* a product that reaches infinity, or a power above 308 of a non-zero significand, is out of
  range, and the minus sign is applied last, so `-0` and `-0.0` are the negative zero.

The two roundings make some results differ from the nearest binary64 in the last place:
`7e-75` reads as `7.000000000000001e-75`, since `10^75` is itself rounded.
-/
namespace HubLink

/-- What a numeral reads as. -/
inductive NumeralValue where
  /-- An integer that fits `u64` (no minus sign) or `i64` (minus sign). -/
  | integer (n : Int)
  /-- A binary64. -/
  | float (x : Binary64)
  /-- A magnitude beyond the largest binary64. -/
  | outOfRange
  deriving DecidableEq, Repr

namespace Numeral

open Binary

/-- The largest significand gathered, `2^64 - 1`. -/
def significandLimit : Nat := Nat.pow 2 64 - 1

/-- The largest exponent gathered, `2^31 - 1`. -/
def exponentLimit : Nat := Nat.pow 2 31 - 1

/-- Whether `s * 10 + d` would pass `limit`. -/
def passes (limit s d : Nat) : Bool :=
  s ≥ limit / 10 && (s > limit / 10 || d > limit % 10)

/-- The value of a decimal digit. -/
def digitValue (c : Char) : Nat := c.toNat - '0'.toNat

/-- Counts and drops a run of digits. -/
def digitRun : List Char → Nat × List Char
  | c :: cs =>
    if c.isDigit then
      let (n, rest) := digitRun cs
      (n + 1, rest)
    else (0, c :: cs)
  | [] => (0, [])

/-- Gathers integer digits into the significand `s`. Returns the significand, the number of
digits dropped once the limit was reached (each a power of ten), and the rest. -/
def integerDigits (s : Nat) : List Char → Nat × Nat × List Char
  | c :: cs =>
    if c.isDigit then
      if passes significandLimit s (digitValue c) then
        let (n, rest) := digitRun cs
        (s, n + 1, rest)
      else integerDigits (s * 10 + digitValue c) cs
    else (s, 0, c :: cs)
  | [] => (s, 0, [])

/-- Gathers fraction digits into the significand `s`. Returns the significand, the number of
digits gathered, whether a digit was dropped at the limit (the rest of the run with it), and
the rest. -/
def fractionDigits (s : Nat) : List Char → Nat × Nat × Bool × List Char
  | c :: cs =>
    if c.isDigit then
      if passes significandLimit s (digitValue c) then
        (s, 0, true, (digitRun cs).2)
      else
        let (s', n, dropped, rest) := fractionDigits (s * 10 + digitValue c) cs
        (s', n + 1, dropped, rest)
    else (s, 0, false, c :: cs)
  | [] => (s, 0, false, [])

/-- Gathers exponent digits into `e`; `none` when they pass `exponentLimit` (the rest of the
run is dropped then). -/
def exponentDigits (e : Nat) : List Char → Option Nat × List Char
  | c :: cs =>
    if c.isDigit then
      if passes exponentLimit e (digitValue c) then (none, (digitRun cs).2)
      else exponentDigits (e * 10 + digitValue c) cs
    else (some e, c :: cs)
  | [] => (some e, [])

/-- The binary64 pattern nearest to `10^k`. -/
def power (k : Nat) : Nat := Format.double.ofDecimal false 1 k

/-- The product of two non-negative finite binary64 patterns, rounded. -/
def product (x y : Nat) : Nat :=
  match Format.double.shape x, Format.double.shape y with
  | .finite _ m e, .finite _ m' e' => Format.double.round false (m * m') (e + e')
  | _, _ => Format.double.infinity false

/-- The quotient of two non-negative finite binary64 patterns, rounded; the divisor is a
power of ten, so never zero. -/
def quotient (x y : Nat) : Nat :=
  match Format.double.shape x, Format.double.shape y with
  | .finite _ m e, .finite _ m' e' => Format.double.roundFraction false m m' (e - e')
  | _, _ => 0

/-- The non-negative pattern `x` scaled by `10^k`, one rounding per step; `none` when it
overflows. -/
def scale (x : Nat) (k : Int) : Option Nat :=
  if h : k.natAbs ≤ 308 then
    if 0 ≤ k then
      let y := product x (power k.toNat)
      if y = Format.double.infinity false then none else some y
    else some (quotient x (power k.natAbs))
  else if x = 0 then some 0
  else if 0 ≤ k then none
  else scale (quotient x (power 308)) (k + 308)
termination_by k.natAbs
decreasing_by omega

/-- The binary64 read from a significand and a power of ten, the sign applied last. -/
def fromParts (negative : Bool) (s : Nat) (k : Int) : NumeralValue :=
  match scale (Format.double.ofInt s) k with
  | some bits => .float ⟨(Format.double.signPart negative + bits).toUInt64⟩
  | none => .outOfRange

/-- An exponent kept within the 32-bit signed range. -/
def saturate (k : Int) : Int :=
  max (-(Nat.pow 2 31)) (min k (Nat.pow 2 31 - 1))

/-- Reads the exponent part (after `e`) of a numeral whose significand is `s` with power of
ten `k` so far; the input must end with it. -/
def exponentPart (negative : Bool) (s : Nat) (k : Int) (cs : List Char) : Option NumeralValue :=
  let (up, cs) := match cs with
    | '+' :: rest => (true, rest)
    | '-' :: rest => (false, rest)
    | rest => (true, rest)
  match cs with
  | c :: _ =>
    if !c.isDigit then none
    else
      match exponentDigits 0 cs with
      | (some e, []) => some (fromParts negative s (saturate (if up then k + e else k - e)))
      | (none, []) =>
        if s ≠ 0 && up then some .outOfRange
        else some (.float ⟨(Format.double.signPart negative).toUInt64⟩)
      | _ => none
  | [] => none

/-- Reads what follows the digits before the point: a fraction, an exponent, or nothing.
`long` says digits were dropped there, which makes the numeral a float. -/
def afterInteger (negative : Bool) (s : Nat) (k : Nat) (long : Bool) :
    List Char → Option NumeralValue
  | '.' :: cs =>
    let (s, n, dropped, rest) := fractionDigits s cs
    if n = 0 && !dropped then none
    else
      let k : Int := (k : Int) - n
      match rest with
      | c :: rest' => if c = 'e' || c = 'E' then exponentPart negative s k rest' else none
      | [] => some (fromParts negative s k)
  | c :: cs => if c = 'e' || c = 'E' then exponentPart negative s k cs else none
  | [] =>
    if long then some (fromParts negative s k)
    else if !negative then some (.integer s)
    else if s = 0 || s > Nat.pow 2 63 then some (fromParts true s 0)
    else some (.integer (-(s : Int)))

/-- Reads a whole numeral; `none` when the text is not a numeral. -/
def read (text : String) : Option NumeralValue :=
  let (negative, cs) := match text.toList with
    | '-' :: rest => (true, rest)
    | rest => (false, rest)
  match cs with
  | '0' :: rest =>
    match rest with
    | c :: _ => if c.isDigit then none else afterInteger negative 0 0 false rest
    | [] => afterInteger negative 0 0 false rest
  | c :: rest =>
    if c.isDigit then
      let (s, k, rest) := integerDigits (digitValue c) rest
      afterInteger negative s k (k > 0) rest
    else none
  | [] => none

/-- The exact value of a finite binary64 in positional form with at least one digit after the
point, so that it reads back as a float of exactly this value; `none` for an infinity or a
NaN. Every finite binary64 is a finite decimal: `m × 2^-j = m × 5^j × 10^-j`. -/
def exactText (x : Binary64) : Option String :=
  match x.shape with
  | .finite negative m e =>
    let d : Decimal :=
      if 0 ≤ e then ⟨m * Nat.pow 2 e.toNat, 0⟩ else ⟨m * Nat.pow 5 e.natAbs, e⟩
    some ((if negative then "-" else "") ++ d.normalize.positional 1)
  | _ => none

end Numeral

end HubLink
