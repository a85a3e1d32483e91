/-!
Decimal numbers `digits × 10^exponent` and their two written forms: positional
(`0.0001`, `1500.0`) and scientific (`1.5e-7`, `1e16`). A printer of floats chooses the
digits (`Decimal/Shortest`) and then one of these forms.
-/
namespace HubLink

/-- The decimal `digits × 10^exponent`. -/
structure Decimal where
  digits : Nat
  exponent : Int
  deriving DecidableEq, Repr

namespace Decimal

/-- The decimal digits of a natural number, most significant first. -/
def digitText (n : Nat) : String :=
  String.ofList (Nat.toDigits 10 n)

/-- `n` zeros. -/
def zeros (n : Nat) : String :=
  String.ofList (List.replicate n '0')

/-- Drops trailing zero digits, raising the exponent to keep the value. -/
def normalize (d : Decimal) : Decimal :=
  if d.digits = 0 then ⟨0, 0⟩
  else go d.digits d.exponent d.digits
where
  /-- At most `fuel` zeros come off; a positive number has fewer zeros than its value. -/
  go (digits : Nat) (exponent : Int) : Nat → Decimal
    | 0 => ⟨digits, exponent⟩
    | fuel + 1 =>
      if digits % 10 = 0 ∧ digits ≠ 0 then go (digits / 10) (exponent + 1) fuel
      else ⟨digits, exponent⟩

/-- Positional form: every digit written out, with at least `minFraction` digits after the
point (none and no point when it is zero and the number is whole). -/
def positional (d : Decimal) (minFraction : Nat) : String :=
  let s := digitText d.digits
  if 0 ≤ d.exponent then
    let whole := s ++ zeros d.exponent.toNat
    if minFraction = 0 then whole else whole ++ "." ++ zeros minFraction
  else
    let fracLen := (-d.exponent).toNat
    let pad := if fracLen < minFraction then zeros (minFraction - fracLen) else ""
    if fracLen < s.length then
      String.ofList (s.toList.take (s.length - fracLen)) ++ "." ++
        String.ofList (s.toList.drop (s.length - fracLen)) ++ pad
    else
      "0." ++ zeros (fracLen - s.length) ++ s ++ pad

/-- Scientific form: one digit before the point, the others after it, then `e` and the
exponent of the first digit, with no `+` and no padding. -/
def scientific (d : Decimal) : String :=
  let s := digitText d.digits
  let exp : Int := d.exponent + s.length - 1
  let mantissa :=
    match s.toList with
    | [] => "0"
    | [c] => String.ofList [c]
    | c :: rest => String.ofList (c :: '.' :: rest)
  mantissa ++ "e" ++ toString exp

end Decimal

end HubLink
