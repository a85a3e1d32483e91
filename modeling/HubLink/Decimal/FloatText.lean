import HubLink.Decimal.Shortest
/-!
Floats as text. The digits are always the shortest ones that read back (`Decimal.shortest`);
a `FloatStyle` decides the rest: from which magnitudes on the scientific form is used, how many
digits at least follow the point in the positional form, and the words for NaN and the
infinities. A negative value, zero included, gets a leading minus; a NaN never does.
-/
namespace HubLink

/-- How a float is written, apart from its digits. The magnitude bounds are bit patterns of the
float's own format; for non-negative floats the order of patterns is the order of values. -/
structure FloatStyle where
  /-- Magnitudes at or above this pattern are written in scientific form. -/
  scientificFrom : Option Nat
  /-- Non-zero magnitudes below this pattern are written in scientific form. -/
  scientificBelow : Option Nat
  /-- Digits written after the point at least, in positional form. -/
  minFraction : Nat
  deriving DecidableEq, Repr

namespace FloatStyle

/-- Writes the pattern `bits` of format `f`. -/
def render (style : FloatStyle) (f : Binary.Format) (bits : Nat) : String :=
  match f.shape bits with
  | .nan _ _ => "NaN"
  | .infinite negative => if negative then "-inf" else "inf"
  | .finite negative m e =>
    let sign := if negative then "-" else ""
    let magnitude := bits % f.signBit
    let scientific :=
      m ≠ 0 &&
        ((match style.scientificFrom with
          | some bound => decide (bound ≤ magnitude)
          | none => false) ||
         (match style.scientificBelow with
          | some bound => decide (magnitude < bound)
          | none => false))
    let d : Decimal := if m = 0 then ⟨0, 0⟩ else Decimal.shortest f m e
    sign ++ (if scientific then d.scientific else d.positional style.minFraction)

end FloatStyle

end HubLink
