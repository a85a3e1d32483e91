import HubLink.Value.Basic
import HubLink.Decimal.FloatText
import HubLink.Text.Quote
/-!
The debug view of argument values: text quoted with escapes, `Some(..)` and `None`, lists and
byte buffers as `[a, b]`, maps as `{"k": v}`, records as `Point { x: -1, y: 2 }`, and floats
with their shortest digits, positional with at least one fractional digit from `1e-4` up to
below `1e16` and scientific outside that range (`1e16`, `1.5e-7`).
-/
namespace HubLink

/-- The debug style of binary32 floats; the bounds are the singles nearest `1e16` and `1e-4`. -/
def FloatStyle.debug32 : FloatStyle :=
  { scientificFrom := some 0x5A0E1BCA, scientificBelow := some 0x38D1B717, minFraction := 1 }

/-- The debug style of binary64 floats; the bounds are the doubles nearest `1e16` and `1e-4`. -/
def FloatStyle.debug64 : FloatStyle :=
  { scientificFrom := some 0x4341C37937E08000, scientificBelow := some 0x3F1A36E2EB1C432D,
    minFraction := 1 }

/-- The debug text of a binary32. -/
def Binary32.debugText (x : Binary32) : String :=
  FloatStyle.debug32.render Binary.Format.single x.bits.toNat

/-- The debug text of a binary64. -/
def Binary64.debugText (x : Binary64) : String :=
  FloatStyle.debug64.render Binary.Format.double x.bits.toNat

/-- Items joined by a comma and a space. -/
def joinItems (items : List String) : String :=
  ", ".intercalate items

namespace Value

mutual

/-- The debug view of a value. -/
def debug : Value → String
  | .bool b => toString b
  | .int n => toString n
  | .f32 x => x.debugText
  | .f64 x => x.debugText
  | .string s => Text.quote s
  | .bytes b => "[" ++ joinItems (b.map fun x => toString x.toNat) ++ "]"
  | .none => "None"
  | .some v => "Some(" ++ debug v ++ ")"
  | .list vs => "[" ++ joinItems (debugAll vs) ++ "]"
  | .map es => "\x7b" ++ joinItems (debugEntries es) ++ "\x7d"
  | .record r vs =>
    r.name ++ " \x7b " ++ joinItems (debugFields (r.fields.map Prod.fst) vs) ++ " \x7d"

/-- The debug views of a list's items. -/
def debugAll : List Value → List String
  | [] => []
  | v :: vs => debug v :: debugAll vs

/-- The debug views of map entries, `"key": value`. -/
def debugEntries : List (String × Value) → List String
  | [] => []
  | (k, v) :: rest => (Text.quote k ++ ": " ++ debug v) :: debugEntries rest

/-- The debug views of record fields, `name: value`. -/
def debugFields : List String → List Value → List String
  | k :: ks, v :: vs => (k ++ ": " ++ debug v) :: debugFields ks vs
  | _, _ => []

end

end Value

/-- The debug view of an argument: that of its value. -/
def Argument.debug (a : Argument) : String :=
  a.value.debug

end HubLink
