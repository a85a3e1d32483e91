import HubLink.Binary.Float
import HubLink.Value.Type
/-!
Argument values. A `Value` is one of the shapes a typed argument can take; an `Argument` is a
value together with its type, which decides how it was read and how it compares. Map entries
are kept sorted by key, with no key twice, so that two equal maps are equal entry by entry.

Equality is the numeric one: two arguments are equal when they have the same type and equal
values, where a NaN equals nothing and the two zeros are equal.
-/
namespace HubLink

/-- A value of one of the argument types. Integers of every width are `int`; a record holds the
values of its fields in the record's field order. -/
inductive Value where
  | bool (b : Bool)
  | int (n : Int)
  | f32 (x : Binary32)
  | f64 (x : Binary64)
  | string (s : String)
  | bytes (b : List UInt8)
  | none
  | some (v : Value)
  | list (vs : List Value)
  | map (entries : List (String × Value))
  | record (r : Record) (fields : List Value)
  deriving Repr

namespace Value

/-- The value stored under a key of a map's entries. -/
def lookup (key : String) : List (String × Value) → Option Value
  | [] => .none
  | (k, v) :: rest => if k = key then .some v else lookup key rest

/-- Stores a value under a key in entries sorted by key, replacing an earlier one. -/
def insertEntry (key : String) (v : Value) : List (String × Value) → List (String × Value)
  | [] => [(key, v)]
  | (k, w) :: rest =>
    if key = k then (key, v) :: rest
    else if key < k then (key, v) :: (k, w) :: rest
    else (k, w) :: insertEntry key v rest

mutual

/-- Numeric equality of values: structural, except that floats compare as numbers and maps as
sets of entries. -/
def equals : Value → Value → Bool
  | .bool a, .bool b => a == b
  | .int a, .int b => a == b
  | .f32 a, .f32 b => a.equalsNumber b
  | .f64 a, .f64 b => a.equalsNumber b
  | .string a, .string b => a == b
  | .bytes a, .bytes b => a == b
  | .none, .none => true
  | .some a, .some b => equals a b
  | .list as, .list bs => listEquals as bs
  | .map as, .map bs => as.length == bs.length && entriesWithin as bs
  | .record r as, .record s bs => r == s && listEquals as bs
  | _, _ => false

/-- Pointwise equality of two lists of values of the same length. -/
def listEquals : List Value → List Value → Bool
  | [], [] => true
  | a :: as, b :: bs => equals a b && listEquals as bs
  | _, _ => false

/-- Whether every entry of the first map has an equal value under its key in the second. -/
def entriesWithin : List (String × Value) → List (String × Value) → Bool
  | [], _ => true
  | (k, v) :: rest, bs =>
    (match lookup k bs with
      | .some w => equals v w
      | .none => false) && entriesWithin rest bs

end

end Value

/-- A value together with its type. -/
structure Argument where
  type : ValueType
  value : Value
  deriving Repr

namespace Argument

/-- Equality of arguments: the same type and numerically equal values. -/
def equals (a b : Argument) : Bool :=
  a.type == b.type && a.value.equals b.value

/-- Whether the argument holds a value of type `t`. -/
def hasType (a : Argument) (t : ValueType) : Bool :=
  a.type == t

/-- The qualified name of the argument's type. -/
def typeName (a : Argument) : String :=
  a.type.typeName

end Argument

end HubLink
