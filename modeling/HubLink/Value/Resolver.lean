import HubLink.BindingError
import HubLink.Value.Decode
/-!
A resolver: the table that says, for each argument type an application may receive, as which
type its values are read. Usually a type is read as itself; registering a type with another
type's reader makes its values come back as values of that other type. A later registration of
a type replaces the earlier one.

Every reader of a resolver reads with one value decoder, which reads a value of a given type
from the front of the bytes. The resolvers built here read with the MessagePack value decoder
`Value.decode`; what a proof needs of a decoder it states as a hypothesis.
-/
namespace HubLink

/-- A table from argument types to the type their values are read as, no type twice, and the
decoder its readers read with. -/
structure Resolver where
  entries : List (ValueType × ValueType)
  decode : ValueType → List UInt8 → Except DecodeError (Value × List UInt8)

namespace Resolver

/-- The empty table, reading with the MessagePack value decoder. -/
def empty : Resolver := ⟨[], Value.decode⟩

/-- Reads values of type `t` as values of type `f`, replacing an earlier reader of `t`. -/
def registerAs (r : Resolver) (t f : ValueType) : Resolver :=
  if r.entries.any (·.1 == t) then
    { r with entries := r.entries.map fun e => if e.1 == t then (t, f) else e }
  else { r with entries := r.entries ++ [(t, f)] }

/-- Reads values of type `t` as themselves. -/
def register (r : Resolver) (t : ValueType) : Resolver := r.registerAs t t

/-- Registers each type as itself, in order. -/
def registerAll (r : Resolver) (ts : List ValueType) : Resolver :=
  ts.foldl register r

/-- The type values of `t` are read as, if `t` has a reader. -/
def formatter? (r : Resolver) (t : ValueType) : Option ValueType :=
  (r.entries.find? (·.1 == t)).map (·.2)

/-- Whether `t` has a reader. -/
def contains (r : Resolver) (t : ValueType) : Bool := (r.formatter? t).isSome

/-- The number of types with a reader. -/
def size (r : Resolver) : Nat := r.entries.length

/-- Whether no type has a reader. -/
def isEmpty (r : Resolver) : Bool := r.entries.isEmpty

/-- The debug view: the type name and the number of readers. -/
def debugText (r : Resolver) : String :=
  "TypeFormatterResolver \x7b types: " ++ toString r.size ++ " \x7d"

/-- The standard types: the scalars, text and bytes, their common optional and list forms,
and maps from text to text or to 64-bit integers. -/
def standardTypes : List ValueType :=
  [.bool, .i8, .i16, .i32, .i64, .u8, .u16, .u32, .u64, .f32, .f64, .string, .bytes,
   .option .bool, .option .i32, .option .i64, .option .u32, .option .u64, .option .f64,
   .option .string, .option .bytes,
   .list .bool, .list .i32, .list .i64, .list .f64, .list .string, .list (.option .string),
   .map .string, .map .i64]

/-- The resolver of the standard types. -/
def standard : Resolver := empty.registerAll standardTypes

/-- Reads one argument of type `t` for `field` from the front of `input`. The value is read
as the type registered for `t` and comes back as that type. -/
def readArgument (r : Resolver) (t : ValueType) (field : String) (input : List UInt8) :
    Except BindingError (Argument × List UInt8) :=
  match r.formatter? t with
  | none => .error (.noFormatter t.typeName)
  | some f =>
    match r.decode f input with
    | .ok (v, rest) => .ok (⟨f, v⟩, rest)
    | .error e => .error (BindingError.ofDecode t field e)

end Resolver

end HubLink
