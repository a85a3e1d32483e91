import HubLink.Value.Basic
import HubLink.MsgPack.Write
/-!
Writing argument values as MessagePack. Integers take their shortest form whatever their type,
floats keep their bits, text is a string item and a byte buffer a binary item; `none` is nil
and `some v` is just `v`; lists are arrays (a list of bytes too) and maps are maps. A record is
a map from its field names to its field values, in field order.
-/
namespace HubLink

namespace Value

mutual

/-- The MessagePack form of a value. -/
def encode : Value → List UInt8
  | .bool b => MsgPack.writeBool b
  | .int n => MsgPack.writeInt n
  | .f32 x => MsgPack.writeFloat32 x.bits
  | .f64 x => MsgPack.writeFloat64 x.bits
  | .string s => MsgPack.writeStr s
  | .bytes b => MsgPack.writeBin b
  | .none => MsgPack.writeNil
  | .some v => encode v
  | .list vs => MsgPack.writeArrayLen vs.length ++ encodeAll vs
  | .map es => MsgPack.writeMapLen es.length ++ encodeEntries es
  | .record r vs =>
    let names := r.fields.map Prod.fst
    MsgPack.writeMapLen (min names.length vs.length) ++ encodeFields names vs

/-- The items of a list, one after the other. -/
def encodeAll : List Value → List UInt8
  | [] => []
  | v :: vs => encode v ++ encodeAll vs

/-- The key and value items of map entries. -/
def encodeEntries : List (String × Value) → List UInt8
  | [] => []
  | (k, v) :: rest => MsgPack.writeStr k ++ encode v ++ encodeEntries rest

/-- The name and value items of record fields. -/
def encodeFields : List String → List Value → List UInt8
  | k :: ks, v :: vs => MsgPack.writeStr k ++ encode v ++ encodeFields ks vs
  | _, _ => []

end

end Value

/-- The MessagePack form of an argument: the form of its value. -/
def Argument.encode (a : Argument) : List UInt8 :=
  a.value.encode

end HubLink
