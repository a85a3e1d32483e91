import HubLink.Value.Type
/-!
The catalogue of argument types known by short name: the scalars, text and byte buffers, the
optional and list forms in common use, the two text-keyed maps, and the point and chat message
records. Requests name types by these names.
-/
namespace HubLink.ValueType

/-- Every type known by name, in catalogue order. -/
def catalogue : List ValueType :=
  [.bool, .i8, .i16, .i32, .i64, .u8, .u16, .u32, .u64, .f32, .f64, .string, .bytes,
   .option .bool, .option .i32, .option .i64, .option .u32, .option .u64, .option .f64,
   .option .string, .option .bytes, .option .i8,
   .list .bool, .list .i32, .list .i64, .list .f64, .list .string, .list (.option .string),
   .list .u8, .list (.record .point),
   .map .string, .map .i64,
   .record .point, .record .chatMessage]

/-- The catalogue type of a short name. -/
def ofName? (name : String) : Option ValueType :=
  catalogue.find? (·.name == name)

end HubLink.ValueType
