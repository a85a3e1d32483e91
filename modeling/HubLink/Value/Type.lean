/-!
The types of hub arguments: booleans, fixed-width integers, binary32 and binary64 floats,
text, byte buffers, optional values, lists, maps from text keys, and a few known records.
Every type has three names: its short name (`Option<String>`), the qualified name that
binding errors report (`core::option::Option<alloc::string::String>`), and the phrase a
decoding error uses for what it expected (`a string`, `struct Point`).
-/
namespace HubLink

/-- The record types the library knows: named fields, written as MessagePack maps. -/
inductive Record where
  | point
  | chatMessage
  | chatLine
  deriving DecidableEq, Repr

/-- The type of an argument value. -/
inductive ValueType where
  | bool
  | i8 | i16 | i32 | i64
  | u8 | u16 | u32 | u64
  | f32 | f64
  | string
  | bytes
  | option (t : ValueType)
  | list (t : ValueType)
  | map (t : ValueType)
  | record (r : Record)
  deriving DecidableEq, Repr

namespace Record

/-- The record's short name. -/
def name : Record → String
  | .point => "Point"
  | .chatMessage => "ChatMessage"
  | .chatLine => "ChatLine"

/-- The record's qualified name. -/
def path : Record → String
  | .point => "hubwire_driver::Point"
  | .chatMessage => "hubwire_driver::ChatMessage"
  | .chatLine => "chat::ChatLine"

/-- The record's fields, in order, with their types. -/
def fields : Record → List (String × ValueType)
  | .point => [("x", .i32), ("y", .i32)]
  | .chatMessage => [("user", .string), ("text", .string), ("tags", .list .string)]
  | .chatLine => [("user", .string), ("text", .string)]

end Record

namespace ValueType

/-- The least and greatest value of an integer type. -/
def intRange? : ValueType → Option (Int × Int)
  | .i8 => some (-0x80, 0x7F)
  | .i16 => some (-0x8000, 0x7FFF)
  | .i32 => some (-0x80000000, 0x7FFFFFFF)
  | .i64 => some (-0x8000000000000000, 0x7FFFFFFFFFFFFFFF)
  | .u8 => some (0, 0xFF)
  | .u16 => some (0, 0xFFFF)
  | .u32 => some (0, 0xFFFFFFFF)
  | .u64 => some (0, 0xFFFFFFFFFFFFFFFF)
  | _ => none

/-- The short name: `i32`, `String`, `ByteBuf`, `Option<T>`, `Vec<T>`, `HashMap<String,T>`. -/
def name : ValueType → String
  | .bool => "bool"
  | .i8 => "i8"
  | .i16 => "i16"
  | .i32 => "i32"
  | .i64 => "i64"
  | .u8 => "u8"
  | .u16 => "u16"
  | .u32 => "u32"
  | .u64 => "u64"
  | .f32 => "f32"
  | .f64 => "f64"
  | .string => "String"
  | .bytes => "ByteBuf"
  | .option t => "Option<" ++ t.name ++ ">"
  | .list t => "Vec<" ++ t.name ++ ">"
  | .map t => "HashMap<String," ++ t.name ++ ">"
  | .record r => r.name

/-- The qualified name that binding errors report. -/
def typeName : ValueType → String
  | .string => "alloc::string::String"
  | .bytes => "serde_bytes::bytebuf::ByteBuf"
  | .option t => "core::option::Option<" ++ t.typeName ++ ">"
  | .list t => "alloc::vec::Vec<" ++ t.typeName ++ ">"
  | .map t => "std::collections::hash::map::HashMap<alloc::string::String, " ++ t.typeName ++ ">"
  | .record r => r.path
  | t => t.name

/-- What a decoding error says it expected when it meets an item of the wrong kind. -/
def expecting : ValueType → String
  | .bool => "a boolean"
  | .string => "a string"
  | .bytes => "byte array"
  | .option _ => "option"
  | .list _ => "a sequence"
  | .map _ => "a map"
  | .record r => "struct " ++ r.name
  | t => t.name

end ValueType

end HubLink
