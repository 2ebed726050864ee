/-!
# Built-in types

* `Builtin` : the types that need no declaration;
* `Builtin.ofName? s` : the built-in type that `s` names, by keyword, short or full name;
* `Builtin.target?` : the type of the generated client that stands for it.
-/

namespace WireTypes

/-- The types that need no declaration. -/
inductive Builtin where
  | boolean | byte | sbyte | int16 | uint16 | int32 | uint32 | int64 | uint64
  | single | double | decimal | char | string | guid
  | dateTime | dateTimeOffset | timeSpan | void | task | object
  deriving Repr, DecidableEq, Inhabited

namespace Builtin

/-- The name of the type without its namespace. -/
def name : Builtin → String
  | boolean => "Boolean"
  | byte => "Byte"
  | sbyte => "SByte"
  | int16 => "Int16"
  | uint16 => "UInt16"
  | int32 => "Int32"
  | uint32 => "UInt32"
  | int64 => "Int64"
  | uint64 => "UInt64"
  | single => "Single"
  | double => "Double"
  | decimal => "Decimal"
  | char => "Char"
  | string => "String"
  | guid => "Guid"
  | dateTime => "DateTime"
  | dateTimeOffset => "DateTimeOffset"
  | timeSpan => "TimeSpan"
  | void => "Void"
  | task => "Task"
  | object => "Object"

/-- The keywords for the type. -/
def keywords : Builtin → List String
  | boolean => ["bool"]
  | byte => ["byte"]
  | sbyte => ["sbyte"]
  | int16 => ["short"]
  | uint16 => ["ushort"]
  | int32 => ["int"]
  | uint32 => ["uint"]
  | int64 => ["long"]
  | uint64 => ["ulong"]
  | single => ["float"]
  | double => ["double"]
  | decimal => ["decimal"]
  | char => ["char"]
  | string => ["string"]
  | void => ["void"]
  | object => ["object", "dynamic"]
  | guid | dateTime | dateTimeOffset | timeSpan | task => []

/-- The namespace of the type. -/
def namespaceName : Builtin → String
  | task => "System.Threading.Tasks"
  | _ => "System"

/-- All that the type may be called. -/
def spellings (b : Builtin) : List String :=
  b.keywords ++ [b.namespaceName ++ "." ++ b.name, b.name]

/-- The built-in types. -/
def all : List Builtin :=
  [boolean, byte, sbyte, int16, uint16, int32, uint32, int64, uint64, single, double, decimal,
    char, string, guid, dateTime, dateTimeOffset, timeSpan, void, task, object]

/-- The built-in type that `s` names. -/
def ofName? (s : String) : Option Builtin := all.find? (·.spellings.contains s)

/-- The type of the generated client that stands for a built-in type; `object` has none. -/
def target? : Builtin → Option String
  | boolean => some "boolean"
  | byte | sbyte | int16 | uint16 | int32 | uint32 | int64 | uint64
  | single | double | decimal => some "number"
  | char | string | guid | timeSpan => some "string"
  | dateTime | dateTimeOffset => some "Date"
  | void | task => some "void"
  | object => none

end Builtin

end WireTypes
