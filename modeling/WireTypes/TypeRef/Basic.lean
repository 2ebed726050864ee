import WireTypes.Text.Alphanumeric

/-!
# Type references

* `TypeRef` : a reference to a type as metadata writes it, `Shop.Order`, `List<Order>`, `Order[]`;
* `lastSegment`, `stripArity`, `simpleName` : the parts of a qualified name. Segments are joined by
  `.` or, for nested types, by `+`; a generic definition carries its number of parameters behind a
  backtick;
* `TypeRef.nullable t` : what `t?` stands for;
* `TypeRef.toText` : the reference in writing.
-/

namespace WireTypes

/-! ## Qualified names -/

/-- The backtick that stands before the number of parameters of a generic definition. -/
def arityMark : Char := Char.ofNat 0x60

/-- Whether `c` joins two segments of a qualified name. -/
def isSegmentBreak (c : Char) : Bool := c = '.' || c = '+'

/-- Whether `c` may stand in a segment of a name. -/
def isNameChar (c : Char) : Bool := Text.isAlphanumeric c || c = '_' || c = arityMark

/-- `name` up to its first arity mark. -/
def stripArity (name : String) : String := String.ofList (name.toList.takeWhile (· != arityMark))

/-- What follows the last segment break of `name`. -/
def lastSegment (name : String) : String :=
  String.ofList (name.toList.reverse.takeWhile fun c => !isSegmentBreak c).reverse

/-- The last segment of `name` without its arity: the name of the type by itself. -/
def simpleName (name : String) : String := stripArity (lastSegment name)

/-! ## References -/

/-- A reference to a type: by name, to an array of another, or to a generic type with its
arguments. -/
inductive TypeRef where
  | named (name : String)
  | array (element : TypeRef)
  | generic (name : String) (args : List TypeRef)
  deriving Repr, BEq, Inhabited

namespace TypeRef

/-- The generic type that a question mark stands for. -/
def nullableName : String := "System.Nullable"

/-- The reference `t?`. -/
def nullable (t : TypeRef) : TypeRef := .generic nullableName [t]

/-- The name of the type by itself; for an array, that of its elements. -/
def simpleName : TypeRef → String
  | .named name => WireTypes.simpleName name
  | .array element => element.simpleName
  | .generic name _ => WireTypes.simpleName name

mutual

/-- The reference in writing. -/
def toText : TypeRef → String
  | .named name => name
  | .array element => element.toText ++ "[]"
  | .generic name args => name ++ "<" ++ argsText args ++ ">"

/-- The arguments of a generic reference in writing. -/
def argsText : List TypeRef → String
  | [] => ""
  | [arg] => arg.toText
  | arg :: args => arg.toText ++ ", " ++ argsText args

end

end TypeRef

end WireTypes
