import WireTypes.Catalog.Builtin
import WireTypes.Catalog.TypeId
import WireTypes.Metadata.Basic

/-!
# Descriptors

* `Descriptor` : what a reference means once its names are resolved;
* `Descriptor.toText` : the descriptor in writing;
* `Property`, `Parameter`, `Method` : members with their types resolved.
-/

namespace WireTypes

/-- What a reference means. -/
inductive Descriptor where
  | builtin (b : Builtin)
  | declared (id : TypeId)
  | array (element : Descriptor)
  /-- A declared generic type with arguments. -/
  | constructed (definition : TypeId) (args : List Descriptor)
  /-- A generic type that no module declares, with arguments. -/
  | generic (definition : String) (args : List Descriptor)
  /-- A name that means nothing. -/
  | unresolved (name : String)
  deriving Repr, BEq, Inhabited

namespace Descriptor

mutual

/-- The descriptor in writing. -/
def toText : Descriptor → String
  | .builtin b => b.name
  | .declared id => id.name
  | .array element => element.toText ++ "[]"
  | .constructed definition args => stripArity definition.name ++ "<" ++ argsText args ++ ">"
  | .generic definition args => definition ++ "<" ++ argsText args ++ ">"
  | .unresolved name => name

/-- Arguments in writing. -/
def argsText : List Descriptor → String
  | [] => ""
  | [arg] => arg.toText
  | arg :: args => arg.toText ++ ", " ++ argsText args

end

/-- The declared type that the descriptor is, or is an instance of. -/
def definition? : Descriptor → Option TypeId
  | .declared id => some id
  | .constructed id _ => some id
  | _ => none

end Descriptor

/-! ## Members -/

/-- A property and what its type is. -/
structure Property where
  name : String
  type : Descriptor
  deriving Repr, BEq, Inhabited

/-- A parameter and what its type is. -/
structure Parameter where
  name : String
  type : Descriptor
  deriving Repr, BEq, Inhabited

/-- A method and what its types are. -/
structure Method where
  name : String
  returns : Descriptor
  parameters : List Parameter
  verb : Option Verb
  route : Option String
  deriving Repr, BEq, Inhabited

/-- The types in the signature of the method, the returned one first. -/
def Method.signature (m : Method) : List Descriptor := m.returns :: m.parameters.map (·.type)

end WireTypes
