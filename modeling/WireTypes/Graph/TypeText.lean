import WireTypes.Graph.Classification

/-!
# Types of the generated client

* `Classification.typeText nameOf` : the classified type as the client writes it, `nameOf` naming the
  models; an ignored type has none.
-/

namespace WireTypes

/-- The type of values that are passed on without a type. -/
def untypedText : String := "any"

/-- Names of models by their identity. -/
abbrev NameTable := List (TypeId × String)

/-- The name of a model: the one in the table, else its simple name. -/
def NameTable.nameOf (names : NameTable) (id : TypeId) : String := (names.lookup id).getD id.simpleName

/-- The classified type as the client writes it. -/
def Classification.typeText (nameOf : TypeId → String) : Classification → Option String
  | .builtin target => some target
  | .model id => some (nameOf id)
  | .constructed id _ => some (nameOf id)
  | .collection element => (element.typeText nameOf).map (· ++ "[]")
  | .untyped => some untypedText
  | .keyValueMap _ => some untypedText
  | .unsupported _ _ => some untypedText
  | .unresolved _ => some untypedText
  | .ignored => none

end WireTypes
