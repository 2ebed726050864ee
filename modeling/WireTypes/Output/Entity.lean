import WireTypes.Output.Source

/-!
# Definitions of models

* `enumText` : an enumeration with its members;
* `interfaceText` : an interface with its properties, and with the model it extends;
* `Catalog.entityFile` : the file of a model. A model whose properties cannot be read has none.
-/

namespace WireTypes

/-- The text of an enumeration. -/
def enumText (name : String) (members : List EnumMember) : String :=
  "export enum " ++ name ++ " \x7b" ++
    newLines (members.map fun m => "    " ++ m.name ++ " = " ++ toString m.value.toInt ++ ",") ++
    "\n\x7d"

/-- An interface that is to be written. -/
structure Interface where
  name : String
  /-- The name of the model it extends. -/
  base : Option String
  /-- The names and types of its properties. -/
  properties : List (String × String)
  /-- The names that it uses. -/
  imports : OrderedSet String

/-- The text of an interface. -/
def Interface.text (i : Interface) (combined : Bool) : String :=
  let imports := importLines i.imports combined
  lines imports ++ (if imports.isEmpty then "" else "\n") ++
    "export interface " ++ i.name ++ (i.base.elim "" fun base => " extends " ++ base) ++ " \x7b" ++
    newLines (i.properties.map fun (name, type) => "    " ++ name ++ ": " ++ type ++ ";") ++
    "\n\x7d"

namespace Catalog

/-- The properties of a type with their classification; none when one cannot be read. -/
def classifiedProperties (c : Catalog) (id : TypeId) : List (String × Classification) :=
  match c.properties id with
  | .ok properties => properties.map fun p => (p.name, c.classify p.type)
  | .error _ => []

/-- The interface of a model. -/
def interface (c : Catalog) (nameOf : TypeId → String) (id : TypeId) : Interface :=
  let base := (c.baseModel? id).map nameOf
  let properties := (c.classifiedProperties id).filterMap fun (name, type) =>
    (type.typeText nameOf).map fun text => (name, type, text)
  let shown := properties.filterMap fun (_, type, _) => type.renderedModel?.map nameOf
  { name := nameOf id
    base
    properties := properties.map fun (name, _, text) => (camelCase name, text)
    imports := (OrderedSet.ofList (base.toList ++ shown)).erase (nameOf id) }

/-- The file of a model. -/
def entityFile (c : Catalog) (nameOf : TypeId → String) (combined : Bool) (id : TypeId) : OutputFile where
  name := nameOf id
  text :=
    match c.typeDecl? id with
    | some t =>
      if t.kind = .enum then enumText (nameOf id) t.values
      else (c.interface nameOf id).text combined
    | none => (c.interface nameOf id).text combined

end Catalog

end WireTypes
