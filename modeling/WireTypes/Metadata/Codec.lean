import WireTypes.Metadata.Basic
import WireTypes.Document.Dialects

/-!
# Modules as documents

* `ModuleDecl.decode d v` : the module that a document's value describes, in the dialect `d`;
* `ModuleDecl.encode m` : a module as a value. Every list is written, an empty one too; a base, return
  type, verb or route that is not there is left out.
-/

namespace WireTypes

open Document

/-! ## Decoding -/

/-- A property. -/
def PropertyDecl.decode (d : Dialect) (v : Value) : Option PropertyDecl := do
  let field ← d.fields ["name", "type"] v
  return {
    name := ← required asText (field "name")
    type := ← required asText (field "type") }

/-- A parameter. -/
def ParameterDecl.decode (d : Dialect) (v : Value) : Option ParameterDecl := do
  let field ← d.fields ["name", "type"] v
  return {
    name := ← required asText (field "name")
    type := ← required asText (field "type") }

/-- A member of an enumeration. -/
def EnumMember.decode (d : Dialect) (v : Value) : Option EnumMember := do
  let field ← d.fields ["name", "value"] v
  return {
    name := ← required asText (field "name")
    value := ← required asInt64 (field "value") }

/-- An annotation. -/
def Annotation.decode (v : Value) : Option Annotation := (asText v).map ofName

/-- The verbs with their spelling. -/
def Verb.spellings : List (String × Verb) := Verb.all.map fun v => (v.name, v)

/-- A method. -/
def MethodDecl.decode (d : Dialect) (v : Value) : Option MethodDecl := do
  let field ← d.fields ["name", "returns", "parameters", "verb", "route"] v
  return {
    name := ← required asText (field "name")
    returns := ← defaulting none (asOptional asText) (field "returns")
    parameters := ← defaulting [] (asList (ParameterDecl.decode d)) (field "parameters")
    verb := ← defaulting none (asOptional (d.asVariant Verb.spellings)) (field "verb")
    route := ← defaulting none (asOptional asText) (field "route") }

/-- A type. -/
def TypeDecl.decode (d : Dialect) (v : Value) : Option TypeDecl := do
  let field ← d.fields
    ["name", "kind", "base", "interfaces", "properties", "methods", "annotations", "values"] v
  return {
    name := ← required asText (field "name")
    kind := ← defaulting .plainClass (d.asVariant TypeKind.spellings) (field "kind")
    base := ← defaulting none (asOptional asText) (field "base")
    interfaces := ← defaulting [] (asList asText) (field "interfaces")
    properties := ← defaulting [] (asList (PropertyDecl.decode d)) (field "properties")
    methods := ← defaulting [] (asList (MethodDecl.decode d)) (field "methods")
    annotations := ← defaulting [] (asList Annotation.decode) (field "annotations")
    values := ← defaulting [] (asList (EnumMember.decode d)) (field "values") }

/-- A module. -/
def ModuleDecl.decode (d : Dialect) (v : Value) : Option ModuleDecl := do
  let field ← d.fields ["name", "references", "types"] v
  return {
    name := ← required asText (field "name")
    references := ← defaulting [] (asList asText) (field "references")
    types := ← defaulting [] (asList (TypeDecl.decode d)) (field "types") }

/-! ## Encoding -/

/-- A list of texts. -/
def encodeTexts (texts : List String) : Value := .list (texts.map .text)

/-- The member of a record that a field gives, if it is there. -/
def encodeOptional (name : String) (text : Option String) : List (Value × Value) :=
  match text with
  | some s => [(.text name, .text s)]
  | none => []

/-- A property as a value. -/
def PropertyDecl.encode (p : PropertyDecl) : Value :=
  .record [(.text "name", .text p.name), (.text "type", .text p.type)]

/-- A parameter as a value. -/
def ParameterDecl.encode (p : ParameterDecl) : Value :=
  .record [(.text "name", .text p.name), (.text "type", .text p.type)]

/-- A member of an enumeration as a value. -/
def EnumMember.encode (m : EnumMember) : Value :=
  .record [(.text "name", .text m.name), (.text "value", .integer m.value.toInt)]

/-- A method as a value. -/
def MethodDecl.encode (m : MethodDecl) : Value :=
  .record ([(.text "name", .text m.name)]
    ++ encodeOptional "returns" m.returns
    ++ [(.text "parameters", .list (m.parameters.map ParameterDecl.encode))]
    ++ encodeOptional "verb" (m.verb.map Verb.name)
    ++ encodeOptional "route" m.route)

/-- A type as a value. -/
def TypeDecl.encode (t : TypeDecl) : Value :=
  .record ([(.text "name", .text t.name), (.text "kind", .text t.kind.name)]
    ++ encodeOptional "base" t.base
    ++ [(.text "interfaces", encodeTexts t.interfaces),
      (.text "properties", .list (t.properties.map PropertyDecl.encode)),
      (.text "methods", .list (t.methods.map MethodDecl.encode)),
      (.text "annotations", encodeTexts (t.annotations.map Annotation.name)),
      (.text "values", .list (t.values.map EnumMember.encode))])

/-- A module as a value. -/
def ModuleDecl.encode (m : ModuleDecl) : Value :=
  .record [(.text "name", .text m.name), (.text "references", encodeTexts m.references),
    (.text "types", .list (m.types.map TypeDecl.encode))]

end WireTypes
