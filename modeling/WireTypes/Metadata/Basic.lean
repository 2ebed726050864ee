import WireTypes.Metadata.Verb

/-!
# Module metadata

What a compiled module declares, as far as its clients are concerned: its types with their members,
and the modules it refers to. References to types are kept as text; they are read where they are
resolved.

* `ModuleDecl`, `TypeDecl`, `PropertyDecl`, `MethodDecl`, `ParameterDecl`, `EnumMember`;
* `Annotation` : the marker `ignoreMarker`, or any other annotation;
* `TypeDecl.isIgnored` : the type is marked as not to be generated.
-/

namespace WireTypes

/-- What sort of type a declaration introduces. -/
inductive TypeKind where
  | plainClass | plainStruct | interface | enum
  deriving Repr, DecidableEq, Inhabited

/-- The sorts with their spelling. -/
def TypeKind.spellings : List (String × TypeKind) :=
  [("class", .plainClass), ("struct", .plainStruct), ("interface", .interface), ("enum", .enum)]

/-- How the sort is spelled. -/
def TypeKind.name : TypeKind → String
  | .plainClass => "class"
  | .plainStruct => "struct"
  | .interface => "interface"
  | .enum => "enum"

/-- A property and the reference to its type. -/
structure PropertyDecl where
  name : String
  type : String
  deriving Repr, DecidableEq, Inhabited

/-- A parameter and the reference to its type. -/
structure ParameterDecl where
  name : String
  type : String
  deriving Repr, DecidableEq, Inhabited

/-- A method. Without `returns` it returns nothing. -/
structure MethodDecl where
  name : String
  returns : Option String := none
  parameters : List ParameterDecl := []
  verb : Option Verb := none
  route : Option String := none
  deriving Repr, DecidableEq, Inhabited

/-- A member of an enumeration, with a signed 64-bit value. -/
structure EnumMember where
  name : String
  value : Int64
  deriving Repr, DecidableEq, Inhabited

/-- The annotation of a type that is not to be generated. -/
def ignoreMarker : String := "Dtogen.GenerationIgnore"

/-- An annotation. Only the exact name of the marker is read as `generationIgnore`. -/
inductive Annotation where
  | generationIgnore
  | other (name : String)
  deriving Repr, DecidableEq, Inhabited

/-- The annotation with this name. -/
def Annotation.ofName (name : String) : Annotation :=
  if name = ignoreMarker then .generationIgnore else .other name

/-- The name of an annotation. -/
def Annotation.name : Annotation → String
  | .generationIgnore => ignoreMarker
  | .other name => name

/-- The declaration of a type under its full name. -/
structure TypeDecl where
  name : String
  kind : TypeKind := .plainClass
  base : Option String := none
  interfaces : List String := []
  properties : List PropertyDecl := []
  methods : List MethodDecl := []
  annotations : List Annotation := []
  values : List EnumMember := []
  deriving Repr, DecidableEq, Inhabited

/-- A module: the modules it refers to and the types it declares. -/
structure ModuleDecl where
  name : String
  references : List String := []
  types : List TypeDecl := []
  deriving Repr, DecidableEq, Inhabited

/-- Whether the type is marked as not to be generated. -/
def TypeDecl.isIgnored (t : TypeDecl) : Bool := t.annotations.contains .generationIgnore

/-- The modules that `m` refers to and `loaded` does not hold, in the order of the references. -/
def ModuleDecl.missing (m : ModuleDecl) (loaded : List String) : List String :=
  m.references.filter fun r => !loaded.contains r

end WireTypes
