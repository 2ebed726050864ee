import WireTypes.Catalog.Basic
import WireTypes.Catalog.Descriptor

/-!
# Resolving references

* `Catalog.resolveName` : what a name means in a module. In this order: a type of the module with
  that full name, a built-in type, a type with that full name in another module (the references of
  the module first, then the other modules in load order), and, for a name without segment breaks,
  the one type of the module with that simple name;
* `Catalog.resolveDefinition` : the declared generic type with that name and number of parameters;
* `Catalog.resolve`, `Catalog.resolveText` : what a reference means;
* `Catalog.baseType`, `Catalog.properties`, `Catalog.methods` : the members of a declared type.
-/

namespace WireTypes.Catalog

/-! ## Names -/

/-- The type with this full name in a module. -/
def findIn (c : Catalog) (module name : String) : Option TypeId :=
  if (c.typeDecl? ⟨module, name⟩).isSome then some ⟨module, name⟩ else none

/-- The other modules that names in `context` may refer to, in the order of their precedence. -/
def searchOrder (c : Catalog) (context : String) : List String :=
  c.references context ++
    c.moduleNames.filter fun m => m != context && !(c.references context).contains m

/-- The one type of a module with this simple name. Two declarations of it are one too many, also
when they repeat the same type. -/
def findSimple (c : Catalog) (module name : String) : Option TypeId :=
  if name.toList.any isSegmentBreak then none
  else
    match (c.module? module).elim [] fun m => m.types.filter fun t => simpleName t.name = name with
    | [t] => some ⟨module, t.name⟩
    | _ => none

/-- What `name` means in the module `context`. -/
def resolveName (c : Catalog) (context name : String) : Descriptor :=
  match c.findIn context name with
  | some id => .declared id
  | none =>
    match Builtin.ofName? name with
    | some b => .builtin b
    | none =>
      match (c.searchOrder context).findSome? fun m => c.findIn m name with
      | some id => .declared id
      | none =>
        match c.findSimple context name with
        | some id => .declared id
        | none => .unresolved name

/-- The names under which a generic definition may be declared. -/
def definitionNames (name : String) (arity : Nat) : List String :=
  [name ++ "`" ++ toString arity, name]

/-- The declared generic type that `name` with `arity` arguments means in the module `context`. -/
def resolveDefinition (c : Catalog) (context name : String) (arity : Nat) : Option TypeId :=
  (definitionNames name arity).findSome? fun candidate =>
    match c.resolveName context candidate with
    | .declared id => some id
    | _ => none

/-! ## References -/

mutual

/-- What a reference means in the module `context`. -/
def resolve (c : Catalog) (context : String) : TypeRef → Descriptor
  | .named name => c.resolveName context name
  | .array element => .array (c.resolve context element)
  | .generic name args =>
    match c.resolveDefinition context name args.length with
    | some id => .constructed id (c.resolveAll context args)
    | none => .generic name (c.resolveAll context args)

/-- What each of several references means. -/
def resolveAll (c : Catalog) (context : String) : List TypeRef → List Descriptor
  | [] => []
  | arg :: args => c.resolve context arg :: c.resolveAll context args

end

/-- What a reference in writing means in the module `context`. -/
def resolveText (c : Catalog) (context text : String) : Except CatalogError Descriptor :=
  match TypeRef.parse text with
  | .ok t => .ok (c.resolve context t)
  | .error fault => .error (.invalidRef fault)

/-! ## Members -/

/-- The declaration of a type, or that there is none. -/
def typeDecl (c : Catalog) (id : TypeId) : Except CatalogError TypeDecl :=
  match c.typeDecl? id with
  | some t => .ok t
  | none => .error (.unknownType id)

/-- What the base of a type is, if it declares one. -/
def baseType (c : Catalog) (id : TypeId) : Except CatalogError (Option Descriptor) := do
  match (← c.typeDecl id).base with
  | some text => return some (← c.resolveText id.module text)
  | none => return none

/-- The properties of a type. -/
def properties (c : Catalog) (id : TypeId) : Except CatalogError (List Property) := do
  (← c.typeDecl id).properties.mapM fun p => do
    return ⟨p.name, ← c.resolveText id.module p.type⟩

/-- The methods of a type. -/
def methods (c : Catalog) (id : TypeId) : Except CatalogError (List Method) := do
  (← c.typeDecl id).methods.mapM fun m => do
    let returns ←
      match m.returns with
      | some text => c.resolveText id.module text
      | none => pure (.builtin .void)
    let parameters ← m.parameters.mapM fun p => do
      return (⟨p.name, ← c.resolveText id.module p.type⟩ : Parameter)
    return ⟨m.name, returns, parameters, m.verb, m.route⟩

end WireTypes.Catalog
