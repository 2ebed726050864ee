import WireTypes.Catalog.TypeId
import WireTypes.Metadata.Basic
import WireTypes.TypeRef.Reader

/-!
# Catalogs of modules

* `Catalog` : loaded modules in load order, no two of one name;
* `Catalog.insert`, `Catalog.ofModules` : a module whose name is taken is left out;
* `Catalog.module?` : the module of a name (`module?_eq_some_iff`);
* `Catalog.typeDecl?` : the declaration of a type, the last one when a module repeats it. The types
  that have one are the declared ones (`mem_typeIds_iff`);
* `Catalog.typesIn` : the types of a module that can be enumerated, which takes all the modules it
  refers to.
-/

namespace WireTypes

/-- Loaded modules, no two of one name. -/
structure Catalog where
  modules : List ModuleDecl
  distinct : (modules.map (·.name)).Nodup

/-- Why a question about a catalog has no answer. -/
inductive CatalogError where
  | invalidRef (fault : TypeRef.ParseError)
  | missingDependency (module dependency : String)
  | unknownModule (module : String)
  | unknownType (id : TypeId)
  deriving Repr, DecidableEq

/-- The error in words. -/
def CatalogError.message : CatalogError → String
  | .invalidRef fault => fault.message
  | .missingDependency module dependency =>
    "cannot enumerate types of module '" ++ module ++ "': dependency '" ++ dependency ++
      "' is not loaded"
  | .unknownModule module => "module '" ++ module ++ "' is not loaded"
  | .unknownType id => "type '" ++ id.toText ++ "' is not declared in any loaded module"

/-- The declaration of `name` in the module that counts: the last one. -/
def ModuleDecl.type? (m : ModuleDecl) (name : String) : Option TypeDecl :=
  m.types.findRev? (·.name = name)

/-- The identities of the types that the module declares, in order. -/
def ModuleDecl.typeIds (m : ModuleDecl) : List TypeId := m.types.map fun t => ⟨m.name, t.name⟩

namespace Catalog

/-! ## Loading -/

/-- The catalog of no modules. -/
def empty : Catalog := ⟨[], List.nodup_nil⟩

instance : Inhabited Catalog := ⟨empty⟩

/-- The names of the modules in load order. -/
def moduleNames (c : Catalog) : List String := c.modules.map (·.name)

/-- Whether a module of this name is loaded. -/
def contains (c : Catalog) (module : String) : Bool := c.moduleNames.contains module

/-- Loads a module after the others, unless one of its name is loaded. -/
def insert (c : Catalog) (m : ModuleDecl) : Catalog :=
  if h : m.name ∈ c.moduleNames then c
  else
    { modules := c.modules ++ [m]
      distinct := by
        rw [List.map_append, List.map_singleton, List.nodup_append]
        refine ⟨c.distinct, by simp, ?_⟩
        rintro a ha b hb rfl
        exact h (List.mem_singleton.1 hb ▸ ha) }

/-- Loads modules in order. -/
def insertMany (c : Catalog) (ms : List ModuleDecl) : Catalog := ms.foldl insert c

/-- The catalog of the modules of a list, in order. -/
def ofModules (ms : List ModuleDecl) : Catalog := empty.insertMany ms

/-! ## Questions -/

/-- The module of this name. -/
def module? (c : Catalog) (module : String) : Option ModuleDecl :=
  c.modules.find? (·.name = module)

/-- The modules that the module of this name refers to. -/
def references (c : Catalog) (module : String) : List String :=
  (c.module? module).elim [] (·.references)

/-- The references of a module that are not loaded, in order. -/
def missing (c : Catalog) (module : String) : List String :=
  (c.module? module).elim [] (·.missing c.moduleNames)

/-- The declaration of a type. -/
def typeDecl? (c : Catalog) (id : TypeId) : Option TypeDecl :=
  (c.module? id.module).bind (·.type? id.name)

/-- Whether the type is marked as not to be generated. -/
def isIgnored (c : Catalog) (id : TypeId) : Bool := (c.typeDecl? id).any (·.isIgnored)

/-- All declared types, module by module. -/
def typeIds (c : Catalog) : List TypeId := c.modules.flatMap (·.typeIds)

/-- The types of a module in the order of their declarations. -/
def typesIn (c : Catalog) (module : String) : Except CatalogError (List TypeId) :=
  match c.module? module with
  | none => .error (.unknownModule module)
  | some m =>
    match m.missing c.moduleNames with
    | dependency :: _ => .error (.missingDependency module dependency)
    | [] => .ok m.typeIds

/-- The types of a module, none when they cannot be enumerated. -/
def readableTypesIn (c : Catalog) (module : String) : List TypeId :=
  match c.typesIn module with
  | .ok ids => ids
  | .error _ => []

/-! ## Modules and their types -/

theorem moduleNames_insert (c : Catalog) (m : ModuleDecl) :
    (c.insert m).moduleNames =
      if m.name ∈ c.moduleNames then c.moduleNames else c.moduleNames ++ [m.name] := by
  unfold insert
  split <;> simp [moduleNames]

/-- In a list of modules of distinct names, each is found under its name. -/
theorem find?_name_eq_some {ms : List ModuleDecl} (hn : (ms.map (·.name)).Nodup) {m : ModuleDecl}
    (hm : m ∈ ms) : ms.find? (·.name = m.name) = some m := by
  induction ms with
  | nil => simp at hm
  | cons a ms ih =>
    obtain ⟨ha, hn⟩ := List.nodup_cons.1 hn
    rcases List.mem_cons.1 hm with rfl | hm
    · simp
    · have : a.name ≠ m.name := fun h => ha (List.mem_map.2 ⟨m, hm, h.symm⟩)
      simpa [this] using ih hn hm

theorem module?_eq_some_iff {c : Catalog} {module : String} {m : ModuleDecl} :
    c.module? module = some m ↔ m ∈ c.modules ∧ m.name = module := by
  constructor
  · exact fun h => ⟨List.mem_of_find?_eq_some h, by simpa using List.find?_some h⟩
  · rintro ⟨hm, rfl⟩
    exact find?_name_eq_some c.distinct hm

theorem isSome_type?_iff {m : ModuleDecl} {name : String} :
    (m.type? name).isSome ↔ ∃ t ∈ m.types, t.name = name := by
  simp [ModuleDecl.type?, List.findRev?_eq_find?_reverse]

theorem mem_typeIds_iff {c : Catalog} {id : TypeId} : id ∈ c.typeIds ↔ (c.typeDecl? id).isSome := by
  simp only [typeIds, List.mem_flatMap, ModuleDecl.typeIds, List.mem_map, typeDecl?,
    Option.isSome_bind, Option.any_eq_true, module?_eq_some_iff, isSome_type?_iff]
  constructor
  · rintro ⟨m, hm, t, ht, rfl⟩
    exact ⟨m, ⟨hm, rfl⟩, t, ht, rfl⟩
  · rintro ⟨m, ⟨hm, hmodule⟩, t, ht, hname⟩
    exact ⟨m, hm, t, ht, by cases id; simp_all⟩

theorem module_of_mem_readableTypesIn {c : Catalog} {module : String} {id : TypeId}
    (h : id ∈ c.readableTypesIn module) : id.module = module := by
  unfold readableTypesIn typesIn at h
  split at h
  · rename_i ids hids
    split at hids
    · cases hids
    · rename_i m hm
      split at hids
      · cases hids
      · obtain rfl := Except.ok.inj hids
        obtain ⟨t, _, rfl⟩ := List.mem_map.1 h
        exact (module?_eq_some_iff.1 hm).2
  · simp at h

end Catalog

end WireTypes
