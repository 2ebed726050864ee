import WireTypes.Proofs.Catalog.Repeated

/-!
# Catalogs of the same types

What a name means depends on the types that are declared, on their modules and on what these refer to, and on
nothing that the declarations say. The order of the modules shows in one step only, the search through the other
modules.

* `ModuleDecl.SameTypes`, `Catalog.SameTypes` : modules that refer to the same modules and declare the same types,
  and catalogs of such modules;
* `SameTypes.mem_readableTypesIn` : the same of their modules can be enumerated;
* `SameTypes.findIn`, `SameTypes.findSimple`, `SameTypes.resolveName` : what a name means to both;
* `resolve_congr`, `resolveText_congr` : names that mean the same make references that do.
-/

namespace WireTypes

/-! ## Modules of the same types -/

/-- Modules that refer to the same modules and declare the same types as often, whatever they say of these. -/
structure ModuleDecl.SameTypes (m m' : ModuleDecl) : Prop where
  name : m'.name = m.name
  references : m'.references = m.references
  types : (m'.types.map (·.name)).Perm (m.types.map (·.name))

theorem ModuleDecl.SameTypes.mem_typeIds {m m' : ModuleDecl} (h : m.SameTypes m') {id : TypeId} :
    id ∈ m'.typeIds ↔ id ∈ m.typeIds := by
  rw [typeIds_eq, typeIds_eq, h.name, (h.types.map _).mem_iff]

namespace Catalog

variable {c c' : Catalog}

/-- Catalogs of modules of the same types, in whatever order. -/
def SameTypes (c c' : Catalog) : Prop :=
  ∀ module, Option.Rel ModuleDecl.SameTypes (c.module? module) (c'.module? module)

namespace SameTypes

variable (h : c.SameTypes c')

include h

theorem mem_moduleNames {module : String} : module ∈ c'.moduleNames ↔ module ∈ c.moduleNames := by
  rw [mem_moduleNames_iff, mem_moduleNames_iff]
  rcases rel_cases (h module) with ⟨hnone, hnone'⟩ | ⟨m, m', hm, hm', -⟩
  · rw [hnone, hnone']
  · rw [hm, hm', Option.isSome_some, Option.isSome_some]

theorem references (module : String) : c'.references module = c.references module := by
  unfold Catalog.references
  rcases rel_cases (h module) with ⟨hnone, hnone'⟩ | ⟨m, m', hm, hm', hsame⟩
  · rw [hnone, hnone']
  · rw [hm, hm']
    exact hsame.references

theorem mem_typeIds {id : TypeId} : id ∈ c'.typeIds ↔ id ∈ c.typeIds := by
  rw [mem_typeIds_iff_module?, mem_typeIds_iff_module?]
  rcases rel_cases (h id.module) with ⟨hnone, hnone'⟩ | ⟨m, m', hm, hm', hsame⟩
  · simp [hnone, hnone']
  · simp [hm, hm', hsame.mem_typeIds]

end SameTypes

/-- Modules of the same types can be enumerated in the same catalogs. -/
theorem SameTypes.mem_readableTypesIn (h : c.SameTypes c') (module : String) (id : TypeId) :
    id ∈ c'.readableTypesIn module ↔ id ∈ c.readableTypesIn module := by
  simp only [Catalog.mem_readableTypesIn, typesIn_eq_ok_iff]
  rcases rel_cases (h module) with ⟨hnone, hnone'⟩ | ⟨m, m', hm, hm', hsame⟩
  · simp [hnone, hnone']
  · have hmissing : m'.missing c'.moduleNames = m.missing c.moduleNames := by
      unfold ModuleDecl.missing
      simp only [hsame.references, List.contains_eq_mem, h.mem_moduleNames]
    simp [hm, hm', hmissing, hsame.mem_typeIds]

/-! ## Names that mean the same -/

variable {context : String}

theorem names_homonyms (c : Catalog) (module name : String) : (c.homonyms module name).map (·.name) =
    ((c.module? module).elim [] fun m => m.types.map (·.name)).filter (simpleName · = name) := by
  unfold homonyms
  cases c.module? module with
  | none => rfl
  | some m => rw [Option.elim_some, Option.elim_some, List.filter_map, Function.comp_def]

theorem findSimple_eq_some_iff_names {name : String} {id : TypeId} : c.findSimple context name = some id ↔
    name.toList.any isSegmentBreak = false ∧ (c.homonyms context name).map (·.name) = [id.name] ∧
      id.module = context := by
  rw [findSimple_eq_some_iff]
  refine and_congr_right fun _ => ?_
  constructor
  · rintro ⟨t, ht, rfl⟩
    exact ⟨by rw [ht, List.map_singleton], rfl⟩
  · rintro ⟨hnames, rfl⟩
    obtain ⟨t, ht, hname⟩ := List.map_eq_singleton_iff.mp hnames
    exact ⟨t, ht, by rw [hname]⟩

theorem SameTypes.findIn (h : c.SameTypes c') (module name : String) :
    c'.findIn module name = c.findIn module name := by
  have hsome : (c'.typeDecl? ⟨module, name⟩).isSome ↔ (c.typeDecl? ⟨module, name⟩).isSome := by
    rw [← mem_typeIds_iff, ← mem_typeIds_iff, h.mem_typeIds]
  unfold Catalog.findIn
  simp only [hsome]

/-- Whether one type alone has a simple name does not depend on the order of the types. -/
theorem SameTypes.findSimple (h : c.SameTypes c') (name : String) :
    c'.findSimple context name = c.findSimple context name := by
  have hperm : ((c'.homonyms context name).map (·.name)).Perm ((c.homonyms context name).map (·.name)) := by
    rw [names_homonyms, names_homonyms]
    rcases rel_cases (h context) with ⟨hnone, hnone'⟩ | ⟨m, m', hm, hm', hsame⟩
    · rw [hnone, hnone']
    · rw [hm, hm']
      exact hsame.types.filter _
  apply Option.ext
  intro id
  have hsingle : (c'.homonyms context name).map (·.name) = [id.name] ↔
      (c.homonyms context name).map (·.name) = [id.name] := by
    rw [← List.perm_singleton, ← List.perm_singleton]
    exact ⟨hperm.symm.trans, hperm.trans⟩
  rw [findSimple_eq_some_iff_names, findSimple_eq_some_iff_names, hsingle]

/-- Only the search through the other modules depends on their order. -/
theorem SameTypes.resolveName (h : c.SameTypes c') {name : String}
    (hsearch : ((c'.searchOrder context).findSome? fun m => c.findIn m name) =
      (c.searchOrder context).findSome? fun m => c.findIn m name) :
    c'.resolveName context name = c.resolveName context name := by
  have hfull : c'.fullNameMeaning? context name = c.fullNameMeaning? context name := by
    simp only [fullNameMeaning?, h.findIn, hsearch]
  rw [resolveName_eq, resolveName_eq, hfull, h.findSimple]

theorem SameTypes.resolveName_of_moduleNames (h : c.SameTypes c') (hnames : c'.moduleNames = c.moduleNames)
    (context name : String) : c'.resolveName context name = c.resolveName context name := by
  have hsearch : c'.searchOrder context = c.searchOrder context := by
    rw [searchOrder, h.references, hnames, searchOrder]
  exact h.resolveName (by rw [hsearch])

theorem resolveDefinition_congr (h : ∀ name, c'.resolveName context name = c.resolveName context name)
    (name : String) (arity : Nat) :
    c'.resolveDefinition context name arity = c.resolveDefinition context name arity := by
  simp only [resolveDefinition, h]

mutual

theorem resolve_congr (h : ∀ name, c'.resolveName context name = c.resolveName context name) :
    ∀ t : TypeRef, c'.resolve context t = c.resolve context t
  | .named name => h name
  | .array element => congrArg Descriptor.array (resolve_congr h element)
  | .generic name args => by
    rw [resolve, resolveDefinition_congr h, resolveAll_congr h args, resolve]

theorem resolveAll_congr (h : ∀ name, c'.resolveName context name = c.resolveName context name) :
    ∀ args : List TypeRef, c'.resolveAll context args = c.resolveAll context args
  | [] => rfl
  | arg :: args => by rw [resolveAll, resolve_congr h arg, resolveAll_congr h args, resolveAll]

end

theorem resolveText_congr (h : ∀ name, c'.resolveName context name = c.resolveName context name)
    (text : String) : c'.resolveText context text = c.resolveText context text := by
  unfold resolveText
  cases TypeRef.parse text with
  | error fault => rfl
  | ok t => exact congrArg Except.ok (resolve_congr h t)

end Catalog

end WireTypes
