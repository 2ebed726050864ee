import WireTypes.Proofs.Catalog.Siblings

/-!
# Loading one more module

A module that is loaded after the others comes last in every search. To a module that does not refer to it, it gives a
meaning to names that are neither built in nor the full name of a loaded type, and to no others: what is found sooner
keeps its meaning. Only the rule for simple names is tried later, so that a type of the new module takes the place of
what this rule finds.

* `ModuleDecl.Declares`, `Catalog.HasFullMeaning` : the full names of declared types, and the names that are
  understood as they are;
* `exists_of_fullNameMeaning?`, `isSome_fullNameMeaning?_iff` : what these mean;
* `findIn_insert`, `searchOrder_insert`, `fullNameMeaning?_insert` : each step of the search with the new module;
* `resolveName_append` : what a name means before and after.
-/

namespace WireTypes

/-- The module declares a type with this full name. -/
def ModuleDecl.Declares (m : ModuleDecl) (name : String) : Prop := ∃ t ∈ m.types, t.name = name

instance (m : ModuleDecl) (name : String) : Decidable (m.Declares name) :=
  inferInstanceAs (Decidable (∃ t ∈ m.types, t.name = name))

namespace Catalog

/-- The name is that of a built-in type or the full name of a declared one. -/
def HasFullMeaning (c : Catalog) (name : String) : Prop :=
  (Builtin.ofName? name).isSome ∨ ∃ m ∈ c.modules, m.Declares name

instance (c : Catalog) (name : String) : Decidable (c.HasFullMeaning name) :=
  inferInstanceAs (Decidable (_ ∨ _))

variable {c : Catalog} {context name : String}

/-! ## Names that are understood as they are -/

theorem findIn_eq_some_iff {module : String} {id : TypeId} : c.findIn module name = some id ↔
    id = ⟨module, name⟩ ∧ ∃ m ∈ c.modules, m.name = module ∧ m.Declares name := by
  have hdecl : (c.typeDecl? ⟨module, name⟩).isSome ↔ ∃ m ∈ c.modules, m.name = module ∧ m.Declares name := by
    simp only [typeDecl?, Option.isSome_bind, Option.any_eq_true, module?_eq_some_iff, isSome_type?_iff, and_assoc,
      ModuleDecl.Declares]
  unfold findIn
  rw [Option.ite_none_right_eq_some, hdecl, Option.some.injEq, and_comm, eq_comm]

theorem exists_of_fullNameMeaning? {d : Descriptor} (h : c.fullNameMeaning? context name = some d) :
    (∃ b, Builtin.ofName? name = some b ∧ d = .builtin b) ∨
      ∃ m ∈ c.modules, m.Declares name ∧ d = .declared ⟨m.name, name⟩ := by
  have hfound : ∀ module id, c.findIn module name = some id →
      ∃ m ∈ c.modules, m.Declares name ∧ Descriptor.declared id = .declared ⟨m.name, name⟩ := by
    intro module id hid
    obtain ⟨rfl, m, hm, rfl, hdecl⟩ := findIn_eq_some_iff.mp hid
    exact ⟨m, hm, hdecl, rfl⟩
  unfold fullNameMeaning? at h
  rcases Option.or_eq_some_iff.mp h with h | ⟨-, h⟩
  · obtain ⟨id, hid, rfl⟩ := Option.map_eq_some_iff.mp h
    exact Or.inr (hfound context id hid)
  rcases Option.or_eq_some_iff.mp h with h | ⟨-, h⟩
  · obtain ⟨b, hb, rfl⟩ := Option.map_eq_some_iff.mp h
    exact Or.inl ⟨b, hb, rfl⟩
  · obtain ⟨id, hid, rfl⟩ := Option.map_eq_some_iff.mp h
    obtain ⟨module, -, hid⟩ := List.exists_of_findSome?_eq_some hid
    exact Or.inr (hfound module id hid)

/-- Every other module is searched. -/
theorem mem_searchOrder {m : ModuleDecl} (hm : m ∈ c.modules) (hne : m.name ≠ context) :
    m.name ∈ c.searchOrder context := by
  unfold searchOrder
  rw [List.mem_append]
  by_cases href : m.name ∈ c.references context
  · exact Or.inl href
  · refine Or.inr (List.mem_filter.mpr ⟨List.mem_map_of_mem hm, ?_⟩)
    simp [hne, href]

theorem isSome_fullNameMeaning?_iff (context : String) :
    (c.fullNameMeaning? context name).isSome ↔ c.HasFullMeaning name := by
  constructor
  · intro h
    obtain ⟨d, hd⟩ := Option.isSome_iff_exists.mp h
    rcases exists_of_fullNameMeaning? hd with ⟨b, hb, -⟩ | ⟨m, hm, hdecl, -⟩
    · exact Or.inl (by rw [hb]; rfl)
    · exact Or.inr ⟨m, hm, hdecl⟩
  · intro h
    unfold fullNameMeaning?
    simp only [Option.isSome_or, Option.isSome_map, Bool.or_eq_true]
    rcases h with hbuiltin | ⟨m, hm, hdecl⟩
    · exact Or.inr (Or.inl hbuiltin)
    · have hfound : (c.findIn m.name name).isSome := by
        rw [findIn_eq_some_iff.mpr ⟨rfl, m, hm, rfl, hdecl⟩]
        rfl
      by_cases hname : m.name = context
      · exact Or.inl (hname ▸ hfound)
      · exact Or.inr (Or.inr (List.findSome?_isSome_iff.mpr ⟨m.name, mem_searchOrder hm hname, hfound⟩))

theorem fullNameMeaning?_eq_none_iff (context : String) :
    c.fullNameMeaning? context name = none ↔ ¬ c.HasFullMeaning name := by
  rw [← isSome_fullNameMeaning?_iff context, Option.not_isSome_iff_eq_none]

/-- A name that is not understood as it is means nothing, or what the rule for simple names finds. -/
theorem resolveName_of_not_hasFullMeaning (h : ¬ c.HasFullMeaning name) (context : String) :
    c.resolveName context name = .unresolved name ∨
      ∃ id, c.findSimple context name = some id ∧ c.resolveName context name = .declared id := by
  rw [resolveName_eq, (fullNameMeaning?_eq_none_iff context).mpr h]
  cases c.findSimple context name with
  | none => exact Or.inl rfl
  | some id => exact Or.inr ⟨id, rfl, rfl⟩

/-! ## The search with a new module -/

section Insert

variable {n : ModuleDecl} (hnew : n.name ∉ c.moduleNames)

include hnew

theorem module?_insert (module : String) :
    (c.insert n).module? module = if module = n.name then some n else c.module? module := by
  have hsplit : (c.insert n).module? module = (c.module? module).or (if n.name = module then some n else none) := by
    rw [module?, modules_insert_of_not_mem hnew, List.find?_append, List.find?_singleton, module?]
    simp
  rw [hsplit]
  by_cases hname : module = n.name
  · subst hname
    rw [mem_moduleNames_iff, Option.not_isSome_iff_eq_none] at hnew
    simp [hnew]
  · simp [hname, Ne.symm hname]

theorem findIn_insert (module name : String) : (c.insert n).findIn module name =
    if module = n.name then (if n.Declares name then some ⟨n.name, name⟩ else none) else c.findIn module name := by
  unfold findIn typeDecl?
  rw [module?_insert hnew]
  by_cases hname : module = n.name
  · subst hname
    have hdecl : (n.type? name).isSome ↔ n.Declares name := isSome_type?_iff
    simp only [if_true, Option.bind_some, hdecl]
  · simp only [if_neg hname]

/-- The search through other modules is as before. -/
theorem findSome?_insert_of_ne {modules : List String} (h : ∀ module ∈ modules, module ≠ n.name) :
    modules.findSome? (fun m => (c.insert n).findIn m name) = modules.findSome? fun m => c.findIn m name := by
  induction modules with
  | nil => rfl
  | cons module modules ih =>
    obtain ⟨hfirst, hrest⟩ := List.forall_mem_cons.mp h
    rw [List.findSome?_cons, List.findSome?_cons, findIn_insert hnew, if_neg hfirst, ih hrest]

section Unrelated

variable (hne : context ≠ n.name)

include hne

theorem references_insert : (c.insert n).references context = c.references context := by
  rw [references, module?_insert hnew, if_neg hne, references]

theorem findSimple_insert : (c.insert n).findSimple context name = c.findSimple context name := by
  rw [findSimple, module?_insert hnew, if_neg hne, findSimple]

variable (hunrelated : n.name ∉ c.references context)

include hunrelated

/-- The new module is searched last. -/
theorem searchOrder_insert : (c.insert n).searchOrder context = c.searchOrder context ++ [n.name] := by
  have hlast : ([n.name].filter fun m => m != context && !(c.references context).contains m) = [n.name] := by
    simp [hne.symm, hunrelated]
  rw [searchOrder, references_insert hnew hne, moduleNames_insert, if_neg hnew, List.filter_append, hlast,
    ← List.append_assoc, searchOrder]

omit hne in
theorem ne_of_mem_searchOrder {module : String} (h : module ∈ c.searchOrder context) : module ≠ n.name := by
  rintro rfl
  unfold searchOrder at h
  rcases List.mem_append.mp h with h | h
  · exact hunrelated h
  · exact hnew (List.mem_filter.mp h).1

theorem findSome?_searchOrder_insert (name : String) :
    ((c.insert n).searchOrder context).findSome? (fun m => (c.insert n).findIn m name) =
      ((c.searchOrder context).findSome? fun m => c.findIn m name).or
        (if n.Declares name then some ⟨n.name, name⟩ else none) := by
  rw [searchOrder_insert hnew hne hunrelated, List.findSome?_append, List.findSome?_singleton,
    findSome?_insert_of_ne hnew fun _ => ne_of_mem_searchOrder hnew hunrelated, findIn_insert hnew, if_pos rfl]

theorem fullNameMeaning?_insert (name : String) : (c.insert n).fullNameMeaning? context name =
    (c.fullNameMeaning? context name).or (if n.Declares name then some (.declared ⟨n.name, name⟩) else none) := by
  unfold fullNameMeaning?
  rw [findSome?_searchOrder_insert hnew hne hunrelated, findIn_insert hnew, if_neg hne, Option.map_or, Option.or_assoc,
    Option.or_assoc]
  by_cases hdecl : n.Declares name
  · rw [if_pos hdecl, if_pos hdecl, Option.map_some]
  · rw [if_neg hdecl, if_neg hdecl, Option.map_none]

theorem resolveName_insert (name : String) : (c.insert n).resolveName context name =
    if ¬ c.HasFullMeaning name ∧ n.Declares name then .declared ⟨n.name, name⟩ else c.resolveName context name := by
  have hfull : (c.fullNameMeaning? context name).isSome ↔ c.HasFullMeaning name :=
    isSome_fullNameMeaning?_iff context
  rw [resolveName_eq, resolveName_eq, fullNameMeaning?_insert hnew hne hunrelated, findSimple_insert hnew hne]
  cases hmeaning : c.fullNameMeaning? context name with
  | some d =>
    rw [hmeaning] at hfull
    rw [Option.some_or, if_neg fun h => h.1 (hfull.mp rfl)]
  | none =>
    have hnot : ¬ c.HasFullMeaning name := by
      intro h
      have := hfull.mpr h
      simp [hmeaning] at this
    rw [Option.none_or]
    by_cases hdecl : n.Declares name
    · rw [if_pos hdecl, if_pos ⟨hnot, hdecl⟩]
      rfl
    · rw [if_neg hdecl, if_neg fun h => hdecl h.2]

end Unrelated

end Insert

/-! ## Lists of modules -/

theorem mem_names_firstOfEachName {ms : List ModuleDecl} {module : String} :
    module ∈ (firstOfEachName ms).map (·.name) ↔ module ∈ ms.map (·.name) := by
  induction ms with
  | nil => rfl
  | cons m ms ih =>
    by_cases hname : module = m.name
    · simp [firstOfEachName, hname]
    · rw [List.map_cons, List.mem_cons, ← ih]
      simp only [firstOfEachName, List.map_cons, List.mem_cons, List.mem_map, List.mem_filter, bne_iff_ne,
        hname, false_or]
      constructor
      · rintro ⟨m', ⟨hm', -⟩, hmodule⟩
        exact ⟨m', hm', hmodule⟩
      · rintro ⟨m', hm', hmodule⟩
        exact ⟨m', ⟨hm', fun heq => hname (hmodule.symm.trans heq)⟩, hmodule⟩

theorem mem_moduleNames_ofModules {ms : List ModuleDecl} {module : String} :
    module ∈ (ofModules ms).moduleNames ↔ module ∈ ms.map (·.name) := by
  rw [moduleNames, modules_ofModules, mem_names_firstOfEachName]

theorem ofModules_append_singleton (ms : List ModuleDecl) (n : ModuleDecl) :
    ofModules (ms ++ [n]) = (ofModules ms).insert n := List.foldl_append ..

/-- **Loading one more module binds no name anew that is understood.** When a module of a new name is appended, and a
loaded module does not refer to it, then built-in names and full names of loaded types, which mean just these, mean
the same in that module. Any other name, which means nothing or is found by the rule for simple names, means the type
of the new module with exactly this full name if there is one, and else what it meant. -/
theorem resolveName_append {ms : List ModuleDecl} {n : ModuleDecl} {context : String}
    (hnew : n.name ∉ ms.map (·.name)) (hloaded : context ∈ ms.map (·.name))
    (hunrelated : n.name ∉ (ofModules ms).references context) (name : String) :
    let c := ofModules ms
    let c' := ofModules (ms ++ [n])
    (c.HasFullMeaning name →
      c'.resolveName context name = c.resolveName context name ∧
      ((∃ b, Builtin.ofName? name = some b ∧ c.resolveName context name = .builtin b) ∨
        ∃ m ∈ c.modules, m.Declares name ∧ c.resolveName context name = .declared ⟨m.name, name⟩)) ∧
    (¬ c.HasFullMeaning name →
      c'.resolveName context name =
        (if n.Declares name then .declared ⟨n.name, name⟩ else c.resolveName context name) ∧
      (c.resolveName context name = .unresolved name ∨
        ∃ id, c.findSimple context name = some id ∧ c.resolveName context name = .declared id)) := by
  intro c c'
  have hne : context ≠ n.name := by
    rintro rfl
    exact hnew hloaded
  rw [← mem_moduleNames_ofModules] at hnew
  have hresolve : c'.resolveName context name = if ¬ c.HasFullMeaning name ∧ n.Declares name
      then .declared ⟨n.name, name⟩ else c.resolveName context name := by
    show (ofModules (ms ++ [n])).resolveName context name = _
    rw [ofModules_append_singleton]
    exact resolveName_insert hnew hne hunrelated name
  constructor
  · intro hfull
    refine ⟨hresolve.trans (if_neg fun h => h.1 hfull), ?_⟩
    obtain ⟨d, hd⟩ := Option.isSome_iff_exists.mp ((isSome_fullNameMeaning?_iff context).mpr hfull)
    rw [resolveName_eq, hd]
    exact exists_of_fullNameMeaning? hd
  · intro hnot
    refine ⟨?_, resolveName_of_not_hasFullMeaning hnot context⟩
    rw [hresolve]
    simp only [hnot, not_false_eq_true, true_and]

/-- A shop, and the library that it refers to. -/
def orderShop : List ModuleDecl :=
  [{ name := "Shop", references := ["Library"], types := [{ name := "Shop.Order" }, { name := "Shop.Item" }] },
    { name := "Library", types := [{ name := "Library.Author" }] }]

/-- A module with a type of the shop's full name, one with a built-in name, and one with a simple name. -/
def homonymModule : ModuleDecl :=
  { name := "Extras", types := [{ name := "Shop.Item" }, { name := "int" }, { name := "Order" }] }

theorem resolveName_append_homonymModule :
    let c := ofModules orderShop
    let c' := ofModules (orderShop ++ [homonymModule])
    homonymModule.name ∉ orderShop.map (·.name) ∧ "Shop" ∈ orderShop.map (·.name) ∧
      homonymModule.name ∉ c.references "Shop" ∧
      c'.resolveName "Shop" "Shop.Item" = .declared ⟨"Shop", "Shop.Item"⟩ ∧
      c'.resolveName "Shop" "int" = .builtin .int32 ∧
      c.resolveName "Shop" "Order" = .declared ⟨"Shop", "Shop.Order"⟩ ∧
      c'.resolveName "Shop" "Order" = .declared ⟨"Extras", "Order"⟩ := by
  intro c c'
  have hnew : homonymModule.name ∉ orderShop.map (·.name) := by decide +kernel
  have hloaded : "Shop" ∈ orderShop.map (·.name) := by decide +kernel
  have hunrelated : homonymModule.name ∉ c.references "Shop" := by decide +kernel
  have hnames := resolveName_append hnew hloaded hunrelated
  have hitem : c.HasFullMeaning "Shop.Item" := by decide +kernel
  have hint : c.HasFullMeaning "int" := by decide +kernel
  have horder : ¬ c.HasFullMeaning "Order" := by decide +kernel
  have hdecl : homonymModule.Declares "Order" := by decide +kernel
  exact ⟨hnew, hloaded, hunrelated, ((hnames "Shop.Item").1 hitem).1, ((hnames "int").1 hint).1, rfl,
    ((hnames "Order").2 horder).1.trans (if_pos hdecl)⟩

end Catalog

end WireTypes
