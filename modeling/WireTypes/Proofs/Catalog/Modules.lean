import Mathlib.Data.List.Forall2
import Mathlib.Data.List.Nodup
import WireTypes.Catalog.Basic

/-!
# The modules of a catalog

* `firstOfEachName`, `modules_ofModules`, `modules_insertMany` : what a catalog holds after modules are put into
  it;
* `forall₂_modules_ofModules` : modules that correspond one by one and under the same names make catalogs whose
  modules do;
* `rel_module?`, `rel_type?`, `module?_of_perm` : the modules of one name correspond then, so do types that correspond
  one by one, and the modules do not depend on the order;
* `typesIn_eq_ok_iff`, `mem_readableTypesIn` : the types of a module that can be enumerated.
-/

namespace WireTypes

theorem ModuleDecl.typeIds_eq (m : ModuleDecl) : m.typeIds = (m.types.map (·.name)).map (⟨m.name, ·⟩) :=
  (List.map_map ..).symm

theorem ModuleDecl.mem_of_type?_eq_some {m : ModuleDecl} {name : String} {t : TypeDecl} (h : m.type? name = some t) :
    t ∈ m.types ∧ t.name = name := by
  rw [type?, List.findRev?_eq_find?_reverse] at h
  exact ⟨List.mem_reverse.mp (List.mem_of_find?_eq_some h), by simpa using List.find?_some h⟩

/-! ## The modules of a list -/

/-- The modules of the list, only the first of each name. -/
def firstOfEachName : List ModuleDecl → List ModuleDecl
  | [] => []
  | m :: ms => m :: (firstOfEachName ms).filter (·.name != m.name)

theorem firstOfEachName_eq_self {ms : List ModuleDecl} (h : (ms.map (·.name)).Nodup) :
    firstOfEachName ms = ms := by
  induction ms with
  | nil => rfl
  | cons m ms ih =>
    obtain ⟨hm, hms⟩ := List.nodup_cons.mp h
    rw [firstOfEachName, ih hms, List.filter_eq_self.mpr fun m' hm' => ?_]
    rw [bne_iff_ne]
    exact fun hname => hm (List.mem_map.mpr ⟨m', hm', hname⟩)

theorem mem_of_mem_firstOfEachName {m : ModuleDecl} {ms : List ModuleDecl} (h : m ∈ firstOfEachName ms) :
    m ∈ ms := by
  induction ms with
  | nil => exact h
  | cons m' ms ih =>
    rcases List.mem_cons.mp h with rfl | h
    · exact List.mem_cons_self
    · exact List.mem_cons_of_mem m' (ih (List.mem_filter.mp h).1)

namespace Catalog

theorem insert_of_mem {c : Catalog} {m : ModuleDecl} (h : m.name ∈ c.moduleNames) : c.insert m = c := dif_pos h

theorem modules_insert_of_not_mem {c : Catalog} {m : ModuleDecl} (h : m.name ∉ c.moduleNames) :
    (c.insert m).modules = c.modules ++ [m] := by
  rw [insert, dif_neg h]

/-- Of the modules that are put into a catalog, those count whose names are not taken, and of these the first of
each name. -/
theorem modules_insertMany (c : Catalog) (ms : List ModuleDecl) : (c.insertMany ms).modules =
    c.modules ++ (firstOfEachName ms).filter fun m => !c.moduleNames.contains m.name := by
  induction ms generalizing c with
  | nil => exact (List.append_nil _).symm
  | cons m ms ih =>
    rw [insertMany, List.foldl_cons, ← insertMany, ih, firstOfEachName]
    by_cases hm : m.name ∈ c.moduleNames
    · rw [insert_of_mem hm, List.filter_cons_of_neg (by simp [hm]), List.filter_filter]
      congr 1
      refine List.filter_congr fun m' _ => ?_
      by_cases hname : m'.name = m.name <;> simp [hname, hm]
    · have hnames : (c.insert m).moduleNames = c.moduleNames ++ [m.name] := by rw [moduleNames_insert, if_neg hm]
      rw [modules_insert_of_not_mem hm, hnames, List.filter_cons_of_pos (by simp [hm]), List.filter_filter,
        List.append_assoc, List.singleton_append]
      congr 2
      refine List.filter_congr fun m' _ => ?_
      by_cases hname : m'.name = m.name <;> simp [hname]

theorem modules_ofModules (ms : List ModuleDecl) : (ofModules ms).modules = firstOfEachName ms := by
  rw [ofModules, modules_insertMany]
  exact List.filter_eq_self.mpr fun _ _ => rfl

theorem modules_insertMany_of_nodup {c : Catalog} {ms : List ModuleDecl} (h : (ms.map (·.name)).Nodup)
    (hnew : ∀ m ∈ ms, m.name ∉ c.moduleNames) : (c.insertMany ms).modules = c.modules ++ ms := by
  rw [modules_insertMany, firstOfEachName_eq_self h, List.filter_eq_self.mpr fun m hm => by simpa using hnew m hm]

end Catalog

/-! ## Modules that correspond -/

theorem rel_cases {α β : Type} {R : α → β → Prop} {a? : Option α} {b? : Option β} (h : Option.Rel R a? b?) :
    (a? = none ∧ b? = none) ∨ ∃ a b, a? = some a ∧ b? = some b ∧ R a b := by
  cases h with
  | none => exact .inl ⟨rfl, rfl⟩
  | @some a b hab => exact .inr ⟨a, b, rfl, rfl, hab⟩

theorem rel_self {α : Type} {R : α → α → Prop} (hR : ∀ a, R a a) (a? : Option α) : Option.Rel R a? a? := by
  cases a? with
  | none => exact .none
  | some a => exact .some (hR a)

theorem rel_imp {α β : Type} {R R' : α → β → Prop} (hR : ∀ a b, R a b → R' a b) {a? : Option α} {b? : Option β}
    (h : Option.Rel R a? b?) : Option.Rel R' a? b? := by
  cases h with
  | none => exact .none
  | some hab => exact .some (hR _ _ hab)

theorem rel_find? {α β : Type} {R : α → β → Prop} {p : α → Bool} {q : β → Bool}
    (hpq : ∀ a b, R a b → p a = q b) {as : List α} {bs : List β} (h : List.Forall₂ R as bs) :
    Option.Rel R (as.find? p) (bs.find? q) := by
  induction h with
  | nil => exact .none
  | @cons a b as bs hab _ ih =>
    rw [List.find?_cons, List.find?_cons, ← hpq a b hab]
    cases p a with
    | true => exact .some hab
    | false => exact ih

theorem map_eq_of_forall₂ {α β γ : Type} {R : α → β → Prop} {f : α → γ} {g : β → γ}
    (hfg : ∀ a b, R a b → g b = f a) {as : List α} {bs : List β} (h : List.Forall₂ R as bs) :
    bs.map g = as.map f := by
  induction h with
  | nil => rfl
  | cons hab _ ih => rw [List.map_cons, List.map_cons, hfg _ _ hab, ih]

namespace Catalog

variable {R : ModuleDecl → ModuleDecl → Prop} {c c' : Catalog}

theorem moduleNames_of_forall₂ (hname : ∀ m m', R m m' → m'.name = m.name)
    (h : List.Forall₂ R c.modules c'.modules) : c'.moduleNames = c.moduleNames := map_eq_of_forall₂ hname h

theorem forall₂_modules_insert (hname : ∀ m m', R m m' → m'.name = m.name)
    (h : List.Forall₂ R c.modules c'.modules) {m m' : ModuleDecl} (hm : R m m') :
    List.Forall₂ R (c.insert m).modules (c'.insert m').modules := by
  have hnames := moduleNames_of_forall₂ hname h
  by_cases hmem : m.name ∈ c.moduleNames
  · have hmem' : m'.name ∈ c'.moduleNames := by rwa [hname m m' hm, hnames]
    rwa [insert_of_mem hmem, insert_of_mem hmem']
  · have hmem' : m'.name ∉ c'.moduleNames := by rwa [hname m m' hm, hnames]
    rw [modules_insert_of_not_mem hmem, modules_insert_of_not_mem hmem']
    exact List.rel_append h (.cons hm .nil)

/-- Names decide which modules are loaded, so that those that are still correspond. -/
theorem forall₂_modules_ofModules (hname : ∀ m m', R m m' → m'.name = m.name) {ms ms' : List ModuleDecl}
    (h : List.Forall₂ R ms ms') : List.Forall₂ R (ofModules ms).modules (ofModules ms').modules := by
  have hmany : ∀ c c' : Catalog, List.Forall₂ R c.modules c'.modules →
      List.Forall₂ R (c.insertMany ms).modules (c'.insertMany ms').modules := by
    induction h with
    | nil => exact fun _ _ hc => hc
    | cons hm _ ih => exact fun c c' hc => ih _ _ (forall₂_modules_insert hname hc hm)
  exact hmany empty empty .nil

theorem rel_module? (hname : ∀ m m', R m m' → m'.name = m.name) (h : List.Forall₂ R c.modules c'.modules)
    (module : String) : Option.Rel R (c.module? module) (c'.module? module) := by
  refine rel_find? (fun m m' hm => ?_) h
  rw [hname m m' hm]

theorem rel_type? {R : TypeDecl → TypeDecl → Prop} (hname : ∀ t t', R t t' → t'.name = t.name) {m m' : ModuleDecl}
    (h : List.Forall₂ R m.types m'.types) (name : String) : Option.Rel R (m.type? name) (m'.type? name) := by
  unfold ModuleDecl.type?
  rw [List.findRev?_eq_find?_reverse, List.findRev?_eq_find?_reverse]
  refine rel_find? (fun t t' ht => ?_) (List.rel_reverse h)
  rw [hname t t' ht]

theorem mem_moduleNames_iff {module : String} : module ∈ c.moduleNames ↔ (c.module? module).isSome := by
  simp [moduleNames, module?]

theorem mem_typeIds_iff_module? {id : TypeId} :
    id ∈ c.typeIds ↔ ∃ m, c.module? id.module = some m ∧ id ∈ m.typeIds := by
  simp only [typeIds, List.mem_flatMap, module?_eq_some_iff]
  constructor
  · rintro ⟨m, hm, hid⟩
    obtain ⟨t, -, rfl⟩ := List.mem_map.mp hid
    exact ⟨m, ⟨hm, rfl⟩, hid⟩
  · rintro ⟨m, ⟨hm, -⟩, hid⟩
    exact ⟨m, hm, hid⟩

theorem module?_of_perm (h : c'.modules.Perm c.modules) (module : String) :
    c'.module? module = c.module? module := by
  apply Option.ext
  intro m
  rw [module?_eq_some_iff, module?_eq_some_iff, h.mem_iff]

/-! ## Types that can be enumerated -/

theorem mem_readableTypesIn {module : String} {id : TypeId} :
    id ∈ c.readableTypesIn module ↔ ∃ ids, c.typesIn module = .ok ids ∧ id ∈ ids := by
  unfold readableTypesIn
  cases c.typesIn module <;> simp

/-- The types of a module that can be enumerated are those that it declares. -/
theorem typesIn_eq_ok_iff {module : String} {ids : List TypeId} :
    c.typesIn module = .ok ids ↔
      ∃ m, c.module? module = some m ∧ m.missing c.moduleNames = [] ∧ m.typeIds = ids := by
  unfold typesIn
  cases c.module? module with
  | none => simp
  | some m => cases h : m.missing c.moduleNames <;> simp [h]

theorem mem_moduleNames_of_mem_readableTypesIn {module : String} {id : TypeId}
    (h : id ∈ c.readableTypesIn module) : module ∈ c.moduleNames := by
  obtain ⟨ids, hids, -⟩ := mem_readableTypesIn.mp h
  obtain ⟨m, hm, -, -⟩ := typesIn_eq_ok_iff.mp hids
  obtain ⟨hmem, hname⟩ := module?_eq_some_iff.mp hm
  exact List.mem_map.mpr ⟨m, hmem, hname⟩

end Catalog

end WireTypes
