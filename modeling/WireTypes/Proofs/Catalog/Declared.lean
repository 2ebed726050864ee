import Mathlib.Data.List.Forall2
import WireTypes.Catalog.Ancestry

/-!
# References resolve to declared types

Whatever a reference says, the types that its meaning is made of are declared in the catalog.

* `Descriptor.definitions` : the declared types in a descriptor, arguments included;
* `mem_typeIds_of_mem_resolve` : those in the meaning of a reference have a declaration;
* `mem_typeIds_of_baseType`, `mem_typeIds_of_properties` : the same for the base and the members of a type;
* `mem_parents` : what the parents of a type are.
-/

namespace WireTypes

namespace Descriptor

mutual

/-- The declared types in the descriptor, arguments included. -/
def definitions : Descriptor → List TypeId
  | .declared id => [id]
  | .array element => element.definitions
  | .constructed id args => id :: definitionsOfAll args
  | .generic _ args => definitionsOfAll args
  | .builtin _ => []
  | .unresolved _ => []

/-- The declared types in several descriptors. -/
def definitionsOfAll : List Descriptor → List TypeId
  | [] => []
  | arg :: args => arg.definitions ++ definitionsOfAll args

end

theorem mem_definitions_of_definition? {d : Descriptor} {id : TypeId} (h : d.definition? = some id) :
    id ∈ d.definitions := by
  cases d <;> simp_all [definition?, definitions]

end Descriptor

namespace Catalog

/-! ## Names -/

theorem mem_typeIds_of_findIn {c : Catalog} {module name : String} {id : TypeId}
    (h : c.findIn module name = some id) : id ∈ c.typeIds := by
  unfold findIn at h
  split at h
  · rename_i hdecl
    obtain rfl := Option.some.inj h
    exact mem_typeIds_iff.mpr hdecl
  · cases h

theorem mem_typeIds_of_findSimple {c : Catalog} {module name : String} {id : TypeId}
    (h : c.findSimple module name = some id) : id ∈ c.typeIds := by
  unfold findSimple at h
  split at h
  · cases h
  cases hm : c.module? module with
  | none => simp [hm] at h
  | some m =>
    rw [hm] at h
    simp only [Option.elim_some] at h
    split at h
    · rename_i t ht
      obtain rfl := Option.some.inj h
      obtain ⟨hmem, rfl⟩ := module?_eq_some_iff.mp hm
      have : t ∈ m.types := (List.mem_filter.mp (ht ▸ List.mem_singleton_self t)).1
      exact List.mem_flatMap.mpr ⟨m, hmem, List.mem_map.mpr ⟨t, this, rfl⟩⟩
    · cases h

theorem mem_typeIds_of_resolveName {c : Catalog} {context name : String} {id : TypeId}
    (h : c.resolveName context name = .declared id) : id ∈ c.typeIds := by
  unfold resolveName at h
  split at h
  · rename_i hfound
    obtain rfl := Descriptor.declared.inj h
    exact mem_typeIds_of_findIn hfound
  split at h
  · cases h
  split at h
  · rename_i hfound
    obtain rfl := Descriptor.declared.inj h
    obtain ⟨m, -, hm⟩ := List.exists_of_findSome?_eq_some hfound
    exact mem_typeIds_of_findIn hm
  split at h
  · rename_i hfound
    obtain rfl := Descriptor.declared.inj h
    exact mem_typeIds_of_findSimple hfound
  · cases h

/-- A name means a declared type, a built-in one or nothing. -/
theorem definitions_resolveName {c : Catalog} {context name : String} {id : TypeId}
    (h : id ∈ (c.resolveName context name).definitions) : c.resolveName context name = .declared id := by
  revert h
  unfold resolveName
  repeat' split
  all_goals simp [Descriptor.definitions, eq_comm]

theorem mem_typeIds_of_resolveDefinition {c : Catalog} {context name : String} {arity : Nat} {id : TypeId}
    (h : c.resolveDefinition context name arity = some id) : id ∈ c.typeIds := by
  obtain ⟨candidate, -, hc⟩ := List.exists_of_findSome?_eq_some h
  split at hc
  · rename_i hres
    obtain rfl := Option.some.inj hc
    exact mem_typeIds_of_resolveName hres
  · cases hc

/-! ## References -/

mutual

theorem mem_typeIds_of_mem_resolve {c : Catalog} {context : String} {id : TypeId} :
    ∀ t : TypeRef, id ∈ (c.resolve context t).definitions → id ∈ c.typeIds
  | .named name, h => mem_typeIds_of_resolveName (definitions_resolveName h)
  | .array element, h => mem_typeIds_of_mem_resolve element h
  | .generic name args, h => by
    rw [resolve] at h
    split at h
    · rename_i hdef
      rcases List.mem_cons.mp h with rfl | h
      · exact mem_typeIds_of_resolveDefinition hdef
      · exact mem_typeIds_of_mem_resolveAll args h
    · exact mem_typeIds_of_mem_resolveAll args h

theorem mem_typeIds_of_mem_resolveAll {c : Catalog} {context : String} {id : TypeId} :
    ∀ args : List TypeRef, id ∈ Descriptor.definitionsOfAll (c.resolveAll context args) → id ∈ c.typeIds
  | [], h => absurd h List.not_mem_nil
  | arg :: args, h => by
    rcases List.mem_append.mp h with h | h
    · exact mem_typeIds_of_mem_resolve arg h
    · exact mem_typeIds_of_mem_resolveAll args h

end

theorem mem_typeIds_of_resolveText {c : Catalog} {context text : String} {d : Descriptor}
    (hd : c.resolveText context text = .ok d) {id : TypeId} (h : id ∈ d.definitions) : id ∈ c.typeIds := by
  unfold resolveText at hd
  split at hd
  · obtain rfl := Except.ok.inj hd
    exact mem_typeIds_of_mem_resolve _ h
  · cases hd

/-! ## Members -/

theorem mapM_eq_ok_iff {α β ε : Type} {f : α → Except ε β} {as : List α} {bs : List β} :
    as.mapM f = .ok bs ↔ List.Forall₂ (fun a b => f a = .ok b) as bs := by
  induction as generalizing bs with
  | nil => cases bs <;> simp [pure, Except.pure]
  | cons a as ih =>
    rw [List.mapM_cons]
    cases ha : f a with
    | error e => cases bs <;> simp [ha, bind, Except.bind]
    | ok b =>
      cases has : as.mapM f with
      | error e =>
        have hnone : ∀ bs, ¬ List.Forall₂ (fun a b => f a = .ok b) as bs := fun bs h => by
          rw [ih.mpr h] at has
          cases has
        cases bs <;> simp [ha, hnone, bind, Except.bind]
      | ok bs' =>
        cases bs <;> simp [ha, ← ih, has, bind, Except.bind, pure, Except.pure]

theorem exists_of_forall₂ {α β : Type} {r : α → β → Prop} {as : List α} {bs : List β}
    (h : List.Forall₂ r as bs) {b : β} (hb : b ∈ bs) : ∃ a ∈ as, r a b := by
  induction h with
  | nil => exact absurd hb List.not_mem_nil
  | cons hr _ ih =>
    rcases List.mem_cons.mp hb with rfl | hb
    · exact ⟨_, List.mem_cons_self, hr⟩
    · obtain ⟨a, ha, hab⟩ := ih hb
      exact ⟨a, List.mem_cons_of_mem _ ha, hab⟩

theorem typeDecl_eq_ok_iff {c : Catalog} {id : TypeId} {t : TypeDecl} :
    c.typeDecl id = .ok t ↔ c.typeDecl? id = some t := by
  unfold typeDecl
  split <;> simp_all

/-- The base of a type is what its own reference means in its module. -/
theorem baseType_eq_ok_some_iff {c : Catalog} {id : TypeId} {base : Descriptor} :
    c.baseType id = .ok (some base) ↔
      ∃ t text, c.typeDecl? id = some t ∧ t.base = some text ∧ c.resolveText id.module text = .ok base := by
  simp only [← typeDecl_eq_ok_iff]
  unfold baseType
  cases c.typeDecl id with
  | error e => simp [bind, Except.bind]
  | ok t =>
    cases hbase : t.base with
    | none => simp [hbase, bind, Except.bind, pure, Except.pure]
    | some text => cases hres : c.resolveText id.module text <;>
        simp [hbase, hres, bind, Except.bind, pure, Except.pure]

/-- The property with its type resolved. -/
def readProperty (c : Catalog) (context : String) (p : PropertyDecl) : Except CatalogError Property := do
  return ⟨p.name, ← c.resolveText context p.type⟩

theorem readProperty_eq_ok_iff {c : Catalog} {context : String} {p : PropertyDecl} {q : Property} :
    c.readProperty context p = .ok q ↔ q.name = p.name ∧ c.resolveText context p.type = .ok q.type := by
  cases q
  cases hres : c.resolveText context p.type <;>
    simp [readProperty, hres, bind, Except.bind, pure, Except.pure, eq_comm]

/-- The properties of a type keep their names, and their types are what the references mean. -/
theorem properties_eq_ok_iff {c : Catalog} {id : TypeId} {properties : List Property} :
    c.properties id = .ok properties ↔ ∃ t, c.typeDecl? id = some t ∧
      List.Forall₂ (fun p q => q.name = p.name ∧ c.resolveText id.module p.type = .ok q.type)
        t.properties properties := by
  simp only [← typeDecl_eq_ok_iff, ← readProperty_eq_ok_iff, ← mapM_eq_ok_iff]
  unfold Catalog.properties
  cases c.typeDecl id with
  | error e => simp [bind, Except.bind]
  | ok t =>
    show t.properties.mapM (c.readProperty id.module) = .ok properties ↔ _
    simp

theorem mem_typeIds_of_baseType {c : Catalog} {id : TypeId} {base : Descriptor}
    (hbase : c.baseType id = .ok (some base)) {a : TypeId} (h : a ∈ base.definitions) : a ∈ c.typeIds := by
  obtain ⟨_, _, _, _, hres⟩ := baseType_eq_ok_some_iff.mp hbase
  exact mem_typeIds_of_resolveText hres h

theorem mem_typeIds_of_properties {c : Catalog} {id : TypeId} {properties : List Property}
    (hps : c.properties id = .ok properties) {q : Property} (hq : q ∈ properties) {a : TypeId}
    (h : a ∈ q.type.definitions) : a ∈ c.typeIds := by
  obtain ⟨t, -, hall⟩ := properties_eq_ok_iff.mp hps
  obtain ⟨p, -, -, hres⟩ := exists_of_forall₂ hall hq
  exact mem_typeIds_of_resolveText hres h

/-! ## Parents -/

theorem mem_parents {c : Catalog} {id a : TypeId} :
    a ∈ c.parents id ↔ ∃ t, c.typeDecl? id = some t ∧ ∃ text ∈ parentTexts t, ∃ d,
      c.resolveText id.module text = .ok d ∧ d.definition? = some a := by
  unfold parents
  rw [List.mem_filterMap]
  constructor
  · rintro ⟨text, htext, ha⟩
    cases hdecl : c.typeDecl? id with
    | none => simp [hdecl] at htext
    | some t =>
      rw [hdecl, Option.elim_some] at htext
      split at ha
      · rename_i d hres
        exact ⟨t, rfl, text, htext, d, hres, ha⟩
      · cases ha
  · rintro ⟨t, hdecl, text, htext, d, hres, ha⟩
    refine ⟨text, by rwa [hdecl], ?_⟩
    rw [hres]
    exact ha

theorem mem_typeIds_of_mem_parents {c : Catalog} {id a : TypeId} (h : a ∈ c.parents id) : a ∈ c.typeIds := by
  obtain ⟨_, _, _, _, d, hres, ha⟩ := mem_parents.mp h
  exact mem_typeIds_of_resolveText hres (Descriptor.mem_definitions_of_definition? ha)

end Catalog

end WireTypes
