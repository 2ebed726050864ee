import WireTypes.Graph.Closure
import WireTypes.Proofs.Catalog.Declared
import WireTypes.Proofs.Catalog.Modules

/-!
# The models that a type leads to

* `mem_models_classify` : the models in a classification are definitions in the descriptor, none of
  them ignored;
* `mem_baseModels`, `mem_discover`, `mem_referredModels`, `mem_subtypes` : what each step of the closure
  finds, whatever lists it goes through;
* `mem_typeIds_of_mem_referredModels`, `mem_typeIds_of_mem_subtypes` : all of it is declared.
-/

namespace WireTypes

namespace Classification

/-- The model that the type is, or is an instance of. -/
def head? : Classification → Option TypeId
  | .model id => some id
  | .constructed id _ => some id
  | _ => none

theorem mem_models_of_head? {t : Classification} {id : TypeId} (h : t.head? = some id) : id ∈ t.models := by
  cases t <;> simp_all [head?, models]

theorem models_collectionOf (t : Classification) : t.collectionOf.models = t.models := by
  cases t <;> simp [collectionOf, models]

end Classification

namespace Catalog

/-! ## Classifications -/

theorem models_classify_array (c : Catalog) (element : Descriptor) :
    (c.classify (.array element)).models = (c.classify element).models := by
  cases element with
  | builtin b => cases b <;> rfl
  | _ => exact Classification.models_collectionOf _

/-- A generic type that no module declares leads to what its arguments lead to, but a map leads nowhere. -/
theorem models_classify_generic (c : Catalog) (name : String) (args : List Descriptor) :
    (c.classify (.generic name args)).models =
      if mapNames.contains (simpleName name) then [] else Classification.modelsOfAll (c.classifyAll args) := by
  rw [classify]
  split
  · rfl
  · rcases c.classifyAll args with _ | ⟨arg, _ | ⟨arg', rest⟩⟩
    · rfl
    · have harg : Classification.modelsOfAll [arg] = arg.models := List.append_nil _
      rw [harg]
      cases sequenceNames.contains (simpleName name) with
      | true => exact arg.models_collectionOf
      | false => rfl
    · rfl

mutual

theorem mem_models_classify {c : Catalog} {id : TypeId} : ∀ d : Descriptor,
    id ∈ (c.classify d).models → id ∈ d.definitions ∧ c.isIgnored id = false
  | .declared a => fun h => by
    rw [classify] at h
    split at h
    · simp [Classification.models] at h
    · rename_i hi
      obtain rfl := List.mem_singleton.mp h
      exact ⟨List.mem_singleton_self _, by simpa using hi⟩
  | .constructed a args => fun h => by
    rw [classify] at h
    split at h
    · simp [Classification.models] at h
    · rename_i hi
      rcases List.mem_cons.mp h with rfl | h
      · exact ⟨List.mem_cons_self, by simpa using hi⟩
      · obtain ⟨hmem, hid⟩ := mem_models_classifyAll args h
        exact ⟨List.mem_cons_of_mem _ hmem, hid⟩
  | .builtin b => fun h => by
    rw [classify] at h
    split at h <;> simp [Classification.models] at h
  | .array element => fun h => mem_models_classify element (c.models_classify_array element ▸ h)
  | .generic name args => fun h => by
    rw [models_classify_generic] at h
    split at h
    · exact absurd h List.not_mem_nil
    · exact mem_models_classifyAll args h
  | .unresolved name => fun h => by simp [classify, Classification.models] at h

theorem mem_models_classifyAll {c : Catalog} {id : TypeId} : ∀ ds : List Descriptor,
    id ∈ Classification.modelsOfAll (c.classifyAll ds) →
      id ∈ Descriptor.definitionsOfAll ds ∧ c.isIgnored id = false
  | [] => fun h => absurd h List.not_mem_nil
  | d :: ds => fun h => by
    rcases List.mem_append.mp h with h | h
    · obtain ⟨hmem, hid⟩ := mem_models_classify d h
      exact ⟨List.mem_append_left _ hmem, hid⟩
    · obtain ⟨hmem, hid⟩ := mem_models_classifyAll ds h
      exact ⟨List.mem_append_right _ hmem, hid⟩

end

/-! ## Bases and members -/

theorem baseClassification?_eq_some_iff {c : Catalog} {id : TypeId} {t : Classification} :
    c.baseClassification? id = some t ↔ ∃ base, c.baseType id = .ok (some base) ∧ c.classify base = t := by
  unfold baseClassification?
  split
  · rename_i base hbase
    simp [hbase]
  · rename_i hnone
    simp only [reduceCtorEq, false_iff, not_exists, not_and]
    exact fun base hbase => absurd hbase (hnone base)

theorem mem_baseModels {c : Catalog} {id m : TypeId} :
    m ∈ c.baseModels id ↔ ∃ base, c.baseType id = .ok (some base) ∧ m ∈ (c.classify base).models := by
  unfold baseModels
  cases h : c.baseClassification? id with
  | none =>
    simp only [Option.elim_none, List.not_mem_nil, false_iff, not_exists, not_and]
    intro base hbase
    rw [baseClassification?_eq_some_iff.mpr ⟨base, hbase, rfl⟩] at h
    cases h
  | some t =>
    obtain ⟨base, hbase, rfl⟩ := baseClassification?_eq_some_iff.mp h
    simp [hbase]

theorem baseModel?_eq_some_iff {c : Catalog} {id m : TypeId} :
    c.baseModel? id = some m ↔ ∃ base, c.baseType id = .ok (some base) ∧ (c.classify base).head? = some m := by
  have hhead : c.baseModel? id = (c.baseClassification? id).bind (·.head?) := by
    unfold baseModel?
    cases c.baseClassification? id with
    | none => rfl
    | some t => cases t <;> rfl
  rw [hhead, Option.bind_eq_some_iff]
  simp [baseClassification?_eq_some_iff]

theorem mem_discover {c : Catalog} {d : Descriptor} {m : TypeId} :
    m ∈ c.discover d ↔
      m ∈ (c.classify d).models ∨ ∃ head, (c.classify d).head? = some head ∧ m ∈ c.baseModels head := by
  unfold discover
  cases h : c.classify d <;> simp [Classification.head?]

theorem mem_referredModels {c : Catalog} {id m : TypeId} :
    m ∈ c.referredModels id ↔
      (∃ properties, c.properties id = .ok properties ∧ ∃ p ∈ properties, m ∈ c.discover p.type) ∨
        m ∈ c.baseModels id := by
  unfold referredModels
  cases h : c.properties id <;> simp [List.mem_flatMap]

theorem mem_typeIds_of_mem_baseModels {c : Catalog} {id m : TypeId} (h : m ∈ c.baseModels id) :
    m ∈ c.typeIds := by
  obtain ⟨base, hbase, hm⟩ := mem_baseModels.mp h
  exact mem_typeIds_of_baseType hbase (mem_models_classify base hm).1

theorem mem_typeIds_of_mem_referredModels {c : Catalog} {id m : TypeId} (h : m ∈ c.referredModels id) :
    m ∈ c.typeIds := by
  rcases mem_referredModels.mp h with ⟨properties, hps, p, hp, hm⟩ | h
  · rcases mem_discover.mp hm with hm | ⟨head, -, hm⟩
    · exact mem_typeIds_of_properties hps hp (mem_models_classify p.type hm).1
    · exact mem_typeIds_of_mem_baseModels hm
  · exact mem_typeIds_of_mem_baseModels h

/-! ## Subtypes -/

theorem mem_subtypes {c : Catalog} {id sub : TypeId} :
    sub ∈ c.subtypes id ↔ ∃ ids, c.typesIn id.module = .ok ids ∧ sub ∈ ids ∧ c.isIgnored sub = false ∧
      id ∈ c.ancestors sub := by
  have hmem : sub ∈ c.subtypes id ↔ (∃ module ∈ c.moduleNames, sub ∈ c.readableTypesIn module) ∧
      c.isIgnored sub = false ∧ sub.module = id.module ∧ id ∈ c.ancestors sub := by
    simp [subtypes, subtypesIn, derivations, List.mem_flatMap, and_assoc]
  rw [hmem]
  constructor
  · rintro ⟨⟨module, -, hread⟩, hi, hmodule, hanc⟩
    obtain rfl : module = id.module := (module_of_mem_readableTypesIn hread).symm.trans hmodule
    obtain ⟨ids, hids, hsub⟩ := mem_readableTypesIn.mp hread
    exact ⟨ids, hids, hsub, hi, hanc⟩
  · rintro ⟨ids, hids, hsub, hi, hanc⟩
    have hread := mem_readableTypesIn.mpr ⟨ids, hids, hsub⟩
    have hmodule := mem_moduleNames_of_mem_readableTypesIn hread
    exact ⟨⟨id.module, hmodule, hread⟩, hi, module_of_mem_readableTypesIn hread, hanc⟩

theorem mem_subtypes_iff_readable {c : Catalog} {id sub : TypeId} : sub ∈ c.subtypes id ↔
    sub ∈ c.readableTypesIn id.module ∧ c.isIgnored sub = false ∧ id ∈ c.ancestors sub := by
  simp only [mem_subtypes, mem_readableTypesIn, ← and_assoc, exists_and_right]

theorem mem_typeIds_of_mem_subtypes {c : Catalog} {id sub : TypeId} (h : sub ∈ c.subtypes id) :
    sub ∈ c.typeIds := by
  obtain ⟨ids, hids, hsub, -, -⟩ := mem_subtypes.mp h
  obtain ⟨m, hm, -, rfl⟩ := typesIn_eq_ok_iff.mp hids
  exact List.mem_flatMap.mpr ⟨m, (module?_eq_some_iff.mp hm).1, hsub⟩

end Catalog

end WireTypes
