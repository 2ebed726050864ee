import Mathlib.Order.Bounds.Basic
import WireTypes.Proofs.Graph.Members

/-!
# The closure is the least closed set

The search for models goes through the derivations of all modules at once, keeps to declared types and
follows the base of every member along with the member. None of this shows in what it finds:

* `Catalog.ClosedOver` : a set that holds the seeds and whatever its members lead to;
* `closedOver_closure`, `closure_subset_of_closedOver` : the closure is such a set and part of any other;
* `closure_isLeast` : so it is the least one, and closing it again changes nothing.
-/

namespace WireTypes.Catalog

/-- A set of types that holds the seeds and all that its members lead to, ignored types left out. -/
structure ClosedOver (c : Catalog) (seeds : ModelSet) (s : Set TypeId) : Prop where
  seeds : ∀ id ∈ seeds, c.isIgnored id = false → id ∈ s
  /-- The types of a member's module that derive from it, when the module can be enumerated. -/
  subtypes : ∀ id ∈ s, ∀ ids, c.typesIn id.module = .ok ids →
    ∀ sub ∈ ids, c.isIgnored sub = false → id ∈ c.ancestors sub → sub ∈ s
  /-- The models in the types of a member's properties, when all of these can be read. -/
  properties : ∀ id ∈ s, ∀ properties, c.properties id = .ok properties →
    ∀ p ∈ properties, ∀ m ∈ (c.classify p.type).models, m ∈ s
  /-- The models in the base of a member, when it can be read. -/
  base : ∀ id ∈ s, ∀ base, c.baseType id = .ok (some base) → ∀ m ∈ (c.classify base).models, m ∈ s

variable {c : Catalog} {seeds : ModelSet}

/-! ## The closure is closed -/

theorem mem_closure_of_mem_seeds {id : TypeId} (h : id ∈ seeds) (hi : c.isIgnored id = false) :
    id ∈ c.closure seeds :=
  mem_closure.mpr (.start (List.mem_filter.mpr ⟨h, by simp [hi]⟩))

theorem mem_closure_of_mem_subtypes {id sub : TypeId} (h : id ∈ c.closure seeds)
    (hsub : sub ∈ c.subtypes id) : sub ∈ c.closure seeds :=
  mem_closure.mpr
    (.step (mem_closure.mp h) (List.mem_append_left _ hsub) (mem_typeIds_of_mem_subtypes hsub))

theorem mem_closure_of_mem_referredModels {id m : TypeId} (h : id ∈ c.closure seeds)
    (hm : m ∈ c.referredModels id) : m ∈ c.closure seeds :=
  mem_closure.mpr
    (.step (mem_closure.mp h) (List.mem_append_right _ hm) (mem_typeIds_of_mem_referredModels hm))

/-- No rule leaves the declared types, so keeping to them costs the closure nothing. -/
theorem closedOver_closure (c : Catalog) (seeds : ModelSet) :
    c.ClosedOver seeds {id | id ∈ c.closure seeds} where
  seeds id h hi := mem_closure_of_mem_seeds h hi
  subtypes id hid ids hids sub hsub hi hanc :=
    mem_closure_of_mem_subtypes hid (mem_subtypes.mpr ⟨ids, hids, hsub, hi, hanc⟩)
  properties id hid properties hps p hp m hm := by
    have : m ∈ c.discover p.type := mem_discover.mpr (Or.inl hm)
    exact mem_closure_of_mem_referredModels hid (mem_referredModels.mpr (Or.inl ⟨properties, hps, p, hp, this⟩))
  base id hid base hbase m hm := by
    have : m ∈ c.baseModels id := mem_baseModels.mpr ⟨base, hbase, hm⟩
    exact mem_closure_of_mem_referredModels hid (mem_referredModels.mpr (Or.inr this))

/-! ## The closure is least -/

theorem ClosedOver.mem_of_mem_baseModels {s : Set TypeId} (hs : c.ClosedOver seeds s) {id m : TypeId}
    (hid : id ∈ s) (h : m ∈ c.baseModels id) : m ∈ s := by
  obtain ⟨base, hbase, hm⟩ := mem_baseModels.mp h
  exact hs.base id hid base hbase m hm

/-- The base of a member that is followed along with the member is one that the member, itself in the
set, leads to. -/
theorem ClosedOver.mem_of_mem_referredModels {s : Set TypeId} (hs : c.ClosedOver seeds s) {id m : TypeId}
    (hid : id ∈ s) (h : m ∈ c.referredModels id) : m ∈ s := by
  rcases mem_referredModels.mp h with ⟨properties, hps, p, hp, hm⟩ | h
  · have hmodels := hs.properties id hid properties hps p hp
    rcases mem_discover.mp hm with hm | ⟨head, hhead, hm⟩
    · exact hmodels m hm
    · have : head ∈ s := hmodels head (Classification.mem_models_of_head? hhead)
      exact hs.mem_of_mem_baseModels this hm
  · exact hs.mem_of_mem_baseModels hid h

theorem closure_subset_of_closedOver {s : Set TypeId} (hs : c.ClosedOver seeds s) {id : TypeId}
    (h : id ∈ c.closure seeds) : id ∈ s := by
  induction mem_closure.mp h with
  | start hstart =>
    obtain ⟨hseed, hi⟩ := List.mem_filter.mp hstart
    exact hs.seeds _ hseed (by simpa using hi)
  | step hreach hnext hwithin ih =>
    -- Both ways to go on from a member are rules of the set.
    have hid := ih (mem_closure.mpr hreach)
    rcases List.mem_append.mp hnext with hsub | hm
    · obtain ⟨ids, hids, hmem, hi, hanc⟩ := mem_subtypes.mp hsub
      exact hs.subtypes _ hid ids hids _ hmem hi hanc
    · exact hs.mem_of_mem_referredModels hid hm

/-! ## Closing again -/

/-- Types that are not ignored lead to types that are not. -/
theorem closedOver_not_ignored (c : Catalog) (seeds : ModelSet) :
    c.ClosedOver seeds {id | c.isIgnored id = false} where
  seeds _ _ hi := hi
  subtypes _ _ _ _ _ _ hi _ := hi
  properties _ _ _ _ p _ _ hm := (mem_models_classify p.type hm).2
  base _ _ base _ _ hm := (mem_models_classify base hm).2

theorem not_isIgnored_of_mem_closure {id : TypeId} (h : id ∈ c.closure seeds) : c.isIgnored id = false :=
  closure_subset_of_closedOver (closedOver_not_ignored c seeds) h

/-- What is closed over some seeds is closed over its own members. -/
theorem ClosedOver.of_subset {s : Set TypeId} (hs : c.ClosedOver seeds s) {seeds' : ModelSet}
    (h : ∀ id ∈ seeds', id ∈ s) : c.ClosedOver seeds' s :=
  { hs with seeds := fun id hid _ => h id hid }

theorem closure_closure (c : Catalog) (seeds : ModelSet) :
    c.closure (c.closure seeds) = c.closure seeds := by
  apply OrderedSet.ext
  intro id
  constructor
  · intro h
    have hclosed := (closedOver_closure c seeds).of_subset fun _ hid => hid
    exact closure_subset_of_closedOver hclosed h
  · intro h
    exact mem_closure_of_mem_seeds h (not_isIgnored_of_mem_closure h)

/-- **The closure is the least closed set over the seeds**, and closing it again changes nothing. -/
theorem closure_isLeast (c : Catalog) (seeds : ModelSet) :
    IsLeast {s : Set TypeId | c.ClosedOver seeds s} {id | id ∈ c.closure seeds} ∧
      c.closure (c.closure seeds) = c.closure seeds := by
  refine ⟨⟨closedOver_closure c seeds, ?_⟩, closure_closure c seeds⟩
  intro s hs id hid
  exact closure_subset_of_closedOver hs hid

end WireTypes.Catalog
