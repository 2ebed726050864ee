import Mathlib.Logic.Relation
import Mathlib.Order.Bounds.Basic
import Mathlib.Order.WellFounded
import Mathlib.Data.List.Forall2
import WireTypes.Proofs.Catalog.Declared
import WireTypes.Proofs.Collection.BreadthFirst

/-!
# Ancestors, the nearest first

A type derives from the declared types that its base and its interfaces lead to, directly or through others. A
reference that cannot be read, or that means no declared type, ends its branch, and a type that is met again, the
first one included, is not visited again. So the search comes to an end, also where types derive from each other.

* `Catalog.HasParent`, `mem_parents_iff_hasParent` : a step from a type to its base or to one of its interfaces;
* `Catalog.Generations`, `Catalog.Distance` : types that are some steps away, and the least number of steps to them;
* `Catalog.Visits`, `visits_ancestors` : the search, visit by visit, until nothing is pending;
* `mem_ancestors_iff_transGen`, `exists_distances` : what it finds, and in which order;
* `ancestors_nearest_first` : all of it for the ancestors of any type.
-/

namespace WireTypes

theorem Descriptor.definition?_eq_some_iff {d : Descriptor} {id : TypeId} :
    d.definition? = some id ↔ d = .declared id ∨ ∃ args, d = .constructed id args := by
  cases d <;> simp [definition?]

namespace Catalog

variable {c : Catalog} {id a b : TypeId}

/-! ## Steps to parents -/

/-- The base of the type `a` or one of its interfaces is the declared type `b`, or an instance of it. -/
def HasParent (c : Catalog) (a b : TypeId) : Prop :=
  ∃ t text ref, c.typeDecl? a = some t ∧ (t.base = some text ∨ text ∈ t.interfaces) ∧
    TypeRef.parse text = .ok ref ∧
    (c.resolve a.module ref = .declared b ∨ ∃ args, c.resolve a.module ref = .constructed b args)

theorem resolveText_eq_ok_iff {context text : String} {d : Descriptor} :
    c.resolveText context text = .ok d ↔ ∃ ref, TypeRef.parse text = .ok ref ∧ c.resolve context ref = d := by
  unfold resolveText
  cases TypeRef.parse text <;> simp

theorem mem_parents_iff_hasParent : b ∈ c.parents a ↔ c.HasParent a b := by
  rw [mem_parents]
  constructor
  · intro ⟨t, ht, text, htext, d, hd, hb⟩
    obtain ⟨ref, hparse, rfl⟩ := resolveText_eq_ok_iff.mp hd
    refine ⟨t, text, ref, ht, ?_, hparse, Descriptor.definition?_eq_some_iff.mp hb⟩
    simpa [parentTexts] using htext
  · intro ⟨t, text, ref, ht, htext, hparse, hb⟩
    refine ⟨t, ht, text, ?_, _, resolveText_eq_ok_iff.mpr ⟨ref, hparse, rfl⟩, ?_⟩
    · simpa [parentTexts] using htext
    · exact Descriptor.definition?_eq_some_iff.mpr hb

/-- The type `a` is `n` steps from `id`. -/
inductive Generations (c : Catalog) (id : TypeId) : Nat → TypeId → Prop
  | self : Generations c id 0 id
  | parent {n : Nat} {a b : TypeId} : Generations c id n a → c.HasParent a b → Generations c id (n + 1) b

/-- `n` is the least number of steps from `id` to `a`. -/
def Distance (c : Catalog) (id a : TypeId) (n : Nat) : Prop := IsLeast {k | c.Generations id k a} n

/-- Parents are declared, so that keeping to declared types costs the search nothing. -/
theorem reachedIn_iff_generations {n : Nat} :
    ReachedIn c.parents c.typeIds [id] n a ↔ c.Generations id n a := by
  constructor
  · intro h
    induction h with
    | start ha =>
      obtain rfl := List.mem_singleton.mp ha
      exact .self
    | step _ hb _ ih => exact .parent ih (mem_parents_iff_hasParent.mp hb)
  · intro h
    induction h with
    | self => exact .start (List.mem_singleton_self id)
    | parent _ hb ih =>
      have hparent := mem_parents_iff_hasParent.mpr hb
      exact .step ih hparent (mem_typeIds_of_mem_parents hparent)

theorem reached_iff_reflTransGen :
    Reached c.parents c.typeIds [id] a ↔ Relation.ReflTransGen c.HasParent id a := by
  constructor
  · intro h
    induction h with
    | start ha =>
      obtain rfl := List.mem_singleton.mp ha
      exact .refl
    | step _ hb _ ih => exact .tail ih (mem_parents_iff_hasParent.mp hb)
  · intro h
    induction h with
    | refl => exact .start (List.mem_singleton_self id)
    | tail _ hb ih =>
      have hparent := mem_parents_iff_hasParent.mpr hb
      exact .step ih hparent (mem_typeIds_of_mem_parents hparent)

/-! ## Visits -/

/-- The parents of `a` that are found when it is visited: all but the start and those that have been found. -/
def newParents (c : Catalog) (id a : TypeId) (found : List TypeId) : List TypeId :=
  ((c.parents a).filter fun b => b != id && !found.contains b).eraseDups

/-- A visit to the first type that is pending. States are pairs of what has been found and what is pending. -/
inductive Visits (c : Catalog) (id : TypeId) : List TypeId × List TypeId → List TypeId × List TypeId → Prop
  | visit (found : List TypeId) (a : TypeId) (pending : List TypeId) :
      Visits c id (found, a :: pending) (found ++ c.newParents id a found, pending ++ c.newParents id a found)

/-- To leave out the start by a test is to have seen it from the beginning. -/
theorem newParents_eq_fresh (c : Catalog) (id a : TypeId) (found : List TypeId) :
    c.newParents id a found = fresh c.typeIds (id :: found) (c.parents a) := by
  unfold newParents fresh
  congr 1
  apply List.filter_congr
  intro b hb
  have hdecl := mem_typeIds_of_mem_parents hb
  rw [Bool.eq_iff_iff]
  simp [hdecl]

theorem visits_exploreFrom {visited pending found : List TypeId} (h : visited ++ pending = id :: found) :
    Relation.ReflTransGen (c.Visits id) (found, pending)
      ((exploreFrom c.parents c.typeIds visited pending).tail, []) := by
  fun_induction exploreFrom c.parents c.typeIds visited pending generalizing found with
  | case1 visited =>
    rw [List.append_nil] at h
    rw [h]
    exact .refl
  | case2 visited a pending ih =>
    have hvisit : c.Visits id _ _ := .visit found a pending
    rw [newParents_eq_fresh, ← h] at hvisit
    refine .head hvisit (ih ?_)
    rw [← List.cons_append, ← h]
    simp

/-- The search visits what it finds until nothing is pending, and has found the ancestors then. -/
theorem visits_ancestors (c : Catalog) (id : TypeId) :
    Relation.ReflTransGen (c.Visits id) ([], [id]) (c.ancestors id, []) :=
  visits_exploreFrom (List.nil_append [id])

/-! ## What is found -/

theorem mem_ancestors_iff_transGen : a ∈ c.ancestors id ↔ a ≠ id ∧ Relation.TransGen c.HasParent id a := by
  rw [mem_ancestors, reached_iff_reflTransGen, Relation.reflTransGen_iff_eq_or_transGen]
  apply and_congr_right
  intro hne
  exact or_iff_right hne

theorem mem_typeIds_of_mem_ancestors (h : a ∈ c.ancestors id) : a ∈ c.typeIds := by
  obtain ⟨-, hway⟩ := mem_ancestors_iff_transGen.mp h
  obtain ⟨b, -, hparent⟩ := Relation.TransGen.tail'_iff.mp hway
  exact mem_typeIds_of_mem_parents (mem_parents_iff_hasParent.mpr hparent)

/-- An ancestor of an ancestor is one too, unless it is the type itself. -/
theorem mem_ancestors_trans (ha : a ∈ c.ancestors id) (hb : b ∈ c.ancestors a) (hne : b ≠ id) :
    b ∈ c.ancestors id := by
  have hway := (mem_ancestors_iff_transGen.mp ha).2.trans (mem_ancestors_iff_transGen.mp hb).2
  exact mem_ancestors_iff_transGen.mpr ⟨hne, hway⟩

/-! ## In which order -/

theorem exists_distance (h : a ∈ c.ancestors id) : ∃ n, c.Distance id a n := by
  obtain ⟨n, hn⟩ := reached_iff_exists_reachedIn.mp (mem_ancestors.mp h).2
  have hne : {k | c.Generations id k a}.Nonempty := ⟨n, reachedIn_iff_generations.mp hn⟩
  obtain ⟨k, hk, hleast⟩ := wellFounded_lt.has_min _ hne
  exact ⟨k, hk, fun j hj => Nat.le_of_not_lt (hleast j hj)⟩

theorem Distance.le_of_asNear {m n : Nat} (ha : c.Distance id a m) (hb : c.Distance id b n)
    (h : AsNear c.parents c.typeIds [id] 0 a b) : m ≤ n := by
  obtain ⟨k, hk, hreach⟩ := h n (reachedIn_iff_generations.mpr hb.1)
  have hle : m ≤ k := ha.2 (reachedIn_iff_generations.mp hreach)
  omega

/-- The distances of the ancestors do not decrease. -/
theorem exists_distances (c : Catalog) (id : TypeId) : ∃ distances : List Nat,
    List.Forall₂ (c.Distance id) (c.ancestors id) distances ∧ distances.Pairwise (· ≤ ·) := by
  choose! distance hdistance using fun a (h : a ∈ c.ancestors id) => exists_distance h
  have hnear : (c.ancestors id).Pairwise (AsNear c.parents c.typeIds [id] 0) :=
    (pairwise_explore c.parents c.typeIds [id]).tail
  refine ⟨(c.ancestors id).map distance, ?_, ?_⟩
  · rw [List.forall₂_map_right_iff, List.forall₂_same]
    exact hdistance
  · rw [List.pairwise_map]
    refine hnear.imp_of_mem ?_
    intro a b ha hb h
    exact (hdistance a ha).le_of_asNear (hdistance b hb) h

/-- **Ancestors are found each once, the nearest first.** The search from any type comes to an end, and lists without
repetition just the types other than the start that one or more steps to parents lead to, all of them declared, in the
order of their distance. An ancestor of an ancestor is an ancestor, but no type is its own. -/
theorem ancestors_nearest_first (c : Catalog) (id : TypeId) :
    Relation.ReflTransGen (c.Visits id) ([], [id]) (c.ancestors id, []) ∧
    (c.ancestors id).Nodup ∧
    (∀ a, a ∈ c.ancestors id ↔ (c.typeDecl? a).isSome ∧ a ≠ id ∧ Relation.TransGen c.HasParent id a) ∧
    (∃ distances : List Nat, List.Forall₂ (c.Distance id) (c.ancestors id) distances ∧
      distances.Pairwise (· ≤ ·)) ∧
    ∀ a b, a ∈ c.ancestors id → b ∈ c.ancestors a → (b ∈ c.ancestors id ↔ b ≠ id) := by
  refine ⟨c.visits_ancestors id, c.nodup_ancestors id, ?_, c.exists_distances id, ?_⟩
  · intro a
    rw [← mem_ancestors_iff_transGen, ← mem_typeIds_iff]
    exact ⟨fun h => ⟨mem_typeIds_of_mem_ancestors h, h⟩, fun h => h.2⟩
  · intro a b ha hb
    exact ⟨fun h => (mem_ancestors.mp h).1, mem_ancestors_trans ha hb⟩

end Catalog

end WireTypes
