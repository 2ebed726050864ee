import WireTypes.Collection.Explore

/-!
# The order of exploring

What is near is found before what is far. When a value is visited, everything that is pending is as near or one step
farther, and what is found now is exactly one step farther. So the search lists values by the least number of steps
that lead to them.

* `ReachedIn`, `reached_iff_exists_reachedIn` : what a number of steps leads to;
* `AsNear` : values that are as near as others, up to some steps;
* `Frontier`, `Frontier.step` : what holds of the visited and the pending values, and that a visit preserves it;
* `pairwise_explore` : what is found earlier is as near as what is found later.
-/

namespace WireTypes

variable {α : Type} {next : α → List α} {within start : List α}

/-! ## Steps -/

/-- `n` steps of `next` inside `within` lead from `start` to a value. -/
inductive ReachedIn (next : α → List α) (within start : List α) : Nat → α → Prop
  | start {a : α} : a ∈ start → ReachedIn next within start 0 a
  | step {n : Nat} {a b : α} : ReachedIn next within start n a → b ∈ next a → b ∈ within →
      ReachedIn next within start (n + 1) b

theorem reached_iff_exists_reachedIn {a : α} :
    Reached next within start a ↔ ∃ n, ReachedIn next within start n a := by
  constructor
  · intro h
    induction h with
    | start ha => exact ⟨0, .start ha⟩
    | step _ hb hin ih =>
      obtain ⟨n, hn⟩ := ih
      exact ⟨n + 1, .step hn hb hin⟩
  · intro ⟨n, h⟩
    induction h with
    | start ha => exact .start ha
    | step _ hb hin ih => exact .step ih hb hin

/-- Up to `k` more steps lead to `a` than to `b`. -/
def AsNear (next : α → List α) (within start : List α) (k : Nat) (a b : α) : Prop :=
  ∀ n, ReachedIn next within start n b → ∃ m ≤ n + k, ReachedIn next within start m a

theorem AsNear.refl (a : α) (k : Nat) : AsNear next within start k a a :=
  fun n h => ⟨n, Nat.le_add_right n k, h⟩

theorem AsNear.trans {a b d : α} {j k : Nat} (h : AsNear next within start j a b)
    (h' : AsNear next within start k b d) : AsNear next within start (j + k) a d := by
  intro n hn
  obtain ⟨m, hm, hb⟩ := h' n hn
  obtain ⟨l, hl, ha⟩ := h m hb
  exact ⟨l, by omega, ha⟩

theorem AsNear.mono {a b : α} {j k : Nat} (hjk : j ≤ k) (h : AsNear next within start j a b) :
    AsNear next within start k a b := by
  intro n hn
  obtain ⟨m, hm, ha⟩ := h n hn
  exact ⟨m, by omega, ha⟩

/-! ## A visit -/

/-- The values are in order, those that are pending differ by one step at most, and the steps from those that have
been visited have been taken. -/
structure Frontier (next : α → List α) (within start visited pending : List α) : Prop where
  ordered : (visited ++ pending).Pairwise (AsNear next within start 0)
  narrow : ∀ a ∈ pending, ∀ b ∈ pending, AsNear next within start 1 b a
  starts : ∀ a ∈ start, a ∈ visited ++ pending
  closed : ∀ a ∈ visited, ∀ b ∈ next a, b ∈ within → b ∈ visited ++ pending

namespace Frontier

variable {visited pending : List α}

/-- The way to a value that has not been seen goes through one that is pending. -/
theorem exists_pending (h : Frontier next within start visited pending) {n : Nat} {b : α}
    (hb : ReachedIn next within start n b) :
    b ∈ visited ++ pending ∨ ∃ k < n, ∃ a ∈ pending, ReachedIn next within start k a := by
  induction hb with
  | start ha => exact Or.inl (h.starts _ ha)
  | @step n a b ha hb hin ih =>
    rcases ih with hseen | ⟨k, hk, x, hx, hreach⟩
    · rcases List.mem_append.mp hseen with hvisited | hpending
      · exact Or.inl (h.closed a hvisited b hb hin)
      · exact Or.inr ⟨n, Nat.lt_succ_self n, a, hpending, ha⟩
    · exact Or.inr ⟨k, Nat.lt_succ_of_lt hk, x, hx, hreach⟩

section Visit

variable {a : α} (h : Frontier next within start visited (a :: pending))

include h

/-- The next value to visit is the nearest of those that are pending. -/
theorem asNear_head {x : α} (hx : x ∈ a :: pending) : AsNear next within start 0 a x := by
  rcases List.mem_cons.mp hx with rfl | hx
  · exact AsNear.refl x 0
  · exact (List.pairwise_cons.mp (List.pairwise_append.mp h.ordered).2.1).1 x hx

/-- What has been seen is one step farther at most. -/
theorem asNear_of_seen {x : α} (hx : x ∈ visited ++ a :: pending) : AsNear next within start 1 x a := by
  rcases List.mem_append.mp hx with hx | hx
  · have hbefore := (List.pairwise_append.mp h.ordered).2.2 x hx a List.mem_cons_self
    exact hbefore.mono (Nat.zero_le 1)
  · exact h.narrow a List.mem_cons_self x hx

variable [DecidableEq α]

/-- What is found now is one step farther at least. -/
theorem lt_of_fresh {b : α} (hb : b ∈ fresh within (visited ++ a :: pending) (next a)) {n : Nat}
    (hn : ReachedIn next within start n b) : ∃ k < n, ReachedIn next within start k a := by
  rcases h.exists_pending hn with hseen | ⟨k, hk, x, hx, hreach⟩
  · exact absurd hseen (mem_fresh.mp hb).2.1
  · obtain ⟨m, hm, ha⟩ := h.asNear_head hx k hreach
    exact ⟨m, by omega, ha⟩

omit h in
/-- What is found now is one step farther at most. -/
theorem asNear_of_fresh {seen : List α} {b : α} (hb : b ∈ fresh within seen (next a)) :
    AsNear next within start 1 b a := by
  intro n hn
  obtain ⟨hnext, -, hin⟩ := mem_fresh.mp hb
  exact ⟨n + 1, Nat.le_refl _, .step hn hnext hin⟩

/-- What was found one step from `a` at most is as near as what is found now. -/
theorem asNear_fresh {x b : α} (hx : AsNear next within start 1 x a)
    (hb : b ∈ fresh within (visited ++ a :: pending) (next a)) : AsNear next within start 0 x b := by
  intro n hn
  obtain ⟨k, hk, ha⟩ := h.lt_of_fresh hb hn
  obtain ⟨m, hm, hreach⟩ := hx k ha
  exact ⟨m, by omega, hreach⟩

/-- A visit preserves the frontier. -/
theorem step : Frontier next within start (visited ++ [a])
    (pending ++ fresh within (visited ++ a :: pending) (next a)) := by
  have hsplit : visited ++ [a] ++ (pending ++ fresh within (visited ++ a :: pending) (next a)) =
      (visited ++ a :: pending) ++ fresh within (visited ++ a :: pending) (next a) := by simp
  constructor
  case ordered =>
    rw [hsplit, List.pairwise_append]
    refine ⟨h.ordered, (nodup_fresh _ _ _).imp_of_mem ?_, ?_⟩
    · intro x b hx hb _
      exact h.asNear_fresh (asNear_of_fresh hx) hb
    · intro x hx b hb
      exact h.asNear_fresh (h.asNear_of_seen hx) hb
  case narrow =>
    intro x hx y hy
    -- Both are compared with the value that is visited.
    have hfar : AsNear next within start 1 y a := by
      rcases List.mem_append.mp hy with hy | hy
      · exact h.narrow a List.mem_cons_self y (List.mem_cons_of_mem a hy)
      · exact asNear_of_fresh hy
    have hnear : AsNear next within start 0 a x := by
      rcases List.mem_append.mp hx with hx | hx
      · exact h.asNear_head (List.mem_cons_of_mem a hx)
      · exact h.asNear_fresh (AsNear.refl a 1) hx
    exact hfar.trans hnear
  case starts =>
    intro x hx
    rw [hsplit]
    exact List.mem_append_left _ (h.starts x hx)
  case closed =>
    intro x hx b hb hin
    rw [hsplit]
    by_cases hseen : b ∈ visited ++ a :: pending
    · exact List.mem_append_left _ hseen
    · rcases List.mem_append.mp hx with hx | hx
      · exact absurd (h.closed x hx b hb hin) hseen
      · obtain rfl := List.mem_singleton.mp hx
        exact List.mem_append_right _ (mem_fresh.mpr ⟨hb, hseen, hin⟩)

end Visit

end Frontier

/-! ## The search -/

variable [DecidableEq α]

theorem pairwise_exploreFrom {visited pending : List α} (h : Frontier next within start visited pending) :
    (exploreFrom next within visited pending).Pairwise (AsNear next within start 0) := by
  fun_induction exploreFrom next within visited pending with
  | case1 visited => simpa using h.ordered
  | case2 visited a pending ih => exact ih h.step

/-- What is found earlier is as near as what is found later. -/
theorem pairwise_explore (next : α → List α) (within start : List α) :
    (explore next within start).Pairwise (AsNear next within start 0) := by
  have hzero : ∀ a ∈ start.eraseDups, ReachedIn next within start 0 a := by
    intro a ha
    exact .start (List.mem_eraseDups.mp ha)
  apply pairwise_exploreFrom
  constructor
  case ordered =>
    refine (nodup_eraseDups start).imp_of_mem ?_
    intro a b ha _ _ n _
    exact ⟨0, Nat.zero_le _, hzero a ha⟩
  case narrow =>
    intro _ _ b hb n _
    exact ⟨0, Nat.zero_le _, hzero b hb⟩
  case starts => exact fun a ha => List.mem_eraseDups.mpr ha
  case closed => exact fun a ha => absurd ha List.not_mem_nil

end WireTypes
