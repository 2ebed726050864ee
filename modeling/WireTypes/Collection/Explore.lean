/-!
# Exploring a graph

* `Reached next within start a` : steps of `next` inside the set `within` lead from `start` to `a`;
* `explore next within start` : everything that is reached (`mem_explore`), breadth first, each once
  (`nodup_explore`) and in the order in which it is found, the start first (`prefix_explore`);
* `fresh within seen as` : the members of `as` that are found now (`mem_fresh`), each once
  (`nodup_fresh`).

The set `within` bounds the search: what is found is taken from what is unseen of it
(`length_unseen_append`).
-/

namespace WireTypes

variable {α : Type} [DecidableEq α]

/-- What of `within` has not been seen. -/
def unseen (within seen : List α) : List α := within.filter fun a => !seen.contains a

/-- The members of `as` inside `within` that have not been seen, each once, in order. -/
def fresh (within seen as : List α) : List α :=
  (as.filter fun a => !seen.contains a && within.contains a).eraseDups

/-! ## The bound -/

theorem nodup_eraseDups (as : List α) : as.eraseDups.Nodup := by
  match as with
  | [] => simp
  | a :: as =>
    rw [List.eraseDups_cons, List.nodup_cons]
    exact ⟨by simp [List.mem_eraseDups], nodup_eraseDups _⟩
termination_by as.length
decreasing_by exact Nat.lt_succ_of_le (List.length_filter_le _ _)

theorem length_le_of_subset {as bs : List α} (hn : as.Nodup) (h : ∀ a ∈ as, a ∈ bs) :
    as.length ≤ bs.length := by
  induction as generalizing bs with
  | nil => exact Nat.zero_le _
  | cons a as ih =>
    obtain ⟨ha, hn⟩ := List.nodup_cons.1 hn
    have hab := h a List.mem_cons_self
    have hlen := List.length_erase_of_mem hab
    have hpos := List.length_pos_of_mem hab
    have : as.length ≤ (bs.erase a).length := ih hn fun b hb =>
      (List.mem_erase_of_ne (by rintro rfl; exact ha hb)).2 (h b (List.mem_cons_of_mem _ hb))
    simp only [List.length_cons]
    omega

theorem nodup_fresh (within seen as : List α) : (fresh within seen as).Nodup := nodup_eraseDups _

theorem mem_fresh {within seen as : List α} {a : α} :
    a ∈ fresh within seen as ↔ a ∈ as ∧ a ∉ seen ∧ a ∈ within := by
  simp [fresh, List.mem_eraseDups]

theorem mem_unseen {within seen : List α} {a : α} : a ∈ unseen within seen ↔ a ∈ within ∧ a ∉ seen := by
  simp [unseen]

theorem length_unseen_append {within seen new : List α} (hn : new.Nodup)
    (h : ∀ a ∈ new, a ∈ unseen within seen) :
    (unseen within (seen ++ new)).length + new.length ≤ (unseen within seen).length := by
  have hsplit : unseen within (seen ++ new) =
      (unseen within seen).filter fun a => !new.contains a := by
    simp [unseen, List.filter_filter, Bool.and_comm]
  have hlen : ((unseen within seen).filter fun a => new.contains a).length +
      ((unseen within seen).filter fun a => !new.contains a).length =
      (unseen within seen).length := by
    rw [← List.length_append]
    exact (List.filter_append_perm _ _).length_eq
  have : new.length ≤ ((unseen within seen).filter fun a => new.contains a).length :=
    length_le_of_subset hn fun a ha => List.mem_filter.2 ⟨h a ha, by simpa using ha⟩
  rw [hsplit]
  omega

/-! ## The search -/

/-- Visits what is pending, in order, and what it leads to. -/
def exploreFrom (next : α → List α) (within visited : List α) : List α → List α
  | [] => visited
  | a :: pending =>
    exploreFrom next within (visited ++ [a])
      (pending ++ fresh within (visited ++ a :: pending) (next a))
termination_by pending => (unseen within (visited ++ pending)).length + pending.length
decreasing_by
  have := length_unseen_append (nodup_fresh within (visited ++ a :: pending) (next a))
    fun b hb => mem_unseen.2 ((mem_fresh.1 hb).2.symm)
  simp only [List.append_assoc, List.cons_append, List.nil_append, List.length_append,
    List.length_cons] at this ⊢
  omega

/-- Everything that can be reached from `start` by steps of `next` inside `within`, in the order in
which it is found. -/
def explore (next : α → List α) (within start : List α) : List α :=
  exploreFrom next within [] start.eraseDups

/-! ## What is found -/

/-- Steps of `next` inside `within` lead from `start` to a value. -/
inductive Reached (next : α → List α) (within start : List α) : α → Prop
  | start {a : α} : a ∈ start → Reached next within start a
  | step {a b : α} : Reached next within start a → b ∈ next a → b ∈ within →
      Reached next within start b

theorem prefix_exploreFrom (next : α → List α) (within visited pending : List α) :
    visited ++ pending <+: exploreFrom next within visited pending := by
  fun_induction exploreFrom next within visited pending with
  | case1 visited => simp
  | case2 visited a pending ih =>
    refine List.IsPrefix.trans ?_ ih
    rw [← List.append_assoc, List.append_assoc visited]
    exact List.prefix_append _ _

theorem nodup_exploreFrom (next : α → List α) {within visited pending : List α}
    (h : (visited ++ pending).Nodup) : (exploreFrom next within visited pending).Nodup := by
  fun_induction exploreFrom next within visited pending with
  | case1 visited => simpa using h
  | case2 visited a pending ih =>
    refine ih ?_
    rw [← List.append_assoc, List.append_assoc visited, List.singleton_append, List.nodup_append]
    refine ⟨h, nodup_fresh _ _ _, ?_⟩
    rintro b hb c hc rfl
    exact (mem_fresh.1 hc).2.1 hb

/-- What is closed under steps and holds of what has been seen holds of what is found. -/
theorem forall_mem_exploreFrom {next : α → List α} {within : List α} {p : α → Prop}
    (hp : ∀ a, p a → ∀ b ∈ next a, b ∈ within → p b) {visited pending : List α}
    (h : ∀ a ∈ visited ++ pending, p a) : ∀ a ∈ exploreFrom next within visited pending, p a := by
  fun_induction exploreFrom next within visited pending with
  | case1 visited => simpa using h
  | case2 visited a pending ih =>
    refine ih fun b hb => ?_
    rw [← List.append_assoc, List.append_assoc visited, List.mem_append] at hb
    rcases hb with hb | hb
    · exact h b hb
    · obtain ⟨hnext, _, hwithin⟩ := mem_fresh.1 hb
      exact hp a (h a (by simp)) b hnext hwithin

/-- When the steps from what has been visited lead to what has been seen, those from what is found
lead to what is found. -/
theorem closed_exploreFrom {next : α → List α} {within visited pending : List α}
    (h : ∀ a ∈ visited, ∀ b ∈ next a, b ∈ within → b ∈ visited ++ pending) :
    ∀ a ∈ exploreFrom next within visited pending, ∀ b ∈ next a, b ∈ within →
      b ∈ exploreFrom next within visited pending := by
  fun_induction exploreFrom next within visited pending with
  | case1 visited => simpa using h
  | case2 visited a pending ih =>
    refine ih fun c hc b hb hwithin => ?_
    rw [← List.append_assoc, List.append_assoc visited, List.singleton_append, List.mem_append]
    by_cases hseen : b ∈ visited ++ a :: pending
    · exact .inl hseen
    · rcases List.mem_append.1 hc with hc | hc
      · exact absurd (h c hc b hb hwithin) hseen
      · obtain rfl := List.mem_singleton.1 hc
        exact .inr (mem_fresh.2 ⟨hb, hseen, hwithin⟩)

theorem prefix_explore (next : α → List α) (within start : List α) :
    start.eraseDups <+: explore next within start :=
  prefix_exploreFrom next within [] start.eraseDups

theorem nodup_explore (next : α → List α) (within start : List α) :
    (explore next within start).Nodup :=
  nodup_exploreFrom next (nodup_eraseDups start)

/-- Exactly what is reached is found. -/
theorem mem_explore {next : α → List α} {within start : List α} {a : α} :
    a ∈ explore next within start ↔ Reached next within start a := by
  constructor
  · refine forall_mem_exploreFrom (fun a ha b hb hw => .step ha hb hw) (fun a ha => ?_) a
    exact .start (List.mem_eraseDups.1 ha)
  · intro h
    induction h with
    | start h => exact (prefix_explore next within start).subset (List.mem_eraseDups.2 h)
    | step _ hb hw ih => exact closed_exploreFrom (by simp) _ ih _ hb hw

end WireTypes
