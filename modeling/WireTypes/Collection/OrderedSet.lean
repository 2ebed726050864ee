/-!
# Ordered sets

* `OrderedSet α` : a list in strictly ascending order, so that equal sets are equal values;
* `insert`, `union`, `ofList`, `contains`;
* `mem_insert`, `mem_ofList` : what a set holds after an insertion; `ext` : a set is what it holds.
-/

namespace WireTypes

/-- A finite set, as the list of its members in strictly ascending order. -/
structure OrderedSet (α : Type) [Ord α] where
  toList : List α
  ascending : toList.Pairwise fun a b => compare a b = .lt

namespace OrderedSet

variable {α : Type} [Ord α]

instance : Membership α (OrderedSet α) := ⟨fun s a => a ∈ s.toList⟩

theorem mem_def {s : OrderedSet α} {a : α} : a ∈ s ↔ a ∈ s.toList := Iff.rfl

/-! ## Insertion -/

/-- Inserts `a` into an ascending list, unless it is there. -/
def insertInto (a : α) : List α → List α
  | [] => [a]
  | b :: bs =>
    match compare a b with
    | .lt => a :: b :: bs
    | .eq => b :: bs
    | .gt => b :: insertInto a bs

/-- Whether `a` is in an ascending list. -/
def isIn (a : α) (bs : List α) : Bool := bs.any fun b => compare a b == .eq

theorem forall_mem_insertInto {p : α → Prop} {a : α} {bs : List α} (ha : p a)
    (hbs : ∀ b ∈ bs, p b) : ∀ b ∈ insertInto a bs, p b := by
  induction bs with
  | nil => simpa [insertInto] using ha
  | cons b bs ih =>
    have hb := hbs b List.mem_cons_self
    have htail := fun x hx => hbs x (List.mem_cons_of_mem b hx)
    unfold insertInto
    split
    · exact List.forall_mem_cons.2 ⟨ha, hbs⟩
    · exact hbs
    · exact List.forall_mem_cons.2 ⟨hb, ih htail⟩

theorem ascending_insertInto [Std.TransOrd α] {a : α} {bs : List α}
    (h : bs.Pairwise fun a b => compare a b = .lt) :
    (insertInto a bs).Pairwise fun a b => compare a b = .lt := by
  induction bs with
  | nil => simp [insertInto]
  | cons b bs ih =>
    obtain ⟨hb, hbs⟩ := List.pairwise_cons.1 h
    unfold insertInto
    split
    · rename_i hlt
      refine List.pairwise_cons.2 ⟨List.forall_mem_cons.2 ⟨hlt, fun c hc => ?_⟩, h⟩
      exact Std.TransCmp.lt_trans hlt (hb c hc)
    · exact h
    · rename_i hgt
      have hba : compare b a = .lt := Std.OrientedCmp.lt_of_gt hgt
      exact List.pairwise_cons.2 ⟨forall_mem_insertInto hba hb, ih hbs⟩

/-! ## Sets -/

/-- The set of no members. -/
def empty : OrderedSet α := ⟨[], List.Pairwise.nil⟩

instance : Inhabited (OrderedSet α) := ⟨empty⟩

/-- How many members the set has. -/
def size (s : OrderedSet α) : Nat := s.toList.length

/-- Whether the set has no members. -/
def isEmpty (s : OrderedSet α) : Bool := s.toList.isEmpty

/-- Whether `a` is a member. -/
def contains (s : OrderedSet α) (a : α) : Bool := isIn a s.toList

/-- The set with `a` as a member. -/
def insert [Std.TransOrd α] (s : OrderedSet α) (a : α) : OrderedSet α :=
  ⟨insertInto a s.toList, ascending_insertInto s.ascending⟩

/-- The set with all of `as` as members. -/
def insertMany [Std.TransOrd α] (s : OrderedSet α) (as : List α) : OrderedSet α := as.foldl insert s

/-- The set of the members of a list. -/
def ofList [Std.TransOrd α] (as : List α) : OrderedSet α := empty.insertMany as

/-- The members of both sets. -/
def union [Std.TransOrd α] (s t : OrderedSet α) : OrderedSet α := s.insertMany t.toList

/-- The set without `a`. -/
def erase (s : OrderedSet α) (a : α) : OrderedSet α :=
  ⟨s.toList.filter fun b => compare a b != .eq, s.ascending.filter _⟩

/-! ## Membership -/

theorem not_mem_empty (a : α) : a ∉ (empty : OrderedSet α) := List.not_mem_nil

section Membership

variable [Std.LawfulEqOrd α]

theorem mem_insertInto {a b : α} {bs : List α} : b ∈ insertInto a bs ↔ b = a ∨ b ∈ bs := by
  induction bs with
  | nil => simp [insertInto]
  | cons c bs ih =>
    unfold insertInto
    split
    · simp
    · rename_i heq
      obtain rfl := Std.LawfulEqOrd.eq_of_compare heq
      simp
    · simp [ih, or_left_comm]

theorem contains_iff {s : OrderedSet α} {a : α} : s.contains a = true ↔ a ∈ s := by
  simp only [contains, isIn, List.any_eq_true, beq_iff_eq, mem_def]
  constructor
  · rintro ⟨b, hb, hab⟩
    exact Std.LawfulEqOrd.eq_of_compare hab ▸ hb
  · exact fun h => ⟨a, h, Std.ReflCmp.compare_self⟩

instance (s : OrderedSet α) (a : α) : Decidable (a ∈ s) :=
  decidable_of_iff (s.contains a = true) contains_iff

theorem nodup (s : OrderedSet α) : s.toList.Nodup :=
  s.ascending.imp fun {a b} h hab => by simp [hab, Std.ReflCmp.compare_self] at h

variable [Std.TransOrd α]

@[simp] theorem mem_insert {s : OrderedSet α} {a b : α} : b ∈ s.insert a ↔ b = a ∨ b ∈ s :=
  mem_insertInto

@[simp] theorem mem_insertMany {s : OrderedSet α} {as : List α} {b : α} :
    b ∈ s.insertMany as ↔ b ∈ as ∨ b ∈ s := by
  induction as generalizing s with
  | nil => simp [insertMany]
  | cons a as ih =>
    rw [insertMany, List.foldl_cons, ← insertMany, ih, mem_insert, List.mem_cons]
    exact ⟨fun h => by rcases h with h | h | h <;> simp [h],
      fun h => by rcases h with (h | h) | h <;> simp [h]⟩

@[simp] theorem mem_ofList {as : List α} {b : α} : b ∈ ofList as ↔ b ∈ as := by
  simp [ofList, not_mem_empty]

@[simp] theorem mem_union {s t : OrderedSet α} {a : α} : a ∈ s.union t ↔ a ∈ s ∨ a ∈ t := by
  rw [union, mem_insertMany, ← mem_def, or_comm]

/-- An ascending list has no other order for the same members. -/
theorem eq_of_ascending {as bs : List α} (has : as.Pairwise fun a b => compare a b = .lt)
    (hbs : bs.Pairwise fun a b => compare a b = .lt) (h : ∀ a, a ∈ as ↔ a ∈ bs) : as = bs := by
  induction as generalizing bs with
  | nil => exact (List.eq_nil_iff_forall_not_mem.2 fun b hb => by simpa using (h b).2 hb).symm
  | cons a as ih =>
    cases bs with
    | nil => simpa using (h a).1 List.mem_cons_self
    | cons b bs =>
      obtain ⟨ha, htail⟩ := List.pairwise_cons.1 has
      obtain ⟨hb, htail'⟩ := List.pairwise_cons.1 hbs
      have hself : ∀ x : α, compare x x ≠ .lt := by simp [Std.ReflCmp.compare_self]
      have hab : a = b := by
        rcases List.mem_cons.1 ((h a).1 List.mem_cons_self) with hab | hab
        · exact hab
        rcases List.mem_cons.1 ((h b).2 List.mem_cons_self) with hba | hba
        · exact hba.symm
        exact absurd (Std.TransCmp.lt_trans (ha b hba) (hb a hab)) (hself a)
      subst hab
      refine congrArg (a :: ·) (ih htail htail' fun x => ?_)
      have hx := h x
      simp only [List.mem_cons] at hx
      constructor
      · exact fun hm => (hx.1 (.inr hm)).resolve_left fun he => hself a (he ▸ ha x hm)
      · exact fun hm => (hx.2 (.inr hm)).resolve_left fun he => hself a (he ▸ hb x hm)

/-- A set is what it holds. -/
theorem ext {s t : OrderedSet α} (h : ∀ a, a ∈ s ↔ a ∈ t) : s = t := by
  cases s with
  | mk as has =>
    cases t with
    | mk bs hbs =>
      obtain rfl : as = bs := eq_of_ascending has hbs h
      rfl

end Membership

end OrderedSet

end WireTypes
