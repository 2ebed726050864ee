import Mathlib.Data.List.DropRight
import Mathlib.Data.List.TakeWhile
import WireTypes.TypeRef.Basic

/-!
# Segments and arities of names

A name is its qualifier followed by its last segment, and is cut at its first arity mark. The cut reaches the last
segment alone only if the qualifier has no mark.

* `toList_stripArity`, `takeWhile_ne_arityMark_append` : the cut, character by character;
* `qualifier`, `segmentCount` : what stands before the last segment of a name, and the number of its segments;
* `lastSegment_append`, `lastSegment_qualifier_append` : the last segment of a longer name;
* `stripArity_of_unmarked`, `segmentCount_stripArity_lt` : the cut behind the qualifier, and the one inside it;
* `stripArity_keeps_iff` : the names that keep their segments.
-/

namespace WireTypes

/-! ## The cut -/

theorem toList_stripArity (name : String) :
    (stripArity name).toList = name.toList.takeWhile (· != arityMark) := String.toList_ofList

theorem takeWhile_ne_arityMark_append {as : List Char} (h : arityMark ∉ as) (bs : List Char) :
    (as ++ bs).takeWhile (· != arityMark) = as ++ bs.takeWhile (· != arityMark) := by
  refine List.takeWhile_append_of_pos fun c hc => ?_
  rw [bne_iff_ne]
  rintro rfl
  exact h hc

theorem stripArity_of_not_mem {name : String} (h : arityMark ∉ name.toList) : stripArity name = name := by
  apply String.toList_injective
  rw [toList_stripArity, ← List.append_nil name.toList, takeWhile_ne_arityMark_append h, List.takeWhile_nil]

theorem arityMark_not_mem_stripArity (name : String) : arityMark ∉ (stripArity name).toList := by
  rw [toList_stripArity]
  intro h
  simpa using List.mem_takeWhile_imp h

theorem stripArity_append_arityMark {name : String} (h : arityMark ∉ name.toList) (s : String) :
    stripArity (name ++ "`" ++ s) = name := by
  have hmark : "`".toList = [arityMark] := by decide
  apply String.toList_injective
  rw [toList_stripArity, String.toList_append, String.toList_append, hmark, List.append_assoc,
    takeWhile_ne_arityMark_append h]
  simp

theorem arityMark_mem_definitionName (name : String) (arity : Nat) :
    arityMark ∈ (name ++ "`" ++ toString arity).toList := by
  have hmark : arityMark ∈ "`".toList := by decide
  rw [String.toList_append, String.toList_append, List.mem_append, List.mem_append]
  exact Or.inl (Or.inr hmark)

/-! ## Segments -/

/-- What stands before the last segment, the segment break included. -/
def qualifier (name : String) : String := String.ofList (name.toList.rdropWhile fun c => !isSegmentBreak c)

/-- How many segments the name has. -/
def segmentCount (name : String) : Nat := name.toList.countP isSegmentBreak + 1

theorem toList_lastSegment (name : String) :
    (lastSegment name).toList = name.toList.rtakeWhile fun c => !isSegmentBreak c := String.toList_ofList

theorem qualifier_append_lastSegment (name : String) :
    (qualifier name).toList ++ (lastSegment name).toList = name.toList := by
  rw [qualifier, String.toList_ofList, toList_lastSegment, List.rdropWhile_append_rtakeWhile]

theorem rdropWhile_qualifier (name : String) :
    (qualifier name).toList.rdropWhile (fun c => !isSegmentBreak c) = (qualifier name).toList := by
  rw [qualifier, String.toList_ofList, List.rdropWhile_idempotent]

/-- The last segment holds no segment break. -/
theorem isSegmentBreak_of_mem_lastSegment {name : String} {c : Char} (h : c ∈ (lastSegment name).toList) :
    isSegmentBreak c = false := by
  rw [toList_lastSegment] at h
  simpa using List.mem_rtakeWhile_imp h

/-- What follows the qualifier is the last segment, also when another one takes its place. -/
theorem lastSegment_qualifier_append {name s : String} (h : ∀ c ∈ s.toList, isSegmentBreak c = false) :
    lastSegment (qualifier name ++ s) = s := by
  have hend : (qualifier name).toList.rtakeWhile (fun c => !isSegmentBreak c) = [] := by
    have happend := List.rdropWhile_append_rtakeWhile (p := fun c => !isSegmentBreak c) (l := (qualifier name).toList)
    rw [rdropWhile_qualifier] at happend
    exact List.append_right_eq_self.mp happend
  have hall : ∀ c ∈ s.toList.reverse, (!isSegmentBreak c) = true := fun c hc => by simp [h c (List.mem_reverse.mp hc)]
  rw [List.rtakeWhile, List.reverse_eq_nil_iff] at hend
  apply String.toList_injective
  rw [toList_lastSegment, String.toList_append, List.rtakeWhile, List.reverse_append,
    List.takeWhile_append_of_pos hall, hend, List.append_nil, List.reverse_reverse]

theorem lastSegment_append (name : String) {s : String} (h : ∀ c ∈ s.toList, isSegmentBreak c = false) :
    lastSegment (name ++ s) = lastSegment name ++ s := by
  have hname : qualifier name ++ (lastSegment name ++ s) = name ++ s := by
    apply String.toList_injective
    simp only [String.toList_append, ← qualifier_append_lastSegment name, List.append_assoc]
  rw [← hname]
  refine lastSegment_qualifier_append fun c hc => ?_
  rw [String.toList_append, List.mem_append] at hc
  exact hc.elim isSegmentBreak_of_mem_lastSegment (h c)

/-! ## Names that keep their segments -/

theorem stripArity_of_unmarked {name : String} (h : arityMark ∉ (qualifier name).toList) :
    stripArity name = qualifier name ++ simpleName name := by
  apply String.toList_injective
  rw [toList_stripArity, ← qualifier_append_lastSegment, takeWhile_ne_arityMark_append h, String.toList_append,
    simpleName, toList_stripArity]

/-- The qualifier ends in a segment break, and so in one behind each arity that it holds. -/
theorem exists_isSegmentBreak_of_qualifier {name : String} {as bs : List Char}
    (h : (qualifier name).toList = as ++ arityMark :: bs) : ∃ c ∈ bs, isSegmentBreak c = true := by
  have hne : as ++ arityMark :: bs ≠ [] := by simp
  have hself := rdropWhile_qualifier name
  rw [h, List.rdropWhile_eq_self_iff] at hself
  have hbreak : isSegmentBreak ((as ++ arityMark :: bs).getLast hne) = true := by simpa using hself hne
  rw [List.getLast_append_of_ne_nil hne (List.cons_ne_nil _ _)] at hbreak
  rcases List.mem_cons.mp (List.getLast_mem (List.cons_ne_nil arityMark bs)) with hmark | hmem
  · rw [hmark] at hbreak
    exact absurd hbreak (by decide)
  · exact ⟨_, hmem, hbreak⟩

theorem segmentCount_stripArity_lt {name : String} (h : arityMark ∈ (qualifier name).toList) :
    segmentCount (stripArity name) < segmentCount name := by
  obtain ⟨as, bs, hqualifier, has⟩ := List.eq_append_cons_of_mem h
  have hname : name.toList = as ++ arityMark :: (bs ++ (lastSegment name).toList) := by
    rw [← qualifier_append_lastSegment, hqualifier, List.append_assoc, List.cons_append]
  have hstrip : (stripArity name).toList = as := by
    rw [toList_stripArity, hname, takeWhile_ne_arityMark_append has, List.takeWhile_cons_of_neg (by simp),
      List.append_nil]
  have hpos : 0 < bs.countP isSegmentBreak :=
    List.countP_pos_iff.mpr (exists_isSegmentBreak_of_qualifier hqualifier)
  rw [segmentCount, segmentCount, hstrip, hname, List.countP_append, List.countP_cons, List.countP_append]
  omega

theorem isSegmentBreak_of_mem_simpleName {name : String} {c : Char} (h : c ∈ (simpleName name).toList) :
    isSegmentBreak c = false := by
  rw [simpleName, toList_stripArity] at h
  exact isSegmentBreak_of_mem_lastSegment ((List.takeWhile_prefix _).subset h)

theorem segmentCount_qualifier_append {name s : String} (h : ∀ c ∈ s.toList, isSegmentBreak c = false) :
    segmentCount (qualifier name ++ s) = segmentCount name := by
  have hzero : ∀ cs : List Char, (∀ c ∈ cs, isSegmentBreak c = false) → cs.countP isSegmentBreak = 0 := fun cs hcs =>
    List.countP_eq_zero.mpr fun c hc => by simp [hcs c hc]
  rw [segmentCount, segmentCount, ← qualifier_append_lastSegment name, String.toList_append, List.countP_append,
    List.countP_append, hzero _ h, hzero _ fun c hc => isSegmentBreak_of_mem_lastSegment hc]

theorem simpleName_qualifier_append_simpleName (name : String) :
    simpleName (qualifier name ++ simpleName name) = simpleName name := by
  have hlast : lastSegment (qualifier name ++ simpleName name) = simpleName name :=
    lastSegment_qualifier_append fun c hc => isSegmentBreak_of_mem_simpleName hc
  rw [simpleName, hlast]
  exact stripArity_of_not_mem (arityMark_not_mem_stripArity (lastSegment name))

/-- The cut keeps the segments and the simple name exactly where there is no arity before the last segment. -/
theorem stripArity_keeps_iff (name : String) :
    segmentCount (stripArity name) = segmentCount name ∧ simpleName (stripArity name) = simpleName name ↔
      arityMark ∉ (qualifier name).toList := by
  constructor
  · rintro ⟨hcount, -⟩ hmark
    exact absurd hcount (segmentCount_stripArity_lt hmark).ne
  · intro h
    rw [stripArity_of_unmarked h]
    exact ⟨segmentCount_qualifier_append fun c hc => isSegmentBreak_of_mem_simpleName hc,
      simpleName_qualifier_append_simpleName name⟩

end WireTypes
