import Mathlib.Data.List.DropRight
import WireTypes.Text.Blank

/-!
# Slashes at the ends of texts

* `dropTail_append`, `exists_eq_dropTail_append`, `trimOf_append_append` : texts without the characters at their ends;
* `slashes`, `AllSlashes` : texts of slashes alone;
* `exists_slashes_trimEndOf`, `exists_slashes_trimOf` : a text is what is left of it between slashes.
-/

namespace WireTypes

/-! ## Texts without their ends -/

namespace Text

variable {p : Char → Bool}

theorem dropTail_append {cs tail : List Char} (h : ∀ c ∈ tail, p c = true) :
    dropTail p (cs ++ tail) = dropTail p cs := by
  have hreverse : ∀ c ∈ tail.reverse, p c = true := fun c hc => h c (List.mem_reverse.mp hc)
  rw [dropTail, List.reverse_append, List.dropWhile_append_of_pos hreverse, dropTail]

theorem exists_eq_dropTail_append (p : Char → Bool) (cs : List Char) :
    ∃ tail, cs = dropTail p cs ++ tail ∧ ∀ c ∈ tail, p c = true :=
  ⟨cs.rtakeWhile p, (List.rdropWhile_append_rtakeWhile).symm, fun _ => List.mem_rtakeWhile_imp⟩

theorem eq_false_of_getLast?_dropTail {cs : List Char} {c : Char} (h : c ∈ (dropTail p cs).getLast?) :
    p c = false := by
  obtain ⟨hne, rfl⟩ := List.mem_getLast?_eq_getLast h
  exact Bool.eq_false_iff.mpr (List.rdropWhile_last_not p cs hne)

theorem eq_false_of_head?_dropTail_dropWhile {cs : List Char} {c : Char}
    (h : c ∈ (dropTail p (cs.dropWhile p)).head?) : p c = false := by
  obtain ⟨tail, hcs, -⟩ := exists_eq_dropTail_append p (cs.dropWhile p)
  have hhead : (cs.dropWhile p).head? = some c := by
    rw [hcs, List.head?_append, Option.mem_def.mp h]
    rfl
  have hnot := List.head?_dropWhile_not p cs
  rwa [hhead] at hnot

/-- Characters that are taken off make no difference. -/
theorem trimOf_append_append {lead tail : String} (hlead : ∀ c ∈ lead.toList, p c = true)
    (htail : ∀ c ∈ tail.toList, p c = true) (s : String) : trimOf p (lead ++ s ++ tail) = trimOf p s := by
  rw [trimOf, String.toList_append, String.toList_append, List.append_assoc, List.dropWhile_append_of_pos hlead,
    List.dropWhile_append, trimOf]
  split
  · -- Nothing is left of `s`.
    rename_i hnil
    rw [List.dropWhile_eq_nil_iff.mpr htail, List.isEmpty_iff.mp hnil]
  · rw [dropTail_append htail]

end Text

/-! ## Slashes -/

def slashes (n : Nat) : String := String.ofList (List.replicate n '/')

/-- Nothing but slashes, or nothing at all. -/
def AllSlashes (s : String) : Prop := ∀ c ∈ s.toList, c = '/'

theorem allSlashes_slashes (n : Nat) : AllSlashes (slashes n) := by
  intro c hc
  rw [slashes, String.toList_ofList] at hc
  exact List.eq_of_mem_replicate hc

theorem AllSlashes.exists_slashes {s : String} (h : AllSlashes s) : ∃ n, s = slashes n :=
  ⟨s.toList.length, by rw [slashes, ← List.eq_replicate_of_mem h, String.ofList_toList]⟩

theorem slashes_succ (n : Nat) : slashes (n + 1) = slashes n ++ "/" := by
  rw [slashes, List.replicate_succ', String.ofList_append]
  rfl

theorem allSlashes_append {s s' : String} : AllSlashes (s ++ s') ↔ AllSlashes s ∧ AllSlashes s' := by
  simp only [AllSlashes, String.toList_append, List.forall_mem_append]

theorem exists_slashes_trimEndOf (s : String) : ∃ n, s = Text.trimEndOf (· = '/') s ++ slashes n := by
  obtain ⟨tail, hchars, htail⟩ := Text.exists_eq_dropTail_append (· = '/') s.toList
  have hslashes : AllSlashes (String.ofList tail) := by simpa [AllSlashes] using htail
  obtain ⟨n, hn⟩ := hslashes.exists_slashes
  refine ⟨n, ?_⟩
  rw [← hn, Text.trimEndOf, ← String.ofList_append, ← hchars, String.ofList_toList]

theorem exists_slashes_trimOf (s : String) : ∃ i j, s = slashes i ++ Text.trimOf (· = '/') s ++ slashes j := by
  obtain ⟨tail, hchars, htail⟩ := Text.exists_eq_dropTail_append (· = '/') (s.toList.dropWhile (· = '/'))
  have hlead : AllSlashes (String.ofList (s.toList.takeWhile (· = '/'))) := by
    intro c hc
    rw [String.toList_ofList] at hc
    simpa using List.mem_takeWhile_imp hc
  have htrail : AllSlashes (String.ofList tail) := by simpa [AllSlashes] using htail
  obtain ⟨i, hi⟩ := hlead.exists_slashes
  obtain ⟨j, hj⟩ := htrail.exists_slashes
  refine ⟨i, j, ?_⟩
  rw [← hi, ← hj, Text.trimOf, String.append_assoc, ← String.ofList_append, ← hchars, ← String.ofList_append,
    List.takeWhile_append_dropWhile, String.ofList_toList]

end WireTypes
