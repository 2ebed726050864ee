import Mathlib.Data.List.TakeWhile
import WireTypes.Proofs.Output.Naming

/-!
# Final sigmas and what follows them

A capital sigma goes to the final small one where it ends a word. Whether it does depends on what follows it, so that
the lowercase of a text may change at its end when something is written behind it: an extension goes on with a word
that only characters without case separate from it. All other characters stay as they were.

* `sigma_of_mem_lowerChar` : small sigmas are the lowercase of sigmas only;
* `startsCased_append_of_forall`, `startsCased_append_of_exists` : case skips over a text if it ignores all of it;
* `ClosesWord` : a text ends in a capital sigma that ends its word;
* `lowerAfter_append_extension`, `ClosesWord.exists_lowerAfter` : the lowercase in front of an extension;
* `SigmaTwins`, `toLower_append_eq_iff` : the texts that differ up to case and no longer do with an extension.
-/

namespace WireTypes.Text

/-! ## Sigmas -/

/-- The small sigma that ends a word. -/
def finalSigma : Char := Char.ofNat 0x3c2

/-- The small sigma inside a word. -/
def innerSigma : Char := Char.ofNat 0x3c3

/-- Whether `c` is a small sigma. -/
def IsSmallSigma (c : Char) : Prop := c = finalSigma ∨ c = innerSigma

theorem IsSmallSigma.toNat {c : Char} (h : IsSmallSigma c) : c.toNat = 0x3c2 ∨ c.toNat = 0x3c3 := by
  rcases h with rfl | rfl
  · exact Or.inl (by decide)
  · exact Or.inr (by decide)

/-- A code point that stands for no character gives the one with the code point zero. -/
theorem toNat_ofNat_of_ne_zero {c : Char} {n : Nat} (h : c = Char.ofNat n) (hc : c.toNat ≠ 0) : c.toNat = n := by
  by_cases hvalid : n.isValidChar
  · have hchar : Char.ofNat n = Char.ofNatAux n hvalid := dif_pos hvalid
    rw [h, hchar]
    rfl
  · have hzero : Char.ofNat n = '\x00' := dif_neg hvalid
    rw [h, hzero] at hc
    exact absurd rfl hc

theorem toNat_toLower_lt {c : Char} (h : c.toNat < 0x80) : c.toLower.toNat < 0x80 := by
  have hall : ∀ n < 0x80, (Char.ofNat n).toLower.toNat < 0x80 := by decide
  simpa [Char.ofNat_toNat] using hall c.toNat h

/-- Of the runs of the lowercase mapping, the one of the capital sigma alone leads to small sigmas. -/
theorem lowerSteps_sigma : ∀ entry ∈ lowerSteps,
    0x3c3 < entry.2.2.2 ∨ entry.2.2.2 + (entry.2.1 - entry.1) < 0x3c2 ∨ entry = (0x3a3, 0x3ab, 1, 0x3c3) := by
  decide +kernel

theorem sigma_of_mem_lowerChar {c x : Char} (h : x ∈ lowerChar c) (hx : IsSmallSigma x) :
    c = capitalSigma ∨ IsSmallSigma c := by
  have hnat := hx.toNat
  unfold lowerChar at h
  split at h
  · rename_i hlt
    have := toNat_toLower_lt hlt
    rw [List.mem_singleton.mp h] at hnat
    omega
  split at h
  · rcases List.mem_pair.mp h with rfl | rfl <;> exact absurd hnat (by decide)
  split at h
  · rename_i first last step image hfind
    obtain ⟨⟨hfirst, hlast⟩, -⟩ : (first ≤ c.toNat ∧ c.toNat ≤ last) ∧ _ := by
      simpa using List.find?_some hfind
    have himage : image + (c.toNat - first) = x.toNat :=
      (toNat_ofNat_of_ne_zero (List.mem_singleton.mp h) (by omega)).symm
    rcases lowerSteps_sigma _ (List.mem_of_find?_eq_some hfind) with himg | himg | heq
    · simp only at himg
      omega
    · simp only at himg
      omega
    · simp only [Prod.mk.injEq] at heq
      have hc : c.toNat = 0x3a3 := by omega
      exact Or.inl (by rw [← Char.ofNat_toNat c, hc]; rfl)
  · exact Or.inr (List.mem_singleton.mp h ▸ hx)

theorem not_isSmallSigma_of_ignorable {c x : Char} (hc : isCaseIgnorable c = true) (hx : x ∈ lowerChar c) :
    ¬IsSmallSigma x := by
  intro hsigma
  rcases sigma_of_mem_lowerChar hx hsigma with rfl | rfl | rfl <;> exact absurd hc (by decide +kernel)

theorem ne_capitalSigma_of_ignorable {c : Char} (hc : isCaseIgnorable c = true) : c ≠ capitalSigma := by
  rintro rfl
  exact absurd hc (by decide +kernel)

/-! ## What case skips over -/

theorem startsCased_append_of_forall {cs : List Char} (h : ∀ c ∈ cs, isCaseIgnorable c = true) (ds : List Char) :
    startsCased (cs ++ ds) = startsCased ds := by
  rw [startsCased, List.dropWhile_append_of_pos h, startsCased]

theorem startsCased_append_of_exists {cs : List Char} (h : ∃ c ∈ cs, isCaseIgnorable c = false) (ds : List Char) :
    startsCased (cs ++ ds) = startsCased cs := by
  have hdrop : cs.dropWhile isCaseIgnorable ≠ [] := by
    obtain ⟨c, hc, hfalse⟩ := h
    intro hnil
    rw [List.dropWhile_eq_nil_iff] at hnil
    rw [hnil c hc] at hfalse
    cases hfalse
  obtain ⟨c, rest, hrest⟩ := List.exists_cons_of_ne_nil hdrop
  rw [startsCased, List.dropWhile_append, hrest, startsCased, hrest]
  rfl

/-- Characters that case ignores are lowered one by one. -/
theorem lowerAfter_ignorable_append (before : List Char) {cs : List Char} (h : ∀ c ∈ cs, isCaseIgnorable c = true)
    (ds : List Char) :
    lowerAfter before (cs ++ ds) = cs.flatMap lowerChar ++ lowerAfter (cs.reverse ++ before) ds := by
  induction cs generalizing before with
  | nil => rfl
  | cons c cs ih =>
    obtain ⟨hc, hcs⟩ := List.forall_mem_cons.mp h
    rw [List.cons_append, lowerAfter, if_neg (ne_capitalSigma_of_ignorable hc), ih _ hcs]
    simp

/-! ## Extensions -/

/-- The text, which comes after `before` (read backwards), ends in a capital sigma that ends its word: characters that
case ignores are all that follows it. -/
def ClosesWord (before cs : List Char) : Prop :=
  ∃ word after, cs = word ++ capitalSigma :: after ∧ (∀ c ∈ after, isCaseIgnorable c = true) ∧
    startsCased (word.reverse ++ before) = true

theorem closesWord_cons {before cs : List Char} {c : Char} (h : ClosesWord (c :: before) cs) :
    ClosesWord before (c :: cs) := by
  obtain ⟨word, after, rfl, hafter, hword⟩ := h
  exact ⟨c :: word, after, rfl, hafter, by simpa using hword⟩

section Extension

/-! An extension is in lowercase, and goes on with a word that characters without case alone separate from it. -/

variable {ext : List Char} (hlow : ∀ c ∈ ext, c.toNat < 0x80 ∧ c.toLower = c)
include hlow

/-- A text whose words end without a capital sigma keeps its lowercase. -/
theorem lowerAfter_append_extension {before cs : List Char} (h : ¬ClosesWord before cs) :
    lowerAfter before (cs ++ ext) = lowerAfter before cs ++ ext := by
  induction cs generalizing before with
  | nil => exact lowerAfter_of_ascii before hlow
  | cons c cs ih =>
    rw [List.cons_append, lowerAfter, lowerAfter, ih fun hrest => h (closesWord_cons hrest), List.append_assoc]
    split
    · rename_i hsigma
      have hends : endsWord before (cs ++ ext) = endsWord before cs := by
        rw [endsWord, endsWord]
        cases hbefore : startsCased before with
        | false => rfl
        | true =>
          -- The sigma has a word before it, and does not end it.
          have hexists : ∃ d ∈ cs, isCaseIgnorable d = false := by
            by_contra hnone
            refine h ⟨[], cs, by rw [hsigma]; rfl, fun d hd => ?_, hbefore⟩
            by_contra hd'
            exact hnone ⟨d, hd, by simpa using hd'⟩
          rw [startsCased_append_of_exists hexists]
      rw [hends]
    · rfl

/-- The sigma that ends the text is no final one in front of an extension. It is the last one. -/
theorem ClosesWord.exists_lowerAfter (hcased : startsCased ext = true) {before cs : List Char}
    (h : ClosesWord before cs) : ∃ low tail, lowerAfter before cs = low ++ finalSigma :: tail ∧
      lowerAfter before (cs ++ ext) = low ++ innerSigma :: tail ++ ext ∧ ∀ c ∈ tail, ¬IsSmallSigma c := by
  obtain ⟨word, after, rfl, hafter, hword⟩ := h
  induction word generalizing before with
  | nil =>
    have hplain : endsWord before after = true := by
      have hend := startsCased_append_of_forall hafter []
      rw [List.append_nil] at hend
      rw [endsWord, hend, show startsCased before = true from hword]
      rfl
    have hext : endsWord before (after ++ ext) = false := by
      rw [endsWord, startsCased_append_of_forall hafter, hcased, Bool.not_true, Bool.and_false]
    have htail : ∀ x ∈ after.flatMap lowerChar, ¬IsSmallSigma x := by
      intro x hx
      obtain ⟨c, hc, hx⟩ := List.mem_flatMap.mp hx
      exact not_isSmallSigma_of_ignorable (hafter c hc) hx
    have hafterLow : lowerAfter (capitalSigma :: before) after = after.flatMap lowerChar := by
      have happend := lowerAfter_ignorable_append (capitalSigma :: before) hafter []
      rwa [List.append_nil, lowerAfter, List.append_nil] at happend
    refine ⟨[], after.flatMap lowerChar, ?_, ?_, htail⟩
    · rw [List.nil_append, lowerAfter, if_pos rfl, hplain, hafterLow]
      rfl
    · rw [List.nil_append, List.cons_append, lowerAfter, if_pos rfl, hext, lowerAfter_ignorable_append _ hafter,
        lowerAfter_of_ascii _ hlow]
      rfl
  | cons c word ih =>
    have hword' : startsCased (word.reverse ++ c :: before) = true := by simpa using hword
    obtain ⟨low, tail, hplain, hext, hfree⟩ := ih hword'
    -- The capital sigma comes after all others, and so decides for them alike.
    have hends : endsWord before (word ++ capitalSigma :: after ++ ext) =
        endsWord before (word ++ capitalSigma :: after) := by
      rw [endsWord, endsWord, startsCased_append_of_exists ⟨capitalSigma, by simp, by decide +kernel⟩]
    rw [List.cons_append, List.cons_append, lowerAfter, lowerAfter, hplain, hext, hends]
    exact ⟨_ ++ low, tail, (List.append_assoc ..).symm, by simp only [List.append_assoc], hfree⟩

end Extension

/-! ## Texts with an extension -/

/-- The texts are the same up to case but for their last small sigma. In the first text it is final and stands for a
capital sigma, and in the second it is not final. -/
structure SigmaTwins (s t : String) : Prop where
  capital : ClosesWord [] s.toList
  lowercase : ∃ low tail, (toLower s).toList = low ++ finalSigma :: tail ∧
    (toLower t).toList = low ++ innerSigma :: tail ∧ ∀ c ∈ tail, ¬IsSmallSigma c

theorem isSmallSigma_final : IsSmallSigma finalSigma := Or.inl rfl

theorem isSmallSigma_inner : IsSmallSigma innerSigma := Or.inr rfl

theorem SigmaTwins.toLower_ne {s t : String} (h : SigmaTwins s t) : toLower s ≠ toLower t := by
  intro heq
  obtain ⟨low, tail, hs, ht, hfree⟩ := h.lowercase
  rw [heq, ht] at hs
  have hsigma := (eq_of_last_eq isSmallSigma_inner isSmallSigma_final hfree hfree hs).2.1
  exact absurd hsigma (by decide)

section Extension

variable {ext : String} (hlow : ∀ c ∈ ext.toList, c.toNat < 0x80 ∧ c.toLower = c)
  (hcased : startsCased ext.toList = true) {s t : String}

include hlow

theorem toLower_append_of_not_closesWord (h : ¬ClosesWord [] s.toList) : toLower (s ++ ext) = toLower s ++ ext := by
  rw [toLower, String.toList_append, lowerAfter_append_extension hlow h, String.ofList_append, String.ofList_toList,
    toLower]

include hcased

theorem toLower_append_of_closesWord (h : ClosesWord [] s.toList) : ∃ low tail,
    (toLower s).toList = low ++ finalSigma :: tail ∧
      toLower (s ++ ext) = String.ofList (low ++ innerSigma :: tail) ++ ext ∧ ∀ c ∈ tail, ¬IsSmallSigma c := by
  obtain ⟨low, tail, hplain, hext, hfree⟩ := h.exists_lowerAfter hlow hcased
  refine ⟨low, tail, String.toList_ofList.trans hplain, ?_, hfree⟩
  rw [toLower, String.toList_append, hext, String.ofList_append, String.ofList_toList]

theorem SigmaTwins.not_closesWord (h : SigmaTwins s t) : ¬ClosesWord [] t.toList := by
  intro ht
  obtain ⟨low, tail, -, htwin, hfree⟩ := h.lowercase
  obtain ⟨low', tail', hplain, -, hfree'⟩ := toLower_append_of_closesWord hlow hcased ht
  rw [htwin] at hplain
  have hsigma := (eq_of_last_eq isSmallSigma_inner isSmallSigma_final hfree hfree' hplain).2.1
  exact absurd hsigma (by decide)

theorem toLower_eq_of_closesWord (hs : ClosesWord [] s.toList) (ht : ClosesWord [] t.toList)
    (h : toLower (s ++ ext) = toLower (t ++ ext)) : toLower s = toLower t := by
  obtain ⟨low, tail, hplain, hext, hfree⟩ := toLower_append_of_closesWord hlow hcased hs
  obtain ⟨low', tail', hplain', hext', hfree'⟩ := toLower_append_of_closesWord hlow hcased ht
  rw [hext, hext', String.append_left_inj, String.ofList_inj] at h
  obtain ⟨rfl, -, rfl⟩ := eq_of_last_eq isSmallSigma_inner isSmallSigma_inner hfree hfree' h
  exact String.toList_injective (hplain.trans hplain'.symm)

theorem toLower_append_eq_iff_of_closesWord (hs : ClosesWord [] s.toList) (ht : ¬ClosesWord [] t.toList) :
    toLower (s ++ ext) = toLower (t ++ ext) ↔ SigmaTwins s t := by
  obtain ⟨low, tail, hplain, hext, hfree⟩ := toLower_append_of_closesWord hlow hcased hs
  rw [hext, toLower_append_of_not_closesWord hlow ht, String.append_left_inj]
  constructor
  · intro h
    exact ⟨hs, low, tail, hplain, by rw [← h, String.toList_ofList], hfree⟩
  · rintro ⟨-, low', tail', hplain', htwin, hfree'⟩
    rw [hplain] at hplain'
    obtain ⟨rfl, -, rfl⟩ := eq_of_last_eq isSmallSigma_final isSmallSigma_final hfree hfree' hplain'
    rw [← htwin, String.ofList_toList]

/-- An extension makes texts equal up to case that are not so without it only if they differ in a final sigma. -/
theorem toLower_append_eq_iff (hne : toLower s ≠ toLower t) :
    toLower (s ++ ext) = toLower (t ++ ext) ↔ SigmaTwins s t ∨ SigmaTwins t s := by
  by_cases hs : ClosesWord [] s.toList <;> by_cases ht : ClosesWord [] t.toList
  · refine iff_of_false (fun h => hne (toLower_eq_of_closesWord hlow hcased hs ht h)) ?_
    rintro (h | h)
    · exact h.not_closesWord hlow hcased ht
    · exact h.not_closesWord hlow hcased hs
  · rw [toLower_append_eq_iff_of_closesWord hlow hcased hs ht]
    exact (or_iff_left fun h => ht h.capital).symm
  · rw [eq_comm, toLower_append_eq_iff_of_closesWord hlow hcased ht hs]
    exact (or_iff_right fun h => hs h.capital).symm
  · rw [toLower_append_of_not_closesWord hlow hs, toLower_append_of_not_closesWord hlow ht, String.append_left_inj]
    exact iff_of_false hne (by rintro (h | h); exacts [hs h.capital, ht h.capital])

end Extension

end WireTypes.Text
