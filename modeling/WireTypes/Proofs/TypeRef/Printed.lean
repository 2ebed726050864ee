import WireTypes.Proofs.TypeRef.Generic
import WireTypes.Proofs.TypeRef.Rejected

/-!
# What is read can be written

A reference that has been read is written with the names that it was read with, those of generic types cut at their
arity. Where the arity is all that there is of the last segment, the cut leaves no name of the type behind, and what
is written is no reference: its bracket does not follow a name, as all brackets of references do.

* `TypeRef.GenericsNamed` : every generic type in the reference has a simple name;
* `isQualified_stripArity`, `Reference.wellFormed_tree` : under this condition, what is read can be written;
* `Bracketed`, `Phrase.bracketed` : in a reference, brackets open behind names only;
* `holds_toText`, `genericsNamed_of_bracketed` : this holds of what is written only under the condition;
* `TypeRef.parse_toText_iff` : what has been read is read back exactly if it meets the condition, and never as another
  reference.
-/

namespace WireTypes

/-! ## Names without a last segment -/

theorem lastSegment_eq_empty_iff {name : String} :
    lastSegment name = "" ↔ ∀ c ∈ name.toList.getLast?, isSegmentBreak c = true := by
  rw [← String.toList_inj, toList_lastSegment, String.toList_empty, List.rtakeWhile_eq_nil_iff]
  rcases List.eq_nil_or_concat name.toList with hnil | ⟨init, c, hconcat⟩
  · simp [hnil]
  · simp [hconcat]

theorem simpleName_eq_empty_iff {name : String} (h : arityMark ∉ name.toList) :
    simpleName name = "" ↔ ∀ c ∈ name.toList.getLast?, isSegmentBreak c = true := by
  have hlast : arityMark ∉ (lastSegment name).toList := fun hmem =>
    h (qualifier_append_lastSegment name ▸ List.mem_append_right _ hmem)
  rw [simpleName, stripArity_of_not_mem hlast, lastSegment_eq_empty_iff]

namespace Grammar

open TypeRef

/-! ## Names cut at their arity -/

/-- The cut leaves a name, or nothing of its last segment. -/
def CutsToName (q : QualifiedName) : Prop :=
  (∃ q' : QualifiedName, q'.chars = q.chars.takeWhile (· != arityMark)) ∨
    ∀ c ∈ (q.chars.takeWhile (· != arityMark)).getLast?, isSegmentBreak c = true

/-- An arity in the first segment cuts it to a segment, or to nothing. -/
theorem cutsToName_of_mem {first : Identifier} (h : arityMark ∈ first.chars) (more : List (Joint × Identifier)) :
    CutsToName ⟨first, more⟩ := by
  obtain ⟨as, bs, hchars, has⟩ := List.eq_append_cons_of_mem h
  have hcut : (QualifiedName.chars ⟨first, more⟩).takeWhile (· != arityMark) = as := by
    rw [QualifiedName.chars, hchars, List.append_assoc, takeWhile_ne_arityMark_append has, List.cons_append,
      List.takeWhile_cons_of_neg (by simp), List.append_nil]
  rw [CutsToName, hcut]
  by_cases hne : as = []
  · exact Or.inr (by simp [hne])
  · have hall : ∀ c ∈ as, isNameChar c = true := fun c hc =>
      first.all_name c (hchars ▸ List.mem_append_left _ hc)
    exact Or.inl ⟨⟨⟨as, hne, hall⟩, []⟩, List.append_nil as⟩

theorem cutsToName (q : QualifiedName) : CutsToName q := by
  obtain ⟨first, more⟩ := q
  induction more generalizing first with
  | nil =>
    by_cases hmark : arityMark ∈ first.chars
    · exact cutsToName_of_mem hmark []
    · exact Or.inl ⟨⟨first, []⟩, (takeWhile_ne_arityMark_append hmark []).symm⟩
  | cons s more ih =>
    obtain ⟨joint, segment⟩ := s
    by_cases hmark : arityMark ∈ first.chars
    · exact cutsToName_of_mem hmark _
    have hjoint : (joint.char != arityMark) = true := by cases joint <;> decide
    have hcut : (QualifiedName.chars ⟨first, (joint, segment) :: more⟩).takeWhile (· != arityMark) =
        first.chars ++ joint.char :: (QualifiedName.chars ⟨segment, more⟩).takeWhile (· != arityMark) := by
      show (first.chars ++ joint.char :: QualifiedName.chars ⟨segment, more⟩).takeWhile _ = _
      rw [takeWhile_ne_arityMark_append hmark, List.takeWhile_cons, if_pos hjoint]
    rw [CutsToName, hcut]
    rcases ih segment with ⟨⟨first', more'⟩, hq'⟩ | hbreak
    · refine Or.inl ⟨⟨first, (joint, first') :: more'⟩, ?_⟩
      rw [← hq']
      rfl
    · -- The joint comes last if nothing is left behind it.
      refine Or.inr fun c hc => ?_
      rw [List.getLast?_append, List.getLast?_cons, Option.some_or, Option.mem_some_iff] at hc
      cases hlast : ((QualifiedName.chars ⟨segment, more⟩).takeWhile (· != arityMark)).getLast? with
      | none =>
        rw [← hc, hlast]
        exact joint.isSegmentBreak_char
      | some d =>
        rw [← hc, hlast]
        exact hbreak d hlast

theorem isQualified_stripArity {q : QualifiedName} (h : simpleName (stripArity q.text) ≠ "") :
    IsQualified (stripArity q.text) := by
  have hchars : (stripArity q.text).toList = q.chars.takeWhile (· != arityMark) := by
    rw [toList_stripArity, q.toList_text]
  rcases cutsToName q with ⟨q', hq'⟩ | hbreak
  · exact ⟨q', String.toList_injective (by rw [q'.toList_text, hq', hchars])⟩
  · rw [Ne, simpleName_eq_empty_iff (arityMark_not_mem_stripArity _), hchars] at h
    exact absurd hbreak h

end Grammar

namespace TypeRef

open Grammar

/-- Every generic type in the reference has a simple name. -/
def GenericsNamed (t : TypeRef) : Prop := ∀ name args, .generic name args ∈ t.parts → WireTypes.simpleName name ≠ ""

theorem parts_subset_foldl_apply (t : TypeRef) (suffixes : List Suffix) :
    t.parts ⊆ (suffixes.foldl Suffix.apply t).parts := by
  induction suffixes generalizing t with
  | nil => exact List.Subset.refl _
  | cons s suffixes ih =>
    have happly : t.parts ⊆ (s.apply t).parts := by
      cases s <;> simp [Suffix.apply, parts, partsOfAll]
    exact List.Subset.trans happly (ih _)

theorem isQualified_nullableName : IsQualified nullableName := isQualified_of_readName (by decide +kernel)

theorem WellFormed.foldl_apply {t : TypeRef} (h : t.WellFormed) (suffixes : List Suffix) :
    (suffixes.foldl Suffix.apply t).WellFormed := by
  induction suffixes generalizing t with
  | nil => exact h
  | cons s suffixes ih =>
    refine ih ?_
    cases s with
    | array => exact .array h
    | nullable =>
      exact .generic isQualified_nullableName (by decide +kernel) (List.cons_ne_nil _ _)
        (List.forall_mem_singleton.mpr h)

end TypeRef

namespace Grammar

open TypeRef

theorem Arguments.trees_ne_nil (args : Arguments) : args.trees ≠ [] := by
  obtain ⟨lead, first, more, trail⟩ := args
  exact List.cons_ne_nil _ _

mutual

/-- What is read can be written if its generic types have names. -/
theorem Reference.wellFormed_tree : ∀ r : Reference, r.tree.GenericsNamed → r.tree.WellFormed
  | .plain name suffixes, _ => WellFormed.foldl_apply (.named ⟨name, rfl⟩) suffixes
  | .generic name args suffixes, h => by
    have hparts := parts_subset_foldl_apply (.generic (stripArity name.text) args.trees) suffixes
    have hname : simpleName (stripArity name.text) ≠ "" := h _ _ (hparts List.mem_cons_self)
    refine WellFormed.foldl_apply (.generic (isQualified_stripArity hname) (arityMark_not_mem_stripArity _)
      args.trees_ne_nil ?_) suffixes
    exact args.wellFormed_trees fun arg harg name' args' hpart =>
      h name' args' (hparts (List.mem_cons_of_mem _ (mem_partsOfAll.mpr ⟨arg, harg, hpart⟩)))

theorem Arguments.wellFormed_trees : ∀ args : Arguments, (∀ t ∈ args.trees, t.GenericsNamed) →
    ∀ t ∈ args.trees, t.WellFormed
  | .mk _ first more _, h => by
    obtain ⟨hfirst, hmore⟩ := List.forall_mem_cons.mp h
    exact List.forall_mem_cons.mpr ⟨first.wellFormed_tree hfirst, more.wellFormed_trees hmore⟩

theorem MoreArguments.wellFormed_trees : ∀ more : MoreArguments, (∀ t ∈ more.trees, t.GenericsNamed) →
    ∀ t ∈ more.trees, t.WellFormed
  | .nil, _ => fun _ h => absurd h List.not_mem_nil
  | .cons _ _ arg more, h => by
    obtain ⟨harg, hmore⟩ := List.forall_mem_cons.mp h
    exact List.forall_mem_cons.mpr ⟨arg.wellFormed_tree harg, more.wellFormed_trees hmore⟩

end

/-! ## Brackets open behind names -/

/-- An opening bracket is allowed behind `a` only if a name may end in it. -/
def Opens (a b : Char) : Prop := b = '<' → isNameChar a = true

/-- Brackets open behind names only, and not at the start. -/
structure Bracketed (cs : List Char) : Prop where
  chain : cs.IsChain Opens
  start : Stops (· = '<') cs

theorem bracketed_of_not_mem {cs : List Char} (h : '<' ∉ cs) : Bracketed cs := by
  induction cs with
  | nil => exact ⟨.nil, stops_nil _⟩
  | cons c cs ih =>
    obtain ⟨hc, hcs⟩ := not_or.mp (mt List.mem_cons.mpr h)
    refine ⟨List.isChain_cons.mpr ⟨?_, (ih hcs).chain⟩, stops_cons.mpr (by simpa using Ne.symm hc)⟩
    rintro d hd rfl
    exact absurd (List.mem_of_mem_head? hd) hcs

/-- What has no bracket at its start may follow anything. -/
theorem Bracketed.isChain_append {as bs : List Char} (hbs : Bracketed bs) (has : as.IsChain Opens) :
    (as ++ bs).IsChain Opens := by
  refine List.isChain_append.mpr ⟨has, hbs.chain, ?_⟩
  rintro a - b hb rfl
  exact absurd (hbs.start _ hb) (by decide)

theorem Bracketed.append {as bs : List Char} (has : Bracketed as) (hbs : Bracketed bs) : Bracketed (as ++ bs) :=
  ⟨hbs.isChain_append has.chain, has.start.append hbs.start⟩

theorem Spacing.bracketed (sp : Spacing) : Bracketed sp.chars :=
  bracketed_of_not_mem fun hc => absurd (sp.all_spacing _ hc) (by decide)

theorem QualifiedName.bracketed (q : QualifiedName) : Bracketed q.chars :=
  bracketed_of_not_mem fun hc => absurd (q.inName_of_mem hc) (by decide)

theorem bracketed_suffixChars (suffixes : List Suffix) : Bracketed (suffixChars suffixes) := by
  refine bracketed_of_not_mem fun hc => ?_
  obtain ⟨s, -, hc⟩ := List.mem_flatMap.mp hc
  cases s <;> exact absurd hc (by decide)

theorem QualifiedName.isNameChar_of_getLast? (q : QualifiedName) {c : Char} (h : c ∈ q.chars.getLast?) :
    isNameChar c = true := by
  obtain ⟨first, more⟩ := q
  rcases List.eq_nil_or_concat more with rfl | ⟨init, ⟨joint, segment⟩, rfl⟩
  · exact first.all_name c (by simpa [chars, segmentChars] using List.mem_of_mem_getLast? h)
  · -- The last segment is not empty, so that the name ends in it.
    obtain ⟨d, cs, hsegment, -⟩ := segment.exists_cons
    refine segment.all_name c (List.mem_of_mem_getLast? ?_)
    simpa [chars, segmentChars, List.getLast?_append, hsegment, List.getLast?_cons] using h

/-- A bracket that opens has a name before it. -/
theorem Bracketed.exists_isNameChar {as bs : List Char} (h : Bracketed (as ++ '<' :: bs)) :
    ∃ c ∈ as.getLast?, isNameChar c = true := by
  obtain ⟨hchain, hstart⟩ := h
  cases hlast : as.getLast? with
  | none =>
    rw [List.getLast?_eq_none_iff.mp hlast] at hstart
    exact absurd (stops_cons.mp hstart) (by decide)
  | some c => exact ⟨c, rfl, (List.isChain_append.mp hchain).2.2 c hlast '<' rfl rfl⟩

/-- Anything may follow a name. -/
theorem QualifiedName.bracketed_append (q : QualifiedName) {cs : List Char} (h : cs.IsChain Opens) :
    Bracketed (q.chars ++ cs) := by
  refine ⟨List.isChain_append.mpr ⟨q.bracketed.chain, h, fun a ha _ _ _ => q.isNameChar_of_getLast? ha⟩, ?_⟩
  obtain ⟨c, more, hchars, hc⟩ := q.first.exists_cons
  rw [chars, hchars]
  refine stops_cons.mpr (decide_eq_false ?_)
  rintro rfl
  exact absurd hc (by decide)

mutual

theorem Reference.bracketed : ∀ r : Reference, Bracketed r.chars
  | .plain name suffixes => name.bracketed.append (bracketed_suffixChars suffixes)
  | .generic name args suffixes =>
    name.bracketed_append ((bracketed_suffixChars suffixes).isChain_append args.isChain_opens)

theorem Arguments.isChain_opens : ∀ args : Arguments, args.chars.IsChain Opens
  | .mk lead first more trail => by
    have hclose : Bracketed ['>'] := bracketed_of_not_mem (by decide)
    have htrail : Bracketed (more.chars ++ (trail.chars ++ ['>'])) :=
      more.bracketed.append (trail.bracketed.append hclose)
    exact (lead.bracketed.append (first.bracketed.append htrail)).isChain_append (.singleton '<')

theorem MoreArguments.bracketed : ∀ more : MoreArguments, Bracketed more.chars
  | .nil => bracketed_of_not_mem List.not_mem_nil
  | .cons before after arg more => by
    have hcomma : Bracketed [','] := bracketed_of_not_mem (by decide)
    exact before.bracketed.append (hcomma.append (after.bracketed.append (arg.bracketed.append more.bracketed)))

end

theorem Phrase.bracketed (p : Phrase) : Bracketed p.chars :=
  p.lead.bracketed.append (p.reference.bracketed.append p.trail.bracketed)

end Grammar

namespace TypeRef

open Grammar

/-! ## Parts of what is written -/

/-- The text holds another one, at its start or behind a character that no name ends in. -/
def Holds (text part : List Char) : Prop :=
  ∃ before after, text = before ++ (part ++ after) ∧ ∀ c ∈ before.getLast?, isNameChar c = false

theorem Holds.refl (text : List Char) : Holds text text := ⟨[], [], by simp, by simp⟩

theorem Holds.append {text part : List Char} (h : Holds text part) (after : List Char) :
    Holds (text ++ after) part := by
  obtain ⟨before, rest, rfl, hbefore⟩ := h
  exact ⟨before, rest ++ after, by simp, hbefore⟩

theorem Holds.behind {text part : List Char} (h : Holds text part) (before : List Char) {c : Char}
    (hc : isNameChar c = false) : Holds (before ++ c :: text) part := by
  obtain ⟨before', after, rfl, hbefore⟩ := h
  refine ⟨before ++ c :: before', after, by simp, fun d hd => ?_⟩
  rw [List.getLast?_append, List.getLast?_cons, Option.some_or, Option.mem_some_iff] at hd
  cases hlast : before'.getLast? with
  | none => rw [← hd, hlast]; exact hc
  | some e => rw [← hd, hlast]; exact hbefore e hlast

theorem toList_toText_generic (name : String) (args : List TypeRef) :
    (toText (.generic name args)).toList = name.toList ++ '<' :: ((argsText args).toList ++ ['>']) := by
  simp [toText]

mutual

/-- The parts of a reference are written in it. -/
theorem holds_toText : ∀ (t : TypeRef) {part : TypeRef}, part ∈ t.parts → Holds t.toText.toList part.toText.toList
  | .named name, part, h => by
    obtain rfl := List.mem_singleton.mp h
    exact Holds.refl _
  | .array element, part, h => by
    rcases List.mem_cons.mp h with rfl | h
    · exact Holds.refl _
    · rw [toText, String.toList_append]
      exact (holds_toText element h).append _
  | .generic name args, part, h => by
    rcases List.mem_cons.mp h with rfl | h
    · exact Holds.refl _
    · rw [toList_toText_generic]
      exact ((holds_argsText args h).append _).behind _ (by decide)

theorem holds_argsText : ∀ (args : List TypeRef) {part : TypeRef}, part ∈ partsOfAll args →
    Holds (argsText args).toList part.toText.toList
  | [], part, h => absurd h List.not_mem_nil
  | [arg], part, h => holds_toText arg (by simpa [partsOfAll] using h)
  | arg :: next :: args, part, h => by
    rw [argsText_cons_cons, String.toList_append, String.toList_append]
    rcases List.mem_append.mp h with h | h
    · exact ((holds_toText arg h).append _).append _
    · have hrest := (holds_argsText (next :: args) h).behind (arg.toText.toList ++ [',']) (c := ' ') (by decide)
      simpa using hrest

end

/-- If the brackets of what is written open behind names, the generic types have names. -/
theorem genericsNamed_of_bracketed {t : TypeRef} (hmark : t.Unmarked) (h : Bracketed t.toText.toList) :
    t.GenericsNamed := by
  intro name args hpart hempty
  obtain ⟨before, after, htext, hbefore⟩ := holds_toText t hpart
  rw [simpleName_eq_empty_iff (hmark name args hpart)] at hempty
  rw [htext, toList_toText_generic, List.append_assoc, ← List.append_assoc, List.cons_append] at h
  -- The bracket stands behind the name, or behind what comes before it if the name is empty.
  obtain ⟨c, hc, hname⟩ := h.exists_isNameChar
  rw [List.getLast?_append] at hc
  cases hlast : name.toList.getLast? with
  | none =>
    rw [hbefore c (by simpa [hlast] using hc)] at hname
    cases hname
  | some d =>
    obtain rfl : d = c := by simpa [hlast] using hc
    have hbreak := hempty d hlast
    rw [isSegmentBreak_eq_false_of_isNameChar hname] at hbreak
    cases hbreak

/-! ## What is read back -/

theorem exists_phrase_of_wellFormed {t : TypeRef} (h : t.WellFormed) :
    ∃ p : Phrase, p.chars = t.toText.toList ∧ p.tree = t := by
  obtain ⟨r, hchars, htree⟩ := exists_reference h
  exact ⟨⟨.none, r, .none⟩, by simp [Phrase.chars, Spacing.none, hchars], htree⟩

/-- **What has been read is read back from how it is written exactly if its generic types have names**, and otherwise
what is written is no reference. -/
theorem parse_toText_iff {s : String} {t : TypeRef} (h : parse s = .ok t) :
    (parse t.toText = .ok t ↔ t.GenericsNamed) ∧ ∀ t', parse t.toText = .ok t' → t' = t := by
  have hnamed : ∀ t', parse t.toText = .ok t' → t.GenericsNamed := by
    intro t' hread
    obtain ⟨p, hchars, -⟩ := exists_phrase_of_parse hread
    exact genericsNamed_of_bracketed (unmarked_of_parse h) (hchars ▸ p.bracketed)
  have hback : t.GenericsNamed → parse t.toText = .ok t := by
    intro hgenerics
    obtain ⟨p, -, rfl⟩ := exists_phrase_of_parse h
    obtain ⟨written, hchars, htree⟩ := exists_phrase_of_wellFormed (p.reference.wellFormed_tree hgenerics)
    exact (parse_chars written hchars.symm).trans (congrArg Except.ok htree)
  refine ⟨⟨hnamed t, hback⟩, fun t' hread => ?_⟩
  have hsame := hback (hnamed t' hread)
  rw [hread] at hsame
  exact Except.ok.inj hsame

/-- A map whose first argument is named in a generic type and whose second one has suffixes. -/
def suffixedMap : TypeRef := .generic "Map" [.named "Shop.Outer`1+Inner", .array (nullable (.named "int"))]

theorem genericsNamed_suffixedMap : suffixedMap.GenericsNamed := by
  intro name args hpart
  have hname : name = "Map" ∨ name = nullableName := by
    simp [suffixedMap, nullable, parts, partsOfAll] at hpart
    tauto
  rcases hname with rfl | rfl <;> decide +kernel

theorem parse_suffixedMap : parse " Map`2< Shop.Outer`1+Inner , int?[]>" = .ok suffixedMap := by cbv

/-- It is written without the arity of the map, and with the long form of its question mark. -/
theorem parse_toText_suffixedMap :
    parse " Map`2< Shop.Outer`1+Inner , int?[]>" = .ok suffixedMap ∧ suffixedMap.GenericsNamed ∧
      suffixedMap.toText = "Map<Shop.Outer`1+Inner, System.Nullable<int>[]>" ∧
      parse suffixedMap.toText = .ok suffixedMap :=
  ⟨parse_suffixedMap, genericsNamed_suffixedMap, by decide +kernel,
    (parse_toText_iff parse_suffixedMap).1.mpr genericsNamed_suffixedMap⟩

/-- Where the arity is all that there is of a name, nothing is left in front of the bracket. -/
theorem parse_toText_unnamed :
    let unnamed := TypeRef.generic "" [.named "T"]
    parse "`1<T>" = .ok unnamed ∧ unnamed.toText = "<T>" ∧
      parse "<T>" = .error ⟨"<T>", .expectedName "<T>"⟩ ∧ parse unnamed.toText ≠ .ok unnamed := by
  have hread : parse "<T>" = .error ⟨"<T>", .expectedName "<T>"⟩ := by cbv
  have htext : (TypeRef.generic "" [.named "T"]).toText = "<T>" := by decide +kernel
  refine ⟨by cbv, htext, hread, fun h => ?_⟩
  rw [htext, hread] at h
  cases h

end TypeRef

end WireTypes
