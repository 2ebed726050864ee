import WireTypes.Proofs.TypeRef.Grammar

/-!
# Reading derives

The readers take as much as they can and undo what they cannot finish. What they read is nevertheless what
the grammar derives, since a piece that is followed by something that cannot go on with it has one end only.

* `readName_chars`, `readSuffixes_chars`, `readRef_chars` : a derivation is read back, in front of anything
  that does not go on with it;
* `exists_name_of_readName`, `exists_suffixes`, `readersDerive` : what is read has a derivation;
* `parse_chars`, `exists_phrase_of_parse` : the same for whole texts;
* `TypeRef.parse_eq_ok_iff_derived` : a text is read as a reference if and only if it derives it, in one way.
-/

namespace WireTypes.Grammar

open TypeRef

/-! ## Blanks -/

theorem skipSpacing_chars (sp : Spacing) {cs : List Char} (h : Stops isSpacing cs) :
    skipSpacing (sp.chars ++ cs) = cs := by
  rw [skipSpacing, List.dropWhile_append_of_pos sp.all_spacing]
  cases cs with
  | nil => rfl
  | cons c cs => rw [List.dropWhile_cons_of_neg (by simp [stops_cons.mp h])]

theorem exists_spacing (cs : List Char) : ∃ sp : Spacing, sp.chars ++ skipSpacing cs = cs :=
  ⟨⟨cs.takeWhile isSpacing, fun _ hc => List.all_eq_true.mp List.all_takeWhile _ hc⟩,
    List.takeWhile_append_dropWhile⟩

/-! ## Names -/

theorem startsName_of_cons {c : Char} {cs : List Char} (h : isNameChar c = true) :
    startsName (c :: cs) = true := h

theorem spanName_append {as : List Char} (has : ∀ c ∈ as, isNameChar c = true) (cs : List Char) :
    spanName (as ++ cs) = (as ++ (spanName cs).1, (spanName cs).2) := by
  induction as with
  | nil => rfl
  | cons a as ih =>
    have ha := has a List.mem_cons_self
    have ih := ih fun c hc => has c (List.mem_cons_of_mem _ hc)
    simp [spanName, ha, ih]

theorem spanName_of_stops {cs : List Char} (h : Stops inName cs) : spanName cs = ([], cs) := by
  cases cs with
  | nil => rfl
  | cons c cs =>
    have hc := stops_cons.mp h
    simp only [inName, Bool.or_eq_false_iff] at hc
    simp [spanName, hc.1, hc.2]

theorem Joint.isSegmentBreak_char (j : Joint) : isSegmentBreak j.char = true := by cases j <;> decide

theorem spanName_segmentChars_append (segments : List (Joint × Identifier)) (cs : List Char) :
    spanName (segmentChars segments ++ cs) = (segmentChars segments ++ (spanName cs).1, (spanName cs).2) := by
  induction segments with
  | nil => rfl
  | cons s segments ih =>
    obtain ⟨joint, segment⟩ := s
    obtain ⟨c, more, hmore, hc⟩ := segment.exists_cons
    have hstarts : startsName (segment.chars ++ (segmentChars segments ++ cs)) = true := by
      rw [hmore]
      exact startsName_of_cons hc
    have hspan := spanName_append segment.all_name (segmentChars segments ++ cs)
    rw [ih] at hspan
    show spanName (joint.char :: (segment.chars ++ segmentChars segments) ++ cs) = _
    rw [List.cons_append, List.append_assoc, spanName, hspan,
      if_pos (by simp [joint.isSegmentBreak_char, hstarts])]
    simp [segmentChars]

/-- A qualified name is read in front of anything, which may go on with it. -/
theorem readName_chars_append (q : QualifiedName) (cs : List Char) :
    readName (q.chars ++ cs) = some (String.ofList (q.chars ++ (spanName cs).1), (spanName cs).2) := by
  obtain ⟨c, more, hmore, hc⟩ := q.first.exists_cons
  have hchars : q.chars ++ cs = q.first.chars ++ (segmentChars q.more ++ cs) := List.append_assoc ..
  have hstarts : startsName (q.chars ++ cs) = true := by
    rw [hchars, hmore]
    exact startsName_of_cons hc
  have hspan : spanName (q.chars ++ cs) = (q.chars ++ (spanName cs).1, (spanName cs).2) := by
    rw [hchars, spanName_append q.first.all_name, spanName_segmentChars_append, QualifiedName.chars,
      List.append_assoc]
  rw [readName, hstarts, hspan]
  rfl

theorem readName_chars (q : QualifiedName) {cs : List Char} (h : Stops inName cs) :
    readName (q.chars ++ cs) = some (q.text, cs) := by
  rw [readName_chars_append, spanName_of_stops h, List.append_nil]
  rfl

theorem spanName_fst_append_snd (cs : List Char) : (spanName cs).1 ++ (spanName cs).2 = cs := by
  fun_induction spanName cs with
  | case1 => rfl
  | case2 c cs h more ih => rw [List.cons_append, ih]
  | case3 c cs h => rfl

theorem exists_joint {c : Char} (h : isSegmentBreak c = true) : ∃ j : Joint, j.char = c := by
  simp only [isSegmentBreak, Bool.or_eq_true, decide_eq_true_eq] at h
  rcases h with rfl | rfl
  · exact ⟨.dot, rfl⟩
  · exact ⟨.plus, rfl⟩

/-- The name that is split off is a name: a character is a segment of its own or goes to the front of the
segment behind it. -/
theorem exists_qualifiedName : ∀ {cs : List Char}, startsName cs = true →
    ∃ q : QualifiedName, q.chars = (spanName cs).1
  | [c], h => by
    have hc : isNameChar c = true := h
    refine ⟨⟨⟨[c], by simp, by simpa using hc⟩, []⟩, ?_⟩
    simp [QualifiedName.chars, segmentChars, spanName, hc]
  | c :: d :: cs, h => by
    have hc : isNameChar c = true := h
    have hspan : (spanName (c :: d :: cs)).1 = c :: (spanName (d :: cs)).1 := by
      rw [spanName, if_pos (by simp [hc])]
    rw [hspan]
    -- Behind `c` stands more of its segment, a joint in front of a segment, or the end of the name.
    cases hd : isNameChar d with
    | true =>
      have hstarts : startsName (d :: cs) = true := startsName_of_cons hd
      obtain ⟨⟨first, more⟩, hq⟩ := exists_qualifiedName hstarts
      refine ⟨⟨⟨c :: first.chars, by simp, List.forall_mem_cons.mpr ⟨hc, first.all_name⟩⟩, more⟩, ?_⟩
      rw [← hq]
      rfl
    | false =>
      by_cases hnext : (isSegmentBreak d && startsName cs) = true
      · obtain ⟨hbreak, hstarts⟩ := Bool.and_eq_true_iff.mp hnext
        obtain ⟨joint, rfl⟩ := exists_joint hbreak
        obtain ⟨⟨first, more⟩, hq⟩ := exists_qualifiedName hstarts
        refine ⟨⟨⟨[c], by simp, by simpa using hc⟩, (joint, first) :: more⟩, ?_⟩
        have hnextSpan : (spanName (joint.char :: cs)).1 = joint.char :: (spanName cs).1 := by
          rw [spanName, if_pos (by simp [hnext])]
        rw [hnextSpan, ← hq]
        rfl
      · refine ⟨⟨⟨[c], by simp, by simpa using hc⟩, []⟩, ?_⟩
        rw [spanName, if_neg (by simp [hd, hnext])]
        rfl

theorem exists_name_of_readName {cs rest : List Char} {name : String} (h : readName cs = some (name, rest)) :
    ∃ q : QualifiedName, q.chars ++ rest = cs ∧ q.text = name := by
  unfold readName at h
  split at h
  · rename_i hstarts
    obtain ⟨hname, hrest⟩ := Prod.mk.inj (Option.some.inj h)
    obtain ⟨q, hq⟩ := exists_qualifiedName hstarts
    refine ⟨q, ?_, ?_⟩
    · rw [hq, ← hrest]
      exact spanName_fst_append_snd cs
    · rw [QualifiedName.text, hq]
      exact hname
  · cases h

/-! ## Suffixes -/

theorem readSuffixes_of_stops (t : TypeRef) {cs : List Char} (h : Stops continues cs) :
    readSuffixes t cs = (t, cs) := by
  unfold readSuffixes
  split
  · exact absurd (stops_cons.mp h) (by decide)
  · exact absurd (stops_cons.mp h) (by decide)
  · rfl

theorem readSuffixes_chars_append (t : TypeRef) (suffixes : List Suffix) (cs : List Char) :
    readSuffixes t (suffixChars suffixes ++ cs) = readSuffixes (suffixes.foldl Suffix.apply t) cs := by
  induction suffixes generalizing t with
  | nil => rfl
  | cons s suffixes ih =>
    rw [List.foldl_cons, ← ih]
    cases s <;> rfl

theorem readSuffixes_chars (t : TypeRef) (suffixes : List Suffix) {cs : List Char} (h : Stops continues cs) :
    readSuffixes t (suffixChars suffixes ++ cs) = (suffixes.foldl Suffix.apply t, cs) := by
  rw [readSuffixes_chars_append, readSuffixes_of_stops _ h]

theorem exists_suffixes (t : TypeRef) (cs : List Char) :
    ∃ suffixes, suffixChars suffixes ++ (readSuffixes t cs).2 = cs ∧
      suffixes.foldl Suffix.apply t = (readSuffixes t cs).1 := by
  fun_induction readSuffixes t cs with
  | case1 t cs ih =>
    obtain ⟨suffixes, hchars, htree⟩ := ih
    exact ⟨.array :: suffixes, congrArg (fun cs => '[' :: ']' :: cs) hchars, htree⟩
  | case2 t cs ih =>
    obtain ⟨suffixes, hchars, htree⟩ := ih
    exact ⟨.nullable :: suffixes, congrArg (fun cs => '?' :: cs) hchars, htree⟩
  | case3 t cs => exact ⟨[], rfl, rfl⟩

/-! ## What the grammar derives is read -/

theorem readArgs_eq_none {n : Nat} {cs : List Char} (h : Stops (· = '<') cs) : readArgs n cs = none := by
  unfold readArgs
  split
  · exact absurd (stops_cons.mp h) (by decide)
  · rfl

theorem QualifiedName.length_pos (q : QualifiedName) : 0 < q.chars.length := by
  have := List.length_pos_iff.mpr q.first.ne_nil
  rw [QualifiedName.chars, List.length_append]
  omega

mutual

/-- A reference is read in front of anything that does not go on with it. -/
theorem readRef_chars : ∀ (r : Reference) {n : Nat} {cs : List Char}, Stops continues cs →
    r.chars.length < n → readRef n (r.chars ++ cs) = some (r.tree, cs)
  | .plain name suffixes, n + 1, cs, h, hn => by
    have hargs : readArgs n (suffixChars suffixes ++ cs) = none :=
      readArgs_eq_none (stops_open_suffixes h)
    rw [Reference.chars, List.append_assoc, readRef, readName_chars name (stops_inName_suffixes h)]
    simp only [hargs]
    rw [readSuffixes_chars _ suffixes h]
    rfl
  | .generic name args suffixes, n + 1, cs, h, hn => by
    have hpos := name.length_pos
    simp only [Reference.chars, List.length_append] at hn
    -- The name has been read, so that the arguments are left one level less and one character less.
    rw [Reference.chars, List.append_assoc, List.append_assoc, readRef,
      readName_chars name (args.stops_inName _)]
    simp only [readArgs_chars args (n := n) (by omega)]
    rw [readSuffixes_chars _ suffixes h]
    rfl

theorem readArgs_chars : ∀ (args : Arguments) {n : Nat} {cs : List Char}, args.chars.length ≤ n →
    readArgs n (args.chars ++ cs) = some (args.trees, cs)
  | .mk lead first more trail, 0, cs, hn => absurd hn (by simp [Arguments.chars])
  | .mk lead first more trail, n + 1, cs, hn => by
    simp only [Arguments.chars, List.length_cons, List.length_append, List.length_nil] at hn
    simp only [Arguments.chars, List.cons_append, List.append_assoc, List.nil_append]
    rw [readArgs, skipSpacing_chars lead (first.stops_isSpacing _),
      readRef_chars first (more.stops trail cs) (by omega)]
    simp only [readMoreArgs_chars more (n := n) (by omega)]
    rw [skipSpacing_chars trail (stops_cons.mpr (by decide))]
    rfl

/-- The blanks before a closing bracket are given back. -/
theorem readMoreArgs_chars : ∀ (more : MoreArguments) {n : Nat} {trail : Spacing} {cs : List Char},
    more.chars.length < n →
    readMoreArgs n (more.chars ++ (trail.chars ++ '>' :: cs)) = (more.trees, trail.chars ++ '>' :: cs)
  | .nil, n + 1, trail, cs, hn => by
    rw [MoreArguments.chars, List.nil_append, readMoreArgs,
      skipSpacing_chars trail (stops_cons.mpr (by decide))]
    rfl
  | .cons before after arg more, n + 1, trail, cs, hn => by
    simp only [MoreArguments.chars, List.length_cons, List.length_append] at hn
    simp only [MoreArguments.chars, List.cons_append, List.append_assoc]
    rw [readMoreArgs, skipSpacing_chars before (stops_cons.mpr (by decide))]
    simp only
    rw [skipSpacing_chars after (arg.stops_isSpacing _),
      readRef_chars arg (more.stops trail cs) (by omega)]
    simp only [readMoreArgs_chars more (n := n) (by omega)]
    rfl

end

/-! ## What is read is derived -/

/-- What the readers take off a text has a derivation, as long as nothing nests deeper than `n`. -/
structure ReadersDerive (n : Nat) : Prop where
  ref : ∀ {cs rest t}, readRef n cs = some (t, rest) → ∃ r : Reference, r.chars ++ rest = cs ∧ r.tree = t
  args : ∀ {cs rest ts}, readArgs n cs = some (ts, rest) →
    ∃ args : Arguments, args.chars ++ rest = cs ∧ args.trees = ts
  more : ∀ cs, ∃ more : MoreArguments, more.chars ++ (readMoreArgs n cs).2 = cs ∧
    more.trees = (readMoreArgs n cs).1

namespace ReadersDerive

variable {n : Nat} {cs rest : List Char}

theorem ref_succ (h : ReadersDerive n) {t : TypeRef} (hread : readRef (n + 1) cs = some (t, rest)) :
    ∃ r : Reference, r.chars ++ rest = cs ∧ r.tree = t := by
  unfold readRef at hread
  split at hread
  · cases hread
  rename_i name afterName hname
  obtain ⟨q, hq, rfl⟩ := exists_name_of_readName hname
  split at hread
  · rename_i args afterArgs hargs
    obtain ⟨a, ha, rfl⟩ := h.args hargs
    obtain ⟨suffixes, hs, htree⟩ := exists_suffixes (head q.text (some a.trees)) afterArgs
    rw [Option.some.inj hread] at hs htree
    refine ⟨.generic q a suffixes, ?_, htree⟩
    rw [Reference.chars, List.append_assoc, List.append_assoc, hs, ha, hq]
  · obtain ⟨suffixes, hs, htree⟩ := exists_suffixes (head q.text none) afterName
    rw [Option.some.inj hread] at hs htree
    refine ⟨.plain q suffixes, ?_, htree⟩
    rw [Reference.chars, List.append_assoc, hs, hq]

theorem args_succ (h : ReadersDerive n) {ts : List TypeRef} (hread : readArgs (n + 1) cs = some (ts, rest)) :
    ∃ args : Arguments, args.chars ++ rest = cs ∧ args.trees = ts := by
  unfold readArgs at hread
  split at hread
  · rename_i m inner hm
    obtain rfl := Nat.succ.inj hm
    split at hread
    · cases hread
    rename_i arg afterArg harg
    obtain ⟨lead, hlead⟩ := exists_spacing inner
    obtain ⟨first, hfirst, rfl⟩ := h.ref harg
    obtain ⟨more, hmore, htrees⟩ := h.more afterArg
    obtain ⟨trail, htrail⟩ := exists_spacing (readMoreArgs n afterArg).2
    simp only at hread
    split at hread
    · rename_i afterClose hclose
      obtain ⟨rfl, rfl⟩ := Prod.mk.inj (Option.some.inj hread)
      refine ⟨.mk lead first more trail, ?_, by rw [Arguments.trees, htrees]⟩
      simp only [Arguments.chars, List.cons_append, List.append_assoc, List.nil_append]
      rw [← hclose, htrail, hmore, hfirst, hlead]
    · cases hread
  · cases hread

/-- A comma without an argument behind it is left with what follows. -/
theorem more_succ (h : ReadersDerive n) (cs : List Char) :
    ∃ more : MoreArguments, more.chars ++ (readMoreArgs (n + 1) cs).2 = cs ∧
      more.trees = (readMoreArgs (n + 1) cs).1 := by
  unfold readMoreArgs
  obtain ⟨before, hbefore⟩ := exists_spacing cs
  split
  · rename_i inner hcomma
    obtain ⟨after, hafter⟩ := exists_spacing inner
    split
    · rename_i arg afterArg harg
      obtain ⟨r, hr, rfl⟩ := h.ref harg
      obtain ⟨more, hmore, htrees⟩ := h.more afterArg
      refine ⟨.cons before after r more, ?_, by rw [MoreArguments.trees, htrees]⟩
      simp only [MoreArguments.chars, List.cons_append, List.append_assoc]
      rw [hmore, hr, hafter, ← hcomma, hbefore]
    · exact ⟨.nil, rfl, rfl⟩
  · exact ⟨.nil, rfl, rfl⟩

end ReadersDerive

theorem readersDerive (n : Nat) : ReadersDerive n := by
  induction n with
  | zero =>
    refine ⟨fun h => ?_, fun h => ?_, fun cs => ⟨.nil, rfl, rfl⟩⟩
    · cases h
    · simp [readArgs] at h
  | succ n ih => exact ⟨ih.ref_succ, ih.args_succ, ih.more_succ⟩

/-! ## Whole texts -/

/-- A derivation of a whole text is read back. -/
theorem parse_chars (p : Phrase) {s : String} (h : s.toList = p.chars) : parse s = .ok p.tree := by
  have hskip : skipSpacing s.toList = p.reference.chars ++ p.trail.chars := by
    rw [h]
    exact skipSpacing_chars p.lead (p.reference.stops_isSpacing _)
  have htrail : Stops continues p.trail.chars := p.trail.stops fun c => continues_eq_false_of_isSpacing
  have hread := readRef_chars p.reference (n := (p.reference.chars ++ p.trail.chars).length + 1) htrail
    (by rw [List.length_append]; omega)
  have hend : skipSpacing p.trail.chars = [] := by
    have := skipSpacing_chars p.trail (stops_nil isSpacing)
    rwa [List.append_nil] at this
  simp only [parse, hskip, hread, hend]
  rfl

theorem exists_phrase_of_parse {s : String} {t : TypeRef} (h : parse s = .ok t) :
    ∃ p : Phrase, p.chars = s.toList ∧ p.tree = t := by
  unfold parse at h
  simp only at h
  split at h
  · cases h
  rename_i t' rest hread
  split at h
  · rename_i hend
    obtain rfl := Except.ok.inj h
    obtain ⟨lead, hlead⟩ := exists_spacing s.toList
    obtain ⟨r, hr, htree⟩ := (readersDerive _).ref hread
    obtain ⟨trail, htrail⟩ := exists_spacing rest
    rw [hend, List.append_nil] at htrail
    refine ⟨⟨lead, r, trail⟩, ?_, htree⟩
    rw [Phrase.chars, htrail, hr, hlead]
  · cases h

end WireTypes.Grammar

namespace WireTypes.TypeRef

open Grammar

/-- **A text is read as a reference if and only if the grammar derives that reference from it**, and no text
has two derivations. -/
theorem parse_eq_ok_iff_derived (s : String) (t : TypeRef) :
    (parse s = .ok t ↔ ∃ p : Phrase, p.chars = s.toList ∧ p.tree = t) ∧
      ∀ p p' : Phrase, p.chars = s.toList → p'.chars = s.toList → p = p' := by
  refine ⟨⟨exists_phrase_of_parse, ?_⟩, fun p p' h h' => Phrase.eq_of_chars (h.trans h'.symm)⟩
  rintro ⟨p, hchars, rfl⟩
  exact parse_chars p hchars.symm

end WireTypes.TypeRef
