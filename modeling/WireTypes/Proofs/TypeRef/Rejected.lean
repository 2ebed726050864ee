import WireTypes.Proofs.TypeRef.RoundTrip

/-!
# Where reading stops

A text that is no reference is rejected at one place. Either no name starts at its first character that is no
blank, or it starts with references, and the longest of these has something other than blanks behind it.

Reading never stops short of a reference that the text starts with. Its inner pieces are followed by what closes
them and read as they are. Only its last piece may go on, and reading then goes on with it.

* `ReadsInitially`, `LongestRead` : the references that a text starts with, and the longest one;
* `Misread` : the place of the fault of a text;
* `exists_readRef_append`, `exists_longestRead` : what is taken of a text is the longest reference at its head;
* `TypeRef.parse_eq_error_iff` : a text is rejected with a fault exactly if it has that fault.
-/

namespace WireTypes

/-- The text does not end in a blank. -/
def Grammar.Tight (cs : List Char) : Prop := ∀ c ∈ cs.getLast?, TypeRef.isSpacing c = false

namespace TypeRef

open Grammar

/-! ## References at the head of a text -/

/-- The text starts with `taken`, which is a reference by itself and does not end in a blank. -/
structure ReadsInitially (cs taken : List Char) : Prop where
  initial : taken <+: cs
  reads : ∃ t, parse (String.ofList taken) = .ok t
  tight : Tight taken

/-- The text starts with the reference `taken`, and with no longer one. -/
structure LongestRead (cs taken : List Char) : Prop extends ReadsInitially cs taken where
  longest : ∀ other, ReadsInitially cs other → other <+: taken

/-- The faults of a text: no name starts behind its leading blanks, or something is left behind the longest
reference there and the blanks that follow it. -/
inductive Misread (text : List Char) : Fault → Prop
  | unnamed (hname : Stops isNameChar (skipSpacing text)) :
      Misread text (.expectedName (String.ofList (skipSpacing text)))
  | unfinished {taken behind : List Char} (hname : ¬Stops isNameChar (skipSpacing text))
      (htaken : LongestRead (skipSpacing text) taken) (hbehind : taken ++ behind = skipSpacing text)
      (hrest : skipSpacing behind ≠ []) : Misread text (.leftOver (String.ofList (skipSpacing behind)))

theorem LongestRead.unique {cs taken taken' : List Char} (h : LongestRead cs taken) (h' : LongestRead cs taken') :
    taken = taken' :=
  (h'.longest taken h.toReadsInitially).eq_of_length_le (h.longest taken' h'.toReadsInitially).length_le

/-- What is reported as the rest of the text. -/
def Fault.rest : Fault → String
  | expectedName rest => rest
  | leftOver rest => rest

/-- What kind of fault is reported. -/
def Fault.code : Fault → String
  | expectedName _ => "TakeWhile1"
  | leftOver _ => "Eof"

/-- The fault in words: its rest in quotes, and its kind. -/
def Fault.reason (f : Fault) : String :=
  "Error(Error \x7b input: " ++ Text.quote f.rest ++ ", code: " ++ f.code ++ " \x7d)"

theorem ParseError.message_eq (e : ParseError) :
    e.message = "invalid type reference '" ++ e.text ++ "': " ++ e.fault.reason := by
  obtain ⟨text, _ | _⟩ := e <;> rfl

end TypeRef

namespace Grammar

open TypeRef

/-! ## Ends of references -/

theorem Tight.append {as bs : List Char} (has : Tight as) (hbs : Tight bs) : Tight (as ++ bs) := by
  intro c hc
  rw [List.getLast?_append] at hc
  cases hlast : bs.getLast? with
  | none => exact has c (by simpa [hlast] using hc)
  | some b => exact hbs c (by simpa [hlast] using hc)

theorem tight_of_forall {cs : List Char} (h : ∀ c ∈ cs, isSpacing c = false) : Tight cs := fun c hc =>
  h c (List.mem_of_mem_getLast? hc)

theorem QualifiedName.inName_of_mem (q : QualifiedName) {c : Char} (h : c ∈ q.chars) : inName c = true := by
  have hidentifier : ∀ i : Identifier, c ∈ i.chars → inName c = true := fun i hc => by
    rw [inName, i.all_name c hc, Bool.true_or]
  rcases List.mem_append.mp h with hc | hc
  · exact hidentifier q.first hc
  · obtain ⟨⟨joint, segment⟩, -, hc⟩ := List.mem_flatMap.mp hc
    rcases List.mem_cons.mp hc with rfl | hc
    · exact joint.inName_char
    · exact hidentifier segment hc

theorem QualifiedName.isSpacing_eq_false_of_mem (q : QualifiedName) {c : Char} (h : c ∈ q.chars) :
    isSpacing c = false := isSpacing_eq_false_of_inName (q.inName_of_mem h)

theorem QualifiedName.tight (q : QualifiedName) : Tight q.chars :=
  tight_of_forall fun _ => q.isSpacing_eq_false_of_mem

theorem isSpacing_eq_false_of_mem_suffixChars {suffixes : List Suffix} {c : Char} (h : c ∈ suffixChars suffixes) :
    isSpacing c = false := by
  obtain ⟨s, -, hc⟩ := List.mem_flatMap.mp h
  cases s with
  | array => rcases List.mem_pair.mp hc with rfl | rfl <;> rfl
  | nullable => exact List.mem_singleton.mp hc ▸ rfl

theorem tight_suffixChars (suffixes : List Suffix) : Tight (suffixChars suffixes) :=
  tight_of_forall fun _ => isSpacing_eq_false_of_mem_suffixChars

theorem Arguments.tight (args : Arguments) : Tight args.chars := by
  obtain ⟨lead, first, more, trail⟩ := args
  have hclose : Tight ['>'] := tight_of_forall (by simp [isSpacing])
  have hchars : (Arguments.mk lead first more trail).chars =
      '<' :: (lead.chars ++ (first.chars ++ (more.chars ++ trail.chars))) ++ ['>'] := by
    simp [Arguments.chars]
  intro c hc
  rw [hchars, List.getLast?_concat] at hc
  exact hclose c hc

theorem Reference.tight (r : Reference) : Tight r.chars := by
  cases r with
  | plain name suffixes => exact name.tight.append (tight_suffixChars suffixes)
  | generic name args suffixes => exact name.tight.append (args.tight.append (tight_suffixChars suffixes))

/-- What reads as a reference by itself, with no blank at its ends, is a reference of the grammar. -/
theorem exists_reference_of_readsInitially {cs taken : List Char} (hstart : Stops isSpacing cs)
    (h : ReadsInitially cs taken) : ∃ r : Reference, r.chars = taken := by
  obtain ⟨t, hread⟩ := h.reads
  obtain ⟨⟨lead, r, trail⟩, hchars, -⟩ := exists_phrase_of_parse hread
  rw [String.toList_ofList, Phrase.chars] at hchars
  have hlead : lead.chars = [] := by
    obtain ⟨behind, rfl⟩ := h.initial
    cases hcs : lead.chars with
    | nil => rfl
    | cons c more =>
      have hc := lead.all_spacing c (by rw [hcs]; exact List.mem_cons_self)
      simp only [← hchars, hcs, List.cons_append] at hstart
      rw [stops_cons.mp hstart] at hc
      cases hc
  have htrail : trail.chars = [] := by
    have htight := h.tight
    rw [Tight, ← hchars, List.getLast?_append, List.getLast?_append] at htight
    cases hlast : trail.chars.getLast? with
    | none => exact List.getLast?_eq_none_iff.mp hlast
    | some c =>
      have hc := htight c (by simp [hlast])
      rw [trail.all_spacing c (List.mem_of_mem_getLast? hlast)] at hc
      cases hc
  exact ⟨r, by simpa [hlead, htrail] using hchars⟩

theorem Reference.readsInitially (r : Reference) (behind : List Char) :
    ReadsInitially (r.chars ++ behind) r.chars where
  initial := List.prefix_append ..
  reads := ⟨_, parse_chars ⟨.none, r, .none⟩ (by simp [Phrase.chars, Spacing.none])⟩
  tight := r.tight

/-! ## Reading does not stop short -/

theorem suffix_of_readSuffixes (t : TypeRef) (cs : List Char) : (readSuffixes t cs).2 <:+ cs := by
  obtain ⟨suffixes, hchars, -⟩ := exists_suffixes t cs
  exact ⟨_, hchars⟩

theorem suffix_of_readArgs {n : Nat} {cs rest : List Char} {args : List TypeRef}
    (h : readArgs n cs = some (args, rest)) : rest <:+ cs := by
  obtain ⟨_, hchars, -⟩ := (readersDerive n).args h
  exact ⟨_, hchars⟩

/-- What is left of a text that starts with a reference lies behind that reference. -/
theorem exists_readRef_append (r : Reference) {n : Nat} (hn : r.chars.length < n) (cs : List Char) :
    ∃ t rest, readRef n (r.chars ++ cs) = some (t, rest) ∧ rest <:+ cs := by
  obtain _ | n := n
  · exact absurd hn (Nat.not_lt_zero _)
  cases r with
  | plain name suffixes =>
    rw [Reference.chars, List.append_assoc, readRef, readName_chars_append]
    cases suffixes with
    | nil =>
      -- The name itself may go on, and arguments and suffixes may follow it.
      have hname : (spanName cs).2 <:+ cs := ⟨_, spanName_fst_append_snd cs⟩
      simp only [suffixChars, List.flatMap_nil, List.nil_append]
      cases hargs : readArgs n (spanName cs).2 with
      | none => exact ⟨_, _, rfl, (suffix_of_readSuffixes _ _).trans hname⟩
      | some read =>
        exact ⟨_, _, rfl, (suffix_of_readSuffixes _ _).trans ((suffix_of_readArgs hargs).trans hname)⟩
    | cons s suffixes =>
      have hstops : Stops inName (suffixChars (s :: suffixes) ++ cs) := by
        cases s <;> exact stops_cons.mpr (by decide)
      have hopens : Stops (· = '<') (suffixChars (s :: suffixes) ++ cs) := by
        cases s <;> exact stops_cons.mpr (by decide)
      simp only [spanName_of_stops hstops, readArgs_eq_none hopens, readSuffixes_chars_append]
      exact ⟨_, _, rfl, suffix_of_readSuffixes _ _⟩
  | generic name args suffixes =>
    have hpos := name.length_pos
    simp only [Reference.chars, List.length_append] at hn
    rw [Reference.chars, List.append_assoc, List.append_assoc, readRef, readName_chars name (args.stops_inName _)]
    simp only [readArgs_chars args (n := n) (by omega), readSuffixes_chars_append]
    exact ⟨_, _, rfl, suffix_of_readSuffixes _ _⟩

theorem readRef_eq_none {n : Nat} {cs : List Char} (h : Stops isNameChar cs) : readRef (n + 1) cs = none := by
  have hstarts : startsName cs = false := by
    cases cs with
    | nil => rfl
    | cons c cs => exact stops_cons.mp h
  rw [readRef, readName, hstarts]
  rfl

theorem exists_readRef {cs : List Char} (h : ¬Stops isNameChar cs) :
    ∃ t rest, readRef (cs.length + 1) cs = some (t, rest) := by
  cases cs with
  | nil => exact absurd (stops_nil _) h
  | cons c cs =>
    -- The first character alone is a reference that the text starts with.
    have hc : isNameChar c = true := by simpa [stops_cons] using h
    have hread := exists_readRef_append (.plain ⟨⟨[c], by simp, by simpa using hc⟩, []⟩ [])
      (n := (c :: cs).length + 1) (by simp [Reference.chars, QualifiedName.chars, segmentChars, suffixChars]) cs
    obtain ⟨t, rest, hread, -⟩ := hread
    exact ⟨t, rest, hread⟩

/-- What is taken of a text is the longest reference that it starts with. -/
theorem exists_longestRead {cs : List Char} (h : ¬Stops isNameChar cs) : ∃ t taken rest,
    readRef (cs.length + 1) cs = some (t, rest) ∧ taken ++ rest = cs ∧ LongestRead cs taken := by
  obtain ⟨t, rest, hread⟩ := exists_readRef h
  obtain ⟨r, rfl, -⟩ := (readersDerive _).ref hread
  refine ⟨t, r.chars, rest, hread, rfl, r.readsInitially rest, fun other hother => ?_⟩
  obtain ⟨r', rfl⟩ := exists_reference_of_readsInitially (r.stops_isSpacing rest) hother
  obtain ⟨behind, hbehind⟩ := hother.initial
  have hlen := congrArg List.length hbehind
  simp only [List.length_append] at hlen
  -- Reading leaves no more of the text than what stands behind the other reference.
  obtain ⟨t', rest', hread', hrest⟩ := exists_readRef_append r' (n := (r.chars ++ rest).length + 1)
    (by rw [List.length_append]; omega) behind
  rw [hbehind, hread] at hread'
  obtain ⟨-, rfl⟩ := Prod.mk.inj (Option.some.inj hread')
  exact List.prefix_of_prefix_length_le ⟨behind, hbehind⟩ (List.prefix_append ..)
    (by have := hrest.length_le; omega)

end Grammar

namespace TypeRef

open Grammar

/-! ## Whole texts -/

/-- **A text is rejected with a fault exactly if it has that fault.** If no name starts behind its leading blanks, all
that stands there is reported. Otherwise something other than blanks stands behind the longest reference there, and is
reported. -/
theorem parse_eq_error_iff (s : String) (e : ParseError) :
    (parse s = .error e ↔ e.text = s ∧ Misread s.toList e.fault) ∧
      e.message = "invalid type reference '" ++ e.text ++ "': " ++ e.fault.reason := by
  refine ⟨?_, e.message_eq⟩
  obtain ⟨text, fault⟩ := e
  by_cases hname : Stops isNameChar (skipSpacing s.toList)
  · have hparse : parse s = .error ⟨s, .expectedName (String.ofList (skipSpacing s.toList))⟩ := by
      simp only [parse, readRef_eq_none hname]
    rw [hparse, Except.error.injEq, ParseError.mk.injEq]
    constructor
    · rintro ⟨rfl, rfl⟩
      exact ⟨rfl, .unnamed hname⟩
    · rintro ⟨htext, hfault⟩
      cases hfault with
      | unnamed _ => exact ⟨htext.symm, rfl⟩
      | unfinished hnot => exact absurd hname hnot
  · obtain ⟨t, taken, rest, hread, hbehind, hlongest⟩ := exists_longestRead hname
    have hunique : ∀ {other behind}, LongestRead (skipSpacing s.toList) other →
        other ++ behind = skipSpacing s.toList → behind = rest := by
      intro other behind hother happend
      rw [hother.unique hlongest, ← hbehind] at happend
      exact List.append_cancel_left happend
    cases hrest : skipSpacing rest with
    | nil =>
      have hparse : parse s = .ok t := by simp only [parse, hread, hrest]
      rw [hparse]
      constructor
      · intro h
        cases h
      · rintro ⟨-, hfault⟩
        cases hfault with
        | unnamed hstops => exact absurd hstops hname
        | unfinished _ hother happend hne => exact absurd (hunique hother happend ▸ hrest) hne
    | cons c more =>
      have hparse : parse s = .error ⟨s, .leftOver (String.ofList (skipSpacing rest))⟩ := by
        simp only [parse, hread, hrest]
      rw [hparse, Except.error.injEq, ParseError.mk.injEq]
      constructor
      · rintro ⟨rfl, rfl⟩
        exact ⟨rfl, .unfinished hname hlongest hbehind (by simp [hrest])⟩
      · rintro ⟨htext, hfault⟩
        cases hfault with
        | unnamed hstops => exact absurd hstops hname
        | unfinished _ hother happend _ => exact ⟨htext.symm, by rw [hunique hother happend]⟩

example : parse " Map<Order, List<Item[ ]>>" =
    .error ⟨" Map<Order, List<Item[ ]>>", .leftOver "<Order, List<Item[ ]>>"⟩ := by cbv

end TypeRef

end WireTypes
