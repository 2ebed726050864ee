import WireTypes.TypeRef.Reader

/-!
# The grammar of references

A reference is a qualified name, its arguments in angle brackets if it has any, and then suffixes. Blanks may
stand at both ends of a text, after an opening bracket, around a comma and before a closing bracket, and
nowhere else.

* `Spacing`, `Identifier`, `QualifiedName`, `Suffix` : the pieces;
* `Reference`, `Arguments`, `MoreArguments` : derivations of a reference, of what its brackets enclose, and of
  the arguments after the first;
* `Phrase` : derivations of whole texts;
* `chars` : the text that a derivation derives; `tree` : the reference that it stands for;
* `Reference.eq_of_append`, `Phrase.eq_of_chars` : a text has at most one derivation.

Every piece is followed by a character that cannot go on with it. This is what `Stops` says, and what makes
each of them end at one place only.
-/

namespace WireTypes.Grammar

open TypeRef

/-! ## Pieces -/

/-- A run of blanks. -/
@[ext] structure Spacing where
  chars : List Char
  all_spacing : ∀ c ∈ chars, isSpacing c = true

/-- A segment of a name. -/
@[ext] structure Identifier where
  chars : List Char
  ne_nil : chars ≠ []
  all_name : ∀ c ∈ chars, isNameChar c = true

/-- What joins two segments. -/
inductive Joint where
  | dot | plus

/-- Segments with a joint between each two. -/
structure QualifiedName where
  first : Identifier
  more : List (Joint × Identifier)

inductive Suffix where
  | array | nullable

def Joint.char : Joint → Char
  | dot => '.'
  | plus => '+'

def Suffix.chars : Suffix → List Char
  | array => ['[', ']']
  | nullable => ['?']

/-- What the suffix makes of a reference. -/
def Suffix.apply (t : TypeRef) : Suffix → TypeRef
  | array => .array t
  | nullable => .generic nullableName [t]

def segmentChars (segments : List (Joint × Identifier)) : List Char :=
  segments.flatMap fun (joint, segment) => joint.char :: segment.chars

def QualifiedName.chars (q : QualifiedName) : List Char := q.first.chars ++ segmentChars q.more

def QualifiedName.text (q : QualifiedName) : String := String.ofList q.chars

def suffixChars (suffixes : List Suffix) : List Char := suffixes.flatMap Suffix.chars

/-! ## Derivations -/

mutual

/-- A name with suffixes behind it, or with arguments and suffixes. -/
inductive Reference where
  | plain (name : QualifiedName) (suffixes : List Suffix)
  | generic (name : QualifiedName) (args : Arguments) (suffixes : List Suffix)

/-- One or more arguments in brackets. -/
inductive Arguments where
  | mk (lead : Spacing) (first : Reference) (more : MoreArguments) (trail : Spacing)

/-- Arguments with a comma before each, and blanks around the comma. -/
inductive MoreArguments where
  | nil
  | cons (before after : Spacing) (arg : Reference) (more : MoreArguments)

end

mutual

def Reference.chars : Reference → List Char
  | .plain name suffixes => name.chars ++ suffixChars suffixes
  | .generic name args suffixes => name.chars ++ (args.chars ++ suffixChars suffixes)

def Arguments.chars : Arguments → List Char
  | .mk lead first more trail =>
    '<' :: (lead.chars ++ (first.chars ++ (more.chars ++ (trail.chars ++ ['>']))))

def MoreArguments.chars : MoreArguments → List Char
  | .nil => []
  | .cons before after arg more => before.chars ++ ',' :: (after.chars ++ (arg.chars ++ more.chars))

end

mutual

/-- The reference that is derived: the suffixes apply from left to right, and a name with arguments is
cut at its arity. -/
def Reference.tree : Reference → TypeRef
  | .plain name suffixes => suffixes.foldl Suffix.apply (.named name.text)
  | .generic name args suffixes => suffixes.foldl Suffix.apply (.generic (stripArity name.text) args.trees)

def Arguments.trees : Arguments → List TypeRef
  | .mk _ first more _ => first.tree :: more.trees

def MoreArguments.trees : MoreArguments → List TypeRef
  | .nil => []
  | .cons _ _ arg more => arg.tree :: more.trees

end

/-- A reference with blanks at its ends. -/
structure Phrase where
  lead : Spacing
  reference : Reference
  trail : Spacing

def Phrase.chars (p : Phrase) : List Char := p.lead.chars ++ (p.reference.chars ++ p.trail.chars)

def Phrase.tree (p : Phrase) : TypeRef := p.reference.tree

/-! ## Where a piece ends -/

/-- Whether the text does not go on with a character of a class. -/
def Stops (p : Char → Bool) (cs : List Char) : Prop := ∀ c ∈ cs.head?, p c = false

theorem stops_nil (p : Char → Bool) : Stops p [] := by simp [Stops]

theorem stops_cons {p : Char → Bool} {c : Char} {cs : List Char} : Stops p (c :: cs) ↔ p c = false := by
  simp [Stops]

theorem Stops.imp {p p' : Char → Bool} {cs : List Char} (h : Stops p' cs)
    (hp : ∀ c, p' c = false → p c = false) : Stops p cs := fun c hc => hp c (h c hc)

theorem Stops.append {p : Char → Bool} {as cs : List Char} (has : Stops p as) (hcs : Stops p cs) :
    Stops p (as ++ cs) := by
  cases as with
  | nil => exact hcs
  | cons a as => exact stops_cons.mpr (stops_cons.mp has)

/-- A run of a class and what stops it are determined by the text. -/
theorem eq_of_run_append {p : Char → Bool} {as bs xs ys : List Char} (has : ∀ c ∈ as, p c = true)
    (hbs : ∀ c ∈ bs, p c = true) (hxs : Stops p xs) (hys : Stops p ys) (h : as ++ xs = bs ++ ys) :
    as = bs ∧ xs = ys := by
  induction as generalizing bs with
  | nil =>
    cases bs with
    | nil => exact ⟨rfl, h⟩
    | cons b bs =>
      obtain rfl : xs = b :: (bs ++ ys) := h
      have := stops_cons.mp hxs
      rw [hbs b List.mem_cons_self] at this
      cases this
  | cons a as ih =>
    cases bs with
    | nil =>
      obtain rfl : a :: (as ++ xs) = ys := h
      have := stops_cons.mp hys
      rw [has a List.mem_cons_self] at this
      cases this
    | cons b bs =>
      obtain ⟨hab, hrest⟩ := List.cons.inj h
      obtain ⟨htail, hstop⟩ := ih (fun c hc => has c (List.mem_cons_of_mem _ hc))
        (fun c hc => hbs c (List.mem_cons_of_mem _ hc)) hrest
      exact ⟨by rw [hab, htail], hstop⟩

/-! ### Classes -/

/-- Whether a character may stand in a qualified name. -/
def inName (c : Char) : Bool := isNameChar c || isSegmentBreak c

/-- Whether a reference may go on with a character. -/
def continues (c : Char) : Bool := inName c || c = '<' || c = '[' || c = '?'

theorem isNameChar_eq_false_of_inName {c : Char} (h : inName c = false) : isNameChar c = false :=
  (Bool.or_eq_false_iff.mp h).1

theorem inName_eq_false_of_continues {c : Char} (h : continues c = false) : inName c = false := by
  simp only [continues, Bool.or_eq_false_iff] at h
  exact h.1.1.1

theorem isSpacing_iff {c : Char} : isSpacing c = true ↔ c = ' ' ∨ c = '\t' ∨ c = '\r' ∨ c = '\n' := by
  simp [isSpacing, or_assoc]

theorem continues_eq_false_of_isSpacing {c : Char} (h : isSpacing c = true) : continues c = false := by
  rcases isSpacing_iff.mp h with rfl | rfl | rfl | rfl <;> decide

theorem isSpacing_eq_false_of_inName {c : Char} (h : inName c = true) : isSpacing c = false := by
  cases hspacing : isSpacing c with
  | false => rfl
  | true =>
    rw [inName_eq_false_of_continues (continues_eq_false_of_isSpacing hspacing)] at h
    cases h

theorem isSpacing_eq_false_of_isNameChar {c : Char} (h : isNameChar c = true) : isSpacing c = false :=
  isSpacing_eq_false_of_inName (by rw [inName, h, Bool.true_or])

/-! ### Pieces -/

theorem Joint.inName_char (j : Joint) : inName j.char = true := by cases j <;> decide

theorem Joint.isNameChar_char (j : Joint) : isNameChar j.char = false := by cases j <;> decide

theorem Joint.char_injective {j j' : Joint} (h : j.char = j'.char) : j = j' := by
  cases j <;> cases j' <;> simp_all [Joint.char]

theorem Spacing.stops (sp : Spacing) {p : Char → Bool} (hp : ∀ c, isSpacing c = true → p c = false) :
    Stops p sp.chars := fun c hc => hp c (sp.all_spacing c (List.mem_of_mem_head? hc))

theorem Identifier.exists_cons (i : Identifier) : ∃ c cs, i.chars = c :: cs ∧ isNameChar c = true := by
  obtain ⟨c, cs, hcs⟩ := List.exists_cons_of_ne_nil i.ne_nil
  exact ⟨c, cs, hcs, i.all_name c (hcs ▸ List.mem_cons_self)⟩

theorem stops_segmentChars {segments : List (Joint × Identifier)} {cs : List Char} (h : Stops inName cs) :
    Stops isNameChar (segmentChars segments ++ cs) := by
  cases segments with
  | nil => exact h.imp fun c => isNameChar_eq_false_of_inName
  | cons s segments => exact stops_cons.mpr s.1.isNameChar_char

theorem stops_suffixChars {p : Char → Bool} (harray : p '[' = false) (hnullable : p '?' = false)
    (suffixes : List Suffix) : Stops p (suffixChars suffixes) := by
  rcases suffixes with _ | ⟨_ | _, suffixes⟩
  · exact stops_nil p
  · exact stops_cons.mpr harray
  · exact stops_cons.mpr hnullable

theorem MoreArguments.stops (more : MoreArguments) (trail : Spacing) (cs : List Char) :
    Stops continues (more.chars ++ (trail.chars ++ '>' :: cs)) := by
  have hspacing : ∀ sp : Spacing, Stops continues sp.chars := fun sp =>
    sp.stops fun c => continues_eq_false_of_isSpacing
  cases more with
  | nil => exact (hspacing trail).append (stops_cons.mpr (by decide))
  | cons before after arg more =>
    rw [MoreArguments.chars, List.append_assoc]
    exact (hspacing before).append (stops_cons.mpr (by decide))

theorem Reference.exists_cons (r : Reference) : ∃ c cs, r.chars = c :: cs ∧ isNameChar c = true := by
  have hname : ∀ q : QualifiedName, ∃ c cs, q.chars = c :: cs ∧ isNameChar c = true := by
    intro q
    obtain ⟨c, cs, hcs, hc⟩ := q.first.exists_cons
    exact ⟨c, cs ++ segmentChars q.more, by rw [QualifiedName.chars, hcs, List.cons_append], hc⟩
  cases r with
  | plain name suffixes =>
    obtain ⟨c, cs, hcs, hc⟩ := hname name
    exact ⟨c, _, by rw [Reference.chars, hcs, List.cons_append], hc⟩
  | generic name args suffixes =>
    obtain ⟨c, cs, hcs, hc⟩ := hname name
    exact ⟨c, _, by rw [Reference.chars, hcs, List.cons_append], hc⟩

theorem Reference.stops_isSpacing (r : Reference) (cs : List Char) : Stops isSpacing (r.chars ++ cs) := by
  obtain ⟨c, more, hchars, hc⟩ := r.exists_cons
  rw [hchars]
  exact stops_cons.mpr (isSpacing_eq_false_of_isNameChar hc)

/-! ## A text has one derivation -/

theorem Spacing.eq_of_append {sp sp' : Spacing} {xs ys : List Char} (hxs : Stops isSpacing xs)
    (hys : Stops isSpacing ys) (h : sp.chars ++ xs = sp'.chars ++ ys) : sp = sp' ∧ xs = ys := by
  obtain ⟨hchars, hrest⟩ := eq_of_run_append sp.all_spacing sp'.all_spacing hxs hys h
  exact ⟨Spacing.ext hchars, hrest⟩

theorem Identifier.eq_of_append {i i' : Identifier} {xs ys : List Char} (hxs : Stops isNameChar xs)
    (hys : Stops isNameChar ys) (h : i.chars ++ xs = i'.chars ++ ys) : i = i' ∧ xs = ys := by
  obtain ⟨hchars, hrest⟩ := eq_of_run_append i.all_name i'.all_name hxs hys h
  exact ⟨Identifier.ext hchars, hrest⟩

theorem segments_eq_of_append {segments segments' : List (Joint × Identifier)} {xs ys : List Char}
    (hxs : Stops inName xs) (hys : Stops inName ys)
    (h : segmentChars segments ++ xs = segmentChars segments' ++ ys) : segments = segments' ∧ xs = ys := by
  induction segments generalizing segments' with
  | nil =>
    cases segments' with
    | nil => exact ⟨rfl, h⟩
    | cons s segments' =>
      obtain rfl : xs = _ := h
      have := stops_cons.mp hxs
      rw [s.1.inName_char] at this
      cases this
  | cons s segments ih =>
    cases segments' with
    | nil =>
      obtain rfl : _ = ys := h
      have := stops_cons.mp hys
      rw [s.1.inName_char] at this
      cases this
    | cons s' segments' =>
      obtain ⟨joint, segment⟩ := s
      obtain ⟨joint', segment'⟩ := s'
      simp only [segmentChars, List.flatMap_cons, List.cons_append, List.append_assoc] at h
      obtain ⟨hjoint, hsegment⟩ := List.cons.inj h
      obtain ⟨rfl, hmore⟩ :=
        Identifier.eq_of_append (stops_segmentChars hxs) (stops_segmentChars hys) hsegment
      obtain ⟨rfl, hstop⟩ := ih hmore
      exact ⟨by rw [Joint.char_injective hjoint], hstop⟩

theorem QualifiedName.eq_of_append {q q' : QualifiedName} {xs ys : List Char} (hxs : Stops inName xs)
    (hys : Stops inName ys) (h : q.chars ++ xs = q'.chars ++ ys) : q = q' ∧ xs = ys := by
  obtain ⟨first, more⟩ := q
  obtain ⟨first', more'⟩ := q'
  simp only [QualifiedName.chars, List.append_assoc] at h
  obtain ⟨rfl, hmore⟩ := Identifier.eq_of_append (stops_segmentChars hxs) (stops_segmentChars hys) h
  obtain ⟨rfl, hstop⟩ := segments_eq_of_append hxs hys hmore
  exact ⟨rfl, hstop⟩

theorem suffixes_eq_of_append {suffixes suffixes' : List Suffix} {xs ys : List Char}
    (hxs : Stops continues xs) (hys : Stops continues ys)
    (h : suffixChars suffixes ++ xs = suffixChars suffixes' ++ ys) : suffixes = suffixes' ∧ xs = ys := by
  have hcontinues : ∀ s : Suffix, ∀ cs, ¬ Stops continues (s.chars ++ cs) := by
    intro s cs hstops
    cases s <;> exact absurd (stops_cons.mp hstops) (by decide)
  induction suffixes generalizing suffixes' with
  | nil =>
    cases suffixes' with
    | nil => exact ⟨rfl, h⟩
    | cons s suffixes' =>
      obtain rfl : xs = s.chars ++ _ ++ ys := h
      rw [List.append_assoc] at hxs
      exact absurd hxs (hcontinues s _)
  | cons s suffixes ih =>
    cases suffixes' with
    | nil =>
      obtain rfl : s.chars ++ _ ++ xs = ys := h
      rw [List.append_assoc] at hys
      exact absurd hys (hcontinues s _)
    | cons s' suffixes' =>
      simp only [suffixChars, List.flatMap_cons, List.append_assoc] at h
      -- Different suffixes differ in their first character.
      cases s <;> cases s' <;> simp only [Suffix.chars, List.cons_append, List.nil_append,
        List.cons.injEq, true_and, Char.reduceEq, false_and] at h
      all_goals
        obtain ⟨rfl, hstop⟩ := ih h
        exact ⟨rfl, hstop⟩

/-- Suffixes do not open a list of arguments. -/
theorem stops_open_suffixes {suffixes : List Suffix} {xs : List Char} (hxs : Stops continues xs) :
    Stops (· = '<') (suffixChars suffixes ++ xs) :=
  (stops_suffixChars (by decide) (by decide) suffixes).append (hxs.imp fun c hc => by
    simp only [continues, Bool.or_eq_false_iff] at hc
    exact hc.1.1.2)

theorem suffixChars_ne_arguments {suffixes : List Suffix} {args : Arguments} {xs ys : List Char}
    (hxs : Stops continues xs) : suffixChars suffixes ++ xs ≠ args.chars ++ ys := by
  intro h
  have hstops : Stops (· = '<') (suffixChars suffixes ++ xs) := stops_open_suffixes hxs
  obtain ⟨lead, first, more, trail⟩ := args
  rw [h] at hstops
  exact absurd (stops_cons.mp hstops) (by decide)

theorem stops_inName_suffixes {suffixes : List Suffix} {xs : List Char} (hxs : Stops continues xs) :
    Stops inName (suffixChars suffixes ++ xs) :=
  (stops_suffixChars (by decide) (by decide) suffixes).append (hxs.imp fun c => inName_eq_false_of_continues)

theorem Arguments.stops_inName (args : Arguments) (cs : List Char) : Stops inName (args.chars ++ cs) := by
  obtain ⟨lead, first, more, trail⟩ := args
  exact stops_cons.mpr (by decide)

mutual

/-- A reference and what follows it are determined by the text. -/
theorem Reference.eq_of_append : ∀ (r r' : Reference) {xs ys : List Char}, Stops continues xs →
    Stops continues ys → r.chars ++ xs = r'.chars ++ ys → r = r' ∧ xs = ys
  | .plain name suffixes, .plain name' suffixes', xs, ys, hxs, hys, h => by
    simp only [Reference.chars, List.append_assoc] at h
    obtain ⟨rfl, hsuffixes⟩ :=
      QualifiedName.eq_of_append (stops_inName_suffixes hxs) (stops_inName_suffixes hys) h
    obtain ⟨rfl, hstop⟩ := suffixes_eq_of_append hxs hys hsuffixes
    exact ⟨rfl, hstop⟩
  | .plain name suffixes, .generic name' args' suffixes', xs, ys, hxs, hys, h => by
    -- The names are the same, and only one of them has a bracket behind it.
    simp only [Reference.chars, List.append_assoc] at h
    obtain ⟨rfl, hrest⟩ := QualifiedName.eq_of_append (stops_inName_suffixes hxs) (args'.stops_inName _) h
    exact absurd hrest (suffixChars_ne_arguments hxs)
  | .generic name args suffixes, .plain name' suffixes', xs, ys, hxs, hys, h => by
    simp only [Reference.chars, List.append_assoc] at h
    obtain ⟨rfl, hrest⟩ := QualifiedName.eq_of_append (args.stops_inName _) (stops_inName_suffixes hys) h
    exact absurd hrest.symm (suffixChars_ne_arguments hys)
  | .generic name args suffixes, .generic name' args' suffixes', xs, ys, hxs, hys, h => by
    simp only [Reference.chars, List.append_assoc] at h
    obtain ⟨rfl, hargs⟩ := QualifiedName.eq_of_append (args.stops_inName _) (args'.stops_inName _) h
    obtain ⟨rfl, hsuffixes⟩ := Arguments.eq_of_append args args' hargs
    obtain ⟨rfl, hstop⟩ := suffixes_eq_of_append hxs hys hsuffixes
    exact ⟨rfl, hstop⟩

theorem Arguments.eq_of_append : ∀ (args args' : Arguments) {xs ys : List Char},
    args.chars ++ xs = args'.chars ++ ys → args = args' ∧ xs = ys
  | .mk lead first more trail, .mk lead' first' more' trail', xs, ys, h => by
    simp only [Arguments.chars, List.cons_append, List.append_assoc, List.nil_append] at h
    obtain ⟨rfl, hfirst⟩ := Spacing.eq_of_append (first.stops_isSpacing _) (first'.stops_isSpacing _)
      (List.cons.inj h).2
    obtain ⟨rfl, hmore⟩ :=
      Reference.eq_of_append first first' (more.stops trail xs) (more'.stops trail' ys) hfirst
    obtain ⟨rfl, rfl, hstop⟩ := MoreArguments.eq_of_append more more' hmore
    exact ⟨rfl, hstop⟩

/-- A comma or a bracket after the blanks says whether there are more arguments. -/
theorem MoreArguments.eq_of_append : ∀ (more more' : MoreArguments) {trail trail' : Spacing}
    {xs ys : List Char},
    more.chars ++ (trail.chars ++ '>' :: xs) = more'.chars ++ (trail'.chars ++ '>' :: ys) →
    more = more' ∧ trail = trail' ∧ xs = ys
  | .nil, .nil, trail, trail', xs, ys, h => by
    obtain ⟨rfl, hrest⟩ := Spacing.eq_of_append (stops_cons.mpr (by decide)) (stops_cons.mpr (by decide)) h
    exact ⟨rfl, rfl, (List.cons.inj hrest).2⟩
  | .nil, .cons before' after' arg' more', trail, trail', xs, ys, h => by
    simp only [MoreArguments.chars, List.nil_append, List.append_assoc, List.cons_append] at h
    obtain ⟨-, hrest⟩ := Spacing.eq_of_append (stops_cons.mpr (by decide)) (stops_cons.mpr (by decide)) h
    exact absurd (List.cons.inj hrest).1 (by decide)
  | .cons before after arg more, .nil, trail, trail', xs, ys, h => by
    simp only [MoreArguments.chars, List.nil_append, List.append_assoc, List.cons_append] at h
    obtain ⟨-, hrest⟩ := Spacing.eq_of_append (stops_cons.mpr (by decide)) (stops_cons.mpr (by decide)) h
    exact absurd (List.cons.inj hrest).1 (by decide)
  | .cons before after arg more, .cons before' after' arg' more', trail, trail', xs, ys, h => by
    simp only [MoreArguments.chars, List.append_assoc, List.cons_append] at h
    obtain ⟨rfl, hcomma⟩ := Spacing.eq_of_append (stops_cons.mpr (by decide)) (stops_cons.mpr (by decide)) h
    obtain ⟨rfl, harg⟩ := Spacing.eq_of_append (arg.stops_isSpacing _) (arg'.stops_isSpacing _)
      (List.cons.inj hcomma).2
    obtain ⟨rfl, hmore⟩ := Reference.eq_of_append arg arg' (more.stops trail xs) (more'.stops trail' ys) harg
    obtain ⟨rfl, rfl, hstop⟩ := MoreArguments.eq_of_append more more' hmore
    exact ⟨rfl, rfl, hstop⟩

end

/-- A text has at most one derivation. -/
theorem Phrase.eq_of_chars {p p' : Phrase} (h : p.chars = p'.chars) : p = p' := by
  obtain ⟨lead, reference, trail⟩ := p
  obtain ⟨lead', reference', trail'⟩ := p'
  obtain ⟨rfl, hrest⟩ :=
    Spacing.eq_of_append (reference.stops_isSpacing _) (reference'.stops_isSpacing _) h
  have hstops : ∀ sp : Spacing, Stops continues sp.chars := fun sp =>
    sp.stops fun c => continues_eq_false_of_isSpacing
  obtain ⟨rfl, htrail⟩ := Reference.eq_of_append reference reference' (hstops trail) (hstops trail') hrest
  rw [Spacing.ext htrail]

end WireTypes.Grammar
