import Mathlib
import WireTypes.Proofs.TypeRef.Rejected

/-!
# Blanks around brackets and commas

Blanks inside a reference stand behind an opening bracket, around commas and before a closing bracket, so that there is
always a place for more of them. There is none between a name and the bracket that opens its arguments, nor between the
bracket that closes them and a suffix.

* `Tolerated` : blanks around a bracket or comma that are in neither of these places;
* `Reference.exists_spaced`, `Phrase.exists_spaced` : such blanks can be put into a derivation;
* `Attached`, `Phrase.isChain_attached`, `Phrase.tolerated` : no other blanks are in a text that has one;
* `TypeRef.parse_spaced_iff` : with blanks put into it, a reference is read as before exactly if they are tolerated.
-/

namespace WireTypes

namespace Grammar

open TypeRef

/-! ## Places for blanks -/

/-- Whether `c` sets off arguments. -/
def isPunctuation (c : Char) : Bool := c = '<' || c = ',' || c = '>'

/-- Whether a suffix starts with `c`. -/
def startsSuffix (c : Char) : Bool := c = '[' || c = '?'

/-- Blanks before and after `c`, where `post` comes next, that part no name from its arguments and no arguments from a
suffix. -/
structure Tolerated (c : Char) (before after : Spacing) (post : List Char) : Prop where
  opening : c = '<' → before.chars = []
  closing : c = '>' → ¬Stops startsSuffix post → after.chars = []

theorem Stops.of_append {p : Char → Bool} {as bs : List Char} (h : Stops p (as ++ bs)) : Stops p as := by
  cases as with
  | nil => exact stops_nil p
  | cons a as => exact stops_cons.mpr (stops_cons.mp h)

theorem Tolerated.of_append {c : Char} {before after : Spacing} {post behind : List Char}
    (h : Tolerated c before after (post ++ behind)) : Tolerated c before after post where
  opening := h.opening
  closing hc hpost := h.closing hc (mt Stops.of_append hpost)

/-- One run of blanks behind another. -/
def Spacing.append (sp sp' : Spacing) : Spacing :=
  ⟨sp.chars ++ sp'.chars, List.forall_mem_append.mpr ⟨sp.all_spacing, sp'.all_spacing⟩⟩

theorem Spacing.chars_append (sp sp' : Spacing) : (sp.append sp').chars = sp.chars ++ sp'.chars := rfl

/-- The blanks that come to stand behind a piece, since nothing of it follows them. -/
def overflow (after : Spacing) (post : List Char) : Spacing := if post = [] then after else .none

theorem overflow_nil (after : Spacing) : overflow after [] = after := if_pos rfl

theorem overflow_of_ne_nil {post : List Char} (h : post ≠ []) (after : Spacing) :
    (overflow after post).chars = [] := by
  rw [overflow, if_neg h]
  rfl

/-! ## Pieces without brackets and commas -/

theorem isPunctuation_iff {c : Char} : isPunctuation c = true ↔ c = '<' ∨ c = ',' ∨ c = '>' := by
  simp [isPunctuation, or_assoc]

theorem Spacing.not_mem (sp : Spacing) {c : Char} (hc : isPunctuation c = true) : c ∉ sp.chars := by
  intro hmem
  have hspacing := sp.all_spacing c hmem
  rcases isPunctuation_iff.mp hc with rfl | rfl | rfl <;> exact absurd hspacing (by decide)

theorem QualifiedName.not_mem (q : QualifiedName) {c : Char} (hc : isPunctuation c = true) : c ∉ q.chars := by
  intro hmem
  have hname := q.inName_of_mem hmem
  rcases isPunctuation_iff.mp hc with rfl | rfl | rfl <;> exact absurd hname (by decide)

theorem not_mem_suffixChars (suffixes : List Suffix) {c : Char} (hc : isPunctuation c = true) :
    c ∉ suffixChars suffixes := by
  intro hmem
  obtain ⟨s, -, hs⟩ := List.mem_flatMap.mp hmem
  rcases isPunctuation_iff.mp hc with rfl | rfl | rfl <;> cases s <;> exact absurd hs (by decide)

/-! ## Where a character stands -/

/-- A character of two pieces is one of the first or of the second. -/
theorem split_append {as bs pre post : List Char} {c : Char} (h : as ++ bs = pre ++ c :: post) :
    (∃ rest, as = pre ++ c :: rest ∧ post = rest ++ bs) ∨ ∃ lead, pre = as ++ lead ∧ bs = lead ++ c :: post := by
  rcases List.append_eq_append_iff.mp h with ⟨lead, hpre, hbs⟩ | ⟨rest, has, hrest⟩
  · exact Or.inr ⟨lead, hpre, hbs⟩
  · cases rest with
    | nil => exact Or.inr ⟨[], by simpa using has.symm, by simpa using hrest.symm⟩
    | cons d rest =>
      obtain ⟨rfl, rfl⟩ := List.cons.inj hrest
      exact Or.inl ⟨rest, has, rfl⟩

theorem split_right {as bs pre post : List Char} {c : Char} (hc : c ∉ as) (h : as ++ bs = pre ++ c :: post) :
    ∃ lead, pre = as ++ lead ∧ bs = lead ++ c :: post := by
  rcases split_append h with ⟨rest, rfl, -⟩ | hright
  · exact absurd (List.mem_append_right _ List.mem_cons_self) hc
  · exact hright

theorem split_left {as bs pre post : List Char} {c : Char} (hc : c ∉ bs) (h : as ++ bs = pre ++ c :: post) :
    ∃ rest, as = pre ++ c :: rest ∧ post = rest ++ bs := by
  rcases split_append h with hleft | ⟨lead, -, rfl⟩
  · exact hleft
  · exact absurd (List.mem_append_right _ List.mem_cons_self) hc

/-! ## Derivations with more blanks -/

/-- Blanks behind an argument go to what may have blanks before it: the comma or the bracket that follows. -/
theorem exists_absorbed {arg : Reference} {sp : Spacing} {cs : List Char} (h : arg.chars ++ sp.chars = cs)
    (more : MoreArguments) (trail : Spacing) :
    ∃ (more' : MoreArguments) (trail' : Spacing),
      arg.chars ++ (more'.chars ++ trail'.chars) = cs ++ (more.chars ++ trail.chars) ∧ more'.trees = more.trees := by
  subst h
  cases more with
  | nil => exact ⟨.nil, sp.append trail, by simp [MoreArguments.chars, Spacing.chars_append], rfl⟩
  | cons before after arg' more =>
    refine ⟨.cons (sp.append before) after arg' more, trail, ?_, rfl⟩
    simp [MoreArguments.chars, Spacing.chars_append]

theorem Arguments.chars_mk (lead : Spacing) (first : Reference) (more : MoreArguments) (trail : Spacing) :
    (Arguments.mk lead first more trail).chars =
      '<' :: (lead.chars ++ ((first.chars ++ (more.chars ++ trail.chars)) ++ ['>'])) := by
  simp [Arguments.chars]

/-- No blanks are put between arguments and a suffix. -/
theorem Arguments.overflow_eq_nil {args : Arguments} {lead rest : List Char} {c : Char} {before after : Spacing}
    {s : Suffix} {suffixes : List Suffix} (hargs : args.chars = lead ++ c :: rest)
    (h : Tolerated c before after (rest ++ suffixChars (s :: suffixes))) : (overflow after rest).chars = [] := by
  by_cases hrest : rest = []
  · subst hrest
    have hclose : c = '>' := by
      obtain ⟨blanks, first, more, trail⟩ := args
      have hlast := congrArg List.getLast? hargs
      simpa [Arguments.chars, List.getLast?_append, List.getLast?_cons] using hlast.symm
    rw [overflow_nil]
    refine h.closing hclose fun hstops => ?_
    cases s <;> exact absurd (stops_cons.mp hstops) (by decide)
  · exact overflow_of_ne_nil hrest after

mutual

/-- Tolerated blanks may be put around a bracket or comma of a reference. Those behind its last character follow it. -/
theorem Reference.exists_spaced : ∀ (r : Reference) {pre post : List Char} {c : Char} {before after : Spacing},
    isPunctuation c = true → Tolerated c before after post → r.chars = pre ++ c :: post →
    ∃ r' : Reference, r'.chars ++ (overflow after post).chars = pre ++ (before.chars ++ c :: (after.chars ++ post)) ∧
      r'.tree = r.tree
  | .plain name suffixes, pre, post, c, before, after, hc, _, h => by
    obtain ⟨lead, -, hsuffixes⟩ := split_right (name.not_mem hc) h
    exact absurd (hsuffixes ▸ List.mem_append_right _ List.mem_cons_self) (not_mem_suffixChars suffixes hc)
  | .generic name args suffixes, pre, post, c, before, after, hc, htol, h => by
    obtain ⟨lead, rfl, hrest⟩ := split_right (name.not_mem hc) h
    obtain ⟨rest, hargs, rfl⟩ := split_left (not_mem_suffixChars suffixes hc) hrest
    obtain ⟨args', hargs', htrees⟩ := args.exists_spaced hc htol.of_append hargs
    refine ⟨.generic name args' suffixes, ?_, by rw [Reference.tree, htrees]; rfl⟩
    cases suffixes with
    | nil => simpa [Reference.chars, suffixChars] using hargs'
    | cons s suffixes =>
      rw [Arguments.overflow_eq_nil hargs htol, List.append_nil] at hargs'
      have hne : rest ++ suffixChars (s :: suffixes) ≠ [] := by cases s <;> simp [suffixChars, Suffix.chars]
      rw [overflow_of_ne_nil hne, Reference.chars, hargs']
      simp

theorem Arguments.exists_spaced : ∀ (args : Arguments) {pre post : List Char} {c : Char} {before after : Spacing},
    isPunctuation c = true → Tolerated c before after post → args.chars = pre ++ c :: post →
    ∃ args' : Arguments,
      args'.chars ++ (overflow after post).chars = pre ++ (before.chars ++ c :: (after.chars ++ post)) ∧
        args'.trees = args.trees
  | .mk lead first more trail, [], post, c, before, after, hc, htol, h => by
    -- The opening bracket.
    obtain ⟨rfl, rfl⟩ := List.cons.inj h
    refine ⟨.mk (after.append lead) first more trail, ?_, rfl⟩
    rw [overflow_of_ne_nil (by simp), htol.opening rfl]
    simp [Arguments.chars, Spacing.chars_append]
  | .mk lead first more trail, d :: pre, post, c, before, after, hc, htol, h => by
    obtain ⟨rfl, hbody⟩ := List.cons.inj h
    obtain ⟨inner, rfl, hinner⟩ := split_right (lead.not_mem hc) hbody
    rcases split_append hinner with ⟨rest, hfirst, rfl⟩ | ⟨behind, rfl, hbehind⟩
    · -- In the first argument.
      obtain ⟨first', hfirst', htree⟩ := first.exists_spaced hc htol.of_append hfirst
      obtain ⟨more', trail', hmore, htrees⟩ := exists_absorbed hfirst' more trail
      refine ⟨.mk lead first' more' trail', ?_, by rw [Arguments.trees, htree, htrees]; rfl⟩
      rw [overflow_of_ne_nil (by simp), Arguments.chars_mk, hmore]
      simp
    rw [← List.append_assoc] at hbehind
    rcases split_append hbehind with ⟨rest, hmore, rfl⟩ | ⟨close, rfl, hclose⟩
    · -- In the arguments that follow, or in front of one of them.
      obtain ⟨more', trail', hmore', htrees⟩ := more.exists_spaced hc htol.of_append hmore
      refine ⟨.mk lead first more' trail', ?_, by rw [Arguments.trees, htrees]; rfl⟩
      rw [overflow_of_ne_nil (by simp), Arguments.chars_mk, hmore']
      simp
    · -- The closing bracket.
      obtain ⟨rfl, rfl, rfl⟩ : close = [] ∧ c = '>' ∧ post = [] := by
        simpa [List.cons_eq_append_iff] using hclose
      refine ⟨.mk lead first more (trail.append before), ?_, rfl⟩
      rw [overflow_nil]
      simp [Arguments.chars, Spacing.chars_append]

theorem MoreArguments.exists_spaced : ∀ (more : MoreArguments) {trail : Spacing} {pre post : List Char} {c : Char}
    {before after : Spacing}, isPunctuation c = true → Tolerated c before after post →
    more.chars ++ trail.chars = pre ++ c :: post →
    ∃ (more' : MoreArguments) (trail' : Spacing),
      more'.chars ++ trail'.chars = pre ++ (before.chars ++ c :: (after.chars ++ post)) ∧ more'.trees = more.trees
  | .nil, trail, pre, post, c, before, after, hc, _, h => by
    obtain ⟨lead, -, hnil⟩ := split_right (trail.not_mem hc) ((List.append_nil trail.chars).trans h)
    exact absurd hnil.symm (by simp)
  | .cons before' after' arg more, trail, pre, post, c, before, after, hc, htol, h => by
    rw [MoreArguments.chars, List.append_assoc, List.cons_append, List.append_assoc, List.append_assoc] at h
    obtain ⟨inner, rfl, hinner⟩ := split_right (before'.not_mem hc) h
    have hlist : [','] ++ (after'.chars ++ (arg.chars ++ (more.chars ++ trail.chars))) = inner ++ c :: post := hinner
    rcases split_append hlist with ⟨rest, hcomma, rfl⟩ | ⟨behind, rfl, hbehind⟩
    · -- The comma.
      obtain ⟨rfl, rfl, rfl⟩ : inner = [] ∧ c = ',' ∧ rest = [] := by
        simpa [List.cons_eq_append_iff] using hcomma
      refine ⟨.cons (before'.append before) (after.append after') arg more, trail, ?_, rfl⟩
      simp [MoreArguments.chars, Spacing.chars_append]
    obtain ⟨inArgs, rfl, hinArgs⟩ := split_right (after'.not_mem hc) hbehind
    rcases split_append hinArgs with ⟨rest, harg, rfl⟩ | ⟨inMore, rfl, hinMore⟩
    · -- In the argument.
      obtain ⟨arg', harg', htree⟩ := arg.exists_spaced hc htol.of_append harg
      obtain ⟨more', trail', hmore, htrees⟩ := exists_absorbed harg' more trail
      refine ⟨.cons before' after' arg' more', trail', ?_, by rw [MoreArguments.trees, htree, htrees]; rfl⟩
      simp [MoreArguments.chars, hmore]
    · -- In those that follow.
      obtain ⟨more', trail', hmore, htrees⟩ := more.exists_spaced hc htol hinMore
      refine ⟨.cons before' after' arg more', trail', ?_, by rw [MoreArguments.trees, htrees]; rfl⟩
      simp [MoreArguments.chars, hmore]

end

/-- Tolerated blanks may be put around a bracket or comma of a text. -/
theorem Phrase.exists_spaced (p : Phrase) {pre post : List Char} {c : Char} {before after : Spacing}
    (hc : isPunctuation c = true) (htol : Tolerated c before after post) (h : p.chars = pre ++ c :: post) :
    ∃ p' : Phrase, p'.chars = pre ++ (before.chars ++ c :: (after.chars ++ post)) ∧ p'.tree = p.tree := by
  obtain ⟨lead, r, trail⟩ := p
  obtain ⟨inner, rfl, hinner⟩ := split_right (lead.not_mem hc) h
  obtain ⟨rest, hr, rfl⟩ := split_left (trail.not_mem hc) hinner
  obtain ⟨r', hr', htree⟩ := r.exists_spaced hc htol.of_append hr
  refine ⟨⟨lead, r', (overflow after rest).append trail⟩, ?_, htree⟩
  calc lead.chars ++ (r'.chars ++ ((overflow after rest).chars ++ trail.chars))
      = lead.chars ++ ((r'.chars ++ (overflow after rest).chars) ++ trail.chars) := by rw [List.append_assoc]
    _ = _ := by simp [hr']

/-! ## Places without blanks -/

/-- Whether `c` is written directly behind what it goes with: an opening bracket behind a name, a suffix behind a
reference. -/
def attaches (c : Char) : Bool := c = '<' || startsSuffix c

/-- What attaches does not stand behind a blank. -/
def Attached (a b : Char) : Prop := attaches b = true → isSpacing a = false

theorem isChain_attached_of_forall {cs : List Char} (h : ∀ c ∈ cs, isSpacing c = false) : cs.IsChain Attached := by
  refine (List.pairwise_of_forall_mem_list fun a ha b _ => ?_).isChain
  exact fun _ => h a ha

/-- Anything may follow what ends in no blank. -/
theorem Tight.isChain_append {as bs : List Char} (htight : Tight as) (has : as.IsChain Attached)
    (hbs : bs.IsChain Attached) : (as ++ bs).IsChain Attached :=
  List.isChain_append.mpr ⟨has, hbs, fun a ha _ _ _ => htight a ha⟩

/-- Blanks may be followed by what does not attach. -/
theorem Spacing.isChain_append (sp : Spacing) {cs : List Char} (hcs : cs.IsChain Attached)
    (hstops : Stops attaches cs) : (sp.chars ++ cs).IsChain Attached := by
  have hattaches : ∀ b ∈ sp.chars, attaches b = false := fun b hb => by
    rcases isSpacing_iff.mp (sp.all_spacing b hb) with rfl | rfl | rfl | rfl <;> decide
  have hsp : sp.chars.IsChain Attached := by
    refine (List.pairwise_of_forall_mem_list fun a _ b hb => ?_).isChain
    exact fun h => absurd h (by simp [hattaches b hb])
  refine List.isChain_append.mpr ⟨hsp, hcs, fun a _ b hb h => ?_⟩
  rw [hstops b hb] at h
  cases h

theorem QualifiedName.isChain_attached (q : QualifiedName) : q.chars.IsChain Attached :=
  isChain_attached_of_forall fun _ => q.isSpacing_eq_false_of_mem

theorem isChain_attached_suffixChars (suffixes : List Suffix) : (suffixChars suffixes).IsChain Attached :=
  isChain_attached_of_forall fun _ => isSpacing_eq_false_of_mem_suffixChars

theorem Reference.stops_attaches (r : Reference) (cs : List Char) : Stops attaches (r.chars ++ cs) := by
  obtain ⟨c, more, hchars, hc⟩ := r.exists_cons
  rw [hchars]
  refine stops_cons.mpr (Bool.eq_false_iff.mpr fun hattaches => ?_)
  simp only [attaches, startsSuffix, Bool.or_eq_true, decide_eq_true_eq] at hattaches
  rcases hattaches with rfl | rfl | rfl <;> exact absurd hc (by decide)

mutual

theorem Reference.isChain_attached : ∀ r : Reference, r.chars.IsChain Attached
  | .plain name suffixes => name.tight.isChain_append name.isChain_attached (isChain_attached_suffixChars suffixes)
  | .generic name args suffixes =>
    name.tight.isChain_append name.isChain_attached
      (args.tight.isChain_append args.isChain_attached (isChain_attached_suffixChars suffixes))

theorem Arguments.isChain_attached : ∀ args : Arguments, args.chars.IsChain Attached
  | .mk lead first more trail => by
    have hopen : Tight ['<'] := tight_of_forall (by simp [isSpacing])
    have hfirst := first.tight.isChain_append first.isChain_attached (more.isChain_attached trail)
    exact hopen.isChain_append (.singleton _) (lead.isChain_append hfirst (first.stops_attaches _))

/-- The further arguments are taken with the bracket behind them, since they may be none. -/
theorem MoreArguments.isChain_attached : ∀ (more : MoreArguments) (trail : Spacing),
    (more.chars ++ (trail.chars ++ ['>'])).IsChain Attached
  | .nil, trail => trail.isChain_append (.singleton _) (stops_cons.mpr (by decide))
  | .cons before after arg more, trail => by
    have hcomma : Tight [','] := tight_of_forall (by simp [isSpacing])
    have harg := arg.tight.isChain_append arg.isChain_attached (more.isChain_attached trail)
    have hafter := hcomma.isChain_append (.singleton _) (after.isChain_append harg (arg.stops_attaches _))
    have hbefore := before.isChain_append hafter (stops_cons.mpr (by decide))
    simpa [MoreArguments.chars] using hbefore

end

theorem Phrase.isChain_attached (p : Phrase) : p.chars.IsChain Attached := by
  obtain ⟨lead, r, trail⟩ := p
  have htrail : trail.chars.IsChain Attached := by
    simpa using trail.isChain_append .nil (stops_nil _)
  exact lead.isChain_append (r.tight.isChain_append r.isChain_attached htrail) (r.stops_attaches _)

theorem Spacing.eq_nil_of_isChain {sp : Spacing} {as bs : List Char} {c : Char} (hc : attaches c = true)
    (h : (as ++ sp.chars ++ c :: bs).IsChain Attached) : sp.chars = [] := by
  rcases List.eq_nil_or_concat sp.chars with hnil | ⟨init, d, hsp⟩
  · exact hnil
  · have hd : isSpacing d = true := sp.all_spacing d (by simp [hsp])
    have hlast : d ∈ (as ++ sp.chars).getLast? := by simp [hsp]
    rw [(List.isChain_append.mp h).2.2 d hlast c rfl hc] at hd
    cases hd

/-- In a text that is derived, all blanks are tolerated. -/
theorem Phrase.tolerated {p : Phrase} {pre post : List Char} {c : Char} {before after : Spacing}
    (h : p.chars = pre ++ (before.chars ++ c :: (after.chars ++ post))) : Tolerated c before after post := by
  have hchain := p.isChain_attached
  rw [h] at hchain
  constructor
  · rintro rfl
    rw [← List.append_assoc] at hchain
    exact before.eq_nil_of_isChain (by decide) hchain
  · intro _ hpost
    cases post with
    | nil => exact absurd (stops_nil _) hpost
    | cons d post =>
      have hd : startsSuffix d = true := by simpa [stops_cons] using hpost
      have hregroup : pre ++ (before.chars ++ c :: (after.chars ++ d :: post)) =
          pre ++ (before.chars ++ [c]) ++ after.chars ++ d :: post := by simp
      rw [hregroup] at hchain
      exact after.eq_nil_of_isChain (by simp [attaches, hd]) hchain

end Grammar

namespace TypeRef

open Grammar

/-- **With blanks put around a bracket or comma, a reference is read as before exactly if the blanks are tolerated.**
They are unless they part a name from its arguments or arguments from a suffix, and nothing is read then. -/
theorem parse_spaced_iff {s : String} {t : TypeRef} {pre post : List Char} {c : Char} (h : parse s = .ok t)
    (hs : s.toList = pre ++ c :: post) (hc : c = '<' ∨ c = ',' ∨ c = '>') (before after : Spacing) :
    let spaced := String.ofList (pre ++ (before.chars ++ c :: (after.chars ++ post)))
    (parse spaced = .ok t ↔ Tolerated c before after post) ∧ ∀ t', parse spaced = .ok t' → t' = t := by
  intro spaced
  have htolerated : ∀ t', parse spaced = .ok t' → Tolerated c before after post := by
    intro t' hread
    obtain ⟨p', hchars, -⟩ := exists_phrase_of_parse hread
    exact Phrase.tolerated (hchars.trans String.toList_ofList)
  have hsame : Tolerated c before after post → parse spaced = .ok t := by
    intro htol
    obtain ⟨p, hchars, rfl⟩ := exists_phrase_of_parse h
    obtain ⟨p', hchars', htree⟩ := p.exists_spaced (isPunctuation_iff.mpr hc) htol (hchars.trans hs)
    rw [parse_chars p' (String.toList_ofList.trans hchars'.symm), htree]
  refine ⟨⟨htolerated t, hsame⟩, fun t' hread => ?_⟩
  have hread' := hsame (htolerated t' hread)
  rw [hread] at hread'
  exact Except.ok.inj hread'

/-- A map to arrays of lists. -/
def listedMap : TypeRef := .generic "Map" [.named "int", .array (.generic "List" [.named "Order"])]

/-- A line break and a tab. -/
def lineBreak : Spacing := ⟨['\n', '\t'], by simp [isSpacing]⟩

/-- Arguments may be closed on a new line, with the suffix behind the bracket. -/
theorem parse_spaced_listedMap :
    parse "Map<int,List<Order>[]>" = .ok listedMap ∧
      "Map<int,List<Order>[]>".toList = "Map<int,List<Order".toList ++ '>' :: "[]>".toList ∧
      Tolerated '>' lineBreak .none "[]>".toList ∧ parse "Map<int,List<Order\n\t>[]>" = .ok listedMap := by
  have hread : parse "Map<int,List<Order>[]>" = .ok listedMap := by cbv
  have htext : "Map<int,List<Order>[]>".toList = "Map<int,List<Order".toList ++ '>' :: "[]>".toList := by decide +kernel
  have htol : Tolerated '>' lineBreak .none "[]>".toList := ⟨by simp, fun _ _ => rfl⟩
  have hspaced := (parse_spaced_iff hread htext (by simp) lineBreak .none).1.mpr htol
  exact ⟨hread, htext, htol, hspaced⟩

/-- A blank before the bracket that opens arguments, or behind the one that closes them and before a suffix, ends the
reference. -/
theorem parse_parted_list :
    let list := TypeRef.generic "List" [.named "int"]
    (parse "List<int>" = .ok list ∧ parse "List <int>" = .error ⟨"List <int>", .leftOver "<int>"⟩) ∧
      parse "List<int>[]" = .ok (.array list) ∧ parse "List<int> []" = .error ⟨"List<int> []", .leftOver "[]"⟩ :=
  ⟨⟨by cbv, by cbv⟩, by cbv, by cbv⟩

end TypeRef

end WireTypes
