import WireTypes.Proofs.TypeRef.Names
import WireTypes.Proofs.TypeRef.Parse

/-!
# Written references are read back

What is written of a reference is a text of the grammar with no blank but the one after each comma. Reading
it therefore gives the reference back.

* `TypeRef.WellFormed` : the references whose names can be written;
* `Reference.withSuffix` : one suffix more;
* `exists_arguments`, `exists_reference` : the written reference has a derivation;
* `TypeRef.parse_toText` : it is read back.
-/

namespace WireTypes

namespace TypeRef

open Grammar

/-! ## References that can be written -/

/-- Whether a name consists of segments of name characters, with a joint between each two. -/
def IsQualified (name : String) : Prop := ∃ q : QualifiedName, q.text = name

/-- All names are qualified, those of generic types without arity, and generic types have arguments. -/
inductive WellFormed : TypeRef → Prop
  | named {name : String} : IsQualified name → WellFormed (.named name)
  | array {element : TypeRef} : WellFormed element → WellFormed (.array element)
  | generic {name : String} {args : List TypeRef} : IsQualified name → arityMark ∉ name.toList →
      args ≠ [] → (∀ arg ∈ args, WellFormed arg) → WellFormed (.generic name args)

theorem isQualified_of_readName {name : String} (h : readName name.toList = some (name, [])) :
    IsQualified name := by
  obtain ⟨q, -, hq⟩ := exists_name_of_readName h
  exact ⟨q, hq⟩

theorem argsText_cons_cons (arg next : TypeRef) (args : List TypeRef) :
    argsText (arg :: next :: args) = arg.toText ++ ", " ++ argsText (next :: args) := rfl

end TypeRef

namespace Grammar

open TypeRef

/-! ## Derivations of what is written -/

/-- The reference with one suffix more. -/
def Reference.withSuffix (s : Suffix) : Reference → Reference
  | .plain name suffixes => .plain name (suffixes ++ [s])
  | .generic name args suffixes => .generic name args (suffixes ++ [s])

theorem Reference.chars_withSuffix (s : Suffix) (r : Reference) :
    (r.withSuffix s).chars = r.chars ++ s.chars := by
  cases r <;> simp [withSuffix, chars, suffixChars]

theorem Reference.tree_withSuffix (s : Suffix) (r : Reference) : (r.withSuffix s).tree = s.apply r.tree := by
  cases r <;> simp [withSuffix, tree]

/-- No blank. -/
def Spacing.none : Spacing := ⟨[], by simp⟩

/-- One blank. -/
def Spacing.blank : Spacing := ⟨[' '], List.forall_mem_singleton.mpr (by decide)⟩

theorem QualifiedName.toList_text (q : QualifiedName) : q.text.toList = q.chars := String.toList_ofList

/-- Arguments that have derivations are derived together, with a comma and a blank between each two. -/
theorem exists_arguments {arg : TypeRef} {args : List TypeRef}
    (h : ∀ a ∈ arg :: args, ∃ r : Reference, r.chars = a.toText.toList ∧ r.tree = a) :
    ∃ (first : Reference) (more : MoreArguments),
      first.chars ++ more.chars = (argsText (arg :: args)).toList ∧ first.tree = arg ∧ more.trees = args := by
  obtain ⟨first, hchars, htree⟩ := h arg List.mem_cons_self
  induction args generalizing arg first with
  | nil =>
    refine ⟨first, .nil, ?_, htree, rfl⟩
    rw [hchars, MoreArguments.chars, List.append_nil]
    rfl
  | cons next args ih =>
    obtain ⟨second, hsecond, hnext⟩ := h next (by simp)
    have hrest : ∀ a ∈ next :: args, ∃ r : Reference, r.chars = a.toText.toList ∧ r.tree = a :=
      fun a ha => h a (List.mem_cons_of_mem _ ha)
    obtain ⟨r, more, hmore, htree', htrees⟩ := ih hrest second hsecond hnext
    refine ⟨first, .cons .none .blank r more, ?_, htree, by rw [MoreArguments.trees, htree', htrees]⟩
    rw [argsText_cons_cons, String.toList_append, String.toList_append, ← hmore, hchars]
    simp [MoreArguments.chars, Spacing.none, Spacing.blank]

/-- What is written of a reference has a derivation. -/
theorem exists_reference {t : TypeRef} (h : t.WellFormed) :
    ∃ r : Reference, r.chars = t.toText.toList ∧ r.tree = t := by
  induction h with
  | named hname =>
    obtain ⟨q, rfl⟩ := hname
    refine ⟨.plain q [], ?_, rfl⟩
    rw [Reference.chars, toText, q.toList_text]
    exact List.append_nil _
  | array _ ih =>
    obtain ⟨r, hchars, rfl⟩ := ih
    refine ⟨r.withSuffix .array, ?_, r.tree_withSuffix .array⟩
    rw [r.chars_withSuffix, hchars, toText, String.toList_append]
    rfl
  | @generic name args hname hmark hne _ ih =>
    obtain ⟨q, rfl⟩ := hname
    obtain ⟨arg, args, rfl⟩ := List.exists_cons_of_ne_nil hne
    obtain ⟨first, more, hchars, rfl, rfl⟩ := exists_arguments ih
    refine ⟨.generic q (.mk .none first more .none) [], ?_, ?_⟩
    · have htext : (toText (.generic q.text (first.tree :: more.trees))).toList =
          q.chars ++ '<' :: (first.chars ++ more.chars ++ ['>']) := by
        rw [toText, String.toList_append, String.toList_append, String.toList_append, ← hchars, q.toList_text]
        simp
      rw [htext]
      simp [Reference.chars, Arguments.chars, Spacing.none, suffixChars]
    · rw [Reference.tree, stripArity_of_not_mem hmark]
      rfl

end Grammar

namespace TypeRef

open Grammar

/-- **A reference in writing is read back as it was**, however deep it nests. -/
theorem parse_toText {t : TypeRef} (h : t.WellFormed) : parse t.toText = .ok t := by
  obtain ⟨r, hchars, htree⟩ := exists_reference h
  have hphrase : t.toText.toList = (⟨.none, r, .none⟩ : Phrase).chars := by
    simp [Phrase.chars, Spacing.none, hchars]
  rw [parse_chars _ hphrase, Phrase.tree, htree]

/-- A map from a nested generic definition to jagged arrays of nullable numbers. -/
def nestedMap : TypeRef :=
  .generic "System.Map" [.named "Shop.Outer+Inner`1", .array (.array (nullable (.named "int")))]

theorem wellFormed_nestedMap : nestedMap.WellFormed := by
  have hname : ∀ name ∈ ["System.Map", "Shop.Outer+Inner`1", nullableName, "int"], IsQualified name := by
    intro name hname
    apply isQualified_of_readName
    revert name
    decide +kernel
  have hint : (nullable (.named "int")).WellFormed :=
    .generic (hname _ (by simp)) (by decide +kernel) (by simp) (by simpa using .named (hname _ (by simp)))
  refine .generic (hname _ (by simp)) (by decide +kernel) (by simp) ?_
  simp only [List.mem_cons, List.not_mem_nil, or_false, forall_eq_or_imp, forall_eq]
  exact ⟨.named (hname _ (by simp)), .array (.array hint)⟩

/-- It is written with all that the grammar has but blanks at places of choice, and read back. -/
theorem parse_toText_nestedMap : nestedMap.WellFormed ∧
    nestedMap.toText = "System.Map<Shop.Outer+Inner`1, System.Nullable<int>[][]>" ∧
    parse nestedMap.toText = .ok nestedMap :=
  ⟨wellFormed_nestedMap, by decide +kernel, parse_toText wellFormed_nestedMap⟩

end TypeRef

end WireTypes
