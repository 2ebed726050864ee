import Mathlib
import WireTypes.Proofs.TypeRef.RoundTrip

/-!
# Names of generic references

A generic reference that is read has its name cut at the first arity in it. Where that is the arity of the last
segment, the name keeps its segments and its simple name. An arity of an earlier segment takes the segments behind it
with it, so that a generic type nested in another one is read as the outer type.

* `QualifiedName.segmentCount_text` : the segments of a qualified name are those that it is derived with;
* `parse_generic_name` : the names that are kept;
* `TypeRef.parts`, `TypeRef.Unmarked`, `unmarked_of_parse` : no generic part of what is read has an arity left.
-/

namespace WireTypes

namespace Grammar

open TypeRef

theorem isSegmentBreak_eq_false_of_isNameChar {c : Char} (h : isNameChar c = true) : isSegmentBreak c = false := by
  cases hbreak : isSegmentBreak c with
  | false => rfl
  | true =>
    obtain ⟨joint, rfl⟩ := exists_joint hbreak
    rw [joint.isNameChar_char] at h
    cases h

theorem Identifier.countP_isSegmentBreak (i : Identifier) : i.chars.countP isSegmentBreak = 0 :=
  List.countP_eq_zero.mpr fun c hc => by simp [isSegmentBreak_eq_false_of_isNameChar (i.all_name c hc)]

theorem countP_segmentChars (segments : List (Joint × Identifier)) :
    (segmentChars segments).countP isSegmentBreak = segments.length := by
  induction segments with
  | nil => rfl
  | cons s segments ih =>
    obtain ⟨joint, segment⟩ := s
    rw [segmentChars, List.flatMap_cons, ← segmentChars, List.countP_append, ih, List.countP_cons,
      segment.countP_isSegmentBreak, if_pos joint.isSegmentBreak_char, List.length_cons]
    omega

/-- The segments of a qualified name are counted by its segment breaks. -/
theorem QualifiedName.segmentCount_text (q : QualifiedName) : segmentCount q.text = q.more.length + 1 := by
  rw [segmentCount, q.toList_text, QualifiedName.chars, List.countP_append, q.first.countP_isSegmentBreak,
    countP_segmentChars, Nat.zero_add]

/-- The text that is derived. -/
def Phrase.text (p : Phrase) : String := String.ofList p.chars

end Grammar

namespace TypeRef

open Grammar

/-- **A generic reference keeps its name if only the last segment has an arity.** A qualified name with arguments, and
with blanks around it, is read as the generic type of that name up to its first arity. This has the segments and the
simple name of the qualified name exactly if there is no arity before the last segment. -/
theorem parse_generic_name (lead trail : Spacing) (q : QualifiedName) (args : Grammar.Arguments) :
    let text := (⟨lead, .generic q args [], trail⟩ : Phrase).text
    let read := TypeRef.generic (stripArity q.text) args.trees
    parse text = .ok read ∧
      (segmentCount (stripArity q.text) = q.more.length + 1 ∧ read.simpleName = WireTypes.simpleName q.text ↔
        arityMark ∉ (qualifier q.text).toList) := by
  intro text read
  refine ⟨parse_chars _ String.toList_ofList, ?_⟩
  rw [← q.segmentCount_text]
  exact stripArity_keeps_iff q.text

/-- The type nested in a generic one is lost. -/
theorem parse_nested_generic :
    let outer := TypeRef.generic "Outer" [.named "T"]
    parse "Outer`1+Inner`1<T>" = .ok outer ∧
      outer.simpleName = "Outer" ∧ WireTypes.simpleName "Outer`1+Inner`1" = "Inner" ∧
      segmentCount "Outer" = 1 ∧ segmentCount "Outer`1+Inner`1" = 2 :=
  ⟨by cbv, by decide +kernel, by decide +kernel, by decide +kernel, by decide +kernel⟩

/-! ## Parts of references -/

mutual

/-- The reference and those that it is made of, at any depth. -/
def parts : TypeRef → List TypeRef
  | .named name => [.named name]
  | .array element => .array element :: element.parts
  | .generic name args => .generic name args :: partsOfAll args

/-- The parts of several references. -/
def partsOfAll : List TypeRef → List TypeRef
  | [] => []
  | arg :: args => arg.parts ++ partsOfAll args

end

theorem mem_partsOfAll {t : TypeRef} {args : List TypeRef} : t ∈ partsOfAll args ↔ ∃ arg ∈ args, t ∈ arg.parts := by
  induction args with
  | nil => simp [partsOfAll]
  | cons arg args ih => simp [partsOfAll, ih]

/-- No generic type in the reference has an arity in its name. -/
def Unmarked (t : TypeRef) : Prop := ∀ name args, .generic name args ∈ t.parts → arityMark ∉ name.toList

theorem unmarked_named (name : String) : (named name).Unmarked := by
  intro name' args h
  simp [parts] at h

theorem unmarked_array {element : TypeRef} (h : element.Unmarked) : (array element).Unmarked := by
  intro name args hpart
  rcases List.mem_cons.mp hpart with heq | hpart
  · cases heq
  · exact h name args hpart

theorem unmarked_generic {name : String} {args : List TypeRef} (hname : arityMark ∉ name.toList)
    (hargs : ∀ arg ∈ args, arg.Unmarked) : (generic name args).Unmarked := by
  intro name' args' hpart
  rcases List.mem_cons.mp hpart with heq | hpart
  · obtain ⟨rfl, -⟩ := TypeRef.generic.inj heq
    exact hname
  · obtain ⟨arg, harg, hpart⟩ := mem_partsOfAll.mp hpart
    exact hargs arg harg name' args' hpart

theorem unmarked_foldl_apply {t : TypeRef} (h : t.Unmarked) (suffixes : List Suffix) :
    (suffixes.foldl Suffix.apply t).Unmarked := by
  induction suffixes generalizing t with
  | nil => exact h
  | cons s suffixes ih =>
    refine ih ?_
    cases s with
    | array => exact unmarked_array h
    | nullable => exact unmarked_generic (by decide +kernel) (List.forall_mem_singleton.mpr h)

end TypeRef

namespace Grammar

open TypeRef

mutual

theorem Reference.unmarked_tree : ∀ r : Reference, r.tree.Unmarked
  | .plain _ suffixes => unmarked_foldl_apply (unmarked_named _) suffixes
  | .generic _ args suffixes =>
    unmarked_foldl_apply (unmarked_generic (arityMark_not_mem_stripArity _) args.unmarked_trees) suffixes

theorem Arguments.unmarked_trees : ∀ args : Arguments, ∀ t ∈ args.trees, t.Unmarked
  | .mk _ first more _ => List.forall_mem_cons.mpr ⟨first.unmarked_tree, more.unmarked_trees⟩

theorem MoreArguments.unmarked_trees : ∀ more : MoreArguments, ∀ t ∈ more.trees, t.Unmarked
  | .nil => fun _ h => absurd h List.not_mem_nil
  | .cons _ _ arg more => List.forall_mem_cons.mpr ⟨arg.unmarked_tree, more.unmarked_trees⟩

end

end Grammar

/-- What is read has no arity left in the name of a generic type. -/
theorem TypeRef.unmarked_of_parse {text : String} {t : TypeRef} (h : parse text = .ok t) : t.Unmarked := by
  obtain ⟨p, -, rfl⟩ := Grammar.exists_phrase_of_parse h
  exact p.reference.unmarked_tree

end WireTypes
