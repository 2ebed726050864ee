import WireTypes.Proofs.Catalog.Appended
import WireTypes.Proofs.TypeRef.Generic

/-!
# Arities of generic types

A generic reference is looked up under its name with the number of its arguments and then under its name alone. As a
full name, what is found has just that arity, or none in its name. The rule for simple names does not look at
arities, so that by it a reference may mean a generic type with parameters of another number.

* `arity?`, `arity?_definitionName`, `arity?_eq_none` : the arity in a full name;
* `Descriptor.parts`, `parts_resolve` : the meaning of a reference is made of the meanings of its parts;
* `Descriptor.KeepsArity` : an instance with as many arguments as its definition has parameters;
* `Catalog.MeansSimply`, `Catalog.MistakesArity` : the generic references whose meaning the rule for simple names
  gives, and those of which it gets the arity wrong;
* `definition_cases` : how a definition is found;
* `keepsArity_resolve_iff` : the parts of a reference that keep the arity.
-/

namespace WireTypes

/-! ## Arities in names -/

/-- The number behind the arity mark that the last segment of a full name ends in. -/
def arity? (full : String) : Option Nat :=
  let segment := (lastSegment full).toList
  let digits := segment.rtakeWhile Char.isDigit
  if digits ≠ [] ∧ (segment.rdropWhile Char.isDigit).getLast? = some arityMark then
    some (Nat.ofDigitChars 10 digits 0)
  else none

theorem arity?_eq_none {full : String} (h : arityMark ∉ full.toList) : arity? full = none := by
  unfold arity?
  refine if_neg fun hend => h ?_
  rw [← qualifier_append_lastSegment full]
  exact List.mem_append_right _ ((List.rdropWhile_prefix _ _).subset (List.mem_of_getLast? hend.2))

theorem isSegmentBreak_eq_false_of_isDigit {c : Char} (h : c.isDigit = true) : isSegmentBreak c = false := by
  have hbreak : isSegmentBreak c = true → c = '.' ∨ c = '+' := by simp [isSegmentBreak]
  rw [Bool.eq_false_iff]
  intro hc
  rcases hbreak hc with rfl | rfl <;> exact absurd h (by decide)

/-- A full name that ends in an arity has this arity. -/
theorem arity?_definitionName (name : String) (n : Nat) : arity? (name ++ "`" ++ toString n) = some n := by
  have hdigit : ∀ c ∈ (Nat.toDigits 10 n).reverse, c.isDigit = true := fun c hc =>
    Nat.isDigit_of_mem_toDigits (by decide) (by decide) (List.mem_reverse.mp hc)
  have hchars : ("`" ++ toString n).toList = arityMark :: Nat.toDigits 10 n := by
    rw [String.toList_append]
    simp [arityMark]
  have hplain : ∀ c ∈ ("`" ++ toString n).toList, isSegmentBreak c = false := by
    rw [hchars, List.forall_mem_cons]
    exact ⟨by decide, fun c hc => isSegmentBreak_eq_false_of_isDigit (hdigit c (List.mem_reverse.mpr hc))⟩
  have hsegment : (lastSegment (name ++ "`" ++ toString n)).toList.reverse =
      (Nat.toDigits 10 n).reverse ++ arityMark :: (lastSegment name).toList.reverse := by
    rw [String.append_assoc, lastSegment_append name hplain, String.toList_append, hchars]
    simp
  have hmark : ¬arityMark.isDigit = true := by decide
  rw [arity?, List.rtakeWhile, List.rdropWhile, hsegment, List.takeWhile_append_of_pos hdigit,
    List.dropWhile_append_of_pos hdigit, List.takeWhile_cons_of_neg hmark, List.dropWhile_cons_of_neg hmark]
  simp

/-! ## Parts of what a reference means -/

namespace Descriptor

mutual

/-- The descriptor and those that it is made of, at any depth. -/
def parts : Descriptor → List Descriptor
  | .builtin b => [.builtin b]
  | .declared id => [.declared id]
  | .array element => .array element :: element.parts
  | .constructed id args => .constructed id args :: partsOfAll args
  | .generic name args => .generic name args :: partsOfAll args
  | .unresolved name => [.unresolved name]

/-- The parts of several descriptors. -/
def partsOfAll : List Descriptor → List Descriptor
  | [] => []
  | arg :: args => arg.parts ++ partsOfAll args

end

/-- An instance has as many arguments as the name of its definition says that it has parameters. -/
def KeepsArity : Descriptor → Prop
  | .constructed id args => ∀ k, arity? id.name = some k → k = args.length
  | _ => True

end Descriptor

namespace Catalog

variable {c : Catalog} {context name : String} {arity : Nat} {id : TypeId}

theorem parts_resolveName (c : Catalog) (context name : String) :
    (c.resolveName context name).parts = [c.resolveName context name] := by
  unfold resolveName
  repeat' split
  all_goals rfl

mutual

/-- The meaning of a reference is made of the meanings of its parts. -/
theorem parts_resolve (c : Catalog) (context : String) : ∀ t : TypeRef,
    (c.resolve context t).parts = t.parts.map (c.resolve context)
  | .named name => c.parts_resolveName context name
  | .array element => by
    rw [resolve, Descriptor.parts, parts_resolve c context element, TypeRef.parts, List.map_cons, resolve]
  | .generic name args => by
    have hargs := partsOfAll_resolveAll c context args
    rw [TypeRef.parts, List.map_cons, ← hargs, resolve]
    cases c.resolveDefinition context name args.length <;> rfl

theorem partsOfAll_resolveAll (c : Catalog) (context : String) : ∀ args : List TypeRef,
    Descriptor.partsOfAll (c.resolveAll context args) = (TypeRef.partsOfAll args).map (c.resolve context)
  | [] => rfl
  | arg :: args => by
    rw [resolveAll, Descriptor.partsOfAll, parts_resolve c context arg, partsOfAll_resolveAll c context args,
      TypeRef.partsOfAll, List.map_append]

end

theorem length_resolveAll (c : Catalog) (context : String) (args : List TypeRef) :
    (c.resolveAll context args).length = args.length := by
  induction args with
  | nil => rfl
  | cons arg args ih => rw [resolveAll, List.length_cons, ih, List.length_cons]

/-! ## How definitions are found -/

/-- Neither the name nor the name with the arity is understood as it is, and `t` is the one declaration of the module
with this simple name. -/
structure MeansSimply (c : Catalog) (context name : String) (arity : Nat) (t : TypeDecl) : Prop where
  unbroken : name.toList.any isSegmentBreak = false
  unknown : ¬ c.HasFullMeaning name
  unknownGeneric : ¬ c.HasFullMeaning (name ++ "`" ++ toString arity)
  only : c.homonyms context name = [t]

/-- A name that is understood as it is belongs to a built-in type, or else means a type of this full name. -/
theorem declaredName?_of_hasFullMeaning (h : c.HasFullMeaning name) (context : String) :
    (Builtin.ofName? name).isSome ∧ c.declaredName? context name = none ∨
      ∃ module, c.declaredName? context name = some ⟨module, name⟩ := by
  obtain ⟨d, hd⟩ := Option.isSome_iff_exists.mp ((isSome_fullNameMeaning?_iff context).mpr h)
  rw [declaredName?, resolveName_eq, hd, Option.getD_some]
  rcases exists_of_fullNameMeaning? hd with ⟨b, hb, rfl⟩ | ⟨m, -, -, rfl⟩
  · exact Or.inl ⟨by rw [hb]; rfl, rfl⟩
  · exact Or.inr ⟨m.name, rfl⟩

theorem declaredName?_of_not_hasFullMeaning (h : ¬ c.HasFullMeaning name) (context : String) :
    c.declaredName? context name = c.findSimple context name :=
  declaredName?_eq_findSimple ((fullNameMeaning?_eq_none_iff context).mpr h)

/-- What a name means is found as a full name or by the rule for simple names. -/
theorem declaredName?_cases (h : c.declaredName? context name = some id) :
    id.name = name ∨ ¬ c.HasFullMeaning name ∧ c.findSimple context name = some id := by
  by_cases hfull : c.HasFullMeaning name
  · rcases declaredName?_of_hasFullMeaning hfull context with ⟨-, hnone⟩ | ⟨module, hsome⟩
    · rw [hnone] at h
      cases h
    · rw [hsome] at h
      obtain rfl := Option.some.inj h
      exact Or.inl rfl
  · rw [declaredName?_of_not_hasFullMeaning hfull] at h
    exact Or.inr ⟨hfull, h⟩

/-- A name with an arity means nothing, unless it is the full name of a type. -/
theorem declaredName?_definitionName_eq_none_iff : c.declaredName? context (name ++ "`" ++ toString arity) = none ↔
    ¬ c.HasFullMeaning (name ++ "`" ++ toString arity) := by
  have hmark := arityMark_mem_definitionName name arity
  constructor
  · intro hnone hfull
    rcases declaredName?_of_hasFullMeaning hfull context with ⟨hbuiltin, -⟩ | ⟨module, hsome⟩
    · rw [Builtin.ofName?_eq_none hmark] at hbuiltin
      cases hbuiltin
    · rw [hsome] at hnone
      cases hnone
  · intro hfull
    rw [declaredName?_of_not_hasFullMeaning hfull, findSimple_eq_none_of_arityMark hmark]

theorem MeansSimply.resolveDefinition {t : TypeDecl} (h : c.MeansSimply context name arity t) :
    c.resolveDefinition context name arity = some ⟨context, t.name⟩ := by
  rw [resolveDefinition_eq, declaredName?_definitionName_eq_none_iff.mpr h.unknownGeneric, Option.none_or,
    declaredName?_of_not_hasFullMeaning h.unknown]
  exact findSimple_eq_some_iff.mpr ⟨h.unbroken, t, h.only, rfl⟩

/-- A definition has the name that is looked up, with the arity or without, or is found by the rule for simple
names. -/
theorem definition_cases (h : c.resolveDefinition context name arity = some id) :
    id.name = name ++ "`" ++ toString arity ∨ id.name = name ∨
      ∃ t, c.MeansSimply context name arity t ∧ id = ⟨context, t.name⟩ := by
  rw [resolveDefinition_eq] at h
  rcases Option.or_eq_some_iff.mp h with hwith | ⟨hnone, hplain⟩
  · rcases declaredName?_cases hwith with hname | ⟨-, hsimple⟩
    · exact Or.inl hname
    · rw [findSimple_eq_none_of_arityMark (arityMark_mem_definitionName name arity)] at hsimple
      cases hsimple
  · rcases declaredName?_cases hplain with hname | ⟨hunknown, hsimple⟩
    · exact Or.inr (Or.inl hname)
    · obtain ⟨hunbroken, t, honly, rfl⟩ := findSimple_eq_some_iff.mp hsimple
      exact Or.inr (Or.inr ⟨t, ⟨hunbroken, hunknown, declaredName?_definitionName_eq_none_iff.mp hnone, honly⟩, rfl⟩)

/-! ## References of another arity -/

/-- The reference is generic, and means by its simple name a type with parameters of another number. -/
def MistakesArity (c : Catalog) (context : String) : TypeRef → Prop
  | .generic name args =>
    ∃ t k, c.MeansSimply context name args.length t ∧ arity? t.name = some k ∧ k ≠ args.length
  | _ => False

theorem resolve_of_meansSimply {args : List TypeRef} {t : TypeDecl}
    (h : c.MeansSimply context name args.length t) :
    c.resolve context (.generic name args) = .constructed ⟨context, t.name⟩ (c.resolveAll context args) := by
  rw [resolve, h.resolveDefinition]

theorem keepsArity_resolveName (c : Catalog) (context name : String) : (c.resolveName context name).KeepsArity := by
  unfold resolveName
  repeat' split
  all_goals trivial

theorem keepsArity_resolve_generic_iff {args : List TypeRef} (hname : arityMark ∉ name.toList) :
    (c.resolve context (.generic name args)).KeepsArity ↔ ¬ c.MistakesArity context (.generic name args) := by
  constructor
  · rintro hkeeps ⟨t, k, ht, hk, hne⟩
    rw [resolve_of_meansSimply ht] at hkeeps
    exact hne ((hkeeps k hk).trans (c.length_resolveAll context args))
  · intro hnot
    rw [resolve]
    cases hdef : c.resolveDefinition context name args.length with
    | none => trivial
    | some id =>
      intro k hk
      rw [c.length_resolveAll context args]
      rcases definition_cases hdef with hid | hid | ⟨t, ht, rfl⟩
      · rw [hid, arity?_definitionName] at hk
        exact (Option.some.inj hk).symm
      · rw [hid, arity?_eq_none hname] at hk
        cases hk
      · by_contra hne
        exact hnot ⟨t, k, ht, hk, hne⟩

/-- **Only the rule for simple names mistakes an arity.** In the meaning of a reference that is read, which is made of
the meanings of its parts, an instance has the arguments that its definition asks for unless the part is a generic
reference with a simple name that is not understood as it is, with the arity or without, and the one type of the
module with this simple name has another arity. Then the part means an instance of that type. -/
theorem keepsArity_resolve_iff {text : String} {tree : TypeRef} (h : TypeRef.parse text = .ok tree) (c : Catalog)
    (context : String) :
    (c.resolve context tree).parts = tree.parts.map (c.resolve context) ∧
    (∀ part ∈ tree.parts, (c.resolve context part).KeepsArity ↔ ¬ c.MistakesArity context part) ∧
    ∀ name args t, c.MeansSimply context name args.length t →
      c.resolve context (.generic name args) = .constructed ⟨context, t.name⟩ (c.resolveAll context args) := by
  refine ⟨c.parts_resolve context tree, fun part hpart => ?_, fun name args t => resolve_of_meansSimply⟩
  cases part with
  | named name => exact iff_of_true (c.keepsArity_resolveName context name) not_false
  | array element => exact iff_of_true trivial not_false
  | generic name args => exact keepsArity_resolve_generic_iff (TypeRef.unmarked_of_parse h name args hpart)

/-- A shop with a result of one parameter. -/
def genericShop : Catalog := ofModules [{ name := "Shop", types := [{ name := "Shop.Result`1" }] }]

theorem meansSimply_genericShop : genericShop.MeansSimply "Shop" "Result" 2 { name := "Shop.Result`1" } where
  unbroken := by decide +kernel
  unknown := by decide +kernel
  unknownGeneric := by decide +kernel
  only := by decide +kernel

/-- In a list of results of two, the list keeps the arity and the result does not. -/
theorem keepsArity_resolve_genericShop :
    let result : TypeRef := .generic "Result" [.named "int", .named "string"]
    TypeRef.parse "List<Result<int, string>>" = .ok (.generic "List" [result]) ∧
      (genericShop.resolve "Shop" (.generic "List" [result])).KeepsArity ∧
      ¬ (genericShop.resolve "Shop" result).KeepsArity := by
  intro result
  have hparse : TypeRef.parse "List<Result<int, string>>" = .ok (.generic "List" [result]) := by cbv
  obtain ⟨-, hparts, -⟩ := keepsArity_resolve_iff hparse genericShop "Shop"
  have hlist : ¬ genericShop.MistakesArity "Shop" (.generic "List" [result]) := by
    rintro ⟨t, k, ht, -⟩
    have hnone : genericShop.homonyms "Shop" "List" = [] := by decide +kernel
    rw [ht.only] at hnone
    cases hnone
  have hresult : genericShop.MistakesArity "Shop" result :=
    ⟨_, 1, meansSimply_genericShop, by decide +kernel, by decide⟩
  have hmem : result ∈ (TypeRef.generic "List" [result]).parts :=
    List.mem_cons_of_mem _ (List.mem_append_left _ List.mem_cons_self)
  exact ⟨hparse, (hparts _ List.mem_cons_self).mpr hlist, fun hkeeps => (hparts _ hmem).mp hkeeps hresult⟩

/-- A result of two is an instance of the result of one parameter. -/
theorem genericShop_result_of_two :
    let result : TypeRef := .generic "Result" [.named "int", .named "string"]
    TypeRef.parse "Result<int,string>" = .ok result ∧
      genericShop.resolve "Shop" result = .constructed ⟨"Shop", "Shop.Result`1"⟩ [.builtin .int32, .builtin .string] ∧
      arity? "Shop.Result`1" = some 1 :=
  ⟨by cbv, rfl, by decide +kernel⟩

end Catalog

end WireTypes
