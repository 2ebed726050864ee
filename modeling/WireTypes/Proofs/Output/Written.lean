import WireTypes.Proofs.Output.Identifiers

/-!
# How types are written

Arrays and undeclared generics of one argument are layers around another type. None of them changes whether the
type is ignored or which model it shows: both are decided by the core that is left when the layers are taken off.
Only a map from keys to values hides what its arguments are.

* `Descriptor.core` : the descriptor without its layers;
* `Catalog.Reflects` : a classification that is decided by the type that the core is an instance of, if any;
* `Reflects.collectionOf`, `reflects_array`, `reflects_generic` : it stays so under one layer;
* `reflects_core` : every classification is decided by the core;
* `ignored_or_written` : the types that are ignored, and how all others are written.
-/

namespace WireTypes

/-- What is left of a descriptor without the arrays and the undeclared generics of one argument around it. Maps from
keys to values stay as they are. -/
def Descriptor.core : Descriptor → Descriptor
  | .array element => element.core
  | .generic name [arg] => if mapNames.contains (simpleName name) then .generic name [arg] else arg.core
  | d => d

theorem Classification.renderedModel?_collectionOf (t : Classification) :
    t.collectionOf.renderedModel? = t.renderedModel? := by
  cases t <;> rfl

namespace Catalog

/-- The classification shows the declared type if that is not ignored, and is written unless it is. -/
structure Reflects (c : Catalog) (id? : Option TypeId) (t : Classification) : Prop where
  shown : t.renderedModel? = id?.filter fun id => !c.isIgnored id
  written : t.isWritten = !id?.any c.isIgnored

variable {c : Catalog} {id? : Option TypeId}

/-! ## One layer -/

theorem Reflects.collectionOf {t : Classification} (h : c.Reflects id? t) : c.Reflects id? t.collectionOf where
  shown := t.renderedModel?_collectionOf.trans h.shown
  written := t.isWritten_collectionOf.trans h.written

theorem reflects_array {element : Descriptor} (h : c.Reflects id? (c.classify element)) :
    c.Reflects id? (c.classify (.array element)) := by
  by_cases hbyte : element = .builtin .byte
  · -- Bytes are a number and an array of them is a text, neither of which shows a model.
    subst hbyte
    exact ⟨h.shown, h.written⟩
  · rw [classify]
    · exact h.collectionOf
    · exact hbyte

theorem reflects_generic {name : String} {arg : Descriptor} (hmap : mapNames.contains (simpleName name) = false)
    (h : c.Reflects id? (c.classify arg)) : c.Reflects id? (c.classify (.generic name [arg])) := by
  simp only [classify, classifyAll, hmap, Bool.false_eq_true, if_false]
  cases sequenceNames.contains (simpleName name) with
  | true => exact h.collectionOf
  | false => exact h

/-! ## Cores -/

theorem reflects_some {d : Descriptor} {id : TypeId} (h : d.definition? = some id) :
    c.Reflects (some id) (c.classify d) := by
  have hclassify : c.isIgnored id = true ∧ c.classify d = .ignored ∨
      c.isIgnored id = false ∧ (c.classify d).renderedModel? = some id ∧ (c.classify d).isWritten = true := by
    cases hid : c.isIgnored id <;> cases d <;>
      simp_all [Descriptor.definition?, classify, Classification.renderedModel?, Classification.isWritten]
  rcases hclassify with ⟨hid, hignored⟩ | ⟨hid, hshown, hwritten⟩
  · rw [hignored]
    exact ⟨by simp [Classification.renderedModel?, Option.filter, hid], by simp [Classification.isWritten, hid]⟩
  · exact ⟨by simp [hshown, Option.filter, hid], by simp [hwritten, hid]⟩

/-- A map hides its arguments, and so does a generic that has none or several. -/
theorem reflects_none_generic {name : String} {args : List Descriptor}
    (h : mapNames.contains (simpleName name) = true ∨ args.length ≠ 1) :
    c.Reflects none (c.classify (.generic name args)) := by
  rw [classify]
  split
  · exact ⟨rfl, rfl⟩
  rename_i hmap
  have hlen : args.length ≠ 1 := h.resolve_left hmap
  rcases args with _ | ⟨arg, _ | ⟨arg', args⟩⟩
  · exact ⟨rfl, rfl⟩
  · exact absurd rfl hlen
  · exact ⟨rfl, rfl⟩

/-- What a type is to a client is decided by its core, as far as ignored types and shown models go. -/
theorem reflects_core (c : Catalog) (d : Descriptor) : c.Reflects d.core.definition? (c.classify d) := by
  fun_induction Descriptor.core d with
  | case1 element ih => exact reflects_array ih
  | case2 name arg hmap => exact reflects_none_generic (Or.inl hmap)
  | case3 name arg hmap ih => exact reflects_generic (by simpa using hmap) ih
  | case4 d harray hgeneric =>
    cases d with
    | declared id => exact reflects_some rfl
    | constructed id args => exact reflects_some rfl
    | builtin b => cases b <;> exact ⟨rfl, rfl⟩
    | unresolved name => exact ⟨rfl, rfl⟩
    | array element => exact absurd rfl (harray element)
    | generic name args =>
      refine reflects_none_generic (Or.inr fun hlen => ?_)
      obtain ⟨arg, rfl⟩ := List.length_eq_one_iff.mp hlen
      exact hgeneric name arg rfl

theorem classify_eq_ignored_iff {d : Descriptor} :
    c.classify d = .ignored ↔ ∃ id, d.core.definition? = some id ∧ c.isIgnored id = true := by
  have hwritten := (c.reflects_core d).written
  have hignored : c.classify d = .ignored ↔ (c.classify d).isWritten = false :=
    ⟨fun h => by rw [h]; rfl, c.eq_ignored_of_classify d⟩
  rw [hignored, hwritten, Bool.not_eq_false', Option.any_eq_true]

/-! ## Types in writing -/

/-- The words of the client are those that stand for built-in types and the one for any type. -/
theorem exists_target?_of_mem_clientWords {word : String} (h : word ∈ clientWords) :
    (∃ b : Builtin, b.target? = some word) ∨ word = untypedText := by
  have hall : ∀ word ∈ clientWords, (∃ b ∈ Builtin.all, b.target? = some word) ∨ word = untypedText := by decide
  exact (hall word h).imp_left fun ⟨b, _, hb⟩ => ⟨b, hb⟩

/-- **A type is ignored by its core, and written with one base otherwise.** Exactly the types whose core is an ignored
type, or an instance of one, are ignored, and these are the ones that are not written, whatever names models have. Any
other type is a base with brackets behind it. If its core is declared, it shows this model and no other, and the base
is the name of it; else it shows no model, and the base is a built-in type of the client or the one for any type. -/
theorem ignored_or_written (c : Catalog) (d : Descriptor) :
    (c.classify d = .ignored ↔ ∃ id, d.core.definition? = some id ∧ c.isIgnored id = true) ∧
    (∀ names : NameTable, (c.classify d).typeText names.nameOf = none ↔ c.classify d = .ignored) ∧
    (c.classify d = .ignored ∨ ∃ depth,
      (∃ m, d.core.definition? = some m ∧ (c.classify d).renderedModel? = some m ∧
        ∀ names : NameTable, (c.classify d).typeText names.nameOf = some (names.nameOf m ++ brackets depth)) ∨
      (d.core.definition? = none ∧ (c.classify d).renderedModel? = none ∧
        ∃ word, ((∃ b : Builtin, b.target? = some word) ∨ word = untypedText) ∧
          ∀ names : NameTable, (c.classify d).typeText names.nameOf = some (word ++ brackets depth))) := by
  refine ⟨classify_eq_ignored_iff, fun names => c.typeText_classify_eq_none_iff d names.nameOf, ?_⟩
  by_cases hignored : c.classify d = .ignored
  · exact Or.inl hignored
  refine Or.inr ?_
  have hshown := (c.reflects_core d).shown
  cases hcore : d.core.definition? with
  | some m =>
    have hm : c.isIgnored m = false := by
      rw [classify_eq_ignored_iff, not_exists] at hignored
      simpa [hcore] using hignored m
    have hrendered : (c.classify d).renderedModel? = some m := by simp [hshown, hcore, Option.filter, hm]
    obtain ⟨depth, htext⟩ := Classification.exists_typeText_of_renderedModel? hrendered
    exact ⟨depth, Or.inl ⟨m, rfl, hrendered, fun names => htext names.nameOf⟩⟩
  | none =>
    have hrendered : (c.classify d).renderedModel? = none := by simp [hshown, hcore]
    have hwritten : (c.classify d).isWritten = true := by simp [(c.reflects_core d).written, hcore]
    obtain ⟨word, hword, depth, htext⟩ := c.exists_clientWord hrendered hwritten
    exact ⟨depth, Or.inr ⟨rfl, hrendered, word, exists_target?_of_mem_clientWords hword, fun names => htext names.nameOf⟩⟩

end Catalog

end WireTypes
