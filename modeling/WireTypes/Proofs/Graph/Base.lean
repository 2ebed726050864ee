import WireTypes.Output.Entity
import WireTypes.Proofs.Graph.Members

/-!
# Which model an interface extends

An interface extends the model that its base reference is to a client. A base that is a declared type, or
an instance of one, is extended if it is not ignored. A base that is an undeclared generic of one argument
stands for the argument, as everywhere else, so that the model that is extended is then the argument and
no ancestor of the type.

* `Descriptor.unwrapped` : what is left of a descriptor without such generics around it;
* `head?_classify` : the model that a descriptor is to a client, read off what is left of it;
* `Catalog.declaredBase?`, `Catalog.WrapsBase` : the two kinds of base;
* `mem_ancestors_of_declaredBase?` : the first kind is an ancestor;
* `baseModel?_derives_iff` : exactly the types without a base of the second kind extend what they derive
  from.
-/

namespace WireTypes

/-- Whether a generic type that no module declares stands for its one argument. -/
def isTransparent (name : String) : Bool :=
  !mapNames.contains (simpleName name) && !sequenceNames.contains (simpleName name)

namespace Descriptor

/-- Whether the descriptor stands for another one that it wraps. -/
def isWrapper : Descriptor → Bool
  | .generic name [_] => isTransparent name
  | _ => false

/-- What the descriptor stands for, once nothing is wrapped around it any more. -/
def unwrapped : Descriptor → Descriptor
  | .generic name [arg] => if isTransparent name then arg.unwrapped else .generic name [arg]
  | d => d

theorem unwrapped_of_not_isWrapper {d : Descriptor} (h : d.isWrapper = false) : d.unwrapped = d := by
  unfold unwrapped
  split
  · rename_i name arg
    rw [isWrapper] at h
    rw [h]
    rfl
  · rfl

theorem isWrapper_eq_false_of_definition? {d : Descriptor} {id : TypeId} (h : d.definition? = some id) :
    d.isWrapper = false := by
  cases d <;> simp_all [definition?, isWrapper]

theorem definition?_of_isWrapper {d : Descriptor} (h : d.isWrapper = true) : d.definition? = none := by
  cases d <;> simp_all [definition?, isWrapper]

end Descriptor

namespace Catalog

/-! ## What a descriptor is to a client -/

theorem head?_collectionOf (t : Classification) : t.collectionOf.head? = none := by
  cases t <;> rfl

theorem classify_generic_of_transparent (c : Catalog) {name : String} (arg : Descriptor)
    (h : isTransparent name = true) : c.classify (.generic name [arg]) = c.classify arg := by
  simp only [isTransparent, Bool.and_eq_true, Bool.not_eq_true'] at h
  simp only [classify, classifyAll, h.1, h.2, Bool.false_eq_true, if_false]

theorem head?_classify_generic (c : Catalog) {name : String} {args : List Descriptor}
    (h : (Descriptor.generic name args).isWrapper = false) :
    (c.classify (.generic name args)).head? = none := by
  rw [classify]
  split
  · rfl
  rename_i hmap
  rcases args with _ | ⟨arg, _ | ⟨arg', args⟩⟩
  · simp only [classifyAll, Classification.head?]
  · have hseq : sequenceNames.contains (simpleName name) = true := by
      simp only [Descriptor.isWrapper, isTransparent, hmap] at h
      simpa using h
    simp only [classifyAll, hseq, if_true]
    exact head?_collectionOf _
  · simp only [classifyAll, Classification.head?]

theorem head?_classify_array (c : Catalog) (element : Descriptor) :
    (c.classify (.array element)).head? = none := by
  cases element with
  | builtin b => cases b <;> rfl
  | _ => simpa [classify] using head?_collectionOf _

/-- A descriptor is a model to a client as far as what it stands for is declared and not ignored. -/
theorem head?_classify (c : Catalog) (d : Descriptor) :
    (c.classify d).head? = d.unwrapped.definition?.filter fun id => !c.isIgnored id := by
  fun_induction Descriptor.unwrapped d with
  | case1 name arg h ih => rw [classify_generic_of_transparent c arg h, ih]
  | case2 name arg h =>
    exact head?_classify_generic c (by simpa [Descriptor.isWrapper] using h)
  | case3 d h =>
    cases d with
    | builtin b => cases b <;> rfl
    | declared id =>
      by_cases hi : c.isIgnored id <;>
        simp [classify, Descriptor.definition?, Classification.head?, Option.filter, hi]
    | array element => exact head?_classify_array c element
    | constructed id args =>
      by_cases hi : c.isIgnored id <;>
        simp [classify, Descriptor.definition?, Classification.head?, Option.filter, hi]
    | generic name args =>
      have : (Descriptor.generic name args).isWrapper = false := by
        unfold Descriptor.isWrapper
        split
        · rename_i name' arg heq
          exact absurd heq (h name' arg)
        · rfl
      exact head?_classify_generic c this
    | unresolved name => rfl

/-! ## Bases -/

/-- What the base of a type is, if it declares one that can be read. -/
def base? (c : Catalog) (id : TypeId) : Option Descriptor :=
  match c.baseType id with
  | .ok base => base
  | .error _ => none

/-- The declared type that the base of a type is, or is an instance of. -/
def declaredBase? (c : Catalog) (id : TypeId) : Option TypeId := (c.base? id).bind (·.definition?)

/-- The base of `id` is no declared type itself and stands for the model `m`. -/
def WrapsBase (c : Catalog) (id m : TypeId) : Prop :=
  ∃ base, c.base? id = some base ∧ base.isWrapper = true ∧ base.unwrapped.definition? = some m ∧
    c.isIgnored m = false

theorem base?_eq_some_iff {c : Catalog} {id : TypeId} {base : Descriptor} :
    c.base? id = some base ↔ c.baseType id = .ok (some base) := by
  unfold base?
  cases c.baseType id <;> simp

theorem baseModel?_eq_some_iff_unwrapped {c : Catalog} {id m : TypeId} :
    c.baseModel? id = some m ↔
      ∃ base, c.base? id = some base ∧ base.unwrapped.definition? = some m ∧ c.isIgnored m = false := by
  simp only [baseModel?_eq_some_iff, head?_classify, base?_eq_some_iff, Option.filter_eq_some_iff,
    Bool.not_eq_true']

theorem baseModel?_eq_some_iff_declared_or_wraps {c : Catalog} {id m : TypeId} :
    c.baseModel? id = some m ↔
      c.declaredBase? id = some m ∧ c.isIgnored m = false ∨ c.WrapsBase id m := by
  rw [baseModel?_eq_some_iff_unwrapped]
  unfold declaredBase? WrapsBase
  constructor
  · rintro ⟨base, hbase, hdef, hi⟩
    cases hw : base.isWrapper with
    | true => exact Or.inr ⟨base, hbase, hw, hdef, hi⟩
    | false =>
      rw [Descriptor.unwrapped_of_not_isWrapper hw] at hdef
      exact Or.inl ⟨by rw [hbase]; exact hdef, hi⟩
  · rintro (⟨hdecl, hi⟩ | ⟨base, hbase, -, hdef, hi⟩)
    · obtain ⟨base, hbase, hdef⟩ := Option.bind_eq_some_iff.mp hdecl
      have hw := Descriptor.isWrapper_eq_false_of_definition? hdef
      exact ⟨base, hbase, by rwa [Descriptor.unwrapped_of_not_isWrapper hw], hi⟩
    · exact ⟨base, hbase, hdef, hi⟩

theorem declaredBase?_eq_none_of_wrapsBase {c : Catalog} {id m : TypeId} (h : c.WrapsBase id m) :
    c.declaredBase? id = none := by
  obtain ⟨base, hbase, hw, -, -⟩ := h
  rw [declaredBase?, hbase]
  exact Descriptor.definition?_of_isWrapper hw

theorem mem_parents_of_declaredBase? {c : Catalog} {id m : TypeId} (h : c.declaredBase? id = some m) :
    m ∈ c.parents id := by
  obtain ⟨base, hbase, hdef⟩ := Option.bind_eq_some_iff.mp h
  obtain ⟨t, text, ht, htext, hres⟩ := baseType_eq_ok_some_iff.mp (base?_eq_some_iff.mp hbase)
  exact mem_parents.mpr ⟨t, ht, text, by simp [parentTexts, htext], base, hres, hdef⟩

/-- The base that a type declares is the type itself or one of its ancestors. -/
theorem mem_ancestors_of_declaredBase? {c : Catalog} {id m : TypeId} (h : c.declaredBase? id = some m) :
    m = id ∨ m ∈ c.ancestors id := by
  have hparent := mem_parents_of_declaredBase? h
  by_cases hid : m = id
  · exact Or.inl hid
  · have hstart : Reached c.parents c.typeIds [id] id := .start (List.mem_singleton_self id)
    exact Or.inr (mem_ancestors.mpr ⟨hid, .step hstart hparent (mem_typeIds_of_mem_parents hparent)⟩)

/-! ## What is extended -/

theorem base_interface (c : Catalog) (nameOf : TypeId → String) (id : TypeId) :
    (c.interface nameOf id).base = (c.baseModel? id).map nameOf := rfl

/-- **A type extends what it derives from, unless its base wraps a model.** The model that an interface
extends is the one that its base reference itself is, the type or an ancestor of it, for exactly those
types whose base does not stand for a model that it wraps. -/
theorem baseModel?_derives_iff (c : Catalog) (id : TypeId) :
    ((∀ m, c.baseModel? id = some m → c.declaredBase? id = some m) ↔ ∀ m, ¬ c.WrapsBase id m) ∧
    (∀ m, c.declaredBase? id = some m → m = id ∨ m ∈ c.ancestors id) ∧
    (∀ m, c.baseModel? id = some m ↔
      c.declaredBase? id = some m ∧ c.isIgnored m = false ∨ c.WrapsBase id m) ∧
    ∀ nameOf name, (c.interface nameOf id).base = some name ↔
      ∃ m, c.baseModel? id = some m ∧ nameOf m = name := by
  refine ⟨⟨?_, ?_⟩, fun m => mem_ancestors_of_declaredBase?,
    fun m => baseModel?_eq_some_iff_declared_or_wraps, ?_⟩
  · intro h m hw
    have hdecl := h m (baseModel?_eq_some_iff_declared_or_wraps.mpr (Or.inr hw))
    rw [declaredBase?_eq_none_of_wrapsBase hw] at hdecl
    cases hdecl
  · intro h m hm
    rcases baseModel?_eq_some_iff_declared_or_wraps.mp hm with ⟨hdecl, -⟩ | hw
    · exact hdecl
    · exact absurd hw (h m)
  · intro nameOf name
    rw [base_interface, Option.map_eq_some_iff]

/-- An order whose base is an undeclared generic of orders. -/
def wrappedOrder : Catalog :=
  ofModules [{ name := "Shop", types := [{ name := "Shop.Order", base := some "EntityBase<Order>" }] }]

/-- Its interface extends itself, and it derives from nothing. -/
theorem wrappedOrder_extends_itself :
    let order : TypeId := ⟨"Shop", "Shop.Order"⟩
    wrappedOrder.baseModel? order = some order ∧ wrappedOrder.declaredBase? order = none ∧
      wrappedOrder.parents order = [] := by
  decide +kernel

end Catalog

end WireTypes
