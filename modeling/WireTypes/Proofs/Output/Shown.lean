import WireTypes.Output.Entity
import WireTypes.Output.Service

/-!
# The names that a text shows

The text of a type is written with a name for every model. It shows a model when it changes with the name
of that model, the names of all others being kept.

* `ShowsName`, `showsName_iff` : what shows, read off from when two ways to name models write the same;
* `brackets`, `exists_typeText_of_renderedModel?` : the text of a type with a model, its name and the brackets behind it;
* `typeText_eq_iff` : a type shows the model of `renderedModel?` and no other;
* `isWritten`, `typeText_classify_eq_none_iff` : the types that are written at all are those that are not ignored;
* `Catalog.InterfaceShows` : what the base and the properties of an interface show, and by
  `mem_imports_interface` what it imports;
* `ClassifiedEndpoint.ServiceShows` : what the signatures of the methods of a service show, and by
  `mem_serviceImports` what it imports.
-/

namespace WireTypes

/-- Whether what is written changes with the name of `m`, the names of other models being kept. -/
def ShowsName {α : Type} (write : (TypeId → String) → α) (m : TypeId) : Prop :=
  ∃ f g : TypeId → String, (∀ a, a ≠ m → f a = g a) ∧ write f ≠ write g

theorem showsName_iff {α : Type} {write : (TypeId → String) → α} {shown : TypeId → Prop}
    (h : ∀ f g, write f = write g ↔ ∀ a, shown a → f a = g a) {m : TypeId} :
    ShowsName write m ↔ shown m := by
  constructor
  · rintro ⟨f, g, hother, hne⟩
    by_cases hm : shown m
    · exact hm
    refine absurd ((h f g).mpr fun a ha => hother a ?_) hne
    rintro rfl
    exact hm ha
  · intro hm
    refine ⟨fun _ => "", fun a => if a = m then "_" else "", fun a ha => by simp [ha], fun heq => ?_⟩
    have : "" = "_" := by simpa using (h _ _).mp heq m hm
    exact absurd this (by decide)

/-! ## Types -/

/-- What stands behind the element of nested collections. -/
def brackets : Nat → String
  | 0 => ""
  | n + 1 => brackets n ++ "[]"

namespace Classification

/-- A shown model stands at the start of the type, before the brackets of its collections. -/
theorem exists_typeText_of_renderedModel? : ∀ {t : Classification} {m : TypeId}, t.renderedModel? = some m →
    ∃ depth, ∀ nameOf : TypeId → String, t.typeText nameOf = some (nameOf m ++ brackets depth)
  | .model _, _, h => ⟨0, fun nameOf => by obtain rfl := Option.some.inj h; simp [typeText, brackets]⟩
  | .constructed _ _, _, h => ⟨0, fun nameOf => by obtain rfl := Option.some.inj h; simp [typeText, brackets]⟩
  | .collection element, m, h => by
    obtain ⟨depth, htext⟩ := exists_typeText_of_renderedModel? (t := element) h
    exact ⟨depth + 1, fun nameOf => by simp [typeText, htext, brackets, String.append_assoc]⟩

theorem typeText_eq_of_renderedModel?_eq_none : ∀ {t : Classification}, t.renderedModel? = none →
    ∀ f g : TypeId → String, t.typeText f = t.typeText g
  | .collection element, h, f, g => by
    rw [typeText, typeText, typeText_eq_of_renderedModel?_eq_none (t := element) h f g]
  | .builtin _, _, _, _ => rfl
  | .untyped, _, _, _ => rfl
  | .keyValueMap _, _, _, _ => rfl
  | .unsupported _ _, _, _, _ => rfl
  | .unresolved _, _, _, _ => rfl
  | .ignored, _, _, _ => rfl

/-- A type is written the same under two namings when they agree on the model that it shows. -/
theorem typeText_eq_iff {t : Classification} {f g : TypeId → String} :
    t.typeText f = t.typeText g ↔ ∀ m, t.renderedModel? = some m → f m = g m := by
  cases h : t.renderedModel? with
  | none =>
    have := typeText_eq_of_renderedModel?_eq_none h f g
    simpa using this
  | some m =>
    obtain ⟨depth, htext⟩ := exists_typeText_of_renderedModel? h
    rw [htext, htext]
    constructor
    · intro heq a ha
      obtain rfl := Option.some.inj ha
      exact (String.append_left_inj (brackets depth)).mp (Option.some.inj heq)
    · intro heq
      rw [heq m rfl]

/-- Whether the type is written at all: all types are but ignored ones and collections of these. -/
def isWritten : Classification → Bool
  | .collection element => element.isWritten
  | .ignored => false
  | _ => true

theorem isSome_typeText (nameOf : TypeId → String) : ∀ t : Classification,
    (t.typeText nameOf).isSome = t.isWritten
  | .collection element => by rw [typeText, Option.isSome_map, isWritten, isSome_typeText nameOf element]
  | .model _ => rfl
  | .constructed _ _ => rfl
  | .builtin _ => rfl
  | .untyped => rfl
  | .keyValueMap _ => rfl
  | .unsupported _ _ => rfl
  | .unresolved _ => rfl
  | .ignored => rfl

theorem typeText_eq_none_iff {t : Classification} {nameOf : TypeId → String} :
    t.typeText nameOf = none ↔ t.isWritten = false := by
  rw [← isSome_typeText nameOf, Option.isSome_eq_false_iff, Option.isNone_iff_eq_none]

theorem isWritten_collectionOf (t : Classification) : t.collectionOf.isWritten = t.isWritten := by
  cases t <;> rfl

theorem collectionOf_eq_ignored {t : Classification} (ht : t.isWritten = false → t = .ignored)
    (h : t.collectionOf.isWritten = false) : t.collectionOf = .ignored := by
  rw [isWritten_collectionOf] at h
  rw [ht h]
  rfl

end Classification

namespace Catalog

/-- Collections of ignored types do not come up. -/
theorem eq_ignored_of_classify (c : Catalog) : ∀ d : Descriptor,
    (c.classify d).isWritten = false → c.classify d = .ignored
  | .declared id => by
    rw [classify]
    split
    · exact fun _ => rfl
    · exact fun h => by cases h
  | .constructed id args => by
    rw [classify]
    split
    · exact fun _ => rfl
    · exact fun h => by cases h
  | .builtin b => by
    rw [classify]
    split <;> exact fun h => by cases h
  | .array element => by
    by_cases hbyte : element = .builtin .byte
    · subst hbyte
      exact fun h => by cases h
    · rw [classify]
      · exact Classification.collectionOf_eq_ignored (c.eq_ignored_of_classify element)
      · exact hbyte
  | .generic name [arg] => by
    simp only [classify, classifyAll]
    split
    · exact fun h => by cases h
    split
    · exact Classification.collectionOf_eq_ignored (c.eq_ignored_of_classify arg)
    · exact c.eq_ignored_of_classify arg
  | .generic name [] => by
    simp only [classify, classifyAll]
    split <;> exact fun h => by cases h
  | .generic name (first :: second :: args) => by
    simp only [classify, classifyAll]
    split <;> exact fun h => by cases h
  | .unresolved name => fun h => by cases h

theorem typeText_classify_eq_none_iff (c : Catalog) (d : Descriptor) (nameOf : TypeId → String) :
    (c.classify d).typeText nameOf = none ↔ c.classify d = .ignored := by
  rw [Classification.typeText_eq_none_iff]
  refine ⟨c.eq_ignored_of_classify d, fun h => ?_⟩
  rw [h]
  rfl

end Catalog

/-! ## Lists of types -/

/-- Lists in which the same members are left out are equal when they agree on the others. -/
theorem filterMap_eq_filterMap_iff {α β : Type} {f g : α → Option β} {as : List α}
    (h : ∀ a ∈ as, (f a).isSome = (g a).isSome) :
    as.filterMap f = as.filterMap g ↔ ∀ a ∈ as, f a = g a := by
  induction as with
  | nil => simp
  | cons a as ih =>
    have ih := ih fun b hb => h b (List.mem_cons_of_mem _ hb)
    have ha := h a List.mem_cons_self
    rw [List.filterMap_cons, List.filterMap_cons, List.forall_mem_cons, ← ih]
    cases hf : f a <;> cases hg : g a <;> simp_all

/-- What is read from the members of a list that are not left out can be read from the list. -/
theorem map_filterMap_eq_map_filter {α β γ : Type} {f : α → Option β} {p : α → Bool} {read : β → γ} {key : α → γ}
    (hp : ∀ a, (f a).isSome = p a) (hkey : ∀ a b, f a = some b → read b = key a) {as : List α} :
    (as.filterMap f).map read = (as.filter p).map key := by
  induction as with
  | nil => rfl
  | cons a as ih =>
    rw [List.filterMap_cons, List.filter_cons, ← hp a]
    cases h : f a with
    | none => exact ih
    | some b => simp only [Option.isSome_some, if_true, List.map_cons, hkey a b h, ih]

theorem filterMap_map_typeText_eq_iff {α β : Type} (typeOf : α → Classification) (wrap : α → String → β)
    (hwrap : ∀ a s t, wrap a s = wrap a t → s = t) {l : List α} {f g : TypeId → String} :
    (l.filterMap fun a => ((typeOf a).typeText f).map (wrap a)) =
        (l.filterMap fun a => ((typeOf a).typeText g).map (wrap a)) ↔
      ∀ m, (∃ a ∈ l, (typeOf a).renderedModel? = some m) → f m = g m := by
  have hmap : ∀ a ∈ l, ((typeOf a).typeText f).map (wrap a) = ((typeOf a).typeText g).map (wrap a) ↔
      ∀ m, (typeOf a).renderedModel? = some m → f m = g m := by
    intro a _
    rw [← Classification.typeText_eq_iff]
    exact ⟨fun h => Option.map_injective (fun s t => hwrap a s t) h, fun h => by rw [h]⟩
  rw [filterMap_eq_filterMap_iff fun a _ => by simp [Classification.isSome_typeText], forall₂_congr hmap]
  constructor
  · rintro h m ⟨a, ha, hm⟩
    exact h a ha m hm
  · exact fun h a ha m hm => h m ⟨a, ha, hm⟩

theorem filterMap_typeText_eq_iff {ts : List Classification} {f g : TypeId → String} :
    ts.filterMap (·.typeText f) = ts.filterMap (·.typeText g) ↔
      ∀ m, (∃ t ∈ ts, t.renderedModel? = some m) → f m = g m := by
  have := filterMap_map_typeText_eq_iff id (fun _ s => s) (fun _ _ _ h => h) (f := f) (g := g) (l := ts)
  simpa using this

/-! ## Interfaces -/

namespace Catalog

/-- The models that the interface of a model shows: the one that it extends, and those of its properties. -/
def shownModels (c : Catalog) (id : TypeId) : List TypeId :=
  (c.baseModel? id).toList ++ (c.classifiedProperties id).filterMap (·.2.renderedModel?)

variable {c : Catalog} {nameOf : TypeId → String} {id m : TypeId} {n : String}

theorem mem_shownModels : m ∈ c.shownModels id ↔
    c.baseModel? id = some m ∨ ∃ p ∈ c.classifiedProperties id, p.2.renderedModel? = some m := by
  simp [shownModels]

theorem interface_properties : (c.interface nameOf id).properties =
    (c.classifiedProperties id).filterMap fun p =>
      (p.2.typeText nameOf).map fun text => (camelCase p.1, text) := by
  simp [interface, List.map_filterMap, Function.comp_def]

end Catalog

/-! ## Services -/

/-- The types that a call is written with, that of the response first. -/
def Request.types (r : Request) : List String := r.returns :: r.signature.map (·.text)

namespace ClassifiedMethod

/-- What the types in the signature of the method are to a client, the returned one first. -/
def signature (method : ClassifiedMethod) : List Classification :=
  method.returns :: method.parameters.map (·.type)

variable {nameOf : TypeId → String} {apiPath endpoint : String} {method : ClassifiedMethod} {m : TypeId}

theorem types_request? : (method.request? nameOf apiPath endpoint).map (·.types) =
    if method.returns.isWritten then some (method.signature.filterMap (·.typeText nameOf)) else none := by
  rw [← Classification.isSome_typeText nameOf]
  cases h : method.returns.typeText nameOf <;>
    simp [request?, Request.types, passed, signature, h, List.map_filterMap, List.filterMap_map,
      Function.comp_def]

theorem isSome_request? : (method.request? nameOf apiPath endpoint).isSome = method.returns.isWritten := by
  rw [request?, Option.isSome_map, Classification.isSome_typeText]

theorem mem_signature {t : Classification} :
    t ∈ method.signature ↔ t = method.returns ∨ ∃ p ∈ method.parameters, p.type = t := by
  simp [signature]

theorem mem_shownModels : m ∈ method.shownModels nameOf ↔
    ∃ t ∈ method.signature, t.renderedModel? = some m := by
  simp only [shownModels, passed, List.mem_append, Option.mem_toList, List.mem_filterMap,
    Option.map_eq_some_iff, mem_signature]
  constructor
  · rintro (hm | ⟨_, ⟨p, hp, _, -, rfl⟩, hm⟩)
    · exact ⟨_, Or.inl rfl, hm⟩
    · exact ⟨_, Or.inr ⟨p, hp, rfl⟩, hm⟩
  · rintro ⟨t, rfl | ⟨p, hp, rfl⟩, hm⟩
    · exact Or.inl hm
    · obtain ⟨brackets, hb⟩ := Classification.exists_typeText_of_renderedModel? hm
      exact Or.inr ⟨_, ⟨p, hp, _, hb nameOf, rfl⟩, hm⟩

end ClassifiedMethod

namespace ClassifiedEndpoint

/-- The models that the service for an endpoint shows: those in the signatures of the methods that return
something that is written. -/
def shownModels (e : ClassifiedEndpoint) : List TypeId :=
  (e.methods.filter (·.returns.isWritten)).flatMap fun method => method.signature.filterMap (·.renderedModel?)

variable {e : ClassifiedEndpoint} {nameOf : TypeId → String} {apiPath n : String} {m : TypeId}

theorem mem_shownModels : m ∈ e.shownModels ↔ ∃ method ∈ e.methods, method.returns.isWritten = true ∧
    ∃ t ∈ method.signature, t.renderedModel? = some m := by
  simp [shownModels, and_assoc]

/-- Whether a type in the signature of a method of the service shows a model. -/
def ServiceShows (e : ClassifiedEndpoint) (apiPath : String) (m : TypeId) : Prop :=
  ShowsName (fun nameOf => (serviceMethods nameOf apiPath e).map fun (_, r) => r.types) m

theorem serviceShows_iff : e.ServiceShows apiPath m ↔ m ∈ e.shownModels := by
  have htypes : ∀ nameOf : TypeId → String, (serviceMethods nameOf apiPath e).map (fun (_, r) => r.types) =
      e.methods.filterMap fun method => (method.request? nameOf apiPath e.id.simpleName).map (·.types) := by
    intro nameOf
    simp [serviceMethods, List.map_filterMap, Function.comp_def]
  refine showsName_iff fun f g => ?_
  rw [htypes, htypes, filterMap_eq_filterMap_iff fun method _ => by
    rw [Option.isSome_map, Option.isSome_map, ClassifiedMethod.isSome_request?,
      ClassifiedMethod.isSome_request?]]
  have hmethod : ∀ method ∈ e.methods, (method.request? f apiPath e.id.simpleName).map (·.types) =
      (method.request? g apiPath e.id.simpleName).map (·.types) ↔
        ∀ m, method.returns.isWritten = true ∧ (∃ t ∈ method.signature, t.renderedModel? = some m) →
          f m = g m := by
    intro method _
    rw [ClassifiedMethod.types_request?, ClassifiedMethod.types_request?]
    split
    · rename_i hw
      rw [Option.some.injEq, filterMap_typeText_eq_iff]
      simp [hw]
    · rename_i hw
      simp [hw]
  rw [forall₂_congr hmethod]
  constructor
  · intro h m hm
    obtain ⟨method, hmem, hm⟩ := mem_shownModels.mp hm
    exact h method hmem m hm
  · exact fun h method hmem m hm => h m (mem_shownModels.mpr ⟨method, hmem, hm⟩)

theorem mem_serviceImports :
    n ∈ serviceImports nameOf apiPath e ↔ ∃ m, e.ServiceShows apiPath m ∧ nameOf m = n := by
  simp only [serviceShows_iff, serviceImports, serviceMethods, OrderedSet.mem_ofList, List.mem_flatMap,
    List.mem_filterMap, Option.map_eq_some_iff, List.mem_map, mem_shownModels, ClassifiedMethod.mem_shownModels]
  constructor
  · rintro ⟨_, ⟨method, hmem, r, hr, rfl⟩, m, hm, rfl⟩
    have hw : method.returns.isWritten = true := by
      rw [← ClassifiedMethod.isSome_request?, hr]
      rfl
    exact ⟨m, ⟨method, hmem, hw, hm⟩, rfl⟩
  · rintro ⟨m, ⟨method, hmem, hw, hm⟩, rfl⟩
    rw [← ClassifiedMethod.isSome_request?] at hw
    obtain ⟨r, hr⟩ := Option.isSome_iff_exists.mp hw
    exact ⟨_, ⟨method, hmem, r, hr, rfl⟩, m, hm, rfl⟩

end ClassifiedEndpoint

end WireTypes
