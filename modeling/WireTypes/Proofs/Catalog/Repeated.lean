import WireTypes.Proofs.Catalog.Declared
import WireTypes.Proofs.Catalog.Modules
import WireTypes.Proofs.TypeRef.Names

/-!
# Repeated declarations

A type that its module declares more than once is what its last declaration says. The other ones can be left
out of the module, but for one step of name resolution: the step that looks for the only type with a simple
name counts declarations, so that it does not find a type that is repeated.

* `lastDecls`, `Catalog.cleaned` : the declarations that count, and the catalog of these alone;
* `typeDecl?_cleaned`, `mem_readableTypesIn_cleaned` : it declares the same types alike;
* `Catalog.Obscured` : the names that mean nothing because the type that they are to mean is repeated;
* `resolveName_cleaned_of_obscured`, `resolveName_cleaned` : they mean that type in the cleaned catalog, and
  any other name means the same in both;
* `resolve_cleaned_eq_iff` : so do exactly the references that hold no such name.
-/

namespace WireTypes

/-! ## Declarations that count -/

/-- The declarations that no other one of the same name follows. -/
def lastDecls : List TypeDecl → List TypeDecl
  | [] => []
  | t :: ts => if t.name ∈ ts.map (·.name) then lastDecls ts else t :: lastDecls ts

theorem mem_names_lastDecls {ts : List TypeDecl} {name : String} :
    name ∈ (lastDecls ts).map (·.name) ↔ name ∈ ts.map (·.name) := by
  induction ts with
  | nil => rfl
  | cons t ts ih =>
    rw [lastDecls]
    split
    · rename_i hrepeated
      rw [ih, List.map_cons, List.mem_cons]
      exact ⟨.inr, fun h => h.elim (fun heq => heq ▸ hrepeated) id⟩
    · simp only [List.map_cons, List.mem_cons, ih]

theorem findRev?_cons {α : Type} (p : α → Bool) (a : α) (as : List α) :
    (a :: as).findRev? p = (as.findRev? p).or (if p a then some a else none) := by
  simp [List.findRev?_eq_find?_reverse, List.find?_append, List.find?_singleton]

/-- The last declaration of a name is among those that count. -/
theorem findRev?_lastDecls (ts : List TypeDecl) (name : String) :
    (lastDecls ts).findRev? (·.name = name) = ts.findRev? (·.name = name) := by
  induction ts with
  | nil => rfl
  | cons t ts ih =>
    rw [lastDecls, findRev?_cons]
    split
    · rename_i hrepeated
      rw [ih]
      by_cases hname : t.name = name
      · have hfound : (ts.findRev? (·.name = name)).isSome := by
          obtain ⟨u, hu, hut⟩ := List.mem_map.mp hrepeated
          simpa [List.findRev?_eq_find?_reverse] using ⟨u, hu, hut.trans hname⟩
        exact (Option.or_of_isSome hfound).symm
      · simp [hname]
    · rw [findRev?_cons, ih]

/-- Which declarations count is decided among those of one name. -/
theorem lastDecls_filter (p : String → Bool) (ts : List TypeDecl) :
    lastDecls (ts.filter fun t => p t.name) = (lastDecls ts).filter fun t => p t.name := by
  induction ts with
  | nil => rfl
  | cons t ts ih =>
    cases hp : p t.name with
    | false =>
      rw [List.filter_cons_of_neg (by simp [hp]), ih, lastDecls]
      split
      · rfl
      · rw [List.filter_cons_of_neg (by simp [hp])]
    | true =>
      have hmem : t.name ∈ (ts.filter fun t => p t.name).map (·.name) ↔ t.name ∈ ts.map (·.name) := by
        simp only [List.mem_map, List.mem_filter]
        exact ⟨fun ⟨u, ⟨hu, _⟩, hut⟩ => ⟨u, hu, hut⟩, fun ⟨u, hu, hut⟩ => ⟨u, ⟨hu, hut ▸ hp⟩, hut⟩⟩
      rw [List.filter_cons_of_pos (by simp [hp]), lastDecls, lastDecls]
      simp only [hmem, ih]
      split
      · rfl
      · rw [List.filter_cons_of_pos (by simp [hp])]

/-- One declaration counts exactly when there are some, all of one name. -/
theorem lastDecls_eq_singleton_iff {ts : List TypeDecl} {name : String} :
    (∃ t, lastDecls ts = [t] ∧ t.name = name) ↔ ts ≠ [] ∧ ∀ t ∈ ts, t.name = name := by
  constructor
  · rintro ⟨t, hts, rfl⟩
    have hne : ts ≠ [] := by
      rintro rfl
      cases hts
    refine ⟨hne, fun u hu => ?_⟩
    have : u.name ∈ (lastDecls ts).map (·.name) := mem_names_lastDecls.mpr (List.mem_map_of_mem hu)
    simpa [hts] using this
  · rintro ⟨hne, hall⟩
    induction ts with
    | nil => exact absurd rfl hne
    | cons t ts ih =>
      have hname := hall t List.mem_cons_self
      have hrest := fun u hu => hall u (List.mem_cons_of_mem t hu)
      rw [lastDecls]
      split
      · rename_i hrepeated
        exact ih (by rintro rfl; simp at hrepeated) hrest
      · rename_i hlast
        cases ts with
        | nil => exact ⟨t, rfl, hname⟩
        | cons u ts => exact absurd (by simp [hname, hrest u List.mem_cons_self]) hlast

/-! ## Modules and catalogs without the others -/

/-- The module with the declarations that count. -/
def ModuleDecl.cleaned (m : ModuleDecl) : ModuleDecl := { m with types := lastDecls m.types }

theorem ModuleDecl.type?_cleaned (m : ModuleDecl) (name : String) : m.cleaned.type? name = m.type? name :=
  findRev?_lastDecls m.types name

theorem ModuleDecl.mem_typeIds_cleaned {m : ModuleDecl} {id : TypeId} :
    id ∈ m.cleaned.typeIds ↔ id ∈ m.typeIds := by
  rw [typeIds_eq, typeIds_eq, List.mem_map, List.mem_map]
  simp only [cleaned, mem_names_lastDecls]

namespace Catalog

/-- The catalog with the declarations that count. -/
def cleaned (c : Catalog) : Catalog where
  modules := c.modules.map (·.cleaned)
  distinct := by
    rw [List.map_map]
    exact c.distinct

@[simp] theorem moduleNames_cleaned (c : Catalog) : c.cleaned.moduleNames = c.moduleNames := List.map_map ..

theorem insert_cleaned (c : Catalog) (m : ModuleDecl) :
    c.cleaned.insert m.cleaned = (c.insert m).cleaned := by
  have hnames : m.cleaned.name ∈ c.cleaned.moduleNames ↔ m.name ∈ c.moduleNames := by
    rw [moduleNames_cleaned]
    rfl
  unfold insert
  by_cases h : m.name ∈ c.moduleNames
  · rw [dif_pos h, dif_pos (hnames.mpr h)]
  · rw [dif_neg h, dif_neg (mt hnames.mp h)]
    simp [cleaned]

/-- Cleaning the modules of a list cleans their catalog. -/
theorem ofModules_map_cleaned (ms : List ModuleDecl) :
    ofModules (ms.map (·.cleaned)) = (ofModules ms).cleaned := by
  have hmany : ∀ c : Catalog, c.cleaned.insertMany (ms.map (·.cleaned)) = (c.insertMany ms).cleaned := by
    induction ms with
    | nil => exact fun _ => rfl
    | cons m ms ih =>
      intro c
      rw [List.map_cons, insertMany, List.foldl_cons, insert_cleaned]
      exact ih (c.insert m)
  exact hmany empty

variable {c : Catalog}

@[simp] theorem module?_cleaned (c : Catalog) (module : String) :
    c.cleaned.module? module = (c.module? module).map (·.cleaned) := List.find?_map

@[simp] theorem references_cleaned (c : Catalog) (module : String) :
    c.cleaned.references module = c.references module := by
  simp only [references, module?_cleaned]
  cases c.module? module <;> rfl

@[simp] theorem typeDecl?_cleaned (c : Catalog) (id : TypeId) : c.cleaned.typeDecl? id = c.typeDecl? id := by
  simp only [typeDecl?, module?_cleaned]
  cases c.module? id.module with
  | none => rfl
  | some m => exact m.type?_cleaned id.name

@[simp] theorem isIgnored_cleaned (c : Catalog) (id : TypeId) : c.cleaned.isIgnored id = c.isIgnored id := by
  simp only [isIgnored, typeDecl?_cleaned]

theorem mem_typeIds_cleaned {id : TypeId} : id ∈ c.cleaned.typeIds ↔ id ∈ c.typeIds := by
  simp only [mem_typeIds_iff, typeDecl?_cleaned]

theorem mem_readableTypesIn_cleaned {module : String} {id : TypeId} :
    id ∈ c.cleaned.readableTypesIn module ↔ id ∈ c.readableTypesIn module := by
  simp only [readableTypesIn, typesIn, module?_cleaned, moduleNames_cleaned]
  cases c.module? module with
  | none => rfl
  | some m =>
    have hmissing : m.cleaned.missing c.moduleNames = m.missing c.moduleNames := rfl
    simp only [Option.map_some, hmissing]
    cases m.missing c.moduleNames with
    | nil => exact ModuleDecl.mem_typeIds_cleaned
    | cons dependency missing => rfl

/-! ## Names -/

/-- The declarations of a module with this simple name. -/
def homonyms (c : Catalog) (module name : String) : List TypeDecl :=
  (c.module? module).elim [] fun m => m.types.filter fun t => simpleName t.name = name

/-- What a name means by itself, as a full name or that of a built-in type. -/
def fullNameMeaning? (c : Catalog) (context name : String) : Option Descriptor :=
  ((c.findIn context name).map .declared).or <| ((Builtin.ofName? name).map .builtin).or <|
    ((c.searchOrder context).findSome? fun m => c.findIn m name).map .declared

/-- `name` means nothing by itself, and the type `full` is the only one of the module with this simple name
but is declared more than once. -/
structure Obscured (c : Catalog) (context name full : String) : Prop where
  unbroken : name.toList.any isSegmentBreak = false
  unknown : c.fullNameMeaning? context name = none
  only : ∀ t ∈ c.homonyms context name, t.name = full
  repeated : 2 ≤ (c.homonyms context name).length

theorem homonyms_cleaned (c : Catalog) (module name : String) :
    c.cleaned.homonyms module name = lastDecls (c.homonyms module name) := by
  simp only [homonyms, module?_cleaned]
  cases c.module? module with
  | none => rfl
  | some m => exact (lastDecls_filter (simpleName · = name) m.types).symm

theorem fullNameMeaning?_cleaned (c : Catalog) (context name : String) :
    c.cleaned.fullNameMeaning? context name = c.fullNameMeaning? context name := by
  simp only [fullNameMeaning?, findIn, searchOrder, typeDecl?_cleaned, references_cleaned,
    moduleNames_cleaned]

/-- A name means what it means by itself, else the type with that simple name, else nothing. -/
theorem resolveName_eq (c : Catalog) (context name : String) :
    c.resolveName context name = (c.fullNameMeaning? context name).getD
      ((c.findSimple context name).elim (.unresolved name) .declared) := by
  unfold resolveName fullNameMeaning?
  cases c.findIn context name with
  | some id => rfl
  | none =>
    cases Builtin.ofName? name with
    | some b => rfl
    | none =>
      cases (c.searchOrder context).findSome? fun m => c.findIn m name with
      | some id => rfl
      | none => cases c.findSimple context name <;> rfl

theorem findSimple_eq_some_iff {context name : String} {id : TypeId} : c.findSimple context name = some id ↔
    name.toList.any isSegmentBreak = false ∧ ∃ t, c.homonyms context name = [t] ∧ ⟨context, t.name⟩ = id := by
  unfold findSimple
  cases name.toList.any isSegmentBreak with
  | true => simp
  | false =>
    simp only [Bool.false_eq_true, if_false, true_and]
    split
    · rename_i t hlist
      have ht : c.homonyms context name = [t] := hlist
      simp [ht]
    · rename_i hnot
      simp only [reduceCtorEq, false_iff, not_exists, not_and]
      exact fun t ht => absurd ht (hnot t)

/-- Where only one declaration has the simple name, it is the one that counts. -/
theorem findSimple_cleaned_of_findSimple {context name : String} {id : TypeId}
    (h : c.findSimple context name = some id) : c.cleaned.findSimple context name = some id := by
  obtain ⟨hunbroken, t, ht, hid⟩ := findSimple_eq_some_iff.mp h
  refine findSimple_eq_some_iff.mpr ⟨hunbroken, t, ?_, hid⟩
  rw [homonyms_cleaned, ht]
  simp [lastDecls]

theorem findSimple_cleaned_of_obscured {context name full : String} (h : c.Obscured context name full) :
    c.cleaned.findSimple context name = some ⟨context, full⟩ := by
  have hne : c.homonyms context name ≠ [] := fun hnil => by simpa [hnil] using h.repeated
  obtain ⟨t, ht, rfl⟩ := lastDecls_eq_singleton_iff.mpr ⟨hne, h.only⟩
  exact findSimple_eq_some_iff.mpr ⟨h.unbroken, t, by rw [homonyms_cleaned, ht], rfl⟩

theorem findSimple_eq_none_of_obscured {context name full : String} (h : c.Obscured context name full) :
    c.findSimple context name = none := by
  refine Option.eq_none_iff_forall_ne_some.mpr fun id hid => ?_
  obtain ⟨-, t, ht, -⟩ := findSimple_eq_some_iff.mp hid
  simpa [ht] using h.repeated

/-- Only repetition keeps the step from finding a type that it finds in the cleaned catalog. -/
theorem exists_obscured_of_findSimple_cleaned {context name : String} {id : TypeId}
    (hunknown : c.fullNameMeaning? context name = none) (hnone : c.findSimple context name = none)
    (h : c.cleaned.findSimple context name = some id) : ∃ full, c.Obscured context name full := by
  obtain ⟨hunbroken, t, ht, -⟩ := findSimple_eq_some_iff.mp h
  rw [homonyms_cleaned] at ht
  obtain ⟨hne, honly⟩ := lastDecls_eq_singleton_iff.mp ⟨t, ht, rfl⟩
  refine ⟨t.name, hunbroken, hunknown, honly, ?_⟩
  -- A single declaration would have been found.
  match hlist : c.homonyms context name with
  | [] => exact absurd hlist hne
  | [u] =>
    rw [findSimple_eq_some_iff.mpr ⟨hunbroken, u, hlist, rfl⟩] at hnone
    cases hnone
  | u :: v :: rest => simp

theorem resolveName_of_obscured {context name full : String} (h : c.Obscured context name full) :
    c.resolveName context name = .unresolved name := by
  rw [resolveName_eq, h.unknown, findSimple_eq_none_of_obscured h]
  rfl

theorem resolveName_cleaned_of_obscured {context name full : String} (h : c.Obscured context name full) :
    c.cleaned.resolveName context name = .declared ⟨context, full⟩ := by
  rw [resolveName_eq, fullNameMeaning?_cleaned, h.unknown, findSimple_cleaned_of_obscured h]
  rfl

/-- Any other name means the same in both catalogs. -/
theorem resolveName_cleaned {context name : String} (h : ∀ full, ¬ c.Obscured context name full) :
    c.cleaned.resolveName context name = c.resolveName context name := by
  rw [resolveName_eq, resolveName_eq, fullNameMeaning?_cleaned]
  cases hfull : c.fullNameMeaning? context name with
  | some d => rfl
  | none =>
    cases hsimple : c.findSimple context name with
    | some id => rw [findSimple_cleaned_of_findSimple hsimple]
    | none =>
      cases hcleaned : c.cleaned.findSimple context name with
      | none => rfl
      | some id =>
        obtain ⟨full, hobscured⟩ := exists_obscured_of_findSimple_cleaned hfull hsimple hcleaned
        exact absurd hobscured (h full)

/-! ## References -/

/-- The declared type that a name means. -/
def declaredName? (c : Catalog) (context name : String) : Option TypeId :=
  match c.resolveName context name with
  | .declared id => some id
  | _ => none

/-- A reference that holds an obscured name, as the name of a type or as that of a generic definition that is
not declared under the name with its arity either. -/
inductive HoldsObscured (c : Catalog) (context : String) : TypeRef → Prop
  | named {name full : String} : c.Obscured context name full → HoldsObscured c context (.named name)
  | array {element : TypeRef} : HoldsObscured c context element → HoldsObscured c context (.array element)
  | definition {name full : String} {args : List TypeRef} : c.Obscured context name full →
      c.resolveDefinition context name args.length = none → HoldsObscured c context (.generic name args)
  | argument {name : String} {args : List TypeRef} {arg : TypeRef} : arg ∈ args →
      HoldsObscured c context arg → HoldsObscured c context (.generic name args)

theorem resolveDefinition_eq (c : Catalog) (context name : String) (arity : Nat) :
    c.resolveDefinition context name arity =
      (c.declaredName? context (name ++ "`" ++ toString arity)).or (c.declaredName? context name) := by
  have hdef : c.resolveDefinition context name arity =
      (definitionNames name arity).findSome? (c.declaredName? context) := rfl
  rw [hdef, definitionNames, List.findSome?_cons, List.findSome?_singleton]
  cases c.declaredName? context (name ++ "`" ++ toString arity) <;> rfl

theorem declaredName?_of_obscured {context name full : String} (h : c.Obscured context name full) :
    c.declaredName? context name = none := by
  rw [declaredName?, resolveName_of_obscured h]

theorem declaredName?_cleaned {context name : String} (h : ∀ full, ¬ c.Obscured context name full) :
    c.cleaned.declaredName? context name = c.declaredName? context name := by
  rw [declaredName?, resolveName_cleaned h, declaredName?]

/-- A name with an arity is no simple name. -/
theorem homonyms_eq_nil_of_arityMark {context name : String} (h : arityMark ∈ name.toList) :
    c.homonyms context name = [] := by
  rw [List.eq_nil_iff_forall_not_mem]
  intro t ht
  have hname : simpleName t.name = name := by
    unfold homonyms at ht
    cases hm : c.module? context with
    | none => simp [hm] at ht
    | some m =>
      rw [hm, Option.elim_some, List.mem_filter] at ht
      exact of_decide_eq_true ht.2
  rw [← hname] at h
  exact arityMark_not_mem_stripArity _ h

theorem not_obscured_of_arityMark (c : Catalog) (context : String) {name : String}
    (h : arityMark ∈ name.toList) : ∀ full, ¬ c.Obscured context name full := by
  intro full hobscured
  have hrepeated := hobscured.repeated
  rw [homonyms_eq_nil_of_arityMark h] at hrepeated
  simp at hrepeated

theorem declaredName?_definitionName_cleaned (c : Catalog) (context name : String) (arity : Nat) :
    c.cleaned.declaredName? context (name ++ "`" ++ toString arity) =
      c.declaredName? context (name ++ "`" ++ toString arity) :=
  declaredName?_cleaned (c.not_obscured_of_arityMark context (arityMark_mem_definitionName name arity))

theorem resolveDefinition_cleaned_of_obscured {context name full : String} {arity : Nat}
    (h : c.Obscured context name full) (hnone : c.resolveDefinition context name arity = none) :
    c.cleaned.resolveDefinition context name arity = some ⟨context, full⟩ := by
  rw [resolveDefinition_eq, Option.or_eq_none_iff] at hnone
  rw [resolveDefinition_eq, declaredName?_definitionName_cleaned, hnone.1, Option.none_or, declaredName?,
    resolveName_cleaned_of_obscured h]

theorem resolveDefinition_cleaned {context name : String} {arity : Nat}
    (h : c.resolveDefinition context name arity = none → ∀ full, ¬ c.Obscured context name full) :
    c.cleaned.resolveDefinition context name arity = c.resolveDefinition context name arity := by
  rw [resolveDefinition_eq, resolveDefinition_eq, declaredName?_definitionName_cleaned]
  cases hwith : c.declaredName? context (name ++ "`" ++ toString arity) with
  | some id => rfl
  | none =>
    -- The plain name is not obscured: then the definition would be unknown, which is ruled out.
    have hplain : ∀ full, ¬ c.Obscured context name full := fun full hobscured =>
      h (by rw [resolveDefinition_eq, hwith, declaredName?_of_obscured hobscured]; rfl) full hobscured
    rw [declaredName?_cleaned hplain]

theorem holdsObscured_generic_iff {context name : String} {args : List TypeRef} :
    c.HoldsObscured context (.generic name args) ↔
      (c.resolveDefinition context name args.length = none ∧ ∃ full, c.Obscured context name full) ∨
        ∃ arg ∈ args, c.HoldsObscured context arg := by
  constructor
  · rintro (_ | _ | ⟨h, hnone⟩ | ⟨harg, h⟩)
    · exact .inl ⟨hnone, _, h⟩
    · exact .inr ⟨_, harg, h⟩
  · rintro (⟨hnone, _, h⟩ | ⟨_, harg, h⟩)
    · exact .definition h hnone
    · exact .argument harg h

mutual

/-- A reference means the same in both catalogs exactly if it holds no obscured name. -/
theorem resolve_cleaned_eq_iff {context : String} : ∀ t : TypeRef,
    c.cleaned.resolve context t = c.resolve context t ↔ ¬ c.HoldsObscured context t
  | .named name => by
    rw [resolve, resolve]
    constructor
    · rintro heq ⟨h⟩
      rw [resolveName_of_obscured h, resolveName_cleaned_of_obscured h] at heq
      cases heq
    · exact fun h => resolveName_cleaned fun _ hobscured => h (.named hobscured)
  | .array element => by
    rw [resolve, resolve, Descriptor.array.injEq, resolve_cleaned_eq_iff element]
    exact not_congr ⟨.array, fun h => by cases h; assumption⟩
  | .generic name args => by
    have hargs : c.cleaned.resolveAll context args = c.resolveAll context args ↔ _ :=
      resolveAll_cleaned_eq_iff args
    rw [holdsObscured_generic_iff, not_or]
    by_cases hdef : c.resolveDefinition context name args.length = none ∧ ∃ full, c.Obscured context name full
    · obtain ⟨hnone, full, h⟩ := id hdef
      refine iff_of_false ?_ fun hnot => hnot.1 hdef
      simp [resolve, hnone, resolveDefinition_cleaned_of_obscured h hnone]
    · have hsame : c.cleaned.resolveDefinition context name args.length =
          c.resolveDefinition context name args.length :=
        resolveDefinition_cleaned fun hnone full h => hdef ⟨hnone, full, h⟩
      rw [and_iff_right hdef, resolve, resolve, hsame]
      cases c.resolveDefinition context name args.length <;> simp [hargs]

theorem resolveAll_cleaned_eq_iff {context : String} : ∀ args : List TypeRef,
    c.cleaned.resolveAll context args = c.resolveAll context args ↔
      ∀ arg ∈ args, ¬ c.HoldsObscured context arg
  | [] => by simp [resolveAll]
  | arg :: args => by
    rw [resolveAll, resolveAll, List.cons.injEq, resolve_cleaned_eq_iff arg, resolveAll_cleaned_eq_iff args,
      List.forall_mem_cons]

end

/-- What is read of a text holds an obscured name. -/
def ObscuredText (c : Catalog) (context text : String) : Prop :=
  ∃ t, TypeRef.parse text = .ok t ∧ c.HoldsObscured context t

theorem resolveText_cleaned {context text : String} (h : ¬ c.ObscuredText context text) :
    c.cleaned.resolveText context text = c.resolveText context text := by
  unfold resolveText
  cases hparse : TypeRef.parse text with
  | error fault => rfl
  | ok t =>
    have ht : ¬ c.HoldsObscured context t := fun ht => h ⟨t, hparse, ht⟩
    simp only [(resolve_cleaned_eq_iff t).mpr ht]

end Catalog

end WireTypes
