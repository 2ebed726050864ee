import WireTypes.Output.Entity
import WireTypes.Proofs.Catalog.SameTypes
import WireTypes.Proofs.Graph.Closure
import WireTypes.Proofs.Graph.Endpoints

/-!
# Declarations in outline

Endpoints and ancestries are read off the names of types, their bases, their interfaces and their methods. The
properties of a type count for nothing but the models that the type itself leads to.

* `TypeDecl.SameOutline`, `Catalog.SameOutlines` : declarations with the same base, interfaces and methods, and
  catalogs of the same types whose declarations are so;
* `SameOutlines.baseType`, `SameOutlines.methods`, `SameOutlines.mem_ancestors`, `SameOutlines.endpoints` : what
  both catalogs read alike;
* `classify_congr`, `seeds_congr` : what types are to a client in catalogs that ignore the same;
* `SameOutlines.closedOver`, `SameOutlines.closure_eq` : a set that is closed in one is closed in the other, if its
  own members have the same properties, so that the closures are the same;
* `entityFile_congr` : the file of a model depends on its own declaration.
-/

namespace WireTypes

/-! ## Steps that agree -/

theorem mapM_congr {α β ε : Type} {f g : α → Except ε β} {as : List α} (h : ∀ a ∈ as, f a = g a) :
    as.mapM f = as.mapM g := by
  induction as with
  | nil => rfl
  | cons a as ih =>
    have hrest := ih fun b hb => h b (List.mem_cons_of_mem a hb)
    rw [List.mapM_cons, List.mapM_cons, h a List.mem_cons_self, hrest]

theorem Reached.mono {α : Type} {next next' : α → List α} {within within' start : List α}
    (hnext : ∀ a, ∀ b ∈ next a, b ∈ next' a) (hwithin : ∀ a ∈ within, a ∈ within') {a : α}
    (h : Reached next within start a) : Reached next' within' start a := by
  induction h with
  | start ha => exact .start ha
  | step _ hb hin ih => exact .step ih (hnext _ _ hb) (hwithin _ hin)

/-- What is reached depends on what each step leads to, whatever its order and however often. -/
theorem reached_congr {α : Type} {next next' : α → List α} {within within' start : List α}
    (hnext : ∀ a b, b ∈ next a ↔ b ∈ next' a) (hwithin : ∀ a, a ∈ within ↔ a ∈ within') {a : α} :
    Reached next within start a ↔ Reached next' within' start a :=
  ⟨Reached.mono (fun a b => (hnext a b).mp) fun a => (hwithin a).mp,
    Reached.mono (fun a b => (hnext a b).mpr) fun a => (hwithin a).mpr⟩

/-! ## Outlines -/

namespace TypeDecl

/-- The references of a declaration to its base and its interfaces and in its methods. -/
def outlineReferences (t : TypeDecl) : List String :=
  Catalog.parentTexts t ++ t.methods.flatMap (·.references)

theorem mem_outlineReferences {t : TypeDecl} {text : String} : text ∈ t.outlineReferences ↔
    text ∈ Catalog.parentTexts t ∨ ∃ m ∈ t.methods, text ∈ m.references := by
  simp [outlineReferences]

/-- Declarations with the same base, interfaces and methods. -/
structure SameOutline (t t' : TypeDecl) : Prop where
  base : t'.base = t.base
  interfaces : t'.interfaces = t.interfaces
  methods : t'.methods = t.methods

namespace SameOutline

variable {t t' : TypeDecl}

theorem symm (h : t.SameOutline t') : t'.SameOutline t :=
  ⟨h.base.symm, h.interfaces.symm, h.methods.symm⟩

theorem parentTexts (h : t.SameOutline t') : Catalog.parentTexts t' = Catalog.parentTexts t := by
  rw [Catalog.parentTexts, h.base, h.interfaces, Catalog.parentTexts]

theorem outlineReferences (h : t.SameOutline t') : t'.outlineReferences = t.outlineReferences := by
  rw [TypeDecl.outlineReferences, h.parentTexts, h.methods, TypeDecl.outlineReferences]

end SameOutline

end TypeDecl

namespace Catalog

variable {c c' : Catalog}

theorem readMethod_congr {context : String} {m : MethodDecl}
    (h : ∀ text ∈ m.references, c'.resolveText context text = c.resolveText context text) :
    c'.readMethod context m = c.readMethod context m := by
  have hreturns : c'.readReturns context m = c.readReturns context m := by
    unfold readReturns
    split
    · rename_i text htext
      exact h text (MethodDecl.mem_references.mpr (.inl htext))
    · rfl
  have hparameters : m.parameters.mapM (c'.readParameter context) =
      m.parameters.mapM (c.readParameter context) := mapM_congr fun p hp => by
    rw [readParameter, h p.type (MethodDecl.mem_references.mpr (.inr ⟨p, hp, rfl⟩)), readParameter]
  rw [readMethod, hreturns, hparameters, readMethod]

/-- Catalogs that declare the same types in the same outline, the references in it meaning the same to both. -/
structure SameOutlines (c c' : Catalog) : Prop where
  readable : ∀ module id, id ∈ c'.readableTypesIn module ↔ id ∈ c.readableTypesIn module
  decl : ∀ id, Option.Rel TypeDecl.SameOutline (c.typeDecl? id) (c'.typeDecl? id)
  reads : ∀ id t, c.typeDecl? id = some t → ∀ text ∈ t.outlineReferences,
    c'.resolveText id.module text = c.resolveText id.module text

namespace SameOutlines

variable (h : c.SameOutlines c')

include h

theorem symm : c'.SameOutlines c where
  readable module id := (h.readable module id).symm
  decl id := by
    rcases rel_cases (h.decl id) with ⟨hnone, hnone'⟩ | ⟨t, t', ht, ht', hsame⟩
    · rw [hnone, hnone']
      exact .none
    · rw [ht, ht']
      exact .some hsame.symm
  reads id t' ht' text htext := by
    rcases rel_cases (h.decl id) with ⟨-, hnone'⟩ | ⟨t, u', ht, hu', hsame⟩
    · rw [hnone'] at ht'
      cases ht'
    · obtain rfl := Option.some.inj (hu'.symm.trans ht')
      exact (h.reads id t ht text (hsame.outlineReferences ▸ htext)).symm

theorem mem_typeIds {id : TypeId} : id ∈ c'.typeIds ↔ id ∈ c.typeIds := by
  rw [mem_typeIds_iff, mem_typeIds_iff]
  rcases rel_cases (h.decl id) with ⟨hnone, hnone'⟩ | ⟨t, t', ht, ht', -⟩
  · rw [hnone, hnone']
  · rw [ht, ht', Option.isSome_some, Option.isSome_some]

/-! ## Members -/

theorem baseType (id : TypeId) : c'.baseType id = c.baseType id := by
  unfold Catalog.baseType typeDecl
  rcases rel_cases (h.decl id) with ⟨hnone, hnone'⟩ | ⟨t, t', ht, ht', hsame⟩
  · rw [hnone, hnone']
    rfl
  · rw [ht, ht']
    simp only [bind, Except.bind, hsame.base]
    cases hbase : t.base with
    | none => rfl
    | some text =>
      have hmem : text ∈ t.outlineReferences :=
        TypeDecl.mem_outlineReferences.mpr (.inl (by simp [parentTexts, hbase]))
      simp only [h.reads id t ht text hmem]

theorem methods (id : TypeId) : c'.methods id = c.methods id := by
  rw [methods_eq, methods_eq]
  unfold typeDecl
  rcases rel_cases (h.decl id) with ⟨hnone, hnone'⟩ | ⟨t, t', ht, ht', hsame⟩
  · rw [hnone, hnone']
    rfl
  · rw [ht, ht']
    simp only [bind, Except.bind, hsame.methods]
    refine mapM_congr fun m hm => readMethod_congr fun text htext => ?_
    exact h.reads id t ht text (TypeDecl.mem_outlineReferences.mpr (.inr ⟨m, hm, htext⟩))

theorem parents (id : TypeId) : c'.parents id = c.parents id := by
  unfold Catalog.parents
  rcases rel_cases (h.decl id) with ⟨hnone, hnone'⟩ | ⟨t, t', ht, ht', hsame⟩
  · rw [hnone, hnone']
    rfl
  · rw [ht, ht', Option.elim_some, Option.elim_some, hsame.parentTexts]
    refine List.filterMap_congr fun text htext => ?_
    rw [h.reads id t ht text (TypeDecl.mem_outlineReferences.mpr (.inl htext))]

/-- Ignored types are passed through, so that marking some leaves every ancestry as it is. -/
theorem mem_ancestors {id a : TypeId} : a ∈ c'.ancestors id ↔ a ∈ c.ancestors id := by
  have hparents : c'.parents = c.parents := funext h.parents
  rw [Catalog.mem_ancestors, Catalog.mem_ancestors, hparents]
  exact and_congr_right fun _ => reached_congr (fun _ _ => Iff.rfl) fun _ => h.mem_typeIds

/-! ## Endpoints -/

theorem readableTypes : c'.readableTypes = c.readableTypes := by
  apply OrderedSet.ext
  intro id
  rw [mem_readableTypes, mem_readableTypes]
  exact h.readable id.module id

theorem endpoint? (configured : List String) (id : TypeId) :
    c'.endpoint? configured id = c.endpoint? configured id := by
  unfold Catalog.endpoint?
  rw [h.methods id]
  rcases rel_cases (h.decl id) with ⟨hnone, hnone'⟩ | ⟨t, t', ht, ht', hsame⟩
  · rw [hnone, hnone']
  · rw [ht, ht', Option.bind_some, Option.bind_some, hsame.base]

theorem endpoints (configured : List String) : c'.endpoints configured = c.endpoints configured := by
  rw [endpoints_eq, endpoints_eq, h.readableTypes]
  exact congrArg (List.filterMap · _) (funext (h.endpoint? configured))

end SameOutlines

/-! ## Catalogs that ignore the same -/

mutual

theorem classify_congr (hi : ∀ id, c'.isIgnored id = c.isIgnored id) :
    ∀ d : Descriptor, c'.classify d = c.classify d
  | .declared id => by rw [classify, hi, classify]
  | .constructed id args => by rw [classify, hi, classifyAll_congr hi args, classify]
  | .builtin b => by rw [classify, classify]
  | .array element => by
    have ih := classify_congr hi element
    cases element with
    | builtin b => cases b <;> rfl
    | _ => exact congrArg Classification.collectionOf ih
  | .generic name args => by simp only [classify, classifyAll_congr hi args]
  | .unresolved name => rfl

theorem classifyAll_congr (hi : ∀ id, c'.isIgnored id = c.isIgnored id) :
    ∀ ds : List Descriptor, c'.classifyAll ds = c.classifyAll ds
  | [] => rfl
  | d :: ds => by rw [classifyAll, classify_congr hi d, classifyAll_congr hi ds, classifyAll]

end

section SameIgnored

variable (hi : ∀ id, c'.isIgnored id = c.isIgnored id)

include hi

theorem classifyEndpoint_congr (e : Endpoint) : c'.classifyEndpoint e = c.classifyEndpoint e := by
  have hmethod : c'.classifyMethod = c.classifyMethod := funext fun m => by
    simp only [classifyMethod, classify_congr hi]
  rw [classifyEndpoint, hmethod, classifyEndpoint]

theorem seeds_congr (endpoints : List Endpoint) : c'.seeds endpoints = c.seeds endpoints := by
  simp only [seeds, classify_congr hi]

/-- A set that is closed in one catalog is closed in the other, if its own members have the same properties. -/
theorem SameOutlines.closedOver (h : c.SameOutlines c') {seeds : ModelSet} {s : Set TypeId}
    (hs : ∀ id ∈ s, c'.properties id = c.properties id) (hclosed : c.ClosedOver seeds s) :
    c'.ClosedOver seeds s where
  seeds id hid hkept := hclosed.seeds id hid ((hi id).symm.trans hkept)
  subtypes id hid ids hids sub hsub hkept hanc := by
    have hread := (h.readable id.module sub).mp (mem_readableTypesIn.mpr ⟨ids, hids, hsub⟩)
    obtain ⟨ids', hids', hsub'⟩ := mem_readableTypesIn.mp hread
    exact hclosed.subtypes id hid ids' hids' sub hsub' ((hi sub).symm.trans hkept) (h.mem_ancestors.mp hanc)
  properties id hid properties hps p hp m hm := by
    rw [hs id hid] at hps
    rw [classify_congr hi] at hm
    exact hclosed.properties id hid properties hps p hp m hm
  base id hid base hbase m hm := by
    rw [h.baseType id] at hbase
    rw [classify_congr hi] at hm
    exact hclosed.base id hid base hbase m hm

/-- The closures are the same if the members of one of them have the same properties. -/
theorem SameOutlines.closure_eq (h : c.SameOutlines c') {seeds : ModelSet}
    (hs : ∀ id ∈ c.closure seeds, c'.properties id = c.properties id) : c'.closure seeds = c.closure seeds := by
  have hsub : ∀ id ∈ c'.closure seeds, id ∈ c.closure seeds := fun id hid =>
    closure_subset_of_closedOver (h.closedOver hi hs (closedOver_closure c seeds)) hid
  apply OrderedSet.ext
  intro id
  constructor
  · exact hsub id
  · have hclosed := h.symm.closedOver (fun id => (hi id).symm) (fun id hid => (hs id (hsub id hid)).symm)
      (closedOver_closure c' seeds)
    exact closure_subset_of_closedOver hclosed

/-! ## Files -/

theorem interface_congr {id : TypeId} (hbase : c'.baseType id = c.baseType id)
    (hproperties : c'.properties id = c.properties id) (nameOf : TypeId → String) :
    c'.interface nameOf id = c.interface nameOf id := by
  have hmodel : c'.baseModel? id = c.baseModel? id := by
    simp only [baseModel?, baseClassification?, hbase, classify_congr hi]
  have hclassified : c'.classifiedProperties id = c.classifiedProperties id := by
    simp only [classifiedProperties, hproperties, classify_congr hi]
  rw [interface, hmodel, hclassified, interface]

theorem entityFile_congr {id : TypeId} (hdecl : c'.typeDecl? id = c.typeDecl? id)
    (hbase : c'.baseType id = c.baseType id) (hproperties : c'.properties id = c.properties id)
    (nameOf : TypeId → String) (combined : Bool) :
    c'.entityFile nameOf combined id = c.entityFile nameOf combined id := by
  simp only [entityFile, hdecl, interface_congr hi hbase hproperties]

end SameIgnored

end Catalog

end WireTypes
