import WireTypes.Proofs.Graph.Outline

/-!
# Catalogs that read alike

Two catalogs whose types have the same members, and whose references mean the same, have the same endpoints and
the same ancestries, whatever else their declarations say. What is left to tell their graphs apart is which types
are ignored: the more there are, the less is classified as a model, and the less is reached.

* `TypeDecl.references`, `Catalog.Alike` : the references that a declaration makes; catalogs that read alike;
* `Alike.of_names` : it is enough that the types are the same and names mean the same;
* `Alike.sameOutlines`, `Alike.properties` : what is read in both is the same;
* `mem_models_classify_of_ignored`, `Alike.mem_closure` : the catalog that ignores more reaches less;
* `Alike.build_eq` : if both ignore the same types, their graphs are the same.
-/

namespace WireTypes

/-! ## References of a declaration -/

/-- The references of a declaration: to its base and its interfaces, and in its members. -/
def TypeDecl.references (t : TypeDecl) : List String :=
  Catalog.parentTexts t ++ t.properties.map (·.type) ++ t.methods.flatMap (·.references)

theorem TypeDecl.mem_references {t : TypeDecl} {text : String} : text ∈ t.references ↔
    text ∈ Catalog.parentTexts t ∨ (∃ p ∈ t.properties, p.type = text) ∨
      ∃ m ∈ t.methods, text ∈ m.references := by
  simp only [references, List.mem_append, List.mem_map, List.mem_flatMap, or_assoc]

/-- Declarations with the same base, interfaces and members. -/
structure TypeDecl.SameMembers (t t' : TypeDecl) : Prop where
  base : t'.base = t.base
  interfaces : t'.interfaces = t.interfaces
  properties : t'.properties = t.properties
  methods : t'.methods = t.methods

namespace TypeDecl.SameMembers

variable {t t' : TypeDecl}

theorem refl (t : TypeDecl) : t.SameMembers t := ⟨rfl, rfl, rfl, rfl⟩

theorem sameOutline (h : t.SameMembers t') : t.SameOutline t' := ⟨h.base, h.interfaces, h.methods⟩

end TypeDecl.SameMembers

namespace Catalog

variable {c c' : Catalog}

/-! ## Catalogs that read alike -/

/-- Catalogs that declare the same types, with the same members, and whose declarations hold only references that
mean the same to both. Their types may come in any order and be marked as they like. -/
structure Alike (c c' : Catalog) : Prop where
  readable : ∀ module id, id ∈ c'.readableTypesIn module ↔ id ∈ c.readableTypesIn module
  decl : ∀ id, Option.Rel TypeDecl.SameMembers (c.typeDecl? id) (c'.typeDecl? id)
  reads : ∀ id t, c.typeDecl? id = some t → ∀ text ∈ t.references,
    c'.resolveText id.module text = c.resolveText id.module text

namespace Alike

/-- Names that mean the same make references that do. -/
theorem of_names (htypes : c.SameTypes c')
    (hdecl : ∀ id, Option.Rel TypeDecl.SameMembers (c.typeDecl? id) (c'.typeDecl? id))
    (hnames : ∀ context name, c'.resolveName context name = c.resolveName context name) : c.Alike c' where
  readable := htypes.mem_readableTypesIn
  decl := hdecl
  reads id _ _ text _ := resolveText_congr (hnames id.module) text

variable (h : c.Alike c')

include h

theorem sameOutlines : c.SameOutlines c' where
  readable := h.readable
  decl id := rel_imp (fun _ _ hsame => hsame.sameOutline) (h.decl id)
  reads id t ht text htext := by
    refine h.reads id t ht text (TypeDecl.mem_references.mpr ?_)
    exact (TypeDecl.mem_outlineReferences.mp htext).imp_right .inr

/-! ## Members -/

theorem baseType (id : TypeId) : c'.baseType id = c.baseType id := h.sameOutlines.baseType id

theorem properties (id : TypeId) : c'.properties id = c.properties id := by
  unfold Catalog.properties typeDecl
  rcases rel_cases (h.decl id) with ⟨hnone, hnone'⟩ | ⟨t, t', ht, ht', hsame⟩
  · rw [hnone, hnone']
    rfl
  · rw [ht, ht']
    simp only [bind, Except.bind, hsame.properties]
    refine mapM_congr fun p hp => ?_
    rw [h.reads id t ht p.type (TypeDecl.mem_references.mpr (.inr (.inl ⟨p, hp, rfl⟩)))]

theorem mem_ancestors {id a : TypeId} : a ∈ c'.ancestors id ↔ a ∈ c.ancestors id := h.sameOutlines.mem_ancestors

theorem endpoints (configured : List String) : c'.endpoints configured = c.endpoints configured :=
  h.sameOutlines.endpoints configured

end Alike

/-! ## Catalogs that ignore more -/

theorem not_isIgnored_of_ignored (hi : ∀ id, c.isIgnored id = true → c'.isIgnored id = true) {id : TypeId}
    (h : c'.isIgnored id = false) : c.isIgnored id = false :=
  Bool.eq_false_iff.mpr fun hid => Bool.eq_false_iff.mp h (hi id hid)

mutual

/-- Ignoring more types adds no model to what any descriptor is classified as. -/
theorem mem_models_classify_of_ignored (hi : ∀ id, c.isIgnored id = true → c'.isIgnored id = true)
    {id : TypeId} : ∀ d : Descriptor, id ∈ (c'.classify d).models → id ∈ (c.classify d).models
  | .declared a => fun h => by
    rw [classify] at h ⊢
    split at h
    · simp [Classification.models] at h
    · rename_i hkept
      rwa [not_isIgnored_of_ignored hi (by simpa using hkept)]
  | .constructed a args => fun h => by
    rw [classify] at h ⊢
    split at h
    · simp [Classification.models] at h
    · rename_i hkept
      rw [not_isIgnored_of_ignored hi (by simpa using hkept)]
      exact List.mem_cons.mpr ((List.mem_cons.mp h).imp_right (mem_models_classifyAll_of_ignored hi args))
  | .builtin b => fun h => h
  | .array element => fun h => by
    rw [models_classify_array] at h ⊢
    exact mem_models_classify_of_ignored hi element h
  | .generic name args => fun h => by
    rw [models_classify_generic] at h ⊢
    split at h
    · exact absurd h List.not_mem_nil
    · rename_i hmap
      rw [if_neg hmap]
      exact mem_models_classifyAll_of_ignored hi args h
  | .unresolved name => fun h => h

theorem mem_models_classifyAll_of_ignored (hi : ∀ id, c.isIgnored id = true → c'.isIgnored id = true)
    {id : TypeId} : ∀ ds : List Descriptor, id ∈ Classification.modelsOfAll (c'.classifyAll ds) →
      id ∈ Classification.modelsOfAll (c.classifyAll ds)
  | [] => fun h => h
  | d :: ds => fun h => List.mem_append.mpr <| (List.mem_append.mp h).imp
      (mem_models_classify_of_ignored hi d) (mem_models_classifyAll_of_ignored hi ds)

end

section Ignored

variable (hi : ∀ id, c.isIgnored id = true → c'.isIgnored id = true)

include hi

theorem mem_seeds_of_ignored {endpoints : List Endpoint} {id : TypeId} (h : id ∈ c'.seeds endpoints) :
    id ∈ c.seeds endpoints := by
  rw [mem_seeds] at h ⊢
  obtain ⟨e, he, m, hm, d, hd, hid⟩ := h
  exact ⟨e, he, m, hm, d, hd, mem_models_classify_of_ignored hi d hid⟩

/-- What one catalog reaches is closed by the rules of another that reads alike and ignores more. -/
theorem Alike.closedOver_closure (h : c.Alike c') {seeds seeds' : ModelSet} (hseeds : ∀ id ∈ seeds', id ∈ seeds) :
    c'.ClosedOver seeds' {id | id ∈ c.closure seeds} where
  seeds id hid hkept := mem_closure_of_mem_seeds (hseeds id hid) (not_isIgnored_of_ignored hi hkept)
  subtypes id hid ids hids sub hsub hkept hanc := by
    have hread := (h.readable id.module sub).mp (mem_readableTypesIn.mpr ⟨ids, hids, hsub⟩)
    refine mem_closure_of_mem_subtypes hid (mem_subtypes_iff_readable.mpr ?_)
    exact ⟨hread, not_isIgnored_of_ignored hi hkept, h.mem_ancestors.mp hanc⟩
  properties id hid properties hps p hp m hm := by
    rw [h.properties id] at hps
    have hmodel := mem_models_classify_of_ignored hi p.type hm
    exact (Catalog.closedOver_closure c seeds).properties id hid properties hps p hp m hmodel
  base id hid base hbase m hm := by
    rw [h.baseType id] at hbase
    have hmodel := mem_models_classify_of_ignored hi base hm
    exact (Catalog.closedOver_closure c seeds).base id hid base hbase m hmodel

theorem Alike.mem_closure (h : c.Alike c') {seeds seeds' : ModelSet} (hseeds : ∀ id ∈ seeds', id ∈ seeds)
    {id : TypeId} (hid : id ∈ c'.closure seeds') : id ∈ c.closure seeds :=
  closure_subset_of_closedOver (h.closedOver_closure hi hseeds) hid

end Ignored

/-! ## Catalogs that ignore the same -/

section SameIgnored

variable (hi : ∀ id, c'.isIgnored id = c.isIgnored id)

include hi

theorem Alike.closure_eq (h : c.Alike c') (seeds : ModelSet) : c'.closure seeds = c.closure seeds :=
  h.sameOutlines.closure_eq hi fun id _ => h.properties id

theorem Alike.build_eq (h : c.Alike c') (configured : List String) :
    TypeGraph.build c' configured = TypeGraph.build c configured := by
  have hclassify : c'.classifyEndpoint = c.classifyEndpoint := funext (classifyEndpoint_congr hi)
  simp only [TypeGraph.build, h.endpoints, seeds_congr hi, h.closure_eq hi, hclassify]

end SameIgnored

end Catalog

end WireTypes
