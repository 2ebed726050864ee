import WireTypes.Proofs.Graph.Alike

/-!
# The graph when more types are marked

A marked type is left out wherever it would become a model, and with it the arrays, sequences and instances that
are made of it. It stays a type all the same: names still mean it, types still derive through it, and it may be an
endpoint. So marking more types leaves the endpoints as they are and takes models away.

* `ModuleDecl.MarksMore` : modules again, with more of their types marked;
* `alike_of_marksMore`, `isIgnored_of_marksMore` : their catalogs read alike, and what is ignored stays so;
* `build_marked` : the graph loses models, the marked ones among them, and keeps its endpoints.
-/

namespace WireTypes

/-- The declaration again, and marked if it was. Other annotations do not matter. -/
structure TypeDecl.MarksMore (t t' : TypeDecl) : Prop where
  rest : t' = { t with annotations := t'.annotations }
  marked : t.isIgnored = true → t'.isIgnored = true

/-- The module again, with each of its types marked if it was. -/
structure ModuleDecl.MarksMore (m m' : ModuleDecl) : Prop where
  name : m'.name = m.name
  references : m'.references = m.references
  types : List.Forall₂ TypeDecl.MarksMore m.types m'.types

namespace TypeDecl.MarksMore

variable {t t' : TypeDecl}

theorem refl (t : TypeDecl) : t.MarksMore t := ⟨rfl, id⟩

theorem name (h : t.MarksMore t') : t'.name = t.name := by rw [h.rest]

theorem sameMembers (h : t.MarksMore t') : t.SameMembers t' := by
  rw [h.rest]
  exact ⟨rfl, rfl, rfl, rfl⟩

end TypeDecl.MarksMore

namespace ModuleDecl.MarksMore

variable {m m' : ModuleDecl}

theorem sameTypes (h : m.MarksMore m') : m.SameTypes m' where
  name := h.name
  references := h.references
  types := .of_eq (map_eq_of_forall₂ (fun _ _ ht => ht.name) h.types)

theorem rel_type? (h : m.MarksMore m') (name : String) :
    Option.Rel TypeDecl.MarksMore (m.type? name) (m'.type? name) :=
  Catalog.rel_type? (fun _ _ ht => ht.name) h.types name

end ModuleDecl.MarksMore

namespace Catalog

section MarksMore

variable {c c' : Catalog} (h : List.Forall₂ ModuleDecl.MarksMore c.modules c'.modules)

include h

theorem rel_module?_of_marksMore (module : String) :
    Option.Rel ModuleDecl.MarksMore (c.module? module) (c'.module? module) :=
  rel_module? (fun _ _ hm => hm.name) h module

theorem sameTypes_of_marksMore : c.SameTypes c' := fun module =>
  rel_imp (fun _ _ hm => hm.sameTypes) (rel_module?_of_marksMore h module)

theorem rel_typeDecl?_of_marksMore (id : TypeId) :
    Option.Rel TypeDecl.MarksMore (c.typeDecl? id) (c'.typeDecl? id) := by
  unfold typeDecl?
  rcases rel_cases (rel_module?_of_marksMore h id.module) with ⟨hnone, hnone'⟩ | ⟨m, m', hm, hm', hmore⟩
  · rw [hnone, hnone']
    exact .none
  · rw [hm, hm']
    exact hmore.rel_type? id.name

theorem isIgnored_of_marksMore (id : TypeId) (hid : c.isIgnored id = true) : c'.isIgnored id = true := by
  unfold isIgnored at *
  rcases rel_cases (rel_typeDecl?_of_marksMore h id) with ⟨hnone, -⟩ | ⟨t, t', ht, ht', hmore⟩
  · rw [hnone] at hid
    cases hid
  · rw [ht] at hid
    rw [ht']
    exact hmore.marked hid

theorem resolveName_of_marksMore (context name : String) :
    c'.resolveName context name = c.resolveName context name :=
  (sameTypes_of_marksMore h).resolveName_of_moduleNames (moduleNames_of_forall₂ (fun _ _ hm => hm.name) h) context name

theorem alike_of_marksMore : c.Alike c' :=
  .of_names (sameTypes_of_marksMore h)
    (fun id => rel_imp (fun _ _ ht => ht.sameMembers) (rel_typeDecl?_of_marksMore h id))
    (resolveName_of_marksMore h)

end MarksMore

end Catalog

/-! ## The graph -/

namespace TypeGraph

open Catalog

/-- **Marking more types only takes models away.** Of two lists of modules that differ in the types that are
marked, the second marking all that the first does: the seeds and the models of the second are among those of the
first, no marked type is among them, and the endpoints are the same types. A repeated type is marked if its last
declaration is. -/
theorem build_marked {ms ms' : List ModuleDecl} (h : List.Forall₂ ModuleDecl.MarksMore ms ms')
    (configured : List String) :
    let marked := ofModules ms'
    let graph := build (ofModules ms) configured
    let graph' := build marked configured
    (∀ id ∈ graph'.seeds, id ∈ graph.seeds) ∧
    (∀ id ∈ graph'.models, id ∈ graph.models) ∧
    (∀ id, marked.isIgnored id = true → id ∉ graph'.seeds ∧ id ∉ graph'.models) ∧
    graph'.endpoints.map (·.id) = graph.endpoints.map (·.id) := by
  intro marked graph graph'
  have hmodules := forall₂_modules_ofModules (fun _ _ hm => ModuleDecl.MarksMore.name hm) h
  have halike := alike_of_marksMore hmodules
  have hi := isIgnored_of_marksMore hmodules
  have hendpoints : marked.endpoints configured = (ofModules ms).endpoints configured :=
    halike.endpoints configured
  have hseeds : ∀ id ∈ graph'.seeds, id ∈ graph.seeds := by
    intro id hid
    show id ∈ (ofModules ms).seeds ((ofModules ms).endpoints configured)
    rw [← hendpoints]
    exact mem_seeds_of_ignored hi hid
  refine ⟨hseeds, fun id hid => halike.mem_closure hi hseeds hid, ?_, ?_⟩
  · intro id hid
    constructor
    · intro hseed
      rw [not_isIgnored_of_mem_seeds hseed] at hid
      cases hid
    · intro hmodel
      rw [not_isIgnored_of_mem_closure hmodel] at hid
      cases hid
  · rw [endpointIds_build, endpointIds_build, hendpoints]

/-- A shop whose items are records, which lead to users. -/
def stockShop (annotations : List String) : ModuleDecl :=
  { name := "Shop"
    types := [
      { name := "Shop.StockController"
        base := some "ApiController"
        methods := [{ name := "GetItem", returns := some "Item" }] },
      { name := "Shop.Item", base := some "Record", properties := [⟨"Size", "Size"⟩] },
      { name := "Shop.Record"
        annotations := annotations.map Annotation.ofName
        properties := [⟨"ChangedBy", "User"⟩] },
      { name := "Shop.Size" },
      { name := "Shop.User" }] }

theorem marksMore_stockShop : (stockShop []).MarksMore (stockShop [ignoreMarker]) where
  name := rfl
  references := rfl
  types := by
    have hrecord : TypeDecl.MarksMore
        { name := "Shop.Record", properties := [⟨"ChangedBy", "User"⟩] }
        { name := "Shop.Record", annotations := [.generationIgnore], properties := [⟨"ChangedBy", "User"⟩] } :=
      ⟨rfl, fun _ => by decide +kernel⟩
    exact .cons (.refl _) (.cons (.refl _) (.cons hrecord (.cons (.refl _) (.cons (.refl _) .nil))))

/-- Once records are marked they are no models, and neither are the users that only they lead to. -/
theorem build_marked_stockShop :
    let marked := ofModules [stockShop [ignoreMarker]]
    let record : TypeId := ⟨"Shop", "Shop.Record"⟩
    let graph := build (ofModules [stockShop []]) []
    let graph' := build marked []
    List.Forall₂ ModuleDecl.MarksMore [stockShop []] [stockShop [ignoreMarker]] ∧
      marked.isIgnored record = true ∧ record ∈ graph.models ∧ record ∉ graph'.models ∧
      (∀ id ∈ graph'.models, id ∈ graph.models) ∧
      graph'.models.toList = [⟨"Shop", "Shop.Item"⟩, ⟨"Shop", "Shop.Size"⟩] := by
  intro marked record graph graph'
  have hmarks : List.Forall₂ ModuleDecl.MarksMore [stockShop []] [stockShop [ignoreMarker]] :=
    .cons marksMore_stockShop .nil
  have hrecord : marked.isIgnored record = true := by decide +kernel
  obtain ⟨-, hmodels, hmarked, -⟩ := build_marked hmarks []
  exact ⟨hmarks, hrecord, by decide +kernel, (hmarked record hrecord).2, hmodels, by decide +kernel⟩

end TypeGraph

end WireTypes
