import WireTypes.Proofs.Generation.Destination
import WireTypes.Proofs.Graph.Outline

/-!
# Types that the graph does not reach

What a type is made of is read for the sake of its own file and of the models that it leads to. Of a type that is
no model of the graph only the outline is read: its name in every resolution, its base and its interfaces for the
ancestries, and its methods if it is an endpoint. So its properties may say what they like, and may even be
unreadable.

* `TypeDecl.Reshaped`, `ModuleDecl.ReshapedOutside` : declarations with other properties, of another kind or with
  other members of an enumeration; modules again, with some types reshaped that are not among given models;
* `sameOutlines_of_reshaped`, `typeDecl?_of_reshaped` : their catalogs have the same outlines, and the models have
  the same declarations;
* `build_reshaped` : graph and files are the same.
-/

namespace WireTypes

/-- The declaration again, with other properties, of another kind or with other members of an enumeration. -/
def TypeDecl.Reshaped (t t' : TypeDecl) : Prop :=
  t' = { t with kind := t'.kind, properties := t'.properties, values := t'.values }

/-- The module again, with some of the types reshaped that are not among the models. -/
structure ModuleDecl.ReshapedOutside (models : ModelSet) (m m' : ModuleDecl) : Prop where
  name : m'.name = m.name
  references : m'.references = m.references
  types : List.Forall₂ (fun t t' => t.Reshaped t' ∧ (⟨m.name, t.name⟩ ∈ models → t' = t)) m.types m'.types

namespace TypeDecl.Reshaped

variable {t t' : TypeDecl}

theorem name (h : t.Reshaped t') : t'.name = t.name := by rw [h]

theorem isIgnored (h : t.Reshaped t') : t'.isIgnored = t.isIgnored := by rw [h, TypeDecl.isIgnored]; rfl

theorem sameOutline (h : t.Reshaped t') : t.SameOutline t' := by
  rw [h]
  exact ⟨rfl, rfl, rfl⟩

end TypeDecl.Reshaped

namespace Catalog

section Reshaped

variable {models : ModelSet} {c c' : Catalog}
  (h : List.Forall₂ (ModuleDecl.ReshapedOutside models) c.modules c'.modules)

include h

theorem sameTypes_of_reshaped : c.SameTypes c' := fun module =>
  rel_imp (fun _ _ hm => ⟨hm.name, hm.references, .of_eq (map_eq_of_forall₂ (fun _ _ ht => ht.1.name) hm.types)⟩)
    (rel_module? (fun _ _ hm => hm.name) h module)

theorem rel_typeDecl?_of_reshaped (id : TypeId) :
    Option.Rel (fun t t' => t.Reshaped t' ∧ (id ∈ models → t' = t)) (c.typeDecl? id) (c'.typeDecl? id) := by
  unfold typeDecl?
  rcases rel_cases (rel_module? (fun _ _ hm => hm.name) h id.module) with ⟨hnone, hnone'⟩ | ⟨m, m', hm, hm', hsame⟩
  · rw [hnone, hnone']
    exact .none
  · rw [hm, hm', Option.bind_some, Option.bind_some]
    rcases rel_cases (rel_type? (fun _ _ ht => ht.1.name) hsame.types id.name) with
      ⟨hnone, hnone'⟩ | ⟨t, t', ht, ht', hreshaped, hkept⟩
    · rw [hnone, hnone']
      exact .none
    · rw [ht, ht']
      refine .some ⟨hreshaped, fun hid => hkept ?_⟩
      have hmodule : m.name = id.module := (module?_eq_some_iff.mp hm).2
      have hname : t.name = id.name := (ModuleDecl.mem_of_type?_eq_some ht).2
      rw [hmodule, hname]
      exact hid

theorem typeDecl?_of_reshaped {id : TypeId} (hid : id ∈ models) : c'.typeDecl? id = c.typeDecl? id := by
  rcases rel_cases (rel_typeDecl?_of_reshaped h id) with ⟨hnone, hnone'⟩ | ⟨t, t', ht, ht', -, hkept⟩
  · rw [hnone, hnone']
  · rw [ht, ht', hkept hid]

theorem isIgnored_of_reshaped (id : TypeId) : c'.isIgnored id = c.isIgnored id := by
  unfold isIgnored
  rcases rel_cases (rel_typeDecl?_of_reshaped h id) with ⟨hnone, hnone'⟩ | ⟨t, t', ht, ht', hreshaped, -⟩
  · rw [hnone, hnone']
  · rw [ht, ht', Option.any_some, Option.any_some, hreshaped.isIgnored]

theorem resolveText_of_reshaped (context text : String) :
    c'.resolveText context text = c.resolveText context text := by
  have hnames := moduleNames_of_forall₂ (fun _ _ hm => ModuleDecl.ReshapedOutside.name hm) h
  exact resolveText_congr ((sameTypes_of_reshaped h).resolveName_of_moduleNames hnames context) text

theorem sameOutlines_of_reshaped : c.SameOutlines c' where
  readable := (sameTypes_of_reshaped h).mem_readableTypesIn
  decl id := rel_imp (fun _ _ ht => ht.1.sameOutline) (rel_typeDecl?_of_reshaped h id)
  reads id _ _ text _ := resolveText_of_reshaped h id.module text

theorem properties_of_reshaped {id : TypeId} (hid : id ∈ models) : c'.properties id = c.properties id := by
  simp only [properties, typeDecl, typeDecl?_of_reshaped h hid, resolveText_of_reshaped h]

end Reshaped

end Catalog

namespace TypeGraph

open Catalog

theorem build_eq_of_reshaped {models : ModelSet} {c c' : Catalog}
    (h : List.Forall₂ (ModuleDecl.ReshapedOutside models) c.modules c'.modules) {configured : List String}
    (hmodels : models = (build c configured).models) : build c' configured = build c configured := by
  have houtlines := sameOutlines_of_reshaped h
  have hi := isIgnored_of_reshaped h
  have hclassify : c'.classifyEndpoint = c.classifyEndpoint := funext (classifyEndpoint_congr hi)
  have hclosure : c'.closure (c.seeds (c.endpoints configured)) = c.closure (c.seeds (c.endpoints configured)) :=
    houtlines.closure_eq hi fun id hid => properties_of_reshaped h (hmodels ▸ hid)
  simp only [build, houtlines.endpoints, seeds_congr hi, hclosure, hclassify]

/-- **What unreached types are made of does not matter.** Of two lists of modules that differ only in the properties,
the kinds and the members of enumerations of types that are no models of the first: the endpoints, the seeds and the
models are the same, and so are the files, whatever the options, also if an edit makes a property unreadable. -/
theorem build_reshaped {ms ms' : List ModuleDecl} {configured : List String}
    (h : List.Forall₂ (ModuleDecl.ReshapedOutside (build (ofModules ms) configured).models) ms ms') :
    let c := ofModules ms
    let c' := ofModules ms'
    let graph := build c configured
    let graph' := build c' configured
    graph'.endpoints = graph.endpoints ∧ graph'.seeds = graph.seeds ∧ graph'.models = graph.models ∧
    (∀ o : Options, o.plan c' graph' = o.plan c graph) ∧
    ∀ (o : Options) (d d' : Disk), o.loadGraph d = .ok (c, graph) → o.loadGraph d' = .ok (c', graph') →
      o.outputFiles d' = o.outputFiles d := by
  intro c c' graph graph'
  have hmodules : List.Forall₂ (ModuleDecl.ReshapedOutside graph.models) c.modules c'.modules :=
    forall₂_modules_ofModules (fun _ _ hm => ModuleDecl.ReshapedOutside.name hm) h
  have hgraph : graph' = graph := build_eq_of_reshaped hmodules rfl
  have hplan : ∀ o : Options, o.plan c' graph' = o.plan c graph := by
    intro o
    have hfiles : ∀ nameOf, graph.models.toList.map (c'.entityFile nameOf o.combineImports) =
        graph.models.toList.map (c.entityFile nameOf o.combineImports) := fun nameOf =>
      List.map_congr_left fun id hid => entityFile_congr (isIgnored_of_reshaped hmodules)
        (typeDecl?_of_reshaped hmodules hid) ((sameOutlines_of_reshaped hmodules).baseType id)
        (properties_of_reshaped hmodules hid) nameOf o.combineImports
    simp only [hgraph, Options.plan, OutputPlan.make, hfiles]
  refine ⟨by rw [hgraph], by rw [hgraph], by rw [hgraph], hplan, fun o d d' hload hload' => ?_⟩
  rw [Options.outputFiles_of_loadGraph hload, Options.outputFiles_of_loadGraph hload', hplan]

/-- A shop with an archive that nothing leads to. -/
def archiveShop (archive : TypeDecl) : ModuleDecl :=
  { name := "Shop"
    types := [
      { name := "Shop.OrdersController"
        base := some "ApiController"
        methods := [{ name := "GetOrder", returns := some "Order" }] },
      { name := "Shop.Order", properties := [⟨"Id", "int"⟩] },
      archive] }

def archive : TypeDecl := { name := "Shop.Archive", properties := [⟨"Orders", "Order[]"⟩] }

/-- The archive as an enumeration with a property that cannot be read. -/
def brokenArchive : TypeDecl := { archive with kind := .enum, properties := [⟨"Orders", "Order["⟩] }

theorem build_reshaped_archiveShop :
    let c := ofModules [archiveShop archive]
    let c' := ofModules [archiveShop brokenArchive]
    let graph := build c []
    let graph' := build c' []
    List.Forall₂ (ModuleDecl.ReshapedOutside graph.models) [archiveShop archive] [archiveShop brokenArchive] ∧
      (c.properties ⟨"Shop", "Shop.Archive"⟩).isOk = true ∧ (c'.properties ⟨"Shop", "Shop.Archive"⟩).isOk = false ∧
      graph'.models = graph.models ∧ graph.models.toList = [⟨"Shop", "Shop.Order"⟩] ∧
      ∀ o : Options, o.plan c' graph' = o.plan c graph := by
  intro c c' graph graph'
  have hmodels : graph.models.toList = [⟨"Shop", "Shop.Order"⟩] := by decide +kernel
  have hreshaped : (archiveShop archive).ReshapedOutside graph.models (archiveShop brokenArchive) := by
    refine ⟨rfl, rfl, .cons ⟨rfl, fun _ => rfl⟩ (.cons ⟨rfl, fun _ => rfl⟩ (.cons ⟨rfl, fun hid => ?_⟩ .nil))⟩
    rw [OrderedSet.mem_def, hmodels] at hid
    exact absurd hid (by decide +kernel)
  have hmodules : List.Forall₂ (ModuleDecl.ReshapedOutside graph.models) [archiveShop archive]
      [archiveShop brokenArchive] := .cons hreshaped .nil
  obtain ⟨-, -, hsame, hplan, -⟩ := build_reshaped hmodules
  exact ⟨hmodules, by decide +kernel, by decide +kernel, hsame, hmodels, hplan⟩

end TypeGraph

end WireTypes
