import WireTypes.Proofs.Generation.Destination

/-!
# Files of ignored types

The mark that a type is not to be generated is respected wherever a model is found, and nowhere else: whether a
type is an endpoint is decided by its base and its methods alone. So an ignored type has no file of a model, but
an ignored endpoint has its service.

* `Options.filesBySource` : the files for a graph, each with the type that gives rise to it;
* `files_plan_eq` : besides the index, a run writes exactly these;
* `mem_sources` : the types that give rise to one are the models and, if an API path is set, the endpoints;
* `generate_ignored` : when an ignored type does, and when none does.
-/

namespace WireTypes.Options

/-- The files for a graph, each with the type that gives rise to it: the models and, if an API path is set, the
endpoints. -/
def filesBySource (o : Options) (c : Catalog) (graph : TypeGraph) : List (TypeId × OutputFile) :=
  let names := o.outputNames graph
  graph.models.toList.map (fun id => (id, c.entityFile names.models.nameOf o.combineImports id)) ++
    match o.apiPath with
    | none => []
    | some path => graph.endpoints.map fun e => (e.id, serviceFile ⟨path, o.httpModule, o.combineImports⟩
        names.models.nameOf (names.services.nameOf e.id) e)

theorem map_snd_filesBySource (o : Options) (c : Catalog) (graph : TypeGraph) :
    (o.filesBySource c graph).map (·.2) = (o.plan c graph).models ++ (o.plan c graph).services := by
  unfold filesBySource plan outputNames
  cases o.apiPath with
  | none => simp [OutputPlan.make]
  | some path =>
    rw [List.map_append, List.map_map, List.map_map, OutputPlan.services_make]
    rfl

theorem files_plan_eq (o : Options) (c : Catalog) (graph : TypeGraph) :
    (o.plan c graph).files = (o.filesBySource c graph).map (·.2) ++ [indexFile (o.plan c graph).names] := by
  rw [OutputPlan.files, map_snd_filesBySource]

theorem mem_sources {o : Options} {c : Catalog} {graph : TypeGraph} {id : TypeId} :
    (∃ file, (id, file) ∈ o.filesBySource c graph) ↔
      id ∈ graph.models ∨ o.apiPath.isSome = true ∧ id ∈ graph.endpoints.map (·.id) := by
  have hmem : (∃ file, (id, file) ∈ o.filesBySource c graph) ↔ id ∈ (o.filesBySource c graph).map (·.1) := by
    simp
  rw [hmem, filesBySource, List.map_append, List.mem_append, OrderedSet.mem_def]
  refine or_congr (by simp) ?_
  cases o.apiPath with
  | none => simp
  | some path => simp

/-- A run that succeeds reports the models and services that it writes. -/
theorem reported_of_generate {o : Options} {d : Disk} {c : Catalog} {graph : TypeGraph} {report : Report}
    (hload : o.loadGraph d = .ok (c, graph)) (hok : (o.generate d).2 = .ok report) :
    report.models ++ report.services = (o.filesBySource c graph).map (·.2.name) := by
  obtain ⟨hmodels, hservices⟩ := report_of_generate hload hok
  rw [hmodels, hservices, ← List.map_append, ← map_snd_filesBySource, List.map_map]
  rfl

/-- **An ignored type has a file exactly if it is an endpoint and services are generated.** No model is ignored.
So no ignored type gives rise to a file exactly if no API path is set or no endpoint is ignored, whatever a run
finds on disk. -/
theorem generate_ignored (o : Options) (c : Catalog) :
    let graph := TypeGraph.build c o.endpointBases
    let files := o.filesBySource c graph
    (∀ d, o.loadGraph d = .ok (c, graph) →
      o.outputFiles d = files.map (·.2) ++ [indexFile (o.plan c graph).names] ∧
      ∀ report, (o.generate d).2 = .ok report → report.models ++ report.services = files.map (·.2.name)) ∧
    (∀ id ∈ graph.models, c.isIgnored id = false) ∧
    (∀ id, c.isIgnored id = true → ((∃ file, (id, file) ∈ files) ↔
      o.apiPath.isSome = true ∧ id ∈ c.readableTypes ∧ c.isEndpoint o.endpointBases id = true)) ∧
    ((∀ id file, (id, file) ∈ files → c.isIgnored id = false) ↔ o.apiPath.isSome = true →
      ∀ id ∈ c.readableTypes, c.isEndpoint o.endpointBases id = true → c.isIgnored id = false) := by
  intro graph files
  have hmodel : ∀ id ∈ graph.models, c.isIgnored id = false := fun id hid =>
    Catalog.not_isIgnored_of_mem_closure hid
  have hsource : ∀ id, c.isIgnored id = true → ((∃ file, (id, file) ∈ files) ↔
      o.apiPath.isSome = true ∧ id ∈ c.readableTypes ∧ c.isEndpoint o.endpointBases id = true) := by
    intro id hid
    have hnot : id ∉ graph.models := fun hmem => by
      rw [hmodel id hmem] at hid
      cases hid
    rw [mem_sources, or_iff_right hnot, TypeGraph.mem_endpointIds_build]
  refine ⟨fun d hload => ⟨?_, fun report => reported_of_generate hload⟩, hmodel, hsource, ?_⟩
  · unfold outputFiles
    rw [hload]
    exact o.files_plan_eq c graph
  · constructor
    · intro hnone hpath id hread hendpoint
      by_contra hid
      rw [Bool.not_eq_false] at hid
      obtain ⟨file, hfile⟩ := (hsource id hid).mpr ⟨hpath, hread, hendpoint⟩
      rw [hnone id file hfile] at hid
      cases hid
    · intro hkept id file hfile
      by_contra hid
      rw [Bool.not_eq_false] at hid
      obtain ⟨hpath, hread, hendpoint⟩ := (hsource id hid).mp ⟨file, hfile⟩
      rw [hkept hpath id hread hendpoint] at hid
      cases hid

/-- A shop whose one endpoint is marked as not to be generated. -/
def secretShop : ModuleDecl :=
  { name := "Shop"
    types := [
      { name := "Shop.SecretController", base := some "ApiController", annotations := [.generationIgnore] }] }

/-- The endpoint is ignored, and still it gives rise to a service. -/
theorem secret_has_service :
    let c := Catalog.ofModules [secretShop]
    let graph := TypeGraph.build c shopOptions.endpointBases
    let secret : TypeId := ⟨"Shop", "Shop.SecretController"⟩
    c.isIgnored secret = true ∧
      (shopOptions.filesBySource c graph).map (fun e => (e.1, e.2.name)) = [(secret, "SecretService")] ∧
      (shopOptions.plan c graph).services.map (·.name) = ["SecretService"] := by
  decide +kernel

end WireTypes.Options
