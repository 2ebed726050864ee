import WireTypes.Catalog.Load
import WireTypes.Generation.Cleanup
import WireTypes.Options.Basic

/-!
# Generation

* `Options.loadGraph` : the catalog and the type graph that the options select;
* `Options.generate` : loads the modules, makes the destination, writes models, services and the index, and
  removes what is stale. The disk is changed as far as a run comes;
* `Report` : what a run has done.
-/

namespace WireTypes

/-- Why a run fails. -/
inductive GenerationError where
  | load (fault : LoadError)
  | disk (fault : DiskError)
  deriving Repr, DecidableEq

/-- The error in words. -/
def GenerationError.message : GenerationError → String
  | .load fault => fault.message
  | .disk fault => fault.message

/-- What a run has done. -/
structure Report where
  /-- The absolute path of the source. -/
  source : String
  /-- The absolute path of the destination. -/
  destination : String
  /-- How many endpoints there are. -/
  endpoints : Nat
  models : List String
  services : List String
  /-- The files that were stale. -/
  removed : List String
  deriving Repr, DecidableEq, Inhabited

/-- The catalog that the options select and its type graph. -/
def Options.loadGraph (o : Options) (d : Disk) : Except LoadError (Catalog × TypeGraph) := do
  let c ← Catalog.load d (d.absolute o.source) o.files
  return (c, TypeGraph.build c o.endpointBases)

/-- The files that the options ask for. -/
def Options.plan (o : Options) (c : Catalog) (graph : TypeGraph) : OutputPlan :=
  OutputPlan.make c graph o.apiPath o.httpModule o.combineImports

/-- Brings the destination to the files of a plan, and gives the names of the files removed. -/
def Disk.realize (d : Disk) (destination : String) (plan : OutputPlan) :
    Disk × Except DiskError (List String) :=
  match d.makeDirs destination with
  | (d, false) => (d, .error (.uncreatable destination))
  | (d, true) =>
    match d.writeFiles destination plan.files with
    | (d, .error e) => (d, .error e)
    | (d, .ok ()) => d.removeStale destination (plan.files.map (·.name))

/-- Generates the files that the options ask for. -/
def Options.generate (o : Options) (d : Disk) : Disk × Except GenerationError Report :=
  match o.loadGraph d with
  | .error e => (d, .error (.load e))
  | .ok (c, graph) =>
    let plan := o.plan c graph
    let destination := d.absolute o.destination
    match d.realize destination plan with
    | (d, .error e) => (d, .error (.disk e))
    | (d', .ok removed) =>
      (d', .ok {
        source := d.absolute o.source
        destination
        endpoints := graph.endpoints.length
        models := plan.models.map (·.name)
        services := plan.services.map (·.name)
        removed })

end WireTypes
