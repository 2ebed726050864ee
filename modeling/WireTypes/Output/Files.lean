import WireTypes.Output.Entity
import WireTypes.Output.Service

/-!
# All generated files

* `indexFile` : the file that exports all others, by name up to case;
* `OutputPlan` : the files of a run in the order in which they are written: models, services, index;
* `OutputPlan.make`.
-/

namespace WireTypes

/-- The file that exports the others. -/
def indexFile (names : List String) : OutputFile where
  name := indexName
  text := lines <| (names.mergeSort fun a b => Text.toLower a ≤ Text.toLower b).map fun name =>
    "export * from './" ++ name ++ "';"

/-- The files of a run. -/
structure OutputPlan where
  models : List OutputFile
  services : List OutputFile
  deriving Repr, BEq, Inhabited

namespace OutputPlan

/-- The names of the models and services. -/
def names (p : OutputPlan) : List String := (p.models ++ p.services).map (·.name)

/-- All files in the order in which they are written. -/
def files (p : OutputPlan) : List OutputFile := p.models ++ p.services ++ [indexFile p.names]

/-- The files for a graph. Without an API path there are no services. -/
def make (c : Catalog) (graph : TypeGraph) (apiPath : Option String) (module : HttpModule)
    (combined : Bool) : OutputPlan :=
  let names := OutputNames.assign graph.models graph.endpoints apiPath.isSome
  let nameOf := names.models.nameOf
  { models := graph.models.toList.map (c.entityFile nameOf combined)
    services :=
      match apiPath with
      | none => []
      | some apiPath =>
        graph.endpoints.filterMap fun e =>
          (names.services.lookup e.id).map fun name => serviceFile ⟨apiPath, module, combined⟩ nameOf name e }

end OutputPlan

end WireTypes
