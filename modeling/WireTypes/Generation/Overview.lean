import WireTypes.Generation.Basic

/-!
# Overviews

* `TypeGraph.overview` : the endpoints with their methods and the models of a graph in words;
* `Options.inspect` : the overview that options ask for.
-/

namespace WireTypes

/-- What is shown in place of an ignored type. -/
def ignoredText : String := "(ignored)"

/-- The method in words: verb, name, passed parameters and type of the response. -/
def ClassifiedMethod.overview (m : ClassifiedMethod) : String :=
  let nameOf (id : TypeId) : String := id.simpleName
  let parameters := (m.passed nameOf).map fun p => p.name ++ ": " ++ p.text
  m.inferVerb.name ++ " " ++ m.name ++ "(" ++ commaSeparated parameters ++ "): " ++
    (m.returns.typeText nameOf).getD ignoredText

/-- The endpoint and its methods in words. -/
def ClassifiedEndpoint.overview (e : ClassifiedEndpoint) : List String :=
  ("  " ++ e.id.toText) :: e.methods.map fun m => "    " ++ m.overview

/-- The graph in words. Models in signatures are marked with an asterisk. -/
def TypeGraph.overview (g : TypeGraph) : String :=
  lines <|
    ["Endpoints (" ++ toString g.endpoints.length ++ "):"] ++
      g.endpoints.flatMap ClassifiedEndpoint.overview ++
      ["Models (" ++ toString g.models.size ++ "):"] ++
      g.models.toList.map fun id =>
        "  " ++ (if g.seeds.contains id then "*" else " ") ++ " " ++ id.toText

/-- The overview of the modules that the options select. -/
def Options.inspect (o : Options) (d : Disk) : Except LoadError String := do
  let (_, graph) ← o.loadGraph d
  return graph.overview

end WireTypes
