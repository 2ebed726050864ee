import WireTypes.Graph.Endpoint

/-!
# The type graph

* `ClassifiedMethod`, `ClassifiedEndpoint` : an endpoint with the types of its methods classified;
* `TypeGraph.build` : the endpoints of a catalog, the models in their signatures, and the closure of
  these.
-/

namespace WireTypes

/-- A parameter and what its type is to a client. -/
structure ClassifiedParameter where
  name : String
  type : Classification
  deriving Repr, BEq, Inhabited

/-- A method and what its types are to a client. -/
structure ClassifiedMethod where
  name : String
  verb : Option Verb
  route : Option String
  returns : Classification
  parameters : List ClassifiedParameter
  deriving Repr, BEq, Inhabited

/-- An endpoint with its methods classified. -/
structure ClassifiedEndpoint where
  id : TypeId
  methods : List ClassifiedMethod
  deriving Repr, BEq, Inhabited

/-- The method with its types classified. -/
def Catalog.classifyMethod (c : Catalog) (m : Method) : ClassifiedMethod where
  name := m.name
  verb := m.verb
  route := m.route
  returns := c.classify m.returns
  parameters := m.parameters.map fun p => ⟨p.name, c.classify p.type⟩

/-- The endpoint with its methods classified. -/
def Catalog.classifyEndpoint (c : Catalog) (e : Endpoint) : ClassifiedEndpoint :=
  ⟨e.id, e.methods.map c.classifyMethod⟩

/-- Endpoints, the models in their signatures, and all models that these lead to. -/
structure TypeGraph where
  endpoints : List ClassifiedEndpoint
  seeds : ModelSet
  models : ModelSet

/-- The graph of a catalog, with the configured names of endpoint bases. -/
def TypeGraph.build (c : Catalog) (configured : List String) : TypeGraph :=
  let endpoints := c.endpoints configured
  let seeds := c.seeds endpoints
  { endpoints := endpoints.map c.classifyEndpoint
    seeds
    models := c.closure seeds }

end WireTypes
