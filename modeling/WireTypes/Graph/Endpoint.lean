import WireTypes.Graph.Closure

/-!
# Endpoints

* `Catalog.endpoint?` : a type as an endpoint. Its own base has one of the configured simple names, and
  its methods can be read;
* `Catalog.endpoints` : the endpoints of the modules that can be enumerated, by identity;
* `Catalog.seeds` : the models in the signatures of their methods.
-/

namespace WireTypes

/-- An endpoint and its methods. -/
structure Endpoint where
  id : TypeId
  methods : List Method
  deriving Repr, BEq, Inhabited

/-- The base of endpoints when none is configured. -/
def defaultEndpointBase : String := "ApiController"

/-- The simple names that make the base of an endpoint. -/
def endpointBases (configured : List String) : List String :=
  if configured.isEmpty then [defaultEndpointBase] else configured

/-- Whether a reference names the base of an endpoint. -/
def isEndpointBase (configured : List String) (text : String) : Bool :=
  match TypeRef.parse text with
  | .ok t => (endpointBases configured).contains t.simpleName
  | .error _ => false

namespace Catalog

/-- The type as an endpoint, if it is one and its methods can be read. -/
def endpoint? (c : Catalog) (configured : List String) (id : TypeId) : Option Endpoint :=
  match (c.typeDecl? id).bind (·.base) with
  | some base =>
    if isEndpointBase configured base then
      match c.methods id with
      | .ok methods => some ⟨id, methods⟩
      | .error _ => none
    else none
  | none => none

/-- The endpoints by identity. -/
def endpoints (c : Catalog) (configured : List String) : List Endpoint :=
  (OrderedSet.ofList (c.moduleNames.flatMap c.readableTypesIn)).toList.filterMap
    (c.endpoint? configured)

/-- The models in the signatures of the methods of the endpoints. -/
def seeds (c : Catalog) (endpoints : List Endpoint) : ModelSet :=
  OrderedSet.ofList <| endpoints.flatMap fun e =>
    e.methods.flatMap fun m => m.signature.flatMap fun d => (c.classify d).models

end Catalog

end WireTypes
