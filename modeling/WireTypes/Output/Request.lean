import WireTypes.Output.Naming
import WireTypes.Text.Blank

/-!
# Requests

How a method of an endpoint is called over HTTP.

* `ClassifiedMethod.inferVerb` : the verb that is declared, else the one the name starts with, else
  POST when a parameter is structured and GET when none is;
* `methodUrl` : API path, stem of the endpoint and route, joined by single slashes;
* `ClassifiedMethod.request?` : verb, URL, body and query of a call, with the signature. A method that
  returns an ignored type has none, and parameters of ignored types are left out.
-/

namespace WireTypes

namespace ClassifiedMethod

/-- The verb that the method answers to. -/
def inferVerb (m : ClassifiedMethod) : Verb :=
  match m.verb with
  | some verb => verb
  | none =>
    match Verb.ofMethodName? m.name with
    | some verb => verb
    | none => if m.parameters.any (·.type.isStructured) then .post else .get

end ClassifiedMethod

/-! ## URLs -/

/-- The last part of the URL of a method: its route without slashes at the ends, or its name. -/
def routeOrName (m : ClassifiedMethod) : String :=
  match m.route with
  | some route =>
    let route := Text.trimOf (· = '/') route
    if route.isEmpty then m.name else route
  | none => m.name

/-- The URL of a method of the endpoint with this simple name. -/
def methodUrl (apiPath endpoint : String) (m : ClassifiedMethod) : String :=
  let api := Text.trimEndOf (· = '/') apiPath
  let rest := endpointStem endpoint ++ "/" ++ routeOrName m
  if api.isEmpty then rest else api ++ "/" ++ rest

/-! ## Calls -/

/-- A parameter that the client passes. -/
structure PassedParameter where
  name : String
  type : Classification
  text : String
  deriving Repr, BEq, Inhabited

/-- The call of a method. -/
structure Request where
  verb : Verb
  url : String
  /-- The type of the response. -/
  returns : String
  signature : List PassedParameter
  /-- What is sent as the body, if the verb has one. -/
  body : Option String
  /-- The names of the parameters in the query. -/
  query : List String
  deriving Repr, BEq, Inhabited

namespace ClassifiedMethod

/-- The parameters that the client passes: those whose type is not ignored. -/
def passed (nameOf : TypeId → String) (m : ClassifiedMethod) : List PassedParameter :=
  m.parameters.filterMap fun p => (p.type.typeText nameOf).map fun text => ⟨p.name, p.type, text⟩

/-- The call of the method, unless it returns an ignored type. The first structured parameter is the
body when the verb has one, and the others are the query. -/
def request? (nameOf : TypeId → String) (apiPath endpoint : String) (m : ClassifiedMethod) :
    Option Request :=
  (m.returns.typeText nameOf).map fun returns =>
    let verb := m.inferVerb
    let passed := m.passed nameOf
    let isBody (p : PassedParameter) : Bool := p.type.isStructured
    { verb
      url := methodUrl apiPath endpoint m
      returns
      signature := passed
      body := if verb.hasBody then some (((passed.find? isBody).map (·.name)).getD "null") else none
      query := (if verb.hasBody then passed.eraseP isBody else passed).map (·.name) }

/-- The models that the signature and the response of a call show. -/
def shownModels (nameOf : TypeId → String) (m : ClassifiedMethod) : List TypeId :=
  m.returns.renderedModel?.toList ++ (m.passed nameOf).filterMap (·.type.renderedModel?)

end ClassifiedMethod

end WireTypes
