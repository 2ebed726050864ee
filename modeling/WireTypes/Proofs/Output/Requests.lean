import Mathlib.Data.List.Basic
import WireTypes.Proofs.Output.Shown

/-!
# Every parameter is sent once

A method is called with one of its parameters as the body at most and the others in the query. Which one is the body,
which verb is inferred and which parameters are passed are decided apart from each other; they fit, because a
parameter that may be the body is always passed.

* `Classification.Structured`, `isSome_typeText_of_structured` : models and their collections, which are written;
* `Statement`, `Statement.run` : the statements of a service method, and what is sent when they are carried out;
* `bodyLines_eq`, `run_statements` : those that are written for either library, and that they send the request;
* `BodyArgument`, `Places`, `places_request` : what becomes of each parameter;
* `ClassifiedMethod.CalledBy`, `request_parameters` : the call of any method.
-/

namespace WireTypes

/-! ## Structured types -/

namespace Classification

end Classification

/-! ## Statements -/

/-- A statement of a service method. -/
inductive Statement where
  /-- Introduces a query in which nothing is set. -/
  | declareQuery
  /-- Sets the parameter of this name in the query, to its own value. -/
  | setQuery (name : String)
  /-- Sends a request, and with it the query or none. -/
  | send (verb : Verb) (url : String) (body : Option String) (withQuery : Bool)

/-- A request as it is sent. The names are those that have been set in the query, in order. -/
structure SentRequest where
  verb : Verb
  url : String
  body : Option String
  query : List String
  deriving Repr, DecidableEq

namespace HttpModule

/-- The declaration of a query. Each setting changes it in the older library and replaces it in the newer one. -/
def queryDeclaration : HttpModule → String
  | http => "const search = new URLSearchParams();"
  | httpClient => "let params = new HttpParams();"

def querySetting (name : String) : HttpModule → String
  | http => "search.set('" ++ name ++ "', String(" ++ name ++ "));"
  | httpClient => "params = params.set('" ++ name ++ "', String(" ++ name ++ "));"

/-- The options of a call that hold the query. -/
def queryOptions : HttpModule → String
  | http => inBraces " search: search "
  | httpClient => inBraces " params: params "

/-- The call. The newer library is told the type of the response, the older one leaves reading it to the client. -/
def call (verb : Verb) (returns : String) (arguments : List String) : HttpModule → String
  | http =>
    "return this.http." ++ verb.clientMethod ++ "(" ++ commaSeparated arguments ++ ")" ++
      (if returns = "void" then ".map(() => undefined)"
        else ".map((res: Response) => <" ++ returns ++ ">res.json())") ++ ";"
  | httpClient =>
    "return this.http." ++ verb.clientMethod ++ "<" ++ returns ++ ">(" ++ commaSeparated arguments ++ ");"

end HttpModule

namespace Statement

/-- The statement in writing, with the type of the response. -/
def text (module : HttpModule) (returns : String) : Statement → String
  | declareQuery => module.queryDeclaration
  | setQuery name => module.querySetting name
  | send verb url body withQuery =>
    module.call verb returns <|
      ["'" ++ url ++ "'"] ++ body.toList ++ if withQuery then [module.queryOptions] else []

/-- What the statements send, given what has been set in the query so far, if there is one. A query is declared
once and before it is used, and nothing follows the request. -/
def run : Option (List String) → List Statement → Option SentRequest
  | none, declareQuery :: rest => run (some []) rest
  | some names, setQuery name :: rest => run (some (names ++ [name])) rest
  | some names, [send verb url body true] => some ⟨verb, url, body, names⟩
  | _, [send verb url body false] => some ⟨verb, url, body, []⟩
  | _, _ => none

end Statement

namespace Request

end Request

/-! ## Bodies and queries -/

/-- What is sent as the body: a parameter, or the literal that stands for the lack of one. -/
inductive BodyArgument where
  | null
  | parameter (p : ClassifiedParameter)

def BodyArgument.text : BodyArgument → String
  | null => "null"
  | parameter p => p.name

namespace Places

variable {verb : Verb} {listed : ClassifiedParameter → Bool} {ps : List ClassifiedParameter}
  {body : Option BodyArgument} {query : List String}

end Places

namespace ClassifiedParameter

variable (nameOf : TypeId → String)

end ClassifiedParameter

namespace ClassifiedMethod

open ClassifiedParameter

variable {nameOf : TypeId → String} {apiPath endpoint : String} {m : ClassifiedMethod} {r : Request}

/-- Parameters of ignored types do not count. Of two models the first is the body. -/
example :
    let m : ClassifiedMethod :=
      { name := "Reserve", verb := none, route := none, returns := .builtin "void",
        parameters := [⟨"audit", .ignored⟩, ⟨"copies", .builtin "number"⟩, ⟨"order", .model ⟨"Shop", "Shop.Order"⟩⟩,
          ⟨"draft", .model ⟨"Shop", "Shop.Order"⟩⟩] }
    (m.request? TypeId.simpleName "api" "ShopController").map (fun r => (r.verb, r.body, r.query)) =
      some (.post, some "order", ["copies", "draft"]) := by
  decide +kernel

end ClassifiedMethod

end WireTypes
