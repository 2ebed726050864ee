import WireTypes.Output.Request
import WireTypes.Output.Source

/-!
# Data services

* `HttpModule` : the HTTP library of the generated client;
* `Request.bodyLines` : the statements of a service method;
* `serviceFile` : the file of the service for an endpoint.
-/

namespace WireTypes

/-- The HTTP library of the generated client. -/
inductive HttpModule where
  | http | httpClient
  deriving Repr, DecidableEq, Inhabited

namespace HttpModule

/-- The class that sends requests. -/
def clientClass : HttpModule → String
  | http => "Http"
  | httpClient => "HttpClient"

/-- The imports from the framework. -/
def imports : HttpModule → List String
  | http =>
    ["import \x7b Injectable \x7d from '@angular/core';",
      "import \x7b Http, Response, URLSearchParams \x7d from '@angular/http';",
      "import \x7b Observable \x7d from 'rxjs/Observable';",
      "import 'rxjs/add/operator/map';"]
  | httpClient =>
    ["import \x7b Injectable \x7d from '@angular/core';",
      "import \x7b HttpClient, HttpParams \x7d from '@angular/common/http';",
      "import \x7b Observable \x7d from 'rxjs/Observable';"]

/-- The names that these imports bring in. -/
def importedNames : HttpModule → List String
  | http => ["Injectable", "Http", "Response", "URLSearchParams", "Observable"]
  | httpClient => ["Injectable", "HttpClient", "HttpParams", "Observable"]

end HttpModule

/-! ## Methods -/

namespace Request

/-- The arguments of the call: URL, body and, when there is a query, the options that hold it. -/
def arguments (r : Request) (options : String) : String :=
  commaSeparated <|
    ["'" ++ r.url ++ "'"] ++ r.body.toList ++ if r.query.isEmpty then [] else [inBraces options]

/-- The statements that build the query, and nothing when there is none. -/
def queryLines (r : Request) (declaration : String) (statement : String → String) : List String :=
  if r.query.isEmpty then [] else declaration :: r.query.map statement

/-- The statements of the method. -/
def bodyLines (r : Request) : HttpModule → List String
  | .httpClient =>
    r.queryLines "let params = new HttpParams();"
        (fun name => "params = params.set('" ++ name ++ "', String(" ++ name ++ "));") ++
      ["return this.http." ++ r.verb.clientMethod ++ "<" ++ r.returns ++ ">(" ++
        r.arguments " params: params " ++ ");"]
  | .http =>
    let result :=
      if r.returns = "void" then ".map(() => undefined)"
      else ".map((res: Response) => <" ++ r.returns ++ ">res.json())"
    r.queryLines "const search = new URLSearchParams();"
        (fun name => "search.set('" ++ name ++ "', String(" ++ name ++ "));") ++
      ["return this.http." ++ r.verb.clientMethod ++ "(" ++ r.arguments " search: search " ++ ")" ++
        result ++ ";"]

/-- The parameters with their types. -/
def signatureText (r : Request) : String :=
  commaSeparated (r.signature.map fun p => p.name ++ ": " ++ p.text)

end Request

/-- The text of a service method, after the text before it. -/
def serviceMethodText (module : HttpModule) (name : String) (r : Request) : String :=
  "\n\n    public " ++ name ++ "(" ++ r.signatureText ++ "): Observable<" ++ r.returns ++ "> \x7b" ++
    newLines ((r.bodyLines module).map ("        " ++ ·)) ++
    "\n    \x7d"

/-! ## Services -/

/-- The text of a service. -/
def serviceText (module : HttpModule) (name : String) (imports : List String)
    (methods : List (String × Request)) : String :=
  lines (module.imports ++ imports) ++
    "\n@Injectable()\nexport class " ++ name ++ " \x7b\n" ++
    "    constructor(private http: " ++ module.clientClass ++ ") \x7b\x7d" ++
    String.join (methods.map fun (name, r) => serviceMethodText module name r) ++
    "\n\x7d"

/-- What services are generated with. -/
structure ServiceSettings where
  apiPath : String
  module : HttpModule
  combined : Bool
  deriving Repr, DecidableEq, Inhabited

/-- The methods of the service for an endpoint, each with the models it shows. -/
def serviceMethods (nameOf : TypeId → String) (apiPath : String) (e : ClassifiedEndpoint) :
    List (ClassifiedMethod × Request) :=
  e.methods.filterMap fun m => (m.request? nameOf apiPath e.id.simpleName).map (m, ·)

/-- The names of the models that the service for an endpoint shows. -/
def serviceImports (nameOf : TypeId → String) (apiPath : String) (e : ClassifiedEndpoint) :
    OrderedSet String :=
  OrderedSet.ofList <| (serviceMethods nameOf apiPath e).flatMap fun (m, _) =>
    (m.shownModels nameOf).map nameOf

/-- The file of the service for an endpoint. -/
def serviceFile (settings : ServiceSettings) (nameOf : TypeId → String) (name : String)
    (e : ClassifiedEndpoint) : OutputFile where
  name
  text := serviceText settings.module name
    (importLines (serviceImports nameOf settings.apiPath e) settings.combined)
    ((serviceMethods nameOf settings.apiPath e).map fun (m, r) => (camelCase m.name, r))

end WireTypes
