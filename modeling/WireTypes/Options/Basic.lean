import WireTypes.Graph.Endpoint
import WireTypes.Output.Service
import WireTypes.Text.Blank

/-!
# Options of a run

* `Options` : what a run is given, with the values that count when nothing else is said;
* `HttpModule.parse` : the HTTP library that a setting names;
* `Options.validate` : neither directory is empty.
-/

namespace WireTypes

/-- Why there are no options for a run. -/
inductive ConfigError where
  | settingsNotFound (path : String)
  | invalidSettings (path : String)
  | emptySource
  | emptyDestination
  | invalidHttpModule (value : String)
  deriving Repr, DecidableEq

/-- The error in words. -/
def ConfigError.message : ConfigError → String
  | .settingsNotFound path => "Settings file " ++ path ++ " does not exist."
  | .invalidSettings path => "Settings file " ++ path ++ " is invalid."
  | .emptySource => "Source is null or empty in options."
  | .emptyDestination => "Destination is null or empty in options."
  | .invalidHttpModule value => "HttpModule must be one of Http or HttpClient (got '" ++ value ++ "')"

/-- The HTTP library that a setting names, blanks at its ends apart. -/
def HttpModule.parse (value : String) : Except ConfigError HttpModule :=
  match Text.trim value with
  | "Http" => .ok .http
  | "HttpModule" => .ok .http
  | "HttpClient" => .ok .httpClient
  | "HttpClientModule" => .ok .httpClient
  | other => .error (.invalidHttpModule other)

/-- What a run is given. -/
structure Options where
  /-- The directory of the module files. -/
  source : String := "./"
  /-- The directory of the generated files. -/
  destination : String := "../models/generated"
  /-- The patterns that select module files. -/
  files : List String := ["*.client.json", "*.client.yaml", "*.client.yml"]
  /-- The simple names that make the base of an endpoint. -/
  endpointBases : List String := [defaultEndpointBase]
  /-- What the URLs of services start with. Without it there are no services. -/
  apiPath : Option String := none
  httpModule : HttpModule := .http
  /-- Whether models are imported from the index. -/
  combineImports : Bool := false
  deriving Repr, DecidableEq, Inhabited

namespace Options

/-- The options, if neither directory is empty. -/
def validate (o : Options) : Except ConfigError Options :=
  if o.source.isEmpty then .error .emptySource
  else if o.destination.isEmpty then .error .emptyDestination
  else .ok o

theorem validate_eq_ok_iff {o o' : Options} :
    o.validate = .ok o' ↔ o = o' ∧ o.source ≠ "" ∧ o.destination ≠ "" := by
  by_cases hs : o.source = "" <;> by_cases hd : o.destination = "" <;>
    simp [validate, hs, hd]

end Options

/-- The list without empty texts, or the default when nothing is left. -/
def orDefault (default values : List String) : List String :=
  match values.filter fun v => !v.isEmpty with
  | [] => default
  | kept => kept

/-- The text, if it is more than blanks. -/
def nonBlank (s : Option String) : Option String := s.filter fun v => !Text.isBlankText v

end WireTypes
