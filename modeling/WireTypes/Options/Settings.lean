import WireTypes.Disk.Basic
import WireTypes.Document.Format
import WireTypes.Options.Basic

/-!
# Settings files

* `Settings.decode` : the settings that a document's value describes. Every field may be left out;
* `Settings.options` : the options that settings stand for, or the first thing that is wrong: source,
  destination, HTTP library;
* `Options.ofFile` : the options in a settings file.
-/

namespace WireTypes

open Document

/-- What a settings file may say. -/
structure Settings where
  source : Option String := none
  destination : Option String := none
  files : List String := []
  endpointBases : List String := []
  apiPath : Option String := none
  httpModule : Option String := none
  combineImports : Bool := false
  deriving Repr, DecidableEq, Inhabited

namespace Settings

/-- The names of the fields, in their order in a list. -/
def fieldNames : List String :=
  ["source", "destination", "files", "endpoint_base_names", "api_path", "http_module",
    "combine_imports"]

/-- The settings that a value describes. -/
def decode (d : Dialect) (v : Value) : Option Settings := do
  let field ← d.fields fieldNames v
  return {
    source := ← defaulting none (asOptional asText) (field "source")
    destination := ← defaulting none (asOptional asText) (field "destination")
    files := ← defaulting [] (asList asText) (field "files")
    endpointBases := ← defaulting [] (asList asText) (field "endpoint_base_names")
    apiPath := ← defaulting none (asOptional asText) (field "api_path")
    httpModule := ← defaulting none (asOptional asText) (field "http_module")
    combineImports := ← defaulting false asBool (field "combine_imports") }

/-- The list without blanks at the ends of its texts and without empty ones, or the default. -/
def listOr (default values : List String) : List String := orDefault default (values.map Text.trim)

/-- The options that the settings stand for. -/
def options (s : Settings) : Except ConfigError Options := do
  let some source := nonBlank s.source | throw .emptySource
  let some destination := nonBlank s.destination | throw .emptyDestination
  let httpModule ←
    match nonBlank s.httpModule with
    | some value => HttpModule.parse value
    | none => pure .http
  let standard : Options := {}
  return {
    source
    destination
    files := listOr standard.files s.files
    endpointBases := listOr standard.endpointBases s.endpointBases
    apiPath := nonBlank s.apiPath
    httpModule
    combineImports := s.combineImports }

end Settings

/-- The options in the settings file at a path. -/
def Options.ofFile (d : Disk) (path : String) : Except ConfigError Options :=
  if d.hasFile path then
    match (d.readText? path).bind fun text => (Format.ofPath path).read Settings.decode text with
    | some settings => settings.options
    | none => .error (.invalidSettings path)
  else .error (.settingsNotFound path)

end WireTypes
