import WireTypes.CommandLine.Reading
import WireTypes.Options.Settings

/-!
# Commands

* `Arguments` : what a command is given;
* `Command.parse` : the command that the arguments of the program stand for, or why they stand for
  none;
* `Command.options` : the options of a run, from the settings file or from the arguments.
-/

namespace WireTypes

/-! ## Arguments -/

/-- What a command is given. -/
structure Arguments where
  source : Option String := none
  destination : Option String := none
  apiPath : Option String := none
  files : List String := []
  classes : List String := []
  httpClient : Bool := false
  combineImports : Bool := false
  /-- The path of a settings file. -/
  settings : Option String := none
  deriving Repr, DecidableEq, Inhabited

/-- What has been read, by name. -/
def Reading.arguments (r : Reading) : Arguments where
  source := r.operands[0]?
  destination := r.operands[1]?
  apiPath := r.operands[2]?
  files := r.values .files
  classes := r.values .classes
  httpClient := r.has .httpClient
  combineImports := r.has .combineImports
  settings := (r.values .settings).head?

/-- The options that the arguments stand for, apart from a settings file. -/
def Arguments.options (a : Arguments) : Except ConfigError Options :=
  let standard : Options := {}
  Options.validate {
    source := a.source.getD standard.source
    destination := a.destination.getD standard.destination
    files := orDefault standard.files a.files
    endpointBases := orDefault standard.endpointBases a.classes
    apiPath := nonBlank a.apiPath
    httpModule := if a.httpClient then .httpClient else .http
    combineImports := a.combineImports }

/-! ## Commands -/

/-- What the program is asked to do. -/
inductive Command where
  | generate (arguments : Arguments)
  | inspect (arguments : Arguments)
  deriving Repr, DecidableEq, Inhabited

namespace Command

/-- What `generate` takes: source, destination and API path. -/
def generateShape : CommandShape where
  operands := 3
  paths := 2
  options := [.help, .files, .classes, .httpClient, .combineImports, .settings]

/-- What `inspect` takes: a source. -/
def inspectShape : CommandShape where
  operands := 1
  paths := 1
  options := [.help, .files, .classes, .settings]

/-- The names that stand for commands. -/
def names : List String := ["generate", "inspect", "help"]

/-- What asking for help comes to: there is some about each command, which has none of its own. -/
def helpAbout : List String → UsageError
  | [] => .help
  | [name] => if names.contains name then .help else .unknownCommand
  | _ :: _ :: _ => .unknownCommand

/-- What arguments come to that start with no command. -/
def withoutCommand : List String → UsageError
  | [] => .missingCommand
  | arg :: rest =>
    match arg.toList with
    | ['-', '-'] =>
      match rest with
      | [] => .missingCommand
      | name :: _ => if names.contains name then .unknownArgument else .unknownCommand
    | '-' :: '-' :: text =>
      match Reading.splitValue text with
      | ("help", none) => .help
      | ("version", none) => .version
      | ("help", some _) => .tooManyValues
      | ("version", some _) => .tooManyValues
      | _ => .unknownArgument
    | '-' :: 'h' :: _ => .help
    | '-' :: 'V' :: _ => .version
    | '-' :: _ :: _ => .unknownArgument
    | _ => .unknownCommand

/-- The command that the arguments of the program stand for. -/
def parse : List String → Except UsageError Command
  | "generate" :: args => (generateShape.read args).map fun r => .generate r.arguments
  | "inspect" :: args => (inspectShape.read args).map fun r => .inspect r.arguments
  | "help" :: args => .error (helpAbout args)
  | args => .error (withoutCommand args)

/-- What the command is given. -/
def arguments : Command → Arguments
  | generate a => a
  | inspect a => a

/-- The options of the command: those of its settings file, or those of its arguments. -/
def options (d : Disk) (c : Command) : Except ConfigError Options :=
  match c.arguments.settings with
  | some path => Options.ofFile d path
  | none => c.arguments.options

end Command

end WireTypes
