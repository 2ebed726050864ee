/-!
# Reading arguments

* `OptionName`, `CommandShape` : the options there are, and what a command takes;
* `Reading` : the arguments read so far. A value is checked only when it is certain that nothing more
  belongs to it, so of two faults the later one may be found first;
* `CommandShape.read` : reads all arguments of a command.
-/

namespace WireTypes

/-- Why arguments stand for no command. Help and version are asked for in this way, too. -/
inductive UsageError where
  | help
  | version
  | missingCommand
  | unknownCommand
  | unknownArgument
  | conflict
  | invalidValue
  | tooManyValues
  deriving Repr, DecidableEq, Inhabited

/-- The options of the commands. -/
inductive OptionName where
  | help | files | classes | httpClient | combineImports | settings
  deriving Repr, DecidableEq, Inhabited

/-- What an option takes. -/
inductive OptionKind where
  /-- Nothing. -/
  | flag
  /-- A path, at most once. -/
  | path
  /-- A list with commas, any number of times. -/
  | list
  deriving Repr, DecidableEq, Inhabited

namespace OptionName

/-- How the option is spelled behind two dashes. -/
def spelling : OptionName → String
  | help => "help"
  | files => "files"
  | classes => "class"
  | httpClient => "http-client"
  | combineImports => "combine-imports"
  | settings => "settings"

/-- What the option takes. -/
def kind : OptionName → OptionKind
  | help | httpClient | combineImports => .flag
  | files | classes => .list
  | settings => .path

end OptionName

/-- What a command takes. -/
structure CommandShape where
  /-- How many arguments without a name there are at most. -/
  operands : Nat
  /-- How many of them are paths. -/
  paths : Nat
  options : List OptionName
  deriving Repr, Inhabited

/-- The option with this spelling. -/
def CommandShape.option? (shape : CommandShape) (name : String) : Option OptionName :=
  shape.options.find? (·.spelling = name)

/-- An argument whose values are not checked yet. -/
inductive Pending where
  | nothing
  | operand (value : String)
  | option (name : OptionName) (value : Option String)
  deriving Repr, DecidableEq, Inhabited

/-- The arguments read so far. -/
structure Reading where
  operands : List String := []
  /-- The options with their values. -/
  given : List (OptionName × List String) := []
  pending : Pending := .nothing
  /-- Whether all that follows is without a name. -/
  trailing : Bool := false
  deriving Repr, Inhabited

namespace Reading

/-- Whether the option is given. -/
def has (r : Reading) (name : OptionName) : Bool := r.given.any (·.1 = name)

/-- All values that are given for the option. -/
def values (r : Reading) (name : OptionName) : List String :=
  (r.given.filter (·.1 = name)).flatMap (·.2)

/-- The items of a list with commas. -/
def items (value : String) : List String := (value.toList.splitOn ',').map String.ofList

/-- Takes an option with its value. -/
def accept (r : Reading) (name : OptionName) (value : String) : Except UsageError Reading :=
  match name.kind with
  | .list => .ok { r with given := r.given ++ [(name, items value)] }
  | .flag => if r.has name then .error .conflict else .ok { r with given := r.given ++ [(name, [])] }
  | .path =>
    if r.has name then .error .conflict
    else if value.isEmpty then .error .invalidValue
    else .ok { r with given := r.given ++ [(name, [value])] }

/-- Takes the pending argument. -/
def settle (shape : CommandShape) (r : Reading) : Except UsageError Reading :=
  let r' := { r with pending := .nothing }
  match r.pending with
  | .nothing => .ok r'
  | .operand value =>
    if r.operands.length < shape.paths && value.isEmpty then .error .invalidValue
    else .ok { r' with operands := r.operands ++ [value] }
  | .option _ none => .error .invalidValue
  | .option name (some value) => r'.accept name value

/-- How many arguments without a name there are, the pending one included. -/
def operandCount (r : Reading) : Nat :=
  match r.pending with
  | .operand _ => r.operands.length + 1
  | _ => r.operands.length

/-- Reads an argument without a name. -/
def readOperand (shape : CommandShape) (r : Reading) (arg : String) : Except UsageError Reading :=
  if r.operandCount < shape.operands then
    return { (← r.settle shape) with pending := .operand arg }
  else .error .unknownArgument

/-- Splits what stands behind two dashes at the first equals sign. -/
def splitValue (text : List Char) : String × Option String :=
  (String.ofList (text.takeWhile (· != '=')),
    match text.dropWhile (· != '=') with
    | _ :: value => some (String.ofList value)
    | [] => none)

/-- Reads an option behind two dashes. -/
def readOption (shape : CommandShape) (r : Reading) (text : List Char) : Except UsageError Reading :=
  let (spelling, value) := splitValue text
  match shape.option? spelling with
  | none => .error .unknownArgument
  | some name =>
    match name.kind, value with
    | .flag, some _ => .error .tooManyValues
    | .flag, none => do
      let r ← r.settle shape
      if name = .help then throw .help
      r.accept name ""
    | _, some value => do (← r.settle shape).accept name value
    | _, none => do return { (← r.settle shape) with pending := .option name none }

/-- Reads what stands behind one dash, which can only ask for help. -/
def readShort (shape : CommandShape) (r : Reading) (letter : Char) : Except UsageError Reading :=
  if letter = 'h' then do
    let _ ← r.settle shape
    throw .help
  else .error .unknownArgument

/-- Reads one argument. -/
def read (shape : CommandShape) (r : Reading) (arg : String) : Except UsageError Reading :=
  if r.trailing then r.readOperand shape arg
  else
    match arg.toList with
    | ['-', '-'] => .ok { r with trailing := true }
    | '-' :: '-' :: text => r.readOption shape text
    | '-' :: letter :: _ => r.readShort shape letter
    | _ =>
      match r.pending with
      | .option name none => .ok { r with pending := .option name (some arg) }
      | _ => r.readOperand shape arg

/-- Ends the reading. A settings file goes with nothing else. -/
def finish (shape : CommandShape) (r : Reading) : Except UsageError Reading := do
  let r ← r.settle shape
  if r.has .settings && (!r.operands.isEmpty || r.given.any (·.1 != .settings)) then throw .conflict
  return r

end Reading

/-- Reads all arguments of a command. -/
def CommandShape.read (shape : CommandShape) (args : List String) : Except UsageError Reading := do
  (← args.foldlM (Reading.read shape) {}).finish shape

end WireTypes
