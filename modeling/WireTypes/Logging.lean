import WireTypes.Text.Alphanumeric
import WireTypes.Text.Blank
import WireTypes.Text.Lowercase

/-!
# Logging

* `LogConfig.ofEnvironment` : the level, the format and the filter that environment variables set;
* `directive? s` : the level that a filter directive enables;
* `LogConfig.setup` : what the logger enables, with a warning for each directive that is none.
-/

namespace WireTypes

/-! ## Levels -/

/-- How much is logged, each level with all that come before it. -/
inductive LogLevel where
  | off | error | warn | info | debug | trace
  deriving Repr, DecidableEq, Inhabited

namespace LogLevel

/-- The levels in order. -/
def all : List LogLevel := [.off, .error, .warn, .info, .debug, .trace]

/-- The name of the level. -/
def name : LogLevel → String
  | off => "off"
  | error => "error"
  | warn => "warn"
  | info => "info"
  | debug => "debug"
  | trace => "trace"

/-- How many levels come before this one. -/
def rank : LogLevel → Nat
  | off => 0
  | error => 1
  | warn => 2
  | info => 3
  | debug => 4
  | trace => 5

/-- The more verbose of two levels. -/
def max (a b : LogLevel) : LogLevel := if a.rank ≤ b.rank then b else a

/-- The level that a filter directive names, in ASCII letters of any case or by its rank. Nothing at
all stands for errors. -/
def ofFilterName? (s : String) : Option LogLevel :=
  let digits := (match s.toList with | '+' :: cs => cs | cs => cs)
  if s.isEmpty then some .error
  else if !digits.isEmpty && digits.all Char.isDigit then
    all[digits.foldl (fun n c => n * 10 + (c.toNat - 48)) 0]?
  else all.find? (·.name = String.ofList (s.toList.map Char.toLower))

end LogLevel

/-! ## Filters -/

/-- The level that a filter directive enables: `level`, `target=level`, or a target alone, of which
everything is logged. A directive starts with a letter or a digit, a dash, a colon or an underscore. -/
def directive? (s : String) : Option LogLevel :=
  let cs := (Text.trim s).toList
  match cs with
  | [] => none
  | c :: _ =>
    if !(Text.isAlphanumeric c || ['-', ':', '_'].contains c) || cs.contains '[' then none
    else
      let target := cs.takeWhile (· != '=')
      if target.length = cs.length then some ((LogLevel.ofFilterName? s).getD .trace)
      else
        match String.ofList (s.toList.drop (target.length + 1)) with
        | "" => some .trace
        | level => LogLevel.ofFilterName? level

/-- The parts of a list with commas. -/
def directiveTexts (s : String) : List String :=
  ((s.toList.splitOn ',').map String.ofList).filter fun part => !part.isEmpty

/-! ## Configuration -/

/-- How log lines are written. -/
inductive LogFormat where
  | json | pretty
  deriving Repr, DecidableEq, Inhabited

/-- The format that a setting names. -/
def LogFormat.parse (s : String) : LogFormat := if Text.toLower s = "json" then .json else .pretty

/-- What is logged, and how. -/
structure LogConfig where
  level : String := "info"
  format : LogFormat := .pretty
  /-- More filter directives, with commas between them. -/
  filter : Option String := none
  deriving Repr, DecidableEq, Inhabited

namespace LogConfig

/-- The configuration that environment variables set. -/
def ofEnvironment (lookup? : String → Option String) : LogConfig where
  level := (lookup? "DTOGEN_LOG_LEVEL").getD "info"
  format := LogFormat.parse ((lookup? "DTOGEN_LOG_FORMAT").getD "pretty")
  filter := (lookup? "DTOGEN_LOG_FILTER").filter fun s => !Text.isBlankText s

/-- The level that the configuration names. What is no level stands for `info`. -/
def logLevel (c : LogConfig) : LogLevel :=
  match Text.toLower c.level with
  | "trace" => .trace
  | "debug" => .debug
  | "warn" => .warn
  | "error" => .error
  | _ => .info

/-- The levels that the variable `RUST_LOG` enables in place of the configured one, when every
directive in it is one. -/
def baseLevels (c : LogConfig) (override : Option String) : List LogLevel :=
  match override.bind fun s => (directiveTexts s).mapM directive? with
  | some [] => [.error]
  | some levels => levels
  | none => [c.logLevel]

/-- The directives of the filter. -/
def filterTexts (c : LogConfig) : List String :=
  ((directiveTexts (c.filter.getD "")).map Text.trim).filter fun part => !part.isEmpty

/-- The most verbose level that any directive enables. -/
def maxLevel (c : LogConfig) (override : Option String) : LogLevel :=
  (c.baseLevels override ++ c.filterTexts.filterMap directive?).foldl LogLevel.max .off

/-- A warning for each part of the filter that is no directive. -/
def warnings (c : LogConfig) : List String :=
  (c.filterTexts.filter fun s => (directive? s).isNone).map fun s =>
    "Warning: Invalid log filter directive: " ++ s

end LogConfig

/-- What is said when logging is set up a second time. -/
def loggingFailure : String := "Failed to initialize logging"

end WireTypes
