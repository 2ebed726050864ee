import WireTypes.CommandLine.Command
import WireTypes.Generation.Overview

/-!
# The program

* `UsageError.exitCode`, `RunError.exitCode` : what the program ends with. Wrong usage and wrong
  settings are 2, a run that fails is 1;
* `Command.run` : the outcome of a command, and the disk that it leaves;
* `Outcome.text` : what is printed about it.
-/

namespace WireTypes

/-- What the program ends with when no command is run. -/
def UsageError.exitCode : UsageError → Nat
  | .help | .version => 0
  | _ => 2

/-- Why a command fails. -/
inductive RunError where
  | config (fault : ConfigError)
  | generation (fault : GenerationError)
  deriving Repr, DecidableEq

namespace RunError

/-- The error in words. -/
def message : RunError → String
  | config fault => fault.message
  | generation fault => fault.message

/-- What the program ends with. -/
def exitCode : RunError → Nat
  | config _ => 2
  | generation _ => 1

end RunError

/-- What a command comes to. -/
inductive Outcome where
  | generated (report : Report)
  | inspected (overview : String)
  deriving Repr, DecidableEq, Inhabited

/-- What is printed about a run that took so many seconds. -/
def Report.summary (r : Report) (seconds : String) : String :=
  lines <|
    ["Scanned " ++ r.source ++ " for DTO objects: " ++ toString r.endpoints ++ " endpoint(s), " ++
      toString r.models.length ++ " model(s)"] ++
    (if r.services.isEmpty then []
      else ["Generated " ++ toString r.services.length ++ " data service(s)"]) ++
    (if r.removed.isEmpty then []
      else ["Removed " ++ toString r.removed.length ++ " stale file(s)"]) ++
    ["Done in " ++ seconds ++ "s -> " ++ r.destination]

/-- What is printed about the outcome of a command that took so many seconds. -/
def Outcome.text (seconds : String) : Outcome → String
  | generated report => report.summary seconds
  | inspected overview => overview

/-- Runs the command with its options. -/
def Command.perform (o : Options) (d : Disk) : Command → Disk × Except GenerationError Outcome
  | generate _ =>
    match o.generate d with
    | (d, .ok report) => (d, .ok (.generated report))
    | (d, .error e) => (d, .error e)
  | inspect _ =>
    match o.inspect d with
    | .ok overview => (d, .ok (.inspected overview))
    | .error e => (d, .error (.load e))

/-- Runs the command: its outcome, and the disk that it leaves. -/
def Command.run (d : Disk) (c : Command) : Disk × Except RunError Outcome :=
  match c.options d with
  | .error e => (d, .error (.config e))
  | .ok o =>
    match c.perform o d with
    | (d, .ok outcome) => (d, .ok outcome)
    | (d, .error e) => (d, .error (.generation e))

end WireTypes
