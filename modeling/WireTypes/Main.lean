import WireTypes.Logging
import WireTypes.Program

/-!
# The command line program

Reads the directories that a command needs into a `Disk`, runs the command on it, and carries out
what it has changed.
-/

namespace WireTypes.Main

/-! ## Reading -/

/-- The absolute path of a location. -/
def pathOf (l : Location) : String := "/" ++ "/".intercalate (l.reverse.map (·.val))

/-- The location of an absolute path whose pieces are names. -/
def locationOf (path : String) : Location := ((Path.pieces path).filterMap FileName.ofText?).reverse

/-- What is at a location. -/
def readEntry (l : Location) : IO (List (Location × Entry)) := do
  let path := (← IO.currentDir) / pathOf l
  if ← path.isDir then return [(l, .directory)]
  if ← path.pathExists then return [(l, .file (← IO.FS.readBinFile path))]
  return []

/-- What is in the directory at a location, down to so many levels. -/
def readBelow (l : Location) : Nat → IO (List (Location × Entry))
  | 0 => return []
  | n + 1 => do
    let path := (← IO.currentDir) / pathOf l
    if !(← path.isDir) then return []
    let mut entries := []
    for child in ← path.readDir do
      if let some name := FileName.ofText? child.fileName then
        entries := entries ++ (← readEntry (name :: l)) ++ (← readBelow (name :: l) n)
    return entries

/-- What is at a location and at those of the directories that it is in. -/
def readWay : Location → IO (List (Location × Entry))
  | [] => return []
  | name :: l => do return (← readEntry (name :: l)) ++ (← readWay l)

/-- How deep below the source patterns select files, within a limit. -/
def depthOf (patterns : List String) : Nat :=
  patterns.foldl (fun n p => max n (if (Path.pieces p).contains "**" then 64 else (Path.pieces p).length))
    1

/-- What a path leads to, as far as it leads anywhere, and what is below it down to so many levels. -/
def readPath (path : String) (levels : Nat) : IO (List (Location × Entry)) := do
  let mut entries := []
  for beginning in Path.parents path ++ [path] do
    try entries := entries ++ (← readWay (locationOf (toString (← IO.FS.realPath beginning))))
    catch _ => pure ()
  try return entries ++ (← readBelow (locationOf (toString (← IO.FS.realPath path))) levels)
  catch _ => return entries

/-- A disk with the work directory and what the paths lead to. -/
def readDisk (paths : List (String × Nat)) : IO Disk := do
  let here := locationOf (toString (← IO.currentDir))
  let mut entries ← readWay here
  for (path, levels) in paths do
    entries := entries ++ (← readPath path levels)
  let disk : Disk := ⟨[], here⟩
  return entries.foldl (fun d (l, e) => d.put l e) disk

/-! ## Carrying out -/

/-- Makes the files and directories of `after` that `before` lacks or holds in another state, and
removes the files that are gone. -/
def carryOut (before after : Disk) : IO Unit := do
  for (l, e) in after.entries.reverse do
    match e, before.get? l with
    | .directory, none => IO.FS.createDirAll (pathOf l)
    | .file content, some (.file old) =>
      if content.data != old.data then IO.FS.writeBinFile (pathOf l) content
    | .file content, _ => IO.FS.writeBinFile (pathOf l) content
    | _, _ => pure ()
  for (l, _) in before.entries do
    if (after.get? l).isNone then IO.FS.removeFile (pathOf l)

/-! ## Running -/

/-- How the program is called. -/
def usage : String :=
  "Usage: dtogen generate [SOURCE] [DESTINATION] [API_PATH] [OPTIONS]\n" ++
    "       dtogen inspect [SOURCE] [OPTIONS]"

/-- The version of the program. -/
def version : String := "dtogen 0.1.0-alpha.1"

/-- A time in seconds with three places. -/
def secondsText (milliseconds : Nat) : String :=
  let places := toString (milliseconds % 1000)
  toString (milliseconds / 1000) ++ "." ++ "".pushn '0' (3 - places.length) ++ places

/-- Says that there are warnings about the filter of the log. -/
def warnAboutLogging : IO Unit := do
  let names := ["DTOGEN_LOG_LEVEL", "DTOGEN_LOG_FORMAT", "DTOGEN_LOG_FILTER"]
  let mut given : List (String × String) := []
  for name in names do
    if let some value ← IO.getEnv name then given := (name, value) :: given
  for warning in (LogConfig.ofEnvironment fun name => given.lookup name).warnings do
    IO.eprintln warning

/-- Runs a command. -/
def runCommand (command : Command) : IO UInt32 := do
  let start ← IO.monoMsNow
  let settings := command.arguments.settings.toList.map fun path => (path, 0)
  let seen ← readDisk settings
  let directories :=
    match command.options seen with
    | .ok o => [(o.source, depthOf o.files), (o.destination, 1)]
    | .error _ => []
  let before ← readDisk (settings ++ directories)
  let (after, result) := command.run before
  carryOut before after
  match result with
  | .ok outcome =>
    IO.print (outcome.text (secondsText ((← IO.monoMsNow) - start)))
    return 0
  | .error e =>
    IO.eprintln ("Error: " ++ e.message)
    return UInt32.ofNat e.exitCode

end WireTypes.Main

open WireTypes WireTypes.Main in
/-- Runs the command that the arguments stand for. -/
def main (args : List String) : IO UInt32 := do
  match Command.parse args with
  | .ok command =>
    warnAboutLogging
    runCommand command
  | .error e =>
    if e = .version then IO.println version
    else if e.exitCode = 0 then IO.println usage
    else IO.eprintln usage
    return UInt32.ofNat e.exitCode
