import WireTypes.Disk.Basic
import WireTypes.Output.Files

/-!
# Writing and removing files

The result of a step that changes the disk is kept together with the disk that it leaves, also when
it fails.

* `Disk.writeFiles` : writes generated files one after the other, up to the first that cannot be;
* `staleNames` : the files of a directory that are not among the generated ones, up to case;
* `Disk.removeStale` : removes these.
-/

namespace WireTypes

/-- Why files cannot be generated. -/
inductive DiskError where
  | uncreatable (directory : String)
  | unwritable (path : String)
  | unlistable (directory : String)
  | unremovable (path : String)
  deriving Repr, DecidableEq

/-- The error in words. -/
def DiskError.message : DiskError → String
  | .uncreatable directory => "Failed to create " ++ directory
  | .unwritable path => "Failed to write " ++ path
  | .unlistable directory => "Failed to list " ++ directory
  | .unremovable path => "Failed to remove " ++ path

/-- The names among `present` that are not the file names of `generated`, up to case. -/
def staleNames (present generated : List String) : List String :=
  let kept := generated.map fun name => Text.toLower (OutputFile.fileName name)
  present.filter fun name => !kept.contains (Text.toLower name)

namespace Disk

/-- Writes the files into a directory. -/
def writeFiles (d : Disk) (directory : String) : List OutputFile → Disk × Except DiskError Unit
  | [] => (d, .ok ())
  | file :: files =>
    let path := Path.join directory (OutputFile.fileName file.name)
    match d.write? path file.text.toUTF8 with
    | some d => d.writeFiles directory files
    | none => (d, .error (.unwritable path))

/-- Removes the files of these names from a directory. -/
def removeFiles (d : Disk) (directory : String) : List String → Disk × Except DiskError Unit
  | [] => (d, .ok ())
  | name :: names =>
    let path := Path.join directory name
    match d.remove? path with
    | some d => d.removeFiles directory names
    | none => (d, .error (.unremovable path))

/-- Removes the files of a directory that are not among the generated ones, and gives their names in
order. Its subdirectories stay as they are. -/
def removeStale (d : Disk) (directory : String) (generated : List String) :
    Disk × Except DiskError (List String) :=
  match d.fileNames? directory with
  | none => (d, .error (.unlistable directory))
  | some present =>
    let stale := (OrderedSet.ofList (staleNames present generated)).toList
    match d.removeFiles directory stale with
    | (d, .ok ()) => (d, .ok stale)
    | (d, .error e) => (d, .error e)

end Disk

end WireTypes
