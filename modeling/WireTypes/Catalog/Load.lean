import WireTypes.Catalog.Basic
import WireTypes.Disk.Pattern
import WireTypes.Document.Format
import WireTypes.Metadata.Codec
import WireTypes.Text.Blank

/-!
# Loading modules

* `Disk.readModule` : the module that a file describes, in the format of its extension;
* `Disk.selectFiles` : the files of a directory that patterns select, by path;
* `Disk.referencedModule?` : the module that a reference leads to. It is in the first of the files
  that may hold it, and only under its own name;
* `Catalog.load` : the modules in the selected files, the unreadable ones left out, and then round by
  round those that the loaded ones refer to.
-/

namespace WireTypes

open Document

/-- Why modules cannot be loaded. -/
inductive LoadError where
  | unreadable (path : String)
  | invalid (format : Format) (path : String)
  | nameless (path : String)
  | invalidPattern (pattern : String)
  | noDirectory (source : String)
  deriving Repr, DecidableEq

/-- The error in words. -/
def LoadError.message : LoadError → String
  | .unreadable path => "Failed to read module file " ++ path
  | .invalid format path => "Invalid " ++ format.name ++ " module " ++ path
  | .nameless path => "Module file " ++ path ++ " does not declare a module name"
  | .invalidPattern pattern => "Invalid module pattern '" ++ pattern ++ "'"
  | .noDirectory source => "Module source " ++ source ++ " is not a directory"

namespace Disk

/-! ## Files -/

/-- The module that the file at a path describes. -/
def readModule (d : Disk) (path : String) : Except LoadError ModuleDecl :=
  match d.readText? path with
  | none => .error (.unreadable path)
  | some text =>
    let format := Format.ofPath path
    match format.read ModuleDecl.decode text with
    | none => .error (.invalid format path)
    | some m => if Text.isBlankText m.name then .error (.nameless path) else .ok m

/-- The module that the file at a path describes, if it can be read. -/
def readableModule? (d : Disk) (path : String) : Option ModuleDecl := (d.readModule path).toOption

/-- The files that one pattern selects in a directory. -/
def selected (d : Disk) (source pattern : String) : Except LoadError (List (List Segment)) :=
  match Pattern.parse? (Path.join source pattern) with
  | some p => .ok (d.matching p)
  | none => .error (.invalidPattern pattern)

/-- The files that patterns select in a directory, each once, in the order of their segments. -/
def selectFiles (d : Disk) (source : String) (patterns : List String) :
    Except LoadError (List String) := do
  let found ← patterns.mapM (d.selected source)
  return (OrderedSet.ofList found.flatten).toList.map Path.ofSegments

/-! ## References -/

/-- The extensions of the files in which a referenced module is looked for, in order. -/
def referenceExtensions : List String := ["json", "yaml", "yml", "toml"]

/-- The files in which the module of this name is looked for. -/
def referencePaths (source name : String) : List String :=
  referenceExtensions.map fun extension => Path.join source (name ++ "." ++ extension)

/-- The module of this name next to the selected ones: the first file that is there must hold it. -/
def referencedModule? (d : Disk) (source name : String) : Option ModuleDecl :=
  (((referencePaths source name).find? d.hasFile).bind d.readableModule?).filter (·.name = name)

end Disk

namespace Catalog

/-- The references that are not loaded, each once, in order. -/
def unresolvedReferences (c : Catalog) : List String :=
  (OrderedSet.ofList (c.modules.flatMap fun m => m.missing c.moduleNames)).toList

/-- Loads what the loaded modules refer to, as long as something is found, in at most so many rounds. -/
def follow (d : Disk) (source : String) : Nat → Catalog → Catalog
  | 0, c => c
  | n + 1, c =>
    match c.unresolvedReferences.filterMap (d.referencedModule? source) with
    | [] => c
    | found => follow d source n (c.insertMany found)

/-- The catalog of the modules in a directory that patterns select and of those that they refer to.
Each round loads a module from a file of its own, so there are no more rounds than entries. -/
def load (d : Disk) (source : String) (patterns : List String) : Except LoadError Catalog := do
  if !d.hasDirectory source then throw (.noDirectory source)
  let files ← d.selectFiles source patterns
  return follow d source (d.entries.length + 1) (ofModules (files.filterMap d.readableModule?))

end Catalog

end WireTypes
