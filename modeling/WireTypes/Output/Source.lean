import WireTypes.Collection.OrderedSet
import WireTypes.Output.Naming

/-!
# Source text

The pieces that all generated files are made of.

* `OutputFile` : the name of a file without its extension, and its text;
* `inBraces`, `lines`, `commaSeparated`;
* `importLines` : the imports of a set of names, one by one or all from the index.
-/

namespace WireTypes

/-- A generated file. -/
structure OutputFile where
  name : String
  text : String
  deriving Repr, DecidableEq, Inhabited

/-- The name of the file on disk. -/
def OutputFile.fileName (name : String) : String := name ++ ".ts"

/-- `s` between braces. -/
def inBraces (s : String) : String := "\x7b" ++ s ++ "\x7d"

/-- Lines, each ended. -/
def lines (ls : List String) : String := String.join (ls.map (· ++ "\n"))

/-- Lines, each on a new line after the text before. -/
def newLines (ls : List String) : String := String.join (ls.map ("\n" ++ ·))

/-- Texts with a comma and a blank between them. -/
def commaSeparated (ss : List String) : String := ", ".intercalate ss

/-- An import from a file of the same directory. -/
def importLine (names : List String) (file : String) : String :=
  "import " ++ inBraces (" " ++ commaSeparated names ++ " ") ++ " from './" ++ file ++ "';"

/-- The imports of a set of names: from a file each, or all of them from the index. -/
def importLines (names : OrderedSet String) (combined : Bool) : List String :=
  if names.isEmpty then []
  else if combined then [importLine names.toList indexName]
  else names.toList.map fun name => importLine [name] name

end WireTypes
