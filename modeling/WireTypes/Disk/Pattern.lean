import WireTypes.Collection.OrderedSet
import WireTypes.Disk.Basic

/-!
# File patterns

A pattern is a path whose names may hold wildcards: `*` for any text, `?` for any character, `[a-c]`
and `[!a-c]` for one character inside and outside of a class, and `**`, a name of its own, for any
directories.

* `Pattern.parse?` : the steps of a pattern. A class must be closed and hold a character, and two
  asterisks are a whole name;
* `matchesName` : whether a name is one that wildcards stand for;
* `Disk.expand` : the paths that lie on a way through the steps;
* `Disk.matching` : the files among them, as segments in order.
-/

namespace WireTypes

/-- What stands for characters of a name. -/
inductive Wildcard where
  | exactly (c : Char)
  | anyChar
  | anyText
  | oneOf (runs : List (Char × Char))
  | noneOf (runs : List (Char × Char))
  deriving Repr, DecidableEq, Inhabited

/-- What stands for one name of a path, or for any number of them. -/
inductive PatternStep where
  | literal (name : String)
  | wild (wildcards : List Wildcard)
  | anyDirectories
  deriving Repr, DecidableEq, Inhabited

/-- A pattern as steps from the root or from the directory that relative paths start from. -/
structure Pattern where
  isAbsolute : Bool
  steps : List PatternStep
  /-- A slash at the end, which asks for a directory. -/
  wantsDirectory : Bool
  deriving Repr, DecidableEq, Inhabited

/-! ## Reading patterns -/

namespace Pattern

/-- The runs of characters that a class lists. A dash between two characters makes a run. -/
def classRuns : List Char → List (Char × Char)
  | first :: '-' :: last :: cs => (first, last) :: classRuns cs
  | c :: cs => (c, c) :: classRuns cs
  | [] => []

/-- The content of a class and what follows its closing bracket. A bracket at the start belongs to
the content. -/
def splitClass? : List Char → Option (List Char × List Char)
  | [] => none
  | c :: cs =>
    match cs.dropWhile (· != ']') with
    | ']' :: rest => some (c :: cs.takeWhile (· != ']'), rest)
    | _ => none

/-- The class behind an opening bracket, and what follows it. -/
def readClass? : List Char → Option (Wildcard × List Char)
  | '!' :: cs => (splitClass? cs).map fun (content, rest) => (.noneOf (classRuns content), rest)
  | cs => (splitClass? cs).map fun (content, rest) => (.oneOf (classRuns content), rest)

/-- The wildcards of a name; the first argument counts characters down. -/
def readWildcards? : Nat → List Char → Option (List Wildcard)
  | _, [] => some []
  | 0, _ :: _ => none
  | n + 1, c :: cs =>
    match c with
    | '?' => (readWildcards? n cs).map (.anyChar :: ·)
    | '*' => if cs.head? = some '*' then none else (readWildcards? n cs).map (.anyText :: ·)
    | '[' =>
      match readClass? cs with
      | some (wildcard, rest) => (readWildcards? n rest).map (wildcard :: ·)
      | none => none
    | c => (readWildcards? n cs).map (.exactly c :: ·)

/-- Whether the character may start a wildcard. -/
def isMeta (c : Char) : Bool := c = '?' || c = '*' || c = '['

/-- One name of a pattern. -/
def readStep? (name : String) : Option PatternStep :=
  if name = "**" then some .anyDirectories
  else if name.toList.any isMeta then
    (readWildcards? name.length name.toList).map .wild
  else some (.literal name)

/-- Several `anyDirectories` in a row are one. -/
def collapse : List PatternStep → List PatternStep
  | .anyDirectories :: .anyDirectories :: steps => collapse (.anyDirectories :: steps)
  | step :: steps => step :: collapse steps
  | [] => []

/-- The pattern in writing, if it is one. -/
def parse? (s : String) : Option Pattern := do
  let pieces := Path.pieces s
  let names := if pieces.getLast? = some "" then pieces.dropLast else pieces
  let steps ← (if Path.isAbsolute s then names.tail else names).mapM readStep?
  return ⟨Path.isAbsolute s, collapse steps, pieces.length > 1 && pieces.getLast? = some ""⟩

end Pattern

/-! ## Matching names -/

/-- Whether the character is one that the wildcard stands for. -/
def Wildcard.accepts (c : Char) : Wildcard → Bool
  | .exactly a => c = a
  | .anyChar => true
  | .anyText => true
  | .oneOf runs => runs.any fun run => run.1 ≤ c && c ≤ run.2
  | .noneOf runs => !runs.any fun run => run.1 ≤ c && c ≤ run.2

/-- Whether the wildcards stand for the characters. -/
def matchesName : List Wildcard → List Char → Bool
  | [], cs => cs.isEmpty
  | .anyText :: ws, [] => matchesName ws []
  | .anyText :: ws, c :: cs => matchesName ws (c :: cs) || matchesName (.anyText :: ws) cs
  | _ :: _, [] => false
  | w :: ws, c :: cs => w.accepts c && matchesName ws cs

/-- Whether the step stands for a single name. -/
def PatternStep.accepts (name : String) : PatternStep → Bool
  | .literal s => name = s
  | .wild wildcards => matchesName wildcards name.toList
  | .anyDirectories => false

/-! ## Matching files -/

namespace Disk

/-- The path of an entry of the directory at `p`. Nothing is written for the directory that relative
paths start from. -/
def entryPath (p name : String) : String :=
  if Path.segments p = [.here] then name else Path.join p name

/-- The names that lead from the directory at a location to all that is below it. -/
def waysBelow (d : Disk) (l : Location) : List (List String) :=
  d.entries.filterMap fun entry =>
    if l.isSuffixOf entry.1 && l.length < entry.1.length then
      some ((entry.1.take (entry.1.length - l.length)).reverse.map (·.val))
    else none

/-- The paths of all entries below the directory at `p`, each with its name. -/
def below (d : Disk) (p : String) : List (String × String) :=
  match d.locate? p with
  | none => []
  | some l =>
    (d.waysBelow l).filterMap fun way =>
      way.getLast?.map fun name => (name, way.foldl entryPath p)

/-- The paths of the entries of the directory at `p`, each with its name. -/
def children (d : Disk) (p : String) : List (String × String) :=
  match d.locate? p with
  | none => []
  | some l =>
    if d.isDirectory l then (d.childNames l).map fun name => (name.val, entryPath p name.val) else []

/-- Here and up, when the wildcards start with a dot and stand for them. -/
def dotNames (wildcards : List Wildcard) : List String :=
  if wildcards.head? = some (.exactly '.') then
    [".", ".."].filter fun name => matchesName wildcards name.toList
  else []

/-- The paths that lead through the steps from `p`. Directories at the end of any number of
directories are left out. -/
def expand (d : Disk) (p : String) : List PatternStep → List String
  | [] => [p]
  | .literal name :: steps =>
    let next := entryPath p name
    if (d.at? next).isSome then d.expand next steps else []
  | .wild wildcards :: steps =>
    let named := (d.children p).filter fun (name, _) => matchesName wildcards name.toList
    let dots := if d.hasDirectory p then (dotNames wildcards).map (Path.join p) else []
    (named.map (·.2) ++ dots).flatMap fun next => d.expand next steps
  | .anyDirectories :: step :: steps =>
    ((d.below p).filter fun (name, _) => step.accepts name).flatMap fun (_, next) =>
      d.expand next steps
  | [.anyDirectories] => []

/-- The files that a pattern stands for. -/
def matching (d : Disk) (pattern : Pattern) : List (List Segment) :=
  if pattern.wantsDirectory then []
  else
    ((d.expand (if pattern.isAbsolute then "/" else ".") pattern.steps).filter d.hasFile).map
      Path.segments

end Disk

end WireTypes
