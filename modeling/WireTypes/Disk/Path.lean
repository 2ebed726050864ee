/-!
# Paths

A path is a text whose parts are separated by slashes.

* `Path.join` : a path seen from another; an absolute one stands for itself;
* `Path.pieces` : what stands between the slashes;
* `Segment`, `Path.segments` : the parts that count, in order of comparison root, here, up, names;
* `Path.fileName?`, `Path.extension?`, `Path.parents`.
-/

namespace WireTypes

/-- A part of a path that counts. -/
inductive Segment where
  | root
  | here
  | up
  | named (name : String)
  deriving Repr, DecidableEq, Inhabited

namespace Segment

/-- The place of the kind of segment in the order. -/
def rank : Segment → Nat
  | root => 0
  | here => 1
  | up => 2
  | named _ => 3

/-- The segment in writing. -/
def text : Segment → String
  | root => "/"
  | here => "."
  | up => ".."
  | named name => name

instance : Ord Segment := ⟨compareLex (compareOn rank) (compareOn text)⟩

theorem compare_def (a b : Segment) :
    compare a b = (compare a.rank b.rank).then (compare a.text b.text) := rfl

instance : Std.TransOrd Segment :=
  inferInstanceAs (Std.TransCmp (compareLex (compareOn rank) (compareOn text)))

instance : Std.LawfulEqOrd Segment where
  compare_self := by simp
  eq_of_compare {a b} h := by
    rw [compare_def, Ordering.then_eq_eq, Std.LawfulEqOrd.compare_eq_iff_eq,
      Std.LawfulEqOrd.compare_eq_iff_eq] at h
    cases a <;> cases b <;> simp_all [rank, text]

end Segment

namespace Path

/-- Whether the path starts at the root. -/
def isAbsolute (p : String) : Bool := p.toList.head? == some '/'

/-- The path `p` seen from `base`. -/
def join (base p : String) : String :=
  if isAbsolute p then p
  else if base.isEmpty || base.toList.getLast? == some '/' then base ++ p
  else base ++ "/" ++ p

/-- What stands between the slashes, nothing included. -/
def pieces (p : String) : List String := (p.toList.splitOn '/').map String.ofList

/-- A piece as a segment. A dot counts at the start of a relative path only. -/
def pieceSegment? (piece : String) : Option Segment :=
  if piece = "" || piece = "." then none
  else if piece = ".." then some .up
  else some (.named piece)

/-- The parts of the path that count. -/
def segments (p : String) : List Segment :=
  let first := if isAbsolute p then [Segment.root] else if (pieces p).head? = some "." then [.here] else []
  first ++ (pieces p).filterMap pieceSegment?

/-- The path with these segments. -/
def ofSegments (segments : List Segment) : String := segments.foldl (fun p s => join p s.text) ""

/-- The last segment, if it is a name. -/
def fileName? (p : String) : Option String :=
  match (segments p).getLast? with
  | some (.named name) => some name
  | _ => none

/-- What follows the last dot of the file name. A dot at its start does not count. -/
def extension? (p : String) : Option String :=
  (fileName? p).bind fun name =>
    let cs := name.toList.reverse
    match cs.dropWhile (· != '.') with
    | '.' :: _ :: _ => some (String.ofList (cs.takeWhile (· != '.')).reverse)
    | _ => none

/-- The proper beginnings of the path, shortest first. -/
def parents (p : String) : List String :=
  let all := segments p
  (List.range (all.length - 1)).map fun n => ofSegments (all.take (n + 1))

/-- The path of the directory that the last segment is in; empty for a single name. -/
def parent (p : String) : String := ofSegments (segments p).dropLast

end Path

end WireTypes
