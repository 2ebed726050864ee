import WireTypes.Disk.Path

/-!
# Disks

A tree of directories and files, and the directory that relative paths start from.

* `FileName` : the names that entries may have;
* `Location` : the names from the root to an entry, innermost first;
* `Disk.get?` : what is at a location; `get?_put`, `get?_drop` say what a change leaves there, and
  `write?_eq_some`, `remove?_eq_some`, `ensureDir?_eq_some` which change an operation makes;
* `Disk.locate?` : the location that a path leads to. All but the last of its names must lead to
  directories;
* `Disk.read?`, `write?`, `makeDirs`, `fileNames?`, `remove?` : the operations on paths.
-/

namespace WireTypes

/-- Whether an entry may have this name: it is no step of a path by itself, it holds neither slash nor
NUL, and it has at most 255 bytes. -/
def isFileName (s : String) : Bool :=
  s != "" && s != "." && s != ".." && s.utf8ByteSize ≤ 255 &&
    s.toList.all fun c => c != '/' && c.toNat != 0

/-- The name of an entry. -/
abbrev FileName := { s : String // isFileName s = true }

/-- The text as the name of an entry, if it is one. -/
def FileName.ofText? (s : String) : Option FileName :=
  if h : isFileName s = true then some ⟨s, h⟩ else none

theorem FileName.ofText?_val (n : FileName) : FileName.ofText? n.val = some n := dif_pos n.property

/-- Where an entry is: its name, the name of its directory, and so on to the root. -/
abbrev Location := List FileName

/-- What is at a location. -/
inductive Entry where
  | directory
  | file (content : ByteArray)
  deriving Inhabited

/-- Entries at locations. The root is always a directory. -/
structure Disk where
  entries : List (Location × Entry)
  /-- The directory that relative paths start from. -/
  workDir : Location

namespace Disk

/-! ## Locations -/

/-- What is at a location. -/
def get? (d : Disk) (l : Location) : Option Entry :=
  if l.isEmpty then some .directory else (d.entries.find? fun entry => entry.1 == l).map (·.2)

/-- Whether there is a file at a location. -/
def hasFileAt (d : Disk) (l : Location) : Bool :=
  match d.get? l with
  | some (.file _) => true
  | _ => false

/-- Whether there is a directory at a location. -/
def isDirectory (d : Disk) (l : Location) : Bool :=
  match d.get? l with
  | some .directory => true
  | _ => false

/-- The disk with an entry at a location. -/
def put (d : Disk) (l : Location) (e : Entry) : Disk :=
  { d with entries := (l, e) :: d.entries.filter fun entry => entry.1 != l }

/-- The disk without the entry at a location. -/
def drop (d : Disk) (l : Location) : Disk :=
  { d with entries := d.entries.filter fun entry => entry.1 != l }

/-- The names of the entries in the directory at a location. -/
def childNames (d : Disk) (l : Location) : List FileName :=
  d.entries.filterMap fun entry =>
    match entry.1 with
    | name :: parent => if parent = l then some name else none
    | [] => none

theorem find?_filter_ne {l k : Location} (h : k ≠ l) (entries : List (Location × Entry)) :
    (entries.filter fun entry => entry.1 != l).find? (fun entry => entry.1 == k) =
      entries.find? fun entry => entry.1 == k := by
  rw [List.find?_filter]
  congr 1
  funext entry
  by_cases hk : entry.1 = k <;> simp [hk, h]

theorem get?_put (d : Disk) {l : Location} (e : Entry) (hl : l ≠ []) (k : Location) :
    (d.put l e).get? k = if k = l then some e else d.get? k := by
  by_cases hk : k = l
  · subst hk
    simp [get?, put, hl]
  · have : (l == k) = false := by simpa using Ne.symm hk
    simp [get?, put, hk, this, find?_filter_ne hk]

theorem get?_drop (d : Disk) {l : Location} (hl : l ≠ []) (k : Location) :
    (d.drop l).get? k = if k = l then none else d.get? k := by
  by_cases hk : k = l
  · subst hk
    simp [get?, drop, hl]
  · simp [get?, drop, hk, find?_filter_ne hk]

theorem mem_childNames {d : Disk} {l : Location} {name : FileName} :
    name ∈ d.childNames l ↔ (d.get? (name :: l)).isSome := by
  simp only [childNames, List.mem_filterMap, get?, List.isEmpty_cons, Bool.false_eq_true, if_false,
    Option.isSome_map, List.find?_isSome, beq_iff_eq]
  constructor
  · rintro ⟨entry, hentry, h⟩
    refine ⟨entry, hentry, ?_⟩
    split at h
    · rename_i name' parent heq
      split at h
      · rename_i hparent
        rw [heq, Option.some.inj h, hparent]
      · cases h
    · cases h
  · rintro ⟨entry, hentry, h⟩
    exact ⟨entry, hentry, by simp [h]⟩

/-! ## From paths to locations -/

/-- Follows the pieces of a path from a location. -/
def walk (d : Disk) (l : Location) : List String → Option Location
  | [] => some l
  | piece :: pieces =>
    if !d.isDirectory l then none
    else if piece = "" || piece = "." then d.walk l pieces
    else if piece = ".." then d.walk l.tail pieces
    else
      match FileName.ofText? piece with
      | some name => d.walk (name :: l) pieces
      | none => none

/-- The location that a path leads to, whether or not something is there. The empty path leads
nowhere. -/
def locate? (d : Disk) (p : String) : Option Location :=
  if p.isEmpty then none
  else d.walk (if Path.isAbsolute p then [] else d.workDir) (Path.pieces p)

/-- What a path leads to. -/
def at? (d : Disk) (p : String) : Option Entry := (d.locate? p).bind d.get?

/-- Whether a path leads to a file. -/
def hasFile (d : Disk) (p : String) : Bool := (d.locate? p).any d.hasFileAt

/-- Whether a path leads to a directory. -/
def hasDirectory (d : Disk) (p : String) : Bool := (d.locate? p).any d.isDirectory

/-- The path of the directory that relative paths start from. -/
def workPath (d : Disk) : String := "/" ++ "/".intercalate (d.workDir.reverse.map (·.val))

/-- The path as an absolute one. Nothing in it is simplified. -/
def absolute (d : Disk) (p : String) : String := Path.join d.workPath p

/-! ## Operations -/

/-- The bytes of the file that a path leads to. -/
def read? (d : Disk) (p : String) : Option ByteArray :=
  match d.at? p with
  | some (.file content) => some content
  | _ => none

/-- The text of the file that a path leads to. -/
def readText? (d : Disk) (p : String) : Option String := (d.read? p).bind String.fromUTF8?

/-- Writes a file, over the one that is there. Its directory must be there. -/
def write? (d : Disk) (p : String) (content : ByteArray) : Option Disk :=
  match d.locate? p with
  | none => none
  | some l => if d.isDirectory l then none else some (d.put l (.file content))

/-- The path without the slashes at its end. -/
def withoutEnd (p : String) : String :=
  let p' := String.ofList (p.toList.reverse.dropWhile (· = '/')).reverse
  if p'.isEmpty then p else p'

/-- The disk with a directory at a path whose parent is there. -/
def ensureDir? (d : Disk) (p : String) : Option Disk :=
  match d.locate? (withoutEnd p) with
  | none => none
  | some l =>
    match d.get? l with
    | some .directory => some d
    | some (.file _) => none
    | none => some (d.put l .directory)

/-- Makes one directory after the other, as far as that works, and says whether it did. -/
def ensureDirs (d : Disk) : List String → Disk × Bool
  | [] => (d, true)
  | p :: ps =>
    match d.ensureDir? p with
    | some d => d.ensureDirs ps
    | none => (d, false)

/-- Makes the directory that a path leads to and those that it is in, as far as that works, and says
whether it did. -/
def makeDirs (d : Disk) (p : String) : Disk × Bool :=
  if p.isEmpty then (d, true) else d.ensureDirs (Path.parents p ++ [p])

/-- The names of the files in the directory that a path leads to. -/
def fileNames? (d : Disk) (p : String) : Option (List String) :=
  match d.locate? p with
  | none => none
  | some l =>
    if d.isDirectory l then
      some (((d.childNames l).filter fun name => d.hasFileAt (name :: l)).map (·.val))
    else none

/-- Removes the file that a path leads to. -/
def remove? (d : Disk) (p : String) : Option Disk :=
  match d.locate? p with
  | none => none
  | some l =>
    match d.get? l with
    | some (.file _) => some (d.drop l)
    | _ => none

/-! ## What changes -/

theorem isDirectory_root (d : Disk) : d.isDirectory [] = true := rfl

theorem isDirectory_iff {d : Disk} {l : Location} :
    d.isDirectory l = true ↔ d.get? l = some .directory := by
  unfold isDirectory
  cases h : d.get? l with
  | none => simp
  | some e => cases e <;> simp

theorem ne_nil_of_not_isDirectory {d : Disk} {l : Location} (h : d.isDirectory l = false) : l ≠ [] := by
  rintro rfl
  exact absurd (d.isDirectory_root.symm.trans h) (by decide)

theorem write?_eq_some {d d' : Disk} {p : String} {content : ByteArray}
    (h : d.write? p content = some d') :
    ∃ l, d.locate? p = some l ∧ d.isDirectory l = false ∧ d' = d.put l (.file content) := by
  unfold write? at h
  split at h
  · cases h
  rename_i l hl
  split at h
  · cases h
  rename_i hdir
  exact ⟨l, hl, by simpa using hdir, (Option.some.inj h).symm⟩

theorem remove?_eq_some {d d' : Disk} {p : String} (h : d.remove? p = some d') :
    ∃ l, d.locate? p = some l ∧ d.isDirectory l = false ∧ d' = d.drop l := by
  unfold remove? at h
  split at h
  · cases h
  rename_i l hl
  split at h
  · rename_i content hfile
    refine ⟨l, hl, ?_, (Option.some.inj h).symm⟩
    rw [isDirectory, hfile]
  · cases h

theorem ensureDir?_eq_some {d d' : Disk} {p : String} (h : d.ensureDir? p = some d') :
    ∃ l, d.locate? (withoutEnd p) = some l ∧
      (d' = d ∨ d.get? l = none ∧ d' = d.put l .directory) := by
  unfold ensureDir? at h
  cases hl : d.locate? (withoutEnd p) with
  | none =>
    rw [hl] at h
    cases h
  | some l =>
    rw [hl] at h
    refine ⟨l, rfl, ?_⟩
    cases hget : d.get? l with
    | none =>
      simp only [hget] at h
      exact Or.inr ⟨rfl, (Option.some.inj h).symm⟩
    | some e =>
      cases e <;> simp only [hget] at h
      · exact Or.inl (Option.some.inj h).symm
      · cases h

end Disk

end WireTypes
