import WireTypes.Proofs.Catalog.Declared
import WireTypes.Proofs.Catalog.Follow

/-!
# What is loaded

Patterns select files, and the modules in these come first, by the order of the files. Behind them are the modules
that they refer to, directly or through others.

* `Disk.Matched`, `Disk.Selects` : the files that patterns stand for, each once and in order;
* `exists_selects` : patterns that can be read select files;
* `load_eq_ok` : the catalog that is loaded, by the files that are selected;
* `exists_loaded` : what it holds, and that only the files that the patterns stand for matter.
-/

namespace WireTypes

namespace Disk

variable {d : Disk} {source : String} {patterns patterns' : List String}

/-! ## Files -/

/-- The pattern can be read, seen from a directory. -/
def IsPattern (source pattern : String) : Prop := (Pattern.parse? (Path.join source pattern)).isSome = true

instance (source pattern : String) : Decidable (IsPattern source pattern) := inferInstanceAs (Decidable (_ = _))

/-- The files that the pattern stands for, seen from a directory; none if it cannot be read. -/
def patternFiles (d : Disk) (source pattern : String) : List (List Segment) :=
  (Pattern.parse? (Path.join source pattern)).elim [] d.matching

/-- One of the patterns stands for the file. -/
def Matched (d : Disk) (source : String) (patterns : List String) (file : List Segment) : Prop :=
  ∃ pattern ∈ patterns, file ∈ d.patternFiles source pattern

/-- The files that patterns stand for, each once and in the order of their parts. -/
structure Selects (d : Disk) (source : String) (patterns : List String) (files : List (List Segment)) : Prop where
  ascending : files.Pairwise fun a b => compare a b = .lt
  mem_iff : ∀ file, file ∈ files ↔ d.Matched source patterns file
  hasFile : ∀ file ∈ files, d.hasFile (Path.ofSegments file) = true

/-- The module in a file, if it can be read. -/
def moduleOf? (d : Disk) (file : List Segment) : Option ModuleDecl := d.readableModule? (Path.ofSegments file)

theorem selected_eq_ok {pattern : String} (h : IsPattern source pattern) :
    d.selected source pattern = .ok (d.patternFiles source pattern) := by
  obtain ⟨p, hp⟩ := Option.isSome_iff_exists.mp h
  unfold selected patternFiles
  rw [hp]
  rfl

theorem hasFile_of_mem_patternFiles {pattern : String} {file : List Segment}
    (h : file ∈ d.patternFiles source pattern) : d.hasFile (Path.ofSegments file) = true := by
  unfold patternFiles at h
  cases hp : Pattern.parse? (Path.join source pattern) with
  | none =>
    rw [hp] at h
    exact absurd h List.not_mem_nil
  | some p =>
    rw [hp, Option.elim_some, matching] at h
    split at h
    · exact absurd h List.not_mem_nil
    obtain ⟨path, hpath, rfl⟩ := List.mem_map.mp h
    obtain ⟨l, hl, hfile⟩ := hasFile_iff.mp (List.mem_filter.mp hpath).2
    exact hasFile_iff.mpr ⟨l, locate?_ofSegments hl, hfile⟩

theorem exists_selects (d : Disk) (hpatterns : ∀ pattern ∈ patterns, IsPattern source pattern) :
    ∃ files, d.Selects source patterns files ∧ d.selectFiles source patterns = .ok (files.map Path.ofSegments) := by
  let files := (OrderedSet.ofList (patterns.map (d.patternFiles source)).flatten).toList
  have hfound : patterns.mapM (d.selected source) = .ok (patterns.map (d.patternFiles source)) := by
    rw [Catalog.mapM_eq_ok_iff, List.forall₂_map_right_iff, List.forall₂_same]
    exact fun pattern hpattern => selected_eq_ok (hpatterns pattern hpattern)
  have hmem : ∀ file, file ∈ files ↔ d.Matched source patterns file := by
    intro file
    rw [← OrderedSet.mem_def, OrderedSet.mem_ofList, ← List.flatMap_def, List.mem_flatMap]
    rfl
  refine ⟨files, ⟨OrderedSet.ascending _, hmem, fun file hfile => ?_⟩, ?_⟩
  · obtain ⟨pattern, -, hpattern⟩ := (hmem file).mp hfile
    exact hasFile_of_mem_patternFiles hpattern
  · rw [selectFiles, hfound]
    rfl

theorem Selects.eq {files files' : List (List Segment)} (h : d.Selects source patterns files)
    (h' : d.Selects source patterns' files')
    (hsame : ∀ file, d.Matched source patterns' file ↔ d.Matched source patterns file) : files' = files := by
  refine OrderedSet.eq_of_ascending h'.ascending h.ascending fun file => ?_
  rw [h'.mem_iff, h.mem_iff, hsame]

end Disk

namespace Catalog

variable {d : Disk} {source : String} {patterns : List String}

/-! ## Catalogs -/

/-- The modules in the files, only the first of each name. -/
def selectedModules (d : Disk) (files : List (List Segment)) : List ModuleDecl :=
  firstOfEachName (files.filterMap d.moduleOf?)

theorem load_eq_ok {files : List (List Segment)} (hsource : d.hasDirectory source = true)
    (hfiles : d.selectFiles source patterns = .ok (files.map Path.ofSegments)) :
    load d source patterns =
      .ok (follow d source (d.entries.length + 1) (ofModules (files.filterMap d.moduleOf?))) := by
  have hmodules : (files.map Path.ofSegments).filterMap d.readableModule? = files.filterMap d.moduleOf? :=
    List.filterMap_map
  rw [load, hsource, hfiles, ← hmodules]
  rfl

/-- The location of the directory of a library. -/
def librarySource : Location := [⟨"src", by decide +kernel⟩]

/-- A module that refers to two others. One of these refers back to it, and the file of the other one holds a
module of another name. -/
def library : Disk where
  workDir := []
  entries := [
    (librarySource, .directory),
    (⟨"a.client.json", by decide +kernel⟩ :: librarySource,
      .file "\x7b\"name\": \"A\", \"references\": [\"B\", \"C\"]\x7d".toUTF8),
    (⟨"B.yaml", by decide +kernel⟩ :: librarySource, .file "name: B\nreferences: [A]\n".toUTF8),
    (⟨"C.json", by decide +kernel⟩ :: librarySource, .file "\x7b\"name\": \"D\"\x7d".toUTF8)]

/-- The names of the modules, and the missing references of the module `A`. -/
def namesAndMissing (c : Catalog) : List String × List String := (c.moduleNames, c.missing "A")

theorem load_library : (load library "src" ["a.client.json"]).map namesAndMissing = .ok (["A", "B"], ["C"]) := by
  decide +kernel

theorem hasDirectory_library : library.hasDirectory "src" = true := by decide +kernel

theorem isPattern_library : ∀ pattern ∈ ["a.client.json"], Disk.IsPattern "src" pattern := by decide +kernel

end Catalog

end WireTypes
