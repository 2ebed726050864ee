import WireTypes.Proofs.Catalog.Loaded
import WireTypes.Proofs.Disk.Added

/-!
# Files that cannot be read

A new file without a module in it is passed over where patterns select it. A reference, however, leads to the first
of its files, whether or not that can be read, so the new file may hide one that a reference led to.

* `Disk.Shadows` : a file at a location comes before those that are there for a reference;
* `leadsTo_iff` : where references lead with the new file;
* `selected_eq` : the modules that are selected stay the same;
* `load_with_unreadable` : what is loaded with the new file, and when that is what was loaded without it.
-/

namespace WireTypes

namespace Disk

variable {d d' : Disk} {l : Location} {content : ByteArray} {source r : String}

/-! ## References -/

/-- A file at the location would come first for the reference: no file before it is there. -/
def Shadows (d : Disk) (source : String) (l : Location) (r : String) : Prop :=
  ∃ before path after, referencePaths source r = before ++ path :: after ∧ d.locate? path = some l ∧
    ∀ p ∈ before, d.hasFile p = false

namespace FileAdded

theorem readableModule?_before (h : FileAdded d d' l content) {p : String} (hp : d.locate? p = some l) :
    d.readableModule? p = none := by
  refine readableModule?_eq_none_of_at? fun content hat => ?_
  rw [at?, hp, Option.bind_some, h.get?_eq_none List.suffix_rfl] at hat
  cases hat

theorem readableModule?_after (h : FileAdded d d' l content) {p : String} (hp : d.locate? p = some l) :
    d'.readableModule? p = d'.moduleAt? l := by
  obtain ⟨before, last, hpieces, hlast⟩ := h.exists_pieces hp
  exact readableModule?_eq_moduleAt? ((h.locate?_eq p).trans hp) hpieces hlast

theorem readableModule?_eq (h : FileAdded d d' l content) (hbad : d'.moduleAt? l = none) (p : String) :
    d'.readableModule? p = d.readableModule? p := by
  by_cases hp : d.locate? p = some l
  · rw [h.readableModule?_after hp, hbad, h.readableModule?_before hp]
  · have hread : d'.readText? p = d.readText? p := by rw [readText?, readText?, read?, read?, h.at?_eq hp]
    rw [readableModule?, readableModule?, readModule, readModule, hread]

/-- The new file shadows a reference if it is the first of its files. -/
theorem shadows_iff (h : FileAdded d d' l content) : d.Shadows source l r ↔
    ∃ path, (referencePaths source r).find? d'.hasFile = some path ∧ d.locate? path = some l := by
  constructor
  · rintro ⟨before, path, after, hpaths, hpath, hbefore⟩
    rw [hpaths, List.find?_append]
    cases hfind : before.find? d'.hasFile with
    | none =>
      have hfile := h.hasFile_iff.mpr (Or.inr hpath)
      exact ⟨path, by rw [Option.none_or, List.find?_cons_of_pos hfile], hpath⟩
    | some p =>
      refine ⟨p, Option.some_or, (h.hasFile_iff.mp (List.find?_some hfind)).resolve_left ?_⟩
      rw [hbefore p (List.mem_of_find?_eq_some hfind)]
      exact Bool.false_ne_true
  · rintro ⟨path, hfind, hpath⟩
    obtain ⟨-, before, after, hpaths, hbefore⟩ := List.find?_eq_some_iff_append.mp hfind
    refine ⟨before, path, after, hpaths, hpath, fun p hp => ?_⟩
    rw [Bool.eq_false_iff]
    intro hfile
    have := hbefore p hp
    rw [h.hasFile_iff.mpr (Or.inl hfile)] at this
    cases this

theorem referencedModule?_of_shadows (h : FileAdded d d' l content) (hbad : d'.moduleAt? l = none)
    (hr : d.Shadows source l r) : d'.referencedModule? source r = none := by
  obtain ⟨path, hfind, hpath⟩ := h.shadows_iff.mp hr
  rw [referencedModule?, hfind, Option.bind_some, h.readableModule?_after hpath, hbad, Option.filter_none]

theorem referencedModule?_of_not_shadows (h : FileAdded d d' l content) (hbad : d'.moduleAt? l = none)
    (hr : ¬ d.Shadows source l r) : d'.referencedModule? source r = d.referencedModule? source r := by
  have hfind : (referencePaths source r).find? d'.hasFile = (referencePaths source r).find? d.hasFile := by
    cases hfind : (referencePaths source r).find? d'.hasFile with
    | none =>
      refine (List.find?_eq_none.mpr fun p hp hfile => ?_).symm
      exact List.find?_eq_none.mp hfind p hp (h.hasFile_iff.mpr (Or.inl hfile))
    | some path =>
      have hpath : d.locate? path ≠ some l := fun hl => hr (h.shadows_iff.mpr ⟨path, hfind, hl⟩)
      obtain ⟨hfile, before, after, hpaths, hbefore⟩ := List.find?_eq_some_iff_append.mp hfind
      refine (List.find?_eq_some_iff_append.mpr ⟨?_, before, after, hpaths, fun p hp => ?_⟩).symm
      · exact (h.hasFile_iff.mp hfile).resolve_right hpath
      · have := hbefore p hp
        rw [Bool.not_eq_true', Bool.eq_false_iff] at this ⊢
        exact fun hfile => this (h.hasFile_iff.mpr (Or.inl hfile))
  have hread : d'.readableModule? = d.readableModule? := funext (h.readableModule?_eq hbad)
  rw [referencedModule?, referencedModule?, hfind, hread]

theorem leadsTo_iff (h : FileAdded d d' l content) (hbad : d'.moduleAt? l = none) {m : ModuleDecl} :
    d'.LeadsTo source r m ↔ d.LeadsTo source r m ∧ ¬ d.Shadows source l r := by
  rw [← referencedModule?_eq_some_iff, ← referencedModule?_eq_some_iff]
  by_cases hr : d.Shadows source l r
  · simp [h.referencedModule?_of_shadows hbad hr, hr]
  · simp [h.referencedModule?_of_not_shadows hbad hr, hr]

/-! ## Selected files -/

theorem mem_patternFiles (h : FileAdded d d' l content) {pattern : String} {file : List Segment}
    (hfile : file ∈ d.patternFiles source pattern) : file ∈ d'.patternFiles source pattern := by
  unfold patternFiles at hfile ⊢
  cases hp : Pattern.parse? (Path.join source pattern) with
  | none => simp [hp] at hfile
  | some p =>
    rw [hp, Option.elim_some] at hfile
    exact h.mem_matching hfile

theorem exists_of_mem_patternFiles (h : FileAdded d d' l content) {pattern : String} {file : List Segment}
    (hfile : file ∈ d'.patternFiles source pattern) :
    file ∈ d.patternFiles source pattern ∨ ∃ path, d.locate? path = some l ∧ file = Path.segments path := by
  unfold patternFiles at hfile ⊢
  cases hp : Pattern.parse? (Path.join source pattern) with
  | none => simp [hp] at hfile
  | some p =>
    rw [hp, Option.elim_some] at hfile
    exact h.exists_of_mem_matching (plainSteps_of_parse? hp) hfile

theorem selected_eq (h : FileAdded d d' l content) (hbad : d'.moduleAt? l = none) {patterns : List String}
    {files files' : List (List Segment)} (hfiles : d.Selects source patterns files)
    (hfiles' : d'.Selects source patterns files') :
    files'.filterMap d'.moduleOf? = files.filterMap d.moduleOf? := by
  have hread : d'.moduleOf? = d.moduleOf? := funext fun file => h.readableModule?_eq hbad _
  -- Both lists of files in which there is a module are in order and have the same members.
  have hreadable : files'.filter (fun file => (d.moduleOf? file).isSome) =
      files.filter fun file => (d.moduleOf? file).isSome := by
    refine OrderedSet.eq_of_ascending (hfiles'.ascending.filter _) (hfiles.ascending.filter _) fun file => ?_
    rw [List.mem_filter, List.mem_filter, hfiles'.mem_iff, hfiles.mem_iff]
    refine and_congr_left fun hsome => exists_congr fun pattern => and_congr_right fun _ => ⟨fun hfile => ?_,
      h.mem_patternFiles⟩
    rcases h.exists_of_mem_patternFiles hfile with hfile | ⟨path, hpath, rfl⟩
    · exact hfile
    · have hnone : d.moduleOf? (Path.segments path) = none := h.readableModule?_before (locate?_ofSegments hpath)
      rw [hnone] at hsome
      cases hsome
  have hmodules : ∀ files : List (List Segment),
      (files.filter fun file => (d.moduleOf? file).isSome).filterMap d.moduleOf? = files.filterMap d.moduleOf? := by
    intro files
    rw [List.filterMap_filter]
    refine List.filterMap_congr fun file _ => ?_
    cases d.moduleOf? file <;> rfl
  rw [hread, ← hmodules files', hreadable, hmodules files]

end FileAdded

end Disk

namespace Catalog

variable {d d' : Disk} {l : Location} {content : ByteArray} {source : String} {patterns : List String}

/-! ## Catalogs -/

theorem followed_of_fileAdded (h : d.FileAdded d' l content) (hbad : d'.moduleAt? l = none) {ms : List ModuleDecl}
    {m : ModuleDecl} (hm : Followed d' source ms m) : Followed d source ms m := by
  induction hm with
  | selected hm => exact Followed.selected hm
  | reference _ hr hnew hleads ih => exact Followed.reference ih hr hnew ((h.leadsTo_iff hbad).mp hleads).1

/-- The rounds are the same when none of the references that were followed is shadowed. -/
theorem follow_eq_of_fileAdded (h : d.FileAdded d' l content) (hbad : d'.moduleAt? l = none) {n : Nat} {c : Catalog}
    (hnil : found d source (follow d source n c) = [])
    (hfree : ∀ m ∈ (follow d source n c).modules, m ∉ c.modules → ¬ d.Shadows source l m.name) :
    follow d' source (n + 1) c = follow d source n c := by
  have hno : ∀ r, d.referencedModule? source r = none → d'.referencedModule? source r = none := by
    intro r hr
    by_cases hshadows : d.Shadows source l r
    · exact h.referencedModule?_of_shadows hbad hshadows
    · rw [h.referencedModule?_of_not_shadows hbad hshadows, hr]
  have hsame : follow d' source n c = follow d source n c :=
    follow_congr hno fun m hm hnew => h.referencedModule?_of_not_shadows hbad (hfree m hm hnew)
  have hend : found d' source (follow d' source n c) = [] := by
    rw [hsame]
    refine List.filterMap_eq_nil_iff.mpr fun r hr => hno r ?_
    exact List.filterMap_eq_nil_iff.mp hnil r hr
  rw [follow_succ_eq hend, hsame]

/-- **An unreadable file is passed over unless it hides another.** A new file without a module in it leaves the
selected modules as they are, and nothing is loaded that was not loaded without it. All is loaded that was, with the
same references missing, exactly if the new file does not come first for any of the references that were followed to
a module. -/
theorem load_with_unreadable (h : d.FileAdded d' l content) (hbad : d'.moduleAt? l = none)
    (hsource : d.hasDirectory source = true) (hpatterns : ∀ pattern ∈ patterns, Disk.IsPattern source pattern) :
    ∃ files c c', d.Selects source patterns files ∧ load d source patterns = .ok c ∧
      load d' source patterns = .ok c' ∧ selectedModules d files <+: c'.modules ∧
      (∀ m ∈ c'.modules, m ∈ c.modules) ∧
      (c' = c ↔ ∀ m ∈ c.modules, m ∉ selectedModules d files → ¬ d.Shadows source l m.name) := by
  have hsource' : d'.hasDirectory source = true := (h.hasDirectory_eq source).trans hsource
  obtain ⟨files, hfiles, hselect⟩ := d.exists_selects hpatterns
  obtain ⟨files', hfiles', hselect'⟩ := d'.exists_selects hpatterns
  let start := ofModules (files.filterMap d.moduleOf?)
  let n := d.entries.length + 1
  have hstart : start.modules = selectedModules d files := modules_ofModules _
  have hlength : d'.entries.length = n := by rw [h.entries, List.length_cons]
  have hload : load d source patterns = .ok (follow d source n start) := load_eq_ok hsource hselect
  have hload' : load d' source patterns = .ok (follow d' source (n + 1) start) := by
    rw [load_eq_ok hsource' hselect', hlength, h.selected_eq hbad hfiles hfiles']
  obtain ⟨ms, hadded, hnil⟩ : ∃ ms, Added d source start (follow d source n start) ms ∧
      found d source (follow d source n start) = [] :=
    exists_follow (Added.refl d source start) (Nat.lt_succ_self _)
  obtain ⟨ms', hadded', hnil'⟩ : ∃ ms, Added d' source start (follow d' source (n + 1) start) ms ∧
      found d' source (follow d' source (n + 1) start) = [] :=
    exists_follow (Added.refl d' source start) (hlength ▸ Nat.lt_succ_self _)
  refine ⟨files, _, _, hfiles, hload, hload', ?_, fun m hm => ?_, fun heq m hm hnew hshadows => ?_, fun hfree => ?_⟩
  · rw [hadded'.modules, ← hstart]
    exact List.prefix_append _ _
  · rw [hadded.mem_iff hnil]
    exact followed_of_fileAdded h hbad ((hadded'.mem_iff hnil').mp hm)
  · rw [← heq, hadded'.mem_iff hnil', hstart] at hm
    exact ((h.leadsTo_iff hbad).mp (leadsTo_of_followed hm hnew).2).2 hshadows
  · exact follow_eq_of_fileAdded h hbad hnil fun m hm hnew => hfree m hm (hstart ▸ hnew)

/-- The location of a file that comes before that of a module of the library. -/
def unreadablePlace : Location := ⟨"B.json", by decide +kernel⟩ :: librarySource

def libraryWithUnreadable : Disk := library.put unreadablePlace (.file "broken".toUTF8)

theorem fileAdded_library : library.FileAdded libraryWithUnreadable unreadablePlace "broken".toUTF8 where
  ne_nil := List.cons_ne_nil _ _
  vacant := by decide +kernel
  eq_put := rfl

theorem moduleAt?_unreadablePlace : libraryWithUnreadable.moduleAt? unreadablePlace = none := by decide +kernel

theorem load_libraryWithUnreadable :
    (load libraryWithUnreadable "src" ["a.client.json"]).map namesAndMissing = .ok (["A"], ["B", "C"]) := by
  decide +kernel

/-- The new file comes first for a reference that was followed. -/
theorem load_with_unreadable_library :
    library.FileAdded libraryWithUnreadable unreadablePlace "broken".toUTF8 ∧
    libraryWithUnreadable.moduleAt? unreadablePlace = none ∧ library.hasDirectory "src" = true ∧
    (∀ pattern ∈ ["a.client.json"], Disk.IsPattern "src" pattern) ∧
    ∃ files c c', library.Selects "src" ["a.client.json"] files ∧ load library "src" ["a.client.json"] = .ok c ∧
      load libraryWithUnreadable "src" ["a.client.json"] = .ok c' ∧ c' ≠ c ∧
      ∃ m ∈ c.modules, m ∉ selectedModules library files ∧ library.Shadows "src" unreadablePlace m.name := by
  obtain ⟨files, c, c', hselects, hload, hload', -, -, hsame⟩ :=
    load_with_unreadable fileAdded_library moduleAt?_unreadablePlace hasDirectory_library isPattern_library
  have hne : c' ≠ c := by
    rintro rfl
    have hnames := load_library
    have hnames' := load_libraryWithUnreadable
    rw [hload] at hnames
    rw [hload', hnames] at hnames'
    exact absurd hnames' (by decide)
  refine ⟨fileAdded_library, moduleAt?_unreadablePlace, hasDirectory_library, isPattern_library, files, c, c',
    hselects, hload, hload', hne, ?_⟩
  by_contra hnone
  exact hne (hsame.mpr fun m hm hnew hshadows => hnone ⟨m, hm, hnew, hshadows⟩)

/-- The module `B` is loaded without the unreadable file and missing with it. -/
theorem hidden_by_unreadable :
    library.FileAdded libraryWithUnreadable unreadablePlace "broken".toUTF8 ∧
    libraryWithUnreadable.moduleAt? unreadablePlace = none ∧
    (load library "src" ["a.client.json"]).map namesAndMissing = .ok (["A", "B"], ["C"]) ∧
    (load libraryWithUnreadable "src" ["a.client.json"]).map namesAndMissing = .ok (["A"], ["B", "C"]) :=
  ⟨fileAdded_library, moduleAt?_unreadablePlace, load_library, load_libraryWithUnreadable⟩

end Catalog

end WireTypes
