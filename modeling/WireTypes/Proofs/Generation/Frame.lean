import WireTypes.Generation.Basic
import WireTypes.Proofs.Disk.Changes
import WireTypes.Proofs.Output.References

/-!
# What a run changes

Names of types may hold any characters, and those of files are made of them. A run keeps to the entries of
its destination as long as no name holds a slash:

* `Confined` : only files of the destination change, and only directories on the way to it come up;
* `realize_cases`, `filesChange_realize` : how a run on a plan ends, and what it changes, whatever the names;
* `isBelow_of_slash` : a relative name with a slash leads into a directory of the destination;
* `Options.generate_ends` : the three ways in which a run on options ends;
* `Options.generate_changes` : runs are confined when no name holds a slash, and a file whose name does is
  written elsewhere.
-/

namespace WireTypes

namespace Disk

/-! ## Runs on a plan -/

/-- A directory came up where the path of the destination, or one that it starts with, leads. -/
def CreatedOnTheWay (d d' : Disk) (destination : String) (l : Location) : Prop :=
  d.get? l = none ∧ d'.get? l = some .directory ∧
    ∃ p ∈ Path.parents destination ++ [destination], d'.locate? p = some l

/-- Only files that are entries of the destination change, and only directories on the way to it come up. -/
def Confined (d d' : Disk) (destination : String) : Prop :=
  ∀ l, d'.get? l = d.get? l ∨ d.CreatedOnTheWay d' destination l ∨
    d.isDirectory l = false ∧ d'.isDirectory l = false ∧ d'.IsChild destination l

/-- A file with a slash in its name is where its name leads from the destination. -/
def Escaped (d : Disk) (destination : String) (files : List OutputFile) (l : Location) (e : Option Entry) :
    Prop :=
  ∃ file ∈ files, '/' ∈ file.name.toList ∧
    d.locate? (Path.join destination (OutputFile.fileName file.name)) = some l ∧
      e = some (.file file.text.toUTF8)

theorem fileName_not_step (name : String) : OutputFile.fileName name ∉ ["", ".", ".."] := by
  have hlast : ∀ s ∈ ["", ".", ".."], s.toList.getLast? ≠ some 's' := by decide
  intro hmem
  exact hlast _ hmem (by simp [OutputFile.fileName])

theorem slash_mem_fileName {name : String} :
    '/' ∈ (OutputFile.fileName name).toList ↔ '/' ∈ name.toList := by
  simp [OutputFile.fileName]

/-- A file that is written without a slash in its name is an entry of the destination. -/
theorem isChild_or_escaped_of_written {d : Disk} {destination : String} (hdest : destination ≠ "")
    {files : List OutputFile} {l : Location} {e : Option Entry} (h : d.Written destination files l e) :
    d.IsChild destination l ∨ d.Escaped destination files l e := by
  obtain ⟨file, hfile, hl, he⟩ := h
  by_cases hslash : '/' ∈ file.name.toList
  · exact Or.inr ⟨file, hfile, hslash, hl, he⟩
  · refine Or.inl (isChild_of_locate?_join hdest (fileName_not_step file.name) ?_ hl)
    rwa [slash_mem_fileName]

section Run

variable {d d' : Disk} {destination : String} {W : Location → Option Entry → Prop}

theorem FilesChange.isChild_iff (h : FilesChange d d' W) {l : Location} :
    d'.IsChild destination l ↔ d.IsChild destination l := by
  rw [IsChild, IsChild, h.locate?_eq]

theorem FilesChange.escaped_iff (h : FilesChange d d' W) {files : List OutputFile} {l : Location}
    {e : Option Entry} : d'.Escaped destination files l e ↔ d.Escaped destination files l e := by
  simp only [Escaped, h.locate?_eq]

/-- A run stops at the destination or at a file, or makes the one, writes all of the others and cleans up. -/
theorem realize_cases (d : Disk) (destination : String) (plan : OutputPlan) :
    let d₁ := (d.makeDirs destination).1
    let d₂ := (d₁.writeFiles destination plan.files).1
    (∃ e, d.realize destination plan = (d₁, .error e)) ∨ (∃ e, d.realize destination plan = (d₂, .error e)) ∨
      d.makeDirs destination = (d₁, true) ∧ d₁.writeFiles destination plan.files = (d₂, .ok ()) ∧
        d.realize destination plan = d₂.removeStale destination (plan.files.map (·.name)) := by
  unfold realize
  rcases d.makeDirs destination with ⟨d₁, made⟩
  cases made with
  | false => exact Or.inl ⟨_, rfl⟩
  | true =>
    simp only
    rcases d₁.writeFiles destination plan.files with ⟨d₂, e | _⟩
    · exact Or.inr (Or.inl ⟨e, rfl⟩)
    · exact Or.inr (Or.inr ⟨trivial, rfl, rfl⟩)

/-- Once the destination is there, a run changes its entries, and files with a slash in their names. -/
theorem filesChange_realize (d : Disk) (hdest : destination ≠ "") (plan : OutputPlan) :
    FilesChange (d.makeDirs destination).1 (d.realize destination plan).1 fun l e =>
      (d.makeDirs destination).1.IsChild destination l ∨
        (d.makeDirs destination).1.Escaped destination plan.files l e := by
  have hwrite := filesChange_writeFiles (d.makeDirs destination).1 destination plan.files
  have hwritten := hwrite.mono fun l e h => isChild_or_escaped_of_written hdest h
  rcases realize_cases d destination plan with ⟨e, h⟩ | ⟨e, h⟩ | ⟨-, -, h⟩
  · rw [h]
    exact FilesChange.refl _ _
  · rw [h]
    exact hwritten
  · rw [h]
    have hstale := filesChange_removeStale ((d.makeDirs destination).1.writeFiles destination plan.files).1
      hdest (plan.files.map (·.name))
    exact hwritten.trans (hstale.mono fun l e hchild => Or.inl (hwrite.isChild_iff.mp hchild))

/-- What a run changes, seen from before the destination is made. -/
theorem changes_realize (d : Disk) (hdest : destination ≠ "") (plan : OutputPlan) (l : Location) :
    (d.realize destination plan).1.get? l = d.get? l ∨
      d.CreatedOnTheWay (d.realize destination plan).1 destination l ∨
      d.isDirectory l = false ∧ (d.realize destination plan).1.isDirectory l = false ∧
        ((d.realize destination plan).1.IsChild destination l ∨
          (d.realize destination plan).1.Escaped destination plan.files l
            ((d.realize destination plan).1.get? l)) := by
  have hdirs := dirsAdded_makeDirs d destination
  have hfiles := filesChange_realize d hdest plan
  generalize (d.makeDirs destination).1 = d₁ at hdirs hfiles
  generalize (d.realize destination plan).1 = d' at hfiles
  by_cases hsame : d'.get? l = d₁.get? l
  · rcases hdirs.get? l with heq | ⟨hnone, hdir, p, hp, hl⟩
    · exact Or.inl (hsame.trans heq)
    · exact Or.inr (Or.inl ⟨hnone, hsame.trans hdir, p, hp, (hfiles.locate?_eq p).trans hl⟩)
  · -- What was no directory once the destination was made was none before either.
    obtain ⟨hdir₁, hdir'⟩ := hfiles.isDirectory_eq_false hsame
    have hdir : d.isDirectory l = false := by
      by_contra h
      rw [hdirs.isDirectory (by simpa using h)] at hdir₁
      cases hdir₁
    refine Or.inr (Or.inr ⟨hdir, hdir', ?_⟩)
    rcases (hfiles.get? l).resolve_left hsame with hchild | hescaped
    · exact Or.inl (hfiles.isChild_iff.mpr hchild)
    · exact Or.inr (hfiles.escaped_iff.mpr hescaped)

theorem confined_realize (d : Disk) (hdest : destination ≠ "") {plan : OutputPlan}
    (hnames : ∀ file ∈ plan.files, '/' ∉ file.name.toList) :
    d.Confined (d.realize destination plan).1 destination := by
  intro l
  rcases changes_realize d hdest plan l with h | h | ⟨hdir, hdir', hchild | ⟨file, hfile, hslash, -⟩⟩
  · exact Or.inl h
  · exact Or.inr (Or.inl h)
  · exact Or.inr (Or.inr ⟨hdir, hdir', hchild⟩)
  · exact absurd hslash (hnames file hfile)

end Run

/-! ## Names with a slash -/

section Slash

variable {d : Disk} {l parent : Location}

theorem ne_dots_of_not_mem {p : String} (h : '.' ∉ p.toList) : p ≠ "." ∧ p ≠ ".." := by
  constructor
  · rintro rfl
    exact h (by decide)
  · rintro rfl
    exact h (by decide)

theorem ne_dots_of_mem_pieces {p piece : String} (h : '.' ∉ p.toList) (hpiece : piece ∈ Path.pieces p) :
    piece ≠ "." ∧ piece ≠ ".." :=
  ne_dots_of_not_mem fun hmem => h (Path.mem_of_mem_pieces hpiece hmem)

theorem fileName_append_slash (a b : String) :
    OutputFile.fileName (a ++ "/" ++ b) = a ++ "/" ++ OutputFile.fileName b := by
  simp [OutputFile.fileName, String.append_assoc]

theorem walk_fileName {name : String} (hslash : '/' ∉ name.toList)
    (h : d.walk parent (Path.pieces (OutputFile.fileName name)) = some l) : ∃ n : FileName, l = n :: parent := by
  have hstep := fileName_not_step name
  simp only [List.mem_cons, List.not_mem_nil, or_false, not_or] at hstep
  rw [Path.pieces_eq_singleton (by rwa [slash_mem_fileName])] at h
  obtain ⟨-, n, -, rfl⟩ := (walk_name_iff hstep.1 hstep.2.1 hstep.2.2).mp h
  exact ⟨n, rfl⟩

/-- A file whose name has no dots is written in the directory that it is seen from, or below it. -/
theorem exists_append_of_fileName {name : String} (hdot : '.' ∉ name.toList)
    (h : d.walk parent (Path.pieces (OutputFile.fileName name)) = some l) :
    ∃ (n : FileName) (rest : Location), l = n :: (rest ++ parent) := by
  by_cases hslash : '/' ∈ name.toList
  · -- What comes before the last slash leads on, and what comes after it names the file.
    obtain ⟨a, b, rfl, hb⟩ := Path.exists_last_slash hslash
    have hdots : ∀ piece ∈ Path.pieces a, piece ≠ ".." := fun piece hpiece =>
      (ne_dots_of_mem_pieces (fun hmem => hdot (by simp [hmem])) hpiece).2
    rw [fileName_append_slash, Path.pieces_append_slash, walk_append, Option.bind_eq_some_iff] at h
    obtain ⟨j, hj, hl⟩ := h
    obtain ⟨rest, rfl⟩ := exists_append_of_walk hdots hj
    obtain ⟨n, rfl⟩ := walk_fileName hb hl
    exact ⟨n, rest, rfl⟩
  · obtain ⟨n, rfl⟩ := walk_fileName hslash h
    exact ⟨n, [], rfl⟩

/-- A relative name with a slash leads into a directory of the one that it is seen from. -/
theorem isBelow_of_slash {name : String} (hdot : '.' ∉ name.toList) (hslash : '/' ∈ name.toList)
    (hrel : Path.isAbsolute name = false)
    (h : d.walk parent (Path.pieces (OutputFile.fileName name)) = some l) :
    ∃ (n m : FileName) (rest : Location), l = n :: (rest ++ m :: parent) := by
  obtain ⟨a, b, rfl, ha⟩ := Path.exists_first_slash hslash
  have hempty : a ≠ "" := by
    rintro rfl
    simp [Path.isAbsolute] at hrel
  obtain ⟨hhere, hup⟩ := ne_dots_of_not_mem (p := a) fun hmem => hdot (by simp [hmem])
  rw [fileName_append_slash, Path.pieces_append_slash, Path.pieces_eq_singleton ha, walk_append,
    Option.bind_eq_some_iff] at h
  obtain ⟨j, hj, hl⟩ := h
  obtain ⟨-, m, -, rfl⟩ := (walk_name_iff hempty hhere hup).mp hj
  obtain ⟨n, rest, rfl⟩ := exists_append_of_fileName (fun hmem => hdot (by simp [hmem])) hl
  exact ⟨n, m, rest, rfl⟩

theorem not_isChild_of_below {destination : String} (hparent : d.locate? destination = some parent)
    {n m : FileName} {rest : Location} : ¬ d.IsChild destination (n :: (rest ++ m :: parent)) := by
  rintro ⟨parent', hparent', name, heq⟩
  obtain rfl := Option.some.inj (hparent.symm.trans hparent')
  have := congrArg List.length (List.cons.inj heq).2
  simp only [List.length_append, List.length_cons] at this
  omega

end Slash

end Disk

/-- The files of a run have names without dots. -/
theorem dot_not_mem_files {c : Catalog} {graph : TypeGraph} {apiPath : Option String} {module : HttpModule}
    {combined : Bool} {file : OutputFile} (h : file ∈ (OutputPlan.make c graph apiPath module combined).files) :
    '.' ∉ file.name.toList := by
  rcases List.mem_append.mp h with h | h
  · rcases List.mem_append.mp h with h | h
    · obtain ⟨id, hid, rfl⟩ := List.mem_map.mp h
      have hlookup : (OutputNames.assign graph.models graph.endpoints apiPath.isSome).models.lookup id = some _ :=
        OutputNames.lookup_models_eq_nameOf hid
      exact OutputNames.dot_not_mem_given (mem_of_lookup_zip hlookup)
    · obtain ⟨path, -, e, -, hname, -⟩ := mem_services h
      exact OutputNames.dot_not_mem_given (List.mem_of_mem_drop (OutputNames.mem_of_lookup_services hname))
  · obtain rfl := List.mem_singleton.mp h
    show '.' ∉ indexName.toList
    decide

namespace Disk

/-- One of the files is at a location. -/
def Holds (d : Disk) (files : List OutputFile) (l : Location) : Prop :=
  ∃ file ∈ files, d.get? l = some (.file file.text.toUTF8)

/-- One of the files is at a location where a confined run cannot have put it: it was there before, or the
run is not confined. -/
def WrittenElsewhere (d d' : Disk) (destination : String) (files : List OutputFile) (l : Location) : Prop :=
  d'.Holds files l ∧ (d.Confined d' destination → d.Holds files l)

theorem isChild_or_writtenElsewhere (d : Disk) {d' : Disk} {destination : String} {files : List OutputFile}
    {l : Location} (h : d'.IsChild destination l ∨ d'.Holds files l) :
    d'.IsChild destination l ∨ d.WrittenElsewhere d' destination files l := by
  by_cases hchild : d'.IsChild destination l
  · exact Or.inl hchild
  have hholds := h.resolve_left hchild
  refine Or.inr ⟨hholds, fun hconfined => ?_⟩
  obtain ⟨file, hfile, hcontent⟩ := hholds
  rcases hconfined l with heq | ⟨-, hdir, -⟩ | ⟨-, -, hmem⟩
  · exact ⟨file, hfile, heq.symm.trans hcontent⟩
  · rw [hdir] at hcontent
    cases hcontent
  · exact absurd hmem hchild

/-- After a run that succeeds, there is one of the files wherever the name of one leads, unless that is an
entry of the destination. -/
theorem holds_of_realize {d : Disk} {destination : String} (hdest : destination ≠ "") {plan : OutputPlan}
    {removed : List String} (h : (d.realize destination plan).2 = .ok removed) {file : OutputFile}
    (hfile : file ∈ plan.files) :
    let d' := (d.realize destination plan).1
    ∃ l, d'.locate? (Path.join destination (OutputFile.fileName file.name)) = some l ∧
      (d'.IsChild destination l ∨ d'.Holds plan.files l) := by
  rcases realize_cases d destination plan with ⟨e, hrun⟩ | ⟨e, hrun⟩ | ⟨-, hall, hrun⟩
  · rw [hrun] at h
    cases h
  · rw [hrun] at h
    cases h
  · rw [hrun]
    have hwrite := filesChange_writeFiles (d.makeDirs destination).1 destination plan.files
    have hstale := filesChange_removeStale ((d.makeDirs destination).1.writeFiles destination plan.files).1
      hdest (plan.files.map (·.name))
    obtain ⟨l, hl, g, hg, -, hcontent⟩ := written_of_writeFiles hall file hfile
    refine ⟨l, ?_, ?_⟩
    · rw [hstale.locate?_eq, hwrite.locate?_eq]
      exact hl
    · rcases hstale.get? l with heq | hchild
      · exact Or.inr ⟨g, hg, heq.trans hcontent⟩
      · exact Or.inl (hstale.isChild_iff.mpr hchild)

end Disk

namespace Options

/-! ## Runs -/

/-- The files that a run writes. -/
def outputFiles (o : Options) (d : Disk) : List OutputFile :=
  match o.loadGraph d with
  | .ok (c, graph) => (o.plan c graph).files
  | .error _ => []

theorem outputFiles_of_loadGraph {o : Options} {d : Disk} {c : Catalog} {graph : TypeGraph}
    (h : o.loadGraph d = .ok (c, graph)) : o.outputFiles d = (o.plan c graph).files := by
  unfold outputFiles
  rw [h]

theorem absolute_ne_empty (d : Disk) (p : String) : d.absolute p ≠ "" := by
  unfold Disk.absolute Path.join
  split
  · rename_i habs
    rintro rfl
    exact absurd habs (by decide)
  split
  · simp [Disk.workPath]
  · simp [Disk.workPath]

theorem outputFiles_of_load_error {o : Options} {d : Disk} {fault : LoadError}
    (h : o.loadGraph d = .error fault) : o.outputFiles d = [] := by
  unfold outputFiles
  rw [h]

/-- How a run ends: without modules, at a plan that it cannot realize, or with a report. -/
theorem generate_ends (o : Options) (d : Disk) :
    (∃ fault, o.loadGraph d = .error fault ∧ o.generate d = (d, .error (.load fault))) ∨
      ∃ c graph, o.loadGraph d = .ok (c, graph) ∧
        ((∃ d' fault, d.realize (d.absolute o.destination) (o.plan c graph) = (d', .error fault) ∧
            o.generate d = (d', .error (.disk fault))) ∨
          ∃ d' removed, d.realize (d.absolute o.destination) (o.plan c graph) = (d', .ok removed) ∧
            o.generate d = (d', .ok {
              source := d.absolute o.source
              destination := d.absolute o.destination
              endpoints := graph.endpoints.length
              models := (o.plan c graph).models.map (·.name)
              services := (o.plan c graph).services.map (·.name)
              removed })) := by
  unfold generate
  rcases o.loadGraph d with fault | ⟨c, graph⟩
  · exact Or.inl ⟨fault, rfl, rfl⟩
  · refine Or.inr ⟨c, graph, rfl, ?_⟩
    simp only
    rcases d.realize (d.absolute o.destination) (o.plan c graph) with ⟨d', fault | removed⟩
    · exact Or.inl ⟨d', fault, rfl, rfl⟩
    · exact Or.inr ⟨d', removed, rfl, rfl⟩

/-- A run fails before it comes to its files, or brings the destination to them. -/
theorem generate_cases (o : Options) (d : Disk) :
    (∃ e, o.generate d = (d, .error e) ∧ o.outputFiles d = []) ∨
      ∃ c graph, o.outputFiles d = (o.plan c graph).files ∧
        (o.generate d).1 = (d.realize (d.absolute o.destination) (o.plan c graph)).1 ∧
        ∀ report, (o.generate d).2 = .ok report →
          ∃ removed, (d.realize (d.absolute o.destination) (o.plan c graph)).2 = .ok removed := by
  rcases o.generate_ends d with ⟨fault, hload, hrun⟩ | ⟨c, graph, hload, hends⟩
  · exact Or.inl ⟨_, hrun, outputFiles_of_load_error hload⟩
  · refine Or.inr ⟨c, graph, outputFiles_of_loadGraph hload, ?_⟩
    rcases hends with ⟨d', fault, hrealize, hrun⟩ | ⟨d', removed, hrealize, hrun⟩
    · rw [hrealize, hrun]
      exact ⟨rfl, fun report h => by cases h⟩
    · rw [hrealize, hrun]
      exact ⟨rfl, fun report _ => ⟨removed, rfl⟩⟩

/-- **A run keeps to the entries of its destination when no name holds a slash.** Whatever the names, all
that it changes besides is what files with a slash in their names overwrite. A run that succeeds does write
these elsewhere: in a directory of the destination when the name is relative, and where the name by itself
leads when it is absolute. -/
theorem generate_changes (o : Options) (d : Disk) :
    let destination := d.absolute o.destination
    let d' := (o.generate d).1
    ((∀ file ∈ o.outputFiles d, '/' ∉ file.name.toList) → d.Confined d' destination) ∧
    (∀ l, d'.get? l = d.get? l ∨ d.CreatedOnTheWay d' destination l ∨
      d.isDirectory l = false ∧ d'.isDirectory l = false ∧
        (d'.IsChild destination l ∨ d'.Escaped destination (o.outputFiles d) l (d'.get? l))) ∧
    (∀ report, (o.generate d).2 = .ok report → ∀ file ∈ o.outputFiles d, '/' ∈ file.name.toList →
      if Path.isAbsolute file.name then
        ∃ l, d'.locate? (OutputFile.fileName file.name) = some l ∧
          (d'.IsChild destination l ∨ d.WrittenElsewhere d' destination (o.outputFiles d) l)
      else
        ∃ parent, d'.locate? destination = some parent ∧ ∃ (n m : FileName) (rest : Location),
          d.WrittenElsewhere d' destination (o.outputFiles d) (n :: (rest ++ m :: parent))) := by
  intro destination d'
  have hdest : destination ≠ "" := absolute_ne_empty d o.destination
  rcases generate_cases o d with ⟨e, hgenerate, hnone⟩ | ⟨c, graph, hfiles, hdisk, hok⟩
  · have hsame : d' = d := by
      show (o.generate d).1 = d
      rw [hgenerate]
    refine ⟨fun _ l => Or.inl (by rw [hsame]), fun l => Or.inl (by rw [hsame]), fun report h => ?_⟩
    rw [hgenerate] at h
    cases h
  · rw [hfiles]
    have hd' : d' = (d.realize destination (o.plan c graph)).1 := hdisk
    clear_value d'
    subst hd'
    refine ⟨fun hnames => d.confined_realize hdest hnames, d.changes_realize hdest _, ?_⟩
    intro report h file hfile hslash
    obtain ⟨removed, hremoved⟩ := hok report h
    obtain ⟨l, hl, hholds⟩ := Disk.holds_of_realize hdest hremoved hfile
    have hwritten := Disk.isChild_or_writtenElsewhere d hholds
    have habs : Path.isAbsolute (OutputFile.fileName file.name) = Path.isAbsolute file.name := by
      refine Path.isAbsolute_append ?_ ".ts"
      intro hempty
      rw [hempty] at hslash
      exact absurd hslash (by decide)
    split
    · rename_i hfileAbs
      rw [Path.join, habs, if_pos hfileAbs] at hl
      exact ⟨l, hl, hwritten⟩
    · rename_i hrel
      have hrel : Path.isAbsolute file.name = false := by simpa using hrel
      obtain ⟨parent, hparent, hwalk⟩ := (Disk.locate?_join_iff hdest (habs.trans hrel)).mp hl
      obtain ⟨n, m, rest, rfl⟩ := Disk.isBelow_of_slash (dot_not_mem_files hfile) hslash hrel hwalk
      exact ⟨parent, hparent, n, m, rest, hwritten.resolve_left (Disk.not_isChild_of_below hparent)⟩

end Options

end WireTypes
