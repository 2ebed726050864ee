import WireTypes.Generation.Cleanup
import WireTypes.Proofs.Disk.Walk

/-!
# What operations change

* `FilesChange d d' W` : from `d` to `d'` only files change, and where one does, `W` holds of the location
  and of what is there now;
* `FilesChange.locate?_eq` : paths lead to where they led;
* `filesChange_writeFiles`, `filesChange_removeFiles`, `filesChange_removeStale`;
* `DirsAdded d d' ps` : from `d` to `d'` only directories are added, all of them where one of `ps` leads;
* `dirsAdded_makeDirs`.
-/

namespace WireTypes.Disk

/-! ## Changes of files -/

/-- Only files change, and where one does, `W` holds of the location and of what is there now. -/
structure FilesChange (d d' : Disk) (W : Location → Option Entry → Prop) : Prop where
  workDir : d'.workDir = d.workDir
  isDirectory : ∀ l, d'.isDirectory l = d.isDirectory l
  get? : ∀ l, d'.get? l = d.get? l ∨ W l (d'.get? l)

namespace FilesChange

variable {d d' d'' : Disk} {W W' : Location → Option Entry → Prop}

theorem refl (d : Disk) (W : Location → Option Entry → Prop) : FilesChange d d W :=
  ⟨rfl, fun _ => rfl, fun _ => Or.inl rfl⟩

theorem mono (h : FilesChange d d' W) (hW : ∀ l e, W l e → W' l e) : FilesChange d d' W' :=
  ⟨h.workDir, h.isDirectory, fun l => (h.get? l).imp_right (hW l _)⟩

theorem trans (h : FilesChange d d' W) (h' : FilesChange d' d'' W) : FilesChange d d'' W := by
  refine ⟨h'.workDir.trans h.workDir, fun l => (h'.isDirectory l).trans (h.isDirectory l), fun l => ?_⟩
  rcases h'.get? l with heq | hW
  · rw [heq]
    exact h.get? l
  · exact Or.inr hW

/-- What changes was no directory and is none. -/
theorem isDirectory_eq_false (h : FilesChange d d' W) {l : Location} (hne : d'.get? l ≠ d.get? l) :
    d.isDirectory l = false ∧ d'.isDirectory l = false := by
  have hdir : d.isDirectory l = false := by
    cases hd : d.isDirectory l with
    | false => rfl
    | true =>
      have hd' := h.isDirectory l
      rw [hd] at hd'
      rw [isDirectory_iff.mp hd, isDirectory_iff.mp hd'] at hne
      exact absurd rfl hne
  exact ⟨hdir, (h.isDirectory l).trans hdir⟩

/-- Paths lead to where they led. -/
theorem locate?_eq (h : FilesChange d d' W) (p : String) : d'.locate? p = d.locate? p := by
  apply Option.ext
  intro l
  constructor
  · exact locate?_mono h.workDir.symm fun k hk => (h.isDirectory k).symm.trans hk
  · exact locate?_mono h.workDir fun k hk => (h.isDirectory k).trans hk

end FilesChange

/-! ## Writing -/

/-- A change at one location that neither was a directory nor is one. -/
theorem FilesChange.of_get? {d d' : Disk} {l : Location} {e : Option Entry} (hwork : d'.workDir = d.workDir)
    (hdir : d.isDirectory l = false) (he : e ≠ some .directory)
    (hget : ∀ k, d'.get? k = if k = l then e else d.get? k) :
    FilesChange d d' fun k e' => k = l ∧ e' = e := by
  refine ⟨hwork, fun k => ?_, fun k => ?_⟩
  · by_cases hk : k = l
    · subst hk
      rw [hdir, Bool.eq_false_iff, ne_eq, isDirectory_iff, hget k, if_pos rfl]
      exact he
    · rw [Disk.isDirectory, hget k, if_neg hk]
      rfl
  · rw [hget k]
    by_cases hk : k = l
    · exact Or.inr ⟨hk, if_pos hk⟩
    · exact Or.inl (if_neg hk)

theorem filesChange_write? {d d' : Disk} {p : String} {content : ByteArray}
    (h : d.write? p content = some d') :
    FilesChange d d' fun l e => d.locate? p = some l ∧ e = some (.file content) := by
  obtain ⟨l, hl, hdir, rfl⟩ := write?_eq_some h
  have hget := get?_put d (.file content) (ne_nil_of_not_isDirectory hdir)
  have hwork : (d.put l (.file content)).workDir = d.workDir := rfl
  have hchange := FilesChange.of_get? hwork hdir (by simp) hget
  exact hchange.mono fun k e ⟨hk, he⟩ => ⟨hk ▸ hl, he⟩

/-- What is written where the name of one of the files leads from the directory. -/
def Written (d : Disk) (directory : String) (files : List OutputFile) (l : Location) (e : Option Entry) : Prop :=
  ∃ file ∈ files, d.locate? (Path.join directory (OutputFile.fileName file.name)) = some l ∧
    e = some (.file file.text.toUTF8)

/-- Also a run that stops at a file that cannot be written changes nothing else. -/
theorem filesChange_writeFiles (d : Disk) (directory : String) (files : List OutputFile) :
    FilesChange d (d.writeFiles directory files).1 (d.Written directory files) := by
  induction files generalizing d with
  | nil => exact FilesChange.refl d _
  | cons file files ih =>
    unfold writeFiles
    simp only
    split
    · rename_i d₁ hd₁
      have hfile := filesChange_write? hd₁
      have hfirst : FilesChange d d₁ (d.Written directory (file :: files)) :=
        hfile.mono fun l e ⟨hl, he⟩ => ⟨file, List.mem_cons_self, hl, he⟩
      have hrest : FilesChange d₁ (d₁.writeFiles directory files).1 (d.Written directory (file :: files)) := by
        refine (ih d₁).mono fun l e ⟨g, hg, hl, he⟩ => ⟨g, List.mem_cons_of_mem _ hg, ?_, he⟩
        rw [← hfile.locate?_eq]
        exact hl
      exact hfirst.trans hrest
    · exact FilesChange.refl d _

/-- When all files are written, there is one of them wherever the name of one leads. -/
theorem written_of_writeFiles {d d' : Disk} {directory : String} {files : List OutputFile}
    (h : d.writeFiles directory files = (d', .ok ())) :
    ∀ file ∈ files, ∃ l, d.locate? (Path.join directory (OutputFile.fileName file.name)) = some l ∧
      d.Written directory files l (d'.get? l) := by
  induction files generalizing d with
  | nil => exact fun file hfile => absurd hfile List.not_mem_nil
  | cons first files ih =>
    unfold writeFiles at h
    simp only at h
    split at h
    · rename_i d₁ hd₁
      have hfirst := filesChange_write? hd₁
      have hmono : ∀ l e, d₁.Written directory files l e → d.Written directory (first :: files) l e := by
        rintro l e ⟨g, hg, hl, he⟩
        exact ⟨g, List.mem_cons_of_mem _ hg, hfirst.locate?_eq _ ▸ hl, he⟩
      intro file hfile
      rcases List.mem_cons.mp hfile with rfl | hfile
      · obtain ⟨l, hl, hdir, rfl⟩ := write?_eq_some hd₁
        refine ⟨l, hl, ?_⟩
        have hrest := filesChange_writeFiles (d.put l (.file file.text.toUTF8)) directory files
        rw [h] at hrest
        -- A later file may stand at the same location; then it is the one that is found.
        rcases hrest.get? l with heq | hwritten
        · rw [heq, get?_put d _ (ne_nil_of_not_isDirectory hdir), if_pos rfl]
          exact ⟨file, List.mem_cons_self, hl, rfl⟩
        · exact hmono l _ hwritten
      · obtain ⟨l, hl, hwritten⟩ := ih h file hfile
        exact ⟨l, hfirst.locate?_eq _ ▸ hl, hmono l _ hwritten⟩
    · cases h

/-! ## Removing -/

theorem filesChange_remove? {d d' : Disk} {p : String} (h : d.remove? p = some d') :
    FilesChange d d' fun l _ => d.locate? p = some l := by
  obtain ⟨l, hl, hdir, rfl⟩ := remove?_eq_some h
  have hget := get?_drop d (ne_nil_of_not_isDirectory hdir)
  have hwork : (d.drop l).workDir = d.workDir := rfl
  have hchange := FilesChange.of_get? hwork hdir (by simp) hget
  exact hchange.mono fun k _ ⟨hk, _⟩ => hk ▸ hl

theorem filesChange_removeFiles (d : Disk) (directory : String) (names : List String) :
    FilesChange d (d.removeFiles directory names).1 fun l _ =>
      ∃ name ∈ names, d.locate? (Path.join directory name) = some l := by
  induction names generalizing d with
  | nil => exact FilesChange.refl d _
  | cons name names ih =>
    unfold removeFiles
    simp only
    split
    · rename_i d₁ hd₁
      have hname := filesChange_remove? hd₁
      have hfirst := hname.mono fun l _ hl => (⟨name, List.mem_cons_self, hl⟩ :
        ∃ n ∈ name :: names, d.locate? (Path.join directory n) = some l)
      refine hfirst.trans ((ih d₁).mono fun l _ ⟨n, hn, hl⟩ => ⟨n, List.mem_cons_of_mem _ hn, ?_⟩)
      rw [← hname.locate?_eq]
      exact hl
    · exact FilesChange.refl d _

/-! ## Entries of a directory -/

/-- Whether a location is that of an entry of the directory that a path leads to. -/
def IsChild (d : Disk) (directory : String) (l : Location) : Prop :=
  ∃ parent, d.locate? directory = some parent ∧ ∃ name : FileName, l = name :: parent

/-- A name without slashes that is no step of a path by itself leads to an entry of the directory. -/
theorem isChild_of_locate?_join {d : Disk} {directory name : String} {l : Location} (hdir : directory ≠ "")
    (hname : name ∉ ["", ".", ".."]) (hslash : '/' ∉ name.toList)
    (h : d.locate? (Path.join directory name) = some l) : d.IsChild directory l := by
  obtain ⟨parent, hparent, hwalk⟩ := (locate?_join_iff hdir (Path.isAbsolute_eq_false hslash)).mp h
  rw [Path.pieces_eq_singleton hslash] at hwalk
  simp only [List.mem_cons, List.not_mem_nil, or_false, not_or] at hname
  obtain ⟨-, entry, -, rfl⟩ := (walk_name_iff hname.1 hname.2.1 hname.2.2).mp hwalk
  exact ⟨parent, hparent, entry, rfl⟩

/-- Whatever names are kept, only entries of the directory are removed. -/
theorem filesChange_removeStale (d : Disk) {directory : String} (hdir : directory ≠ "") (kept : List String) :
    FilesChange d (d.removeStale directory kept).1 fun l _ => d.IsChild directory l := by
  unfold removeStale
  cases hpresent : d.fileNames? directory with
  | none => exact FilesChange.refl d _
  | some present =>
    have hstale : FilesChange d
        (d.removeFiles directory (OrderedSet.ofList (staleNames present kept)).toList).1
        fun l _ => d.IsChild directory l := by
      refine (filesChange_removeFiles d directory _).mono fun l _ ⟨name, hname, hl⟩ => ?_
      have hmem : name ∈ present :=
        (List.mem_filter.mp (OrderedSet.mem_ofList.mp (OrderedSet.mem_def.mpr hname))).1
      obtain ⟨n, rfl⟩ : ∃ n : FileName, n.val = name := by
        unfold fileNames? at hpresent
        split at hpresent
        · cases hpresent
        split at hpresent
        · obtain rfl := Option.some.inj hpresent
          obtain ⟨n, -, hn⟩ := List.mem_map.mp hmem
          exact ⟨n, hn⟩
        · cases hpresent
      obtain ⟨hempty, hhere, hup, hslash⟩ := n.val_ne
      exact isChild_of_locate?_join hdir (by simp [hempty, hhere, hup]) hslash hl
    simp only
    split
    · rename_i d' heq
      rw [heq] at hstale
      exact hstale
    · rename_i d' e heq
      rw [heq] at hstale
      exact hstale

/-! ## Making directories -/

/-- Only directories are added, all of them where one of the paths leads. -/
structure DirsAdded (d d' : Disk) (ps : List String) : Prop where
  workDir : d'.workDir = d.workDir
  get? : ∀ l, d'.get? l = d.get? l ∨
    d.get? l = none ∧ d'.get? l = some .directory ∧ ∃ p ∈ ps, d'.locate? p = some l

namespace DirsAdded

variable {d d' d'' : Disk} {ps : List String}

theorem refl (d : Disk) (ps : List String) : DirsAdded d d ps := ⟨rfl, fun _ => Or.inl rfl⟩

theorem isDirectory (h : DirsAdded d d' ps) {l : Location} (hl : d.isDirectory l = true) :
    d'.isDirectory l = true := by
  rcases h.get? l with heq | ⟨hnone, -, -⟩
  · rw [isDirectory_iff, heq]
    exact isDirectory_iff.mp hl
  · rw [isDirectory_iff.mp hl] at hnone
    cases hnone

theorem locate? (h : DirsAdded d d' ps) {p : String} {l : Location} (hp : d.locate? p = some l) :
    d'.locate? p = some l :=
  locate?_mono h.workDir (fun _ hk => h.isDirectory hk) hp

theorem mono (h : DirsAdded d d' ps) {ps' : List String} (hps : ∀ p ∈ ps, p ∈ ps') : DirsAdded d d' ps' :=
  ⟨h.workDir, fun l => (h.get? l).imp_right fun ⟨hnone, hdir, p, hp, hl⟩ => ⟨hnone, hdir, p, hps p hp, hl⟩⟩

theorem trans (h : DirsAdded d d' ps) (h' : DirsAdded d' d'' ps) : DirsAdded d d'' ps := by
  refine ⟨h'.workDir.trans h.workDir, fun l => ?_⟩
  rcases h'.get? l with heq' | ⟨hnone', hdir', p, hp, hl⟩
  · rcases h.get? l with heq | ⟨hnone, hdir, p, hp, hl⟩
    · exact Or.inl (heq'.trans heq)
    · exact Or.inr ⟨hnone, heq'.trans hdir, p, hp, h'.locate? hl⟩
  · rcases h.get? l with heq | ⟨-, hdir, -⟩
    · exact Or.inr ⟨heq ▸ hnone', hdir', p, hp, hl⟩
    · rw [hdir] at hnone'
      cases hnone'

end DirsAdded

theorem dirsAdded_put {d : Disk} {p : String} {l : Location} (hl : d.locate? (withoutEnd p) = some l)
    (hnone : d.get? l = none) : DirsAdded d (d.put l .directory) [p] := by
  have hne : l ≠ [] := by
    rintro rfl
    exact absurd (isDirectory_iff.mp d.isDirectory_root) (by simp [hnone])
  have hget := get?_put d .directory hne
  have hdir : (d.put l .directory).isDirectory l = true := by
    rw [isDirectory_iff, hget l, if_pos rfl]
  have hmono : ∀ k, d.isDirectory k = true → (d.put l .directory).isDirectory k = true := by
    intro k hk
    by_cases heq : k = l
    · rwa [heq]
    · rw [isDirectory_iff, hget k, if_neg heq]
      exact isDirectory_iff.mp hk
  have hwork : (d.put l .directory).workDir = d.workDir := rfl
  have hlocate : (d.put l .directory).locate? p = some l :=
    locate?_of_withoutEnd (locate?_mono hwork hmono hl) hdir
  refine ⟨hwork, fun k => ?_⟩
  by_cases heq : k = l
  · subst heq
    exact Or.inr ⟨hnone, isDirectory_iff.mp hdir, p, List.mem_singleton_self p, hlocate⟩
  · rw [hget k, if_neg heq]
    exact Or.inl rfl

theorem dirsAdded_ensureDir? {d d' : Disk} {p : String} (h : d.ensureDir? p = some d') : DirsAdded d d' [p] := by
  obtain ⟨l, hl, rfl | ⟨hnone, rfl⟩⟩ := ensureDir?_eq_some h
  · exact DirsAdded.refl d' _
  · exact dirsAdded_put hl hnone

/-- The directories that were made stay when a later one cannot be. -/
theorem dirsAdded_ensureDirs (d : Disk) (ps : List String) : DirsAdded d (d.ensureDirs ps).1 ps := by
  induction ps generalizing d with
  | nil => exact DirsAdded.refl d _
  | cons p ps ih =>
    unfold ensureDirs
    split
    · rename_i d₁ hd₁
      have hfirst : DirsAdded d d₁ (p :: ps) := (dirsAdded_ensureDir? hd₁).mono (by simp)
      exact hfirst.trans ((ih d₁).mono fun q hq => List.mem_cons_of_mem p hq)
    · exact DirsAdded.refl d _

theorem dirsAdded_makeDirs (d : Disk) (p : String) :
    DirsAdded d (d.makeDirs p).1 (Path.parents p ++ [p]) := by
  unfold makeDirs
  split
  · exact DirsAdded.refl d _
  · exact dirsAdded_ensureDirs d _

end WireTypes.Disk
