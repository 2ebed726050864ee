import WireTypes.Proofs.Disk.Changes
import WireTypes.Proofs.Disk.Ways

/-!
# A new file

A file is added where nothing was. Paths lead where they led, and only those that lead to the new file find
something else there. What a pattern stands for besides is the new file: no way through its steps leads further.

* `FileAdded d d' l content` : `d'` is `d` with a new file;
* `exists_pieces` : a path to the new file ends in its name;
* `not_way`, `way_or` : there are no ways on from the new file, and no other new ways than those to it;
* `mem_expand`, `mem_expand_or` : the paths that steps lead to, with the file and without it;
* `mem_matching`, `exists_of_mem_matching` : the files that a pattern stands for.
-/

namespace WireTypes.Disk

variable {d d' : Disk} {l k : Location} {content : ByteArray} {p q name : String}

/-! ## The new file -/

/-- `d'` is `d` with a file where nothing was, nor below it. -/
structure FileAdded (d d' : Disk) (l : Location) (content : ByteArray) : Prop where
  ne_nil : l ≠ []
  vacant : ∀ entry ∈ d.entries, ¬ l <:+ entry.1
  eq_put : d' = d.put l (.file content)

/-- Where a path leads, if it leads anywhere, is the location. -/
def LeadsAtMostTo (d : Disk) (l : Location) (p : String) : Prop := ∀ k, d.locate? p = some k → k = l

namespace FileAdded

theorem entries (h : FileAdded d d' l content) : d'.entries = (l, .file content) :: d.entries := by
  rw [h.eq_put, put, List.filter_eq_self.mpr]
  intro entry hentry
  rw [bne_iff_ne]
  intro heq
  exact h.vacant entry hentry (heq ▸ List.suffix_rfl)

/-- Nothing was at the location, nor below it. -/
theorem get?_eq_none (h : FileAdded d d' l content) (hk : l <:+ k) : d.get? k = none := by
  have hne : k ≠ [] := by
    rintro rfl
    exact h.ne_nil (List.suffix_nil.mp hk)
  rw [Disk.get?, if_neg (by simpa using hne), Option.map_eq_none_iff, List.find?_eq_none]
  intro entry hentry heq
  rw [beq_iff_eq] at heq
  exact h.vacant entry hentry (heq ▸ hk)

theorem get? (h : FileAdded d d' l content) (k : Location) :
    d'.get? k = if k = l then some (.file content) else d.get? k := by
  rw [h.eq_put]
  exact get?_put d _ h.ne_nil k

theorem isDirectory_eq_false (h : FileAdded d d' l content) (hk : l <:+ k) : d.isDirectory k = false := by
  rw [Bool.eq_false_iff, ne_eq, isDirectory_iff, h.get?_eq_none hk]
  exact Option.some_ne_none _ ∘ Eq.symm

theorem filesChange (h : FileAdded d d' l content) :
    FilesChange d d' fun k e => k = l ∧ e = some (.file content) := by
  have hwork : d'.workDir = d.workDir := by rw [h.eq_put, put]
  exact FilesChange.of_get? hwork (h.isDirectory_eq_false List.suffix_rfl) (by simp) h.get?

theorem locate?_eq (h : FileAdded d d' l content) (p : String) : d'.locate? p = d.locate? p :=
  h.filesChange.locate?_eq p

theorem hasDirectory_eq (h : FileAdded d d' l content) (p : String) : d'.hasDirectory p = d.hasDirectory p := by
  rw [hasDirectory, hasDirectory, h.locate?_eq, funext h.filesChange.isDirectory]

theorem isSome_get?_iff (h : FileAdded d d' l content) :
    (d'.get? k).isSome = true ↔ (d.get? k).isSome = true ∨ k = l := by
  rw [h.get?]
  by_cases hk : k = l <;> simp [hk]

theorem at?_eq (h : FileAdded d d' l content) (hp : d.locate? p ≠ some l) : d'.at? p = d.at? p := by
  rw [at?, at?, h.locate?_eq]
  refine Option.bind_congr fun k hk => ?_
  rw [h.get?, if_neg]
  rintro rfl
  exact hp hk

theorem hasFile_iff (h : FileAdded d d' l content) :
    d'.hasFile p = true ↔ d.hasFile p = true ∨ d.locate? p = some l := by
  rw [hasFile, hasFile, h.locate?_eq]
  cases hp : d.locate? p with
  | none => simp
  | some k =>
    rw [Option.any_some, Option.any_some, hasFileAt, hasFileAt, h.get?, Option.some.injEq]
    by_cases hk : k = l <;> simp [hk]

theorem exists_pieces (h : FileAdded d d' l content) (hp : d.locate? p = some l) :
    ∃ before last, Path.pieces p = before ++ [last] ∧ last ∉ pathSteps := by
  obtain ⟨before, last, hpieces⟩ : ∃ before last, Path.pieces p = before ++ [last] :=
    ⟨_, _, (List.dropLast_concat_getLast (Path.pieces_ne_nil p)).symm⟩
  refine ⟨before, last, hpieces, ?_⟩
  rw [locate?_of_ne_empty (ne_empty_of_locate? hp), hpieces, walk_append, Option.bind_eq_some_iff] at hp
  obtain ⟨k, -, hstep⟩ := hp
  obtain ⟨hdir, ⟨-, rfl⟩ | ⟨-, rfl⟩ | ⟨n, rfl, rfl⟩⟩ := walk_singleton_iff.mp hstep
  · rw [h.isDirectory_eq_false List.suffix_rfl] at hdir
    cases hdir
  · rw [h.isDirectory_eq_false (List.tail_suffix k)] at hdir
    cases hdir
  · obtain ⟨hempty, hhere, hup, -⟩ := n.val_ne
    simp [pathSteps, hempty, hhere, hup]

/-! ## Ways to the new file -/

theorem not_isDirectory (h : FileAdded d d' l content) (k : Location) (hdir : d.isDirectory k = true) : k ≠ l := by
  rintro rfl
  rw [h.isDirectory_eq_false List.suffix_rfl] at hdir
  cases hdir

theorem not_way (h : FileAdded d d' l content) (hp : p ≠ "") (hl : LeadsAtMostTo d l p)
    {steps rest : List PatternStep} (hplain : PlainSteps steps) : ¬ d'.Way p steps q rest := by
  have hnone : ∀ k, d.locate? p = some k → d.isDirectory k = true → False :=
    fun k hk hdir => h.not_isDirectory k hdir (hl k hk)
  intro hway
  cases hway with
  | @literal name _ hsome =>
    obtain ⟨k, hk, -⟩ := isSome_at?_iff.mp hsome
    rw [h.locate?_eq] at hk
    obtain ⟨j, hj, hstep⟩ := exists_of_locate?_entryPath hp (hplain name List.mem_cons_self) hk
    exact hnone j hj (isDirectory_of_walk (List.cons_ne_nil _ _) hstep)
  | @child _ _ j _ hj hdir =>
    rw [h.locate?_eq] at hj
    exact hnone j hj ((h.filesChange.isDirectory j).symm.trans hdir)
  | dot hdir =>
    obtain ⟨k, hk, hdir⟩ := hasDirectory_iff.mp ((h.hasDirectory_eq p).symm.trans hdir)
    exact hnone k hk hdir
  | @below _ _ j names _ hj hmem hlast =>
    rw [h.locate?_eq] at hj
    obtain rfl := hl j hj
    have hne : names ≠ [] := by
      rintro rfl
      cases hlast
    -- An entry below would be the new file itself, which is too short, or one that was below before.
    rw [h.entries, List.map_cons, List.mem_cons] at hmem
    rcases hmem with heq | hmem
    · have hlength : (names.reverse ++ j).length = j.length := congrArg List.length heq
      have := List.length_pos_iff.mpr hne
      rw [List.length_append, List.length_reverse] at hlength
      omega
    · obtain ⟨entry, hentry, heq⟩ := List.mem_map.mp hmem
      exact h.vacant entry hentry (heq ▸ List.suffix_append _ _)

theorem way (h : FileAdded d d' l content) {steps rest : List PatternStep} (hway : d.Way p steps q rest) :
    d'.Way p steps q rest := by
  cases hway with
  | literal hsome =>
    obtain ⟨k, hk, hsome⟩ := isSome_at?_iff.mp hsome
    exact .literal (isSome_at?_iff.mpr ⟨k, (h.locate?_eq _).trans hk, h.isSome_get?_iff.mpr (Or.inl hsome)⟩)
  | child hj hdir hsome hmatch =>
    exact .child ((h.locate?_eq p).trans hj) ((h.filesChange.isDirectory _).trans hdir)
      (h.isSome_get?_iff.mpr (Or.inl hsome)) hmatch
  | dot hdir hname => exact .dot ((h.hasDirectory_eq p).trans hdir) hname
  | below hj hmem hlast haccepts =>
    refine .below ((h.locate?_eq p).trans hj) ?_ hlast haccepts
    rw [h.entries]
    exact List.mem_cons_of_mem _ hmem

/-- A way that was not there before leads to the new file. -/
theorem way_or (h : FileAdded d d' l content) (hp : p ≠ "") {steps rest : List PatternStep}
    (hway : d'.Way p steps q rest) : d.Way p steps q rest ∨ LeadsAtMostTo d l q := by
  cases hway with
  | literal hsome =>
    obtain ⟨k, hk, hsome⟩ := isSome_at?_iff.mp hsome
    rw [h.locate?_eq] at hk
    rcases h.isSome_get?_iff.mp hsome with hsome | rfl
    · exact Or.inl (.literal (isSome_at?_iff.mpr ⟨k, hk, hsome⟩))
    · exact Or.inr fun j hj => Option.some.inj (hj.symm.trans hk)
  | @child _ _ j n hj hdir hsome hmatch =>
    rw [h.locate?_eq] at hj
    rw [h.filesChange.isDirectory] at hdir
    rcases h.isSome_get?_iff.mp hsome with hsome | hnew
    · exact Or.inl (.child hj hdir hsome hmatch)
    · refine Or.inr fun k hk => ?_
      obtain ⟨j', hj', hstep⟩ := exists_of_locate?_entryPath hp n.val_ne.2.2.2 hk
      obtain rfl := Option.some.inj (hj.symm.trans hj')
      have hwalk : d.walk j ([n].map (·.val)) = some k := hstep
      rw [← hnew]
      exact eq_of_walk_fileNames hwalk
  | dot hdir hname => exact Or.inl (.dot ((h.hasDirectory_eq p).symm.trans hdir) hname)
  | @below _ _ j names _ hj hmem hlast haccepts =>
    rw [h.locate?_eq] at hj
    rw [h.entries, List.map_cons, List.mem_cons] at hmem
    rcases hmem with heq | hmem
    · refine Or.inr fun k hk => ?_
      obtain ⟨j', hj', hwalk⟩ := exists_of_locate?_foldl_entryPath hp isName_of_mem_map_val hk
      obtain rfl := Option.some.inj (hj.symm.trans hj')
      exact (eq_of_walk_fileNames hwalk).trans heq
    · exact Or.inl (.below hj hmem hlast haccepts)

/-! ## Files that patterns stand for -/

theorem mem_expand (h : FileAdded d d' l content) {p : String} {steps : List PatternStep}
    (hq : q ∈ d.expand p steps) : q ∈ d'.expand p steps := by
  rcases mem_expand_iff.mp hq with hend | ⟨next, rest, hway, hrest⟩
  · exact mem_expand_iff.mpr (Or.inl hend)
  · have := hway.length_lt
    exact mem_expand_iff.mpr (Or.inr ⟨next, rest, h.way hway, h.mem_expand hrest⟩)
termination_by steps.length

theorem mem_expand_or (h : FileAdded d d' l content) {p : String} (hp : p ≠ "") {steps : List PatternStep}
    (hplain : PlainSteps steps) (hq : q ∈ d'.expand p steps) : q ∈ d.expand p steps ∨ LeadsAtMostTo d l q := by
  rcases mem_expand_iff.mp hq with hend | ⟨next, rest, hway, hrest⟩
  · exact Or.inl (mem_expand_iff.mpr (Or.inl hend))
  have hne := hway.ne_empty hp
  have hrestPlain : PlainSteps rest := fun name hname => hplain name (hway.subset hname)
  rcases h.way_or hp hway with hbefore | hl
  · have := hway.length_lt
    rcases h.mem_expand_or hne hrestPlain hrest with hq | hl
    · exact Or.inl (mem_expand_iff.mpr (Or.inr ⟨next, rest, hbefore, hq⟩))
    · exact Or.inr hl
  · -- The way ends at the new file, so it was the last one.
    rcases mem_expand_iff.mp hrest with ⟨-, rfl⟩ | ⟨_, _, hway', -⟩
    · exact Or.inr hl
    · exact absurd hway' (h.not_way hne hl hrestPlain)
termination_by steps.length

theorem mem_matching (h : FileAdded d d' l content) {pattern : Pattern} {file : List Segment}
    (hfile : file ∈ d.matching pattern) : file ∈ d'.matching pattern := by
  unfold matching at hfile ⊢
  split at hfile
  · cases hfile
  · rename_i hwants
    rw [if_neg hwants]
    obtain ⟨path, hpath, rfl⟩ := List.mem_map.mp hfile
    obtain ⟨hexpand, hpath⟩ := List.mem_filter.mp hpath
    exact List.mem_map.mpr
      ⟨path, List.mem_filter.mpr ⟨h.mem_expand hexpand, h.hasFile_iff.mpr (Or.inl hpath)⟩, rfl⟩

/-- What a pattern stands for besides is the new file. -/
theorem exists_of_mem_matching (h : FileAdded d d' l content) {pattern : Pattern}
    (hplain : PlainSteps pattern.steps) {file : List Segment} (hfile : file ∈ d'.matching pattern) :
    file ∈ d.matching pattern ∨ ∃ path, d.locate? path = some l ∧ file = Path.segments path := by
  unfold matching at hfile ⊢
  split at hfile
  · cases hfile
  rename_i hwants
  rw [if_neg hwants]
  obtain ⟨path, hpath, rfl⟩ := List.mem_map.mp hfile
  obtain ⟨hexpand, hpath⟩ := List.mem_filter.mp hpath
  have hstart : (if pattern.isAbsolute then "/" else ".") ≠ "" := by split <;> decide
  rcases h.hasFile_iff.mp hpath with hpath | hpath
  · rcases h.mem_expand_or hstart hplain hexpand with hexpand | hl
    · exact Or.inl (List.mem_map.mpr ⟨path, List.mem_filter.mpr ⟨hexpand, hpath⟩, rfl⟩)
    · obtain ⟨k, hk, -⟩ := Disk.hasFile_iff.mp hpath
      exact Or.inr ⟨path, hl k hk ▸ hk, rfl⟩
  · exact Or.inr ⟨path, hpath, rfl⟩

end FileAdded

end WireTypes.Disk
