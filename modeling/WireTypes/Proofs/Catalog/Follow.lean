import Mathlib.Data.List.Nodup
import WireTypes.Collection.Explore
import WireTypes.Proofs.Catalog.Modules
import WireTypes.Proofs.Disk.Segments

/-!
# Following references

A reference leads to the module of its name that is in the first of its files. The loaded modules are followed
round by round, and each round that finds something loads a module from a file that no module was loaded from
before. So the rounds suffice, and at the end no reference leads to a module that is not loaded.

* `Disk.LeadsTo`, `referencedModule?_eq_some_iff` : where a reference leads;
* `exists_location_of_leadsTo` : a module that a reference leads to is determined by the location of its file;
* `Followed` : what a list of modules refers to, directly or through others;
* `Added.round`, `exists_follow` : what one round keeps, and what is so when there are no more;
* `mem_follow_iff` : the modules at the end are those that are followed.
-/

namespace WireTypes

/-! ## Files of references -/

theorem Path.exists_pieces_join_append (base p : String) {b : String} (h : '/' ∉ b.toList) :
    ∃ before last, pieces (join base (p ++ b)) = before ++ [last ++ b] := by
  have hjoin : ∃ a, join base (p ++ b) = a ++ b := by
    unfold join
    split
    · exact ⟨p, rfl⟩
    split
    · exact ⟨base ++ p, String.append_assoc.symm⟩
    · exact ⟨base ++ "/" ++ p, String.append_assoc.symm⟩
  obtain ⟨a, ha⟩ := hjoin
  rw [ha]
  exact exists_pieces_append a h

namespace Disk

variable {d : Disk} {source r : String}

/-- The files of a reference end in a name: an extension follows a dot. -/
theorem exists_pieces_of_mem_referencePaths {path : String} (h : path ∈ referencePaths source r) :
    ∃ before last, Path.pieces path = before ++ [last] ∧ last ∉ pathSteps := by
  obtain ⟨extension, hextension, rfl⟩ := List.mem_map.mp h
  have hends : ∀ e ∈ referenceExtensions, '/' ∉ ("." ++ e).toList ∧ 2 < ("." ++ e).length := by decide
  obtain ⟨hslash, hlength⟩ := hends extension hextension
  obtain ⟨before, last, hpieces⟩ := Path.exists_pieces_join_append source r hslash
  rw [← String.append_assoc] at hpieces
  refine ⟨before, _, hpieces, fun hstep => ?_⟩
  have hsteps : ∀ s ∈ pathSteps, s.length ≤ 2 := by decide
  have hshort := hsteps _ hstep
  rw [String.length_append] at hshort
  omega

/-- The reference leads to the module: it is in the first of the files that is there, under its own name. -/
def LeadsTo (d : Disk) (source r : String) (m : ModuleDecl) : Prop :=
  ∃ before path after, referencePaths source r = before ++ path :: after ∧
    (∀ p ∈ before, d.hasFile p = false) ∧ d.hasFile path = true ∧ d.readModule path = .ok m ∧ m.name = r

theorem LeadsTo.name_eq {m : ModuleDecl} (h : d.LeadsTo source r m) : m.name = r := by
  obtain ⟨_, _, _, _, _, _, _, hname⟩ := h
  exact hname

theorem readableModule?_eq_some_iff {path : String} {m : ModuleDecl} :
    d.readableModule? path = some m ↔ d.readModule path = .ok m := by
  unfold readableModule?
  cases d.readModule path <;> simp [Except.toOption]

theorem referencedModule?_eq_some_iff {m : ModuleDecl} :
    d.referencedModule? source r = some m ↔ d.LeadsTo source r m := by
  unfold referencedModule? LeadsTo
  simp only [Option.filter_eq_some_iff, Option.bind_eq_some_iff, List.find?_eq_some_iff_append,
    readableModule?_eq_some_iff, decide_eq_true_eq, Bool.not_eq_true']
  constructor
  · rintro ⟨⟨path, ⟨hfile, before, after, hpaths, hbefore⟩, hread⟩, hname⟩
    exact ⟨before, path, after, hpaths, hbefore, hfile, hread, hname⟩
  · rintro ⟨before, path, after, hpaths, hbefore, hfile, hread, hname⟩
    exact ⟨⟨path, ⟨hfile, before, after, hpaths, hbefore⟩, hread⟩, hname⟩

theorem mem_entries_of_hasFileAt {l : Location} (h : d.hasFileAt l = true) : l ∈ d.entries.map (·.1) := by
  cases l with
  | nil => cases h
  | cons name parent =>
    have hsome : (d.get? (name :: parent)).isSome = true := by
      unfold hasFileAt at h
      split at h
      · rename_i hget
        rw [hget]
        rfl
      · cases h
    simp only [get?, List.isEmpty_cons, Bool.false_eq_true, if_false, Option.isSome_map, List.find?_isSome,
      beq_iff_eq] at hsome
    obtain ⟨entry, hentry, heq⟩ := hsome
    exact List.mem_map.mpr ⟨entry, hentry, heq⟩

theorem exists_location_of_leadsTo {m : ModuleDecl} (h : d.LeadsTo source r m) :
    ∃ l ∈ d.entries.map (·.1), d.moduleAt? l = some m := by
  obtain ⟨before, path, after, hpaths, -, hfile, hread, -⟩ := h
  obtain ⟨l, hl, hfileAt⟩ := hasFile_iff.mp hfile
  have hmem : path ∈ referencePaths source r := by
    rw [hpaths]
    exact List.mem_append_right _ List.mem_cons_self
  obtain ⟨names, last, hpieces, hlast⟩ := exists_pieces_of_mem_referencePaths hmem
  refine ⟨l, mem_entries_of_hasFileAt hfileAt, ?_⟩
  rw [← readableModule?_eq_moduleAt? hl hpieces hlast]
  exact readableModule?_eq_some_iff.mpr hread

end Disk

namespace Catalog

/-! ## References to follow -/

theorem mem_unresolvedReferences {c : Catalog} {r : String} :
    r ∈ c.unresolvedReferences ↔ r ∉ c.moduleNames ∧ ∃ m ∈ c.modules, r ∈ m.references := by
  simp only [unresolvedReferences, ← OrderedSet.mem_def, OrderedSet.mem_ofList, List.mem_flatMap,
    ModuleDecl.missing, List.mem_filter, Bool.not_eq_true', List.contains_eq_mem, decide_eq_false_iff_not]
  constructor
  · rintro ⟨m, hm, hr, hnew⟩
    exact ⟨hnew, m, hm, hr⟩
  · rintro ⟨hnew, m, hm, hr⟩
    exact ⟨m, hm, hr, hnew⟩

/-- The modules that the references of a catalog lead to and that it lacks, in the order of their names. -/
def found (d : Disk) (source : String) (c : Catalog) : List ModuleDecl :=
  c.unresolvedReferences.filterMap (d.referencedModule? source)

variable {d : Disk} {source : String} {start c : Catalog} {m : ModuleDecl}

theorem follow_succ_of_nil {n : Nat} (h : found d source c = []) : follow d source (n + 1) c = c := by
  unfold found at h
  rw [follow, h]

theorem follow_succ {n : Nat} (h : found d source c ≠ []) :
    follow d source (n + 1) c = follow d source n (c.insertMany (found d source c)) := by
  rw [follow]
  split
  · rename_i hnil
    exact absurd hnil h
  · rfl

theorem mem_found : m ∈ found d source c ↔
    m.name ∉ c.moduleNames ∧ (∃ m₀ ∈ c.modules, m.name ∈ m₀.references) ∧ d.LeadsTo source m.name m := by
  simp only [found, List.mem_filterMap, Disk.referencedModule?_eq_some_iff, mem_unresolvedReferences]
  constructor
  · rintro ⟨r, ⟨hnew, hreferred⟩, hleads⟩
    obtain rfl := hleads.name_eq
    exact ⟨hnew, hreferred, hleads⟩
  · rintro ⟨hnew, hreferred, hleads⟩
    exact ⟨m.name, ⟨hnew, hreferred⟩, hleads⟩

theorem nodup_names_found (d : Disk) (source : String) (c : Catalog) :
    ((found d source c).map (·.name)).Nodup := by
  have hsub : List.Sublist ((found d source c).map (·.name)) c.unresolvedReferences := by
    unfold found
    induction c.unresolvedReferences with
    | nil => exact List.Sublist.refl _
    | cons r rs ih =>
      rw [List.filterMap_cons]
      cases hm : d.referencedModule? source r with
      | none => exact ih.cons r
      | some m =>
        obtain rfl := (Disk.referencedModule?_eq_some_iff.mp hm).name_eq
        exact ih.cons_cons m.name
  exact hsub.nodup (OrderedSet.nodup _)

theorem modules_insertMany_found (d : Disk) (source : String) (c : Catalog) :
    (c.insertMany (found d source c)).modules = c.modules ++ found d source c :=
  modules_insertMany_of_nodup (nodup_names_found d source c) fun _ hm => (mem_found.mp hm).1

/-! ## Rounds -/

/-- What modules refer to, directly or through others, themselves included. A reference to the name of one of them
means that one, all others are looked up. -/
inductive Followed (d : Disk) (source : String) (ms : List ModuleDecl) : ModuleDecl → Prop where
  | selected {m : ModuleDecl} : m ∈ ms → Followed d source ms m
  | reference {m m' : ModuleDecl} {r : String} : Followed d source ms m → r ∈ m.references →
      r ∉ ms.map (·.name) → d.LeadsTo source r m' → Followed d source ms m'

/-- From `start` to `c` the modules `ms` were found. -/
structure Added (d : Disk) (source : String) (start c : Catalog) (ms : List ModuleDecl) : Prop where
  modules : c.modules = start.modules ++ ms
  followed : ∀ m ∈ ms, Followed d source start.modules m
  leadsTo : ∀ m ∈ ms, d.LeadsTo source m.name m

namespace Added

variable {ms : List ModuleDecl}

theorem refl (d : Disk) (source : String) (c : Catalog) : Added d source c c [] where
  modules := (List.append_nil _).symm
  followed := fun _ hm => absurd hm List.not_mem_nil
  leadsTo := fun _ hm => absurd hm List.not_mem_nil

theorem round (h : Added d source start c ms) :
    Added d source start (c.insertMany (found d source c)) (ms ++ found d source c) := by
  refine ⟨?_, fun m hm => ?_, fun m hm => ?_⟩
  · rw [modules_insertMany_found, h.modules, List.append_assoc]
  · rcases List.mem_append.mp hm with hm | hm
    · exact h.followed m hm
    obtain ⟨hnew, ⟨m₀, hm₀, hr⟩, hleads⟩ := mem_found.mp hm
    have hstart : m.name ∉ start.modules.map (·.name) := by
      rw [moduleNames, h.modules, List.map_append, List.mem_append, not_or] at hnew
      exact hnew.1
    rw [h.modules, List.mem_append] at hm₀
    exact Followed.reference (hm₀.elim Followed.selected (h.followed m₀)) hr hstart hleads
  · rcases List.mem_append.mp hm with hm | hm
    · exact h.leadsTo m hm
    · exact (mem_found.mp hm).2.2

theorem length_le (h : Added d source start c ms) : ms.length ≤ d.entries.length := by
  -- The modules are distinct, and each is in the list of those that the entries determine.
  have hnodup : ms.Nodup := by
    have hdistinct := c.distinct
    rw [h.modules, List.map_append, List.nodup_append] at hdistinct
    exact List.Nodup.of_map _ hdistinct.2.1
  have hsub : ∀ m ∈ ms, m ∈ (d.entries.map (·.1)).filterMap d.moduleAt? := by
    intro m hm
    exact List.mem_filterMap.mpr (Disk.exists_location_of_leadsTo (h.leadsTo m hm))
  calc ms.length ≤ ((d.entries.map (·.1)).filterMap d.moduleAt?).length := length_le_of_subset hnodup hsub
    _ ≤ (d.entries.map (·.1)).length := List.length_filterMap_le _ _
    _ = d.entries.length := List.length_map _

end Added

/-- The rounds suffice: at the end nothing more is found. -/
theorem exists_follow {n : Nat} {ms : List ModuleDecl} (h : Added d source start c ms)
    (hn : d.entries.length < n + ms.length) :
    ∃ ms', Added d source start (follow d source n c) ms' ∧ found d source (follow d source n c) = [] := by
  induction n generalizing c ms with
  | zero =>
    -- More modules would have been found than there are entries.
    have := h.length_le
    omega
  | succ n ih =>
    by_cases hnil : found d source c = []
    · rw [follow_succ_of_nil hnil]
      exact ⟨ms, h, hnil⟩
    · rw [follow_succ hnil]
      refine ih h.round ?_
      have := List.length_pos_iff.mpr hnil
      rw [List.length_append]
      omega

theorem Added.mem_iff {ms : List ModuleDecl} (h : Added d source start c ms) (hnil : found d source c = []) :
    m ∈ c.modules ↔ Followed d source start.modules m := by
  rw [h.modules, List.mem_append]
  constructor
  · exact fun hm => hm.elim Followed.selected (h.followed m)
  · intro hm
    induction hm with
    | selected hm => exact Or.inl hm
    | @reference m m' r _ hr hstart hleads ih =>
      obtain rfl := hleads.name_eq
      -- A module of this name that is loaded was found, and what is found is where the name leads.
      by_cases hloaded : m'.name ∈ c.moduleNames
      · obtain ⟨m'', hm'', hname⟩ := List.mem_map.mp hloaded
        rw [h.modules] at hm''
        rcases List.mem_append.mp hm'' with hm'' | hm''
        · exact absurd (List.mem_map.mpr ⟨m'', hm'', hname⟩) hstart
        · have heq := Disk.referencedModule?_eq_some_iff.mpr (h.leadsTo m'' hm'')
          rw [hname, Disk.referencedModule?_eq_some_iff.mpr hleads] at heq
          exact Or.inr (Option.some.inj heq ▸ hm'')
      · have hfound : m' ∈ found d source c :=
          mem_found.mpr ⟨hloaded, ⟨m, h.modules ▸ List.mem_append.mpr ih, hr⟩, hleads⟩
        rw [hnil] at hfound
        exact absurd hfound List.not_mem_nil

theorem mem_follow (d : Disk) (source : String) (n : Nat) (hm : m ∈ c.modules) :
    m ∈ (follow d source n c).modules := by
  induction n generalizing c with
  | zero => exact hm
  | succ n ih =>
    by_cases hnil : found d source c = []
    · rwa [follow_succ_of_nil hnil]
    · rw [follow_succ hnil]
      refine ih ?_
      rw [modules_insertMany_found]
      exact List.mem_append_left _ hm

theorem follow_succ_eq {n : Nat} (h : found d source (follow d source n c) = []) :
    follow d source (n + 1) c = follow d source n c := by
  induction n generalizing c with
  | zero => exact follow_succ_of_nil h
  | succ n ih =>
    by_cases hnil : found d source c = []
    · rw [follow_succ_of_nil hnil, follow_succ_of_nil hnil]
    · rw [follow_succ hnil] at h
      rw [follow_succ hnil, ih h, follow_succ hnil]

/-- On two disks the rounds are the same when references that lead nowhere do so on both, and those that were
followed lead to the same modules. -/
theorem follow_congr {d' : Disk} (hno : ∀ r, d.referencedModule? source r = none →
      d'.referencedModule? source r = none) {n : Nat} (hyes : ∀ m ∈ (follow d source n c).modules, m ∉ c.modules →
      d'.referencedModule? source m.name = d.referencedModule? source m.name) :
    follow d' source n c = follow d source n c := by
  induction n generalizing c with
  | zero => rfl
  | succ n ih =>
    have hfound : found d' source c = found d source c := by
      refine List.filterMap_congr fun r hr => ?_
      cases hm : d.referencedModule? source r with
      | none => exact hno r hm
      | some m =>
        obtain rfl := (Disk.referencedModule?_eq_some_iff.mp hm).name_eq
        have hmem : m ∈ found d source c := List.mem_filterMap.mpr ⟨m.name, hr, hm⟩
        have hnil : found d source c ≠ [] := List.ne_nil_of_mem hmem
        have hnew : m ∉ c.modules := fun h => (mem_found.mp hmem).1 (List.mem_map_of_mem h)
        rw [← hm]
        refine hyes m ?_ hnew
        rw [follow_succ hnil]
        refine mem_follow d source n ?_
        rw [modules_insertMany_found]
        exact List.mem_append_right _ hmem
    by_cases hnil : found d source c = []
    · rw [follow_succ_of_nil hnil, follow_succ_of_nil (hfound.trans hnil)]
    · rw [follow_succ hnil] at hyes
      rw [follow_succ hnil, follow_succ (hfound ▸ hnil), hfound]
      refine ih fun m hm hnew => hyes m hm fun hmem => hnew ?_
      rw [modules_insertMany_found]
      exact List.mem_append_left _ hmem

/-- A module that is followed and is not among the first ones was looked up. -/
theorem leadsTo_of_followed {ms : List ModuleDecl} (h : Followed d source ms m) (hm : m ∉ ms) :
    m.name ∉ ms.map (·.name) ∧ d.LeadsTo source m.name m := by
  cases h with
  | selected hmem => exact absurd hmem hm
  | reference _ _ hstart hleads =>
    obtain rfl := hleads.name_eq
    exact ⟨hstart, hleads⟩

end Catalog

end WireTypes
