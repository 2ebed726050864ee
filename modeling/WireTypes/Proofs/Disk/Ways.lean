import WireTypes.Proofs.Disk.Segments

/-!
# Ways through patterns

What a pattern stands for is found by going from one path to the next. Each step of the pattern but the last is
such a way, and where the next path leads depends on where the last one does.

* `exists_of_locate?_entryPath`, `eq_of_walk_fileNames` : where the path of an entry leads;
* `PlainSteps`, `plainSteps_of_parse?` : the names in a pattern that was read hold no slashes;
* `Way` : the ways on from a path through the first of the steps;
* `mem_expand_iff` : the paths that steps lead to are at the ends of ways through them.
-/

namespace WireTypes.Disk

variable {d : Disk} {l k : Location} {p q name : String}

/-! ## Entries of a directory -/

theorem walk_stay {ps : List String} (hps : ∀ p ∈ ps, p = "" ∨ p = ".") (hdir : d.isDirectory l = true) :
    d.walk l ps = some l := by
  induction ps with
  | nil => rfl
  | cons p ps ih =>
    have hp := hps p List.mem_cons_self
    have hstep : d.walk l [p] = some l := walk_singleton_iff.mpr ⟨hdir, Or.inl ⟨hp, rfl⟩⟩
    exact walk_cons_iff.mpr ⟨l, hstep, ih fun q hq => hps q (List.mem_cons_of_mem p hq)⟩

theorem locate?_of_segments_here (hp : Path.segments p = [.here]) (hdir : d.isDirectory d.workDir = true) :
    d.locate? p = some d.workDir := by
  unfold Path.segments at hp
  simp only at hp
  split at hp
  · exact absurd (List.cons.inj hp).1 (by decide)
  rename_i hrel
  split at hp
  · rename_i hhead
    have hstay : ∀ q ∈ Path.pieces p, q = "" ∨ q = "." := by
      intro q hq
      by_contra hne
      rw [not_or] at hne
      obtain ⟨s, hs, -⟩ := exists_pieceSegment? hne.1 hne.2
      have hnone := List.filterMap_eq_nil_iff.mp (List.cons.inj hp).2 q hq
      rw [hs] at hnone
      cases hnone
    have hne : p ≠ "" := by
      rintro rfl
      exact absurd hhead (by decide)
    have hstart : d.start p = d.workDir := if_neg hrel
    rw [locate?_of_ne_empty hne, hstart]
    exact walk_stay hstay hdir
  · -- No piece stands for the directory itself.
    have hmem : Segment.here ∈ (Path.pieces p).filterMap Path.pieceSegment? := by
      rw [List.nil_append] at hp
      rw [hp]
      exact List.mem_singleton_self _
    obtain ⟨q, -, hq⟩ := List.mem_filterMap.mp hmem
    unfold Path.pieceSegment? at hq
    split at hq
    · cases hq
    split at hq <;> cases hq

theorem exists_of_locate?_entryPath (hp : p ≠ "") (hname : '/' ∉ name.toList)
    (h : d.locate? (entryPath p name) = some k) : ∃ j, d.locate? p = some j ∧ d.walk j [name] = some k := by
  unfold entryPath at h
  split at h
  · rename_i hhere
    have hstart : d.start name = d.workDir := if_neg (by simp [Path.isAbsolute_eq_false hname])
    rw [locate?_of_ne_empty (ne_empty_of_locate? h), hstart, Path.pieces_eq_singleton hname] at h
    have hdir := isDirectory_of_walk (List.cons_ne_nil _ _) h
    exact ⟨d.workDir, locate?_of_segments_here hhere hdir, h⟩
  · have hiff := locate?_join_iff (d := d) hp (Path.isAbsolute_eq_false hname) (k := k)
    rw [Path.pieces_eq_singleton hname] at hiff
    exact hiff.mp h

theorem entryPath_ne_empty (hp : p ≠ "") (hname : name ≠ "") (hslash : '/' ∉ name.toList) :
    entryPath p name ≠ "" := by
  unfold entryPath
  split
  · exact hname
  · exact join_ne_empty hp (Path.isAbsolute_eq_false hslash)

theorem isName_of_mem_map_val {names : List FileName} :
    ∀ name ∈ names.map (·.val), name ≠ "" ∧ '/' ∉ name.toList := by
  intro name hname
  obtain ⟨n, -, rfl⟩ := List.mem_map.mp hname
  exact ⟨n.val_ne.1, n.val_ne.2.2.2⟩

theorem exists_of_locate?_foldl_entryPath {names : List String} (hp : p ≠ "")
    (hnames : ∀ name ∈ names, name ≠ "" ∧ '/' ∉ name.toList) (h : d.locate? (names.foldl entryPath p) = some k) :
    ∃ j, d.locate? p = some j ∧ d.walk j names = some k := by
  induction names generalizing p with
  | nil => exact ⟨k, h, rfl⟩
  | cons name names ih =>
    obtain ⟨hne, hslash⟩ := hnames name List.mem_cons_self
    have hrest := fun n hn => hnames n (List.mem_cons_of_mem name hn)
    obtain ⟨j', hj', hk⟩ := ih (entryPath_ne_empty hp hne hslash) hrest h
    obtain ⟨j, hj, hstep⟩ := exists_of_locate?_entryPath hp hslash hj'
    exact ⟨j, hj, walk_cons_iff.mpr ⟨j', hstep, hk⟩⟩

theorem foldl_entryPath_ne_empty {names : List String} (hp : p ≠ "")
    (hnames : ∀ name ∈ names, name ≠ "" ∧ '/' ∉ name.toList) : names.foldl entryPath p ≠ "" := by
  induction names generalizing p with
  | nil => exact hp
  | cons name names ih =>
    obtain ⟨hne, hslash⟩ := hnames name List.mem_cons_self
    exact ih (entryPath_ne_empty hp hne hslash) fun n hn => hnames n (List.mem_cons_of_mem name hn)

theorem eq_of_walk_fileNames {names : List FileName} (h : d.walk l (names.map (·.val)) = some k) :
    k = names.reverse ++ l := by
  induction names generalizing l with
  | nil => exact (Option.some.inj h).symm
  | cons n names ih =>
    obtain ⟨j, hj, hk⟩ := walk_cons_iff.mp h
    obtain ⟨hempty, hhere, hup, -⟩ := n.val_ne
    obtain ⟨-, m, hm, rfl⟩ := (walk_name_iff hempty hhere hup).mp hj
    rw [ih hk, Subtype.val_injective hm, List.reverse_cons, List.append_assoc, List.singleton_append]

/-! ## Steps -/

/-- The names in the steps hold no slashes. -/
def PlainSteps (steps : List PatternStep) : Prop := ∀ name, PatternStep.literal name ∈ steps → '/' ∉ name.toList

theorem literal_of_readStep? {s : String} (h : Pattern.readStep? s = some (.literal name)) : name = s := by
  unfold Pattern.readStep? at h
  split at h
  · cases h
  split at h
  · obtain ⟨_, _, hw⟩ := Option.map_eq_some_iff.mp h
    cases hw
  · cases h
    rfl

theorem mem_of_mem_collapse {step : PatternStep} {steps : List PatternStep} (h : step ∈ Pattern.collapse steps) :
    step ∈ steps := by
  fun_induction Pattern.collapse steps with
  | case1 steps ih => exact List.mem_cons_of_mem _ (ih h)
  | case2 first steps _ ih =>
    rcases List.mem_cons.mp h with rfl | h
    · exact List.mem_cons_self
    · exact List.mem_cons_of_mem _ (ih h)
  | case3 => exact h

theorem exists_of_mem_mapM {α β : Type} {f : α → Option β} {as : List α} {bs : List β} (h : as.mapM f = some bs)
    {b : β} (hb : b ∈ bs) : ∃ a ∈ as, f a = some b := by
  induction as generalizing bs with
  | nil =>
    obtain rfl : bs = [] := by simpa using h.symm
    exact absurd hb List.not_mem_nil
  | cons a as ih =>
    rw [List.mapM_cons, Option.bind_eq_bind, Option.bind_eq_some_iff] at h
    obtain ⟨first, hfirst, h⟩ := h
    rw [Option.bind_eq_bind, Option.bind_eq_some_iff] at h
    obtain ⟨rest, hrest, h⟩ := h
    obtain rfl := Option.some.inj h
    rcases List.mem_cons.mp hb with rfl | hb
    · exact ⟨a, List.mem_cons_self, hfirst⟩
    · obtain ⟨a', ha', hb⟩ := ih hrest hb
      exact ⟨a', List.mem_cons_of_mem a ha', hb⟩

theorem plainSteps_of_parse? {s : String} {pattern : Pattern} (h : Pattern.parse? s = some pattern) :
    PlainSteps pattern.steps := by
  unfold Pattern.parse? at h
  simp only [Option.bind_eq_bind, Option.bind_eq_some_iff] at h
  obtain ⟨steps, hsteps, h⟩ := h
  obtain rfl := Option.some.inj h
  intro name hname
  obtain ⟨piece, hpiece, hread⟩ := exists_of_mem_mapM hsteps (mem_of_mem_collapse hname)
  obtain rfl := literal_of_readStep? hread
  refine Path.slash_not_mem_of_mem_pieces (p := s) ?_
  have hmem : ∀ names : List String, name ∈ (if Path.isAbsolute s then names.tail else names) → name ∈ names := by
    intro names h
    split at h
    · exact (List.tail_sublist names).subset h
    · exact h
  have hpieces := hmem _ hpiece
  split at hpieces
  · exact (List.dropLast_sublist _).subset hpieces
  · exact hpieces

/-! ## Ways through steps -/

theorem mem_children {x : String × String} : x ∈ d.children p ↔
    ∃ (j : Location) (n : FileName), d.locate? p = some j ∧ d.isDirectory j = true ∧ (d.get? (n :: j)).isSome ∧
      x = (n.val, entryPath p n.val) := by
  unfold children
  cases d.locate? p with
  | none => simp
  | some j =>
    by_cases hdir : d.isDirectory j = true
    · simp only [hdir, if_true, List.mem_map, mem_childNames]
      constructor
      · rintro ⟨n, hsome, rfl⟩
        exact ⟨j, n, rfl, hdir, hsome, rfl⟩
      · rintro ⟨_, n, hj, -, hsome, rfl⟩
        obtain rfl := Option.some.inj hj
        exact ⟨n, hsome, rfl⟩
    · simp only [if_neg hdir, List.not_mem_nil, false_iff]
      rintro ⟨_, _, hj, hdir', -⟩
      obtain rfl := Option.some.inj hj
      exact hdir hdir'

theorem mem_waysBelow {way : List String} : way ∈ d.waysBelow l ↔
    ∃ names : List FileName, names ≠ [] ∧ names.reverse ++ l ∈ d.entries.map (·.1) ∧ way = names.map (·.val) := by
  unfold waysBelow
  rw [List.mem_filterMap]
  constructor
  · rintro ⟨entry, hentry, h⟩
    split at h
    · rename_i hbelow
      rw [Bool.and_eq_true, List.isSuffixOf_iff_suffix, decide_eq_true_eq] at hbelow
      obtain ⟨⟨names, hnames⟩, hlength⟩ := hbelow
      have htake : entry.1.take (entry.1.length - l.length) = names := by
        rw [← hnames, List.length_append, Nat.add_sub_cancel, List.take_left]
      rw [htake] at h
      refine ⟨names.reverse, ?_, ?_, (Option.some.inj h).symm⟩
      · rw [ne_eq, List.reverse_eq_nil_iff]
        rintro rfl
        rw [← hnames, List.nil_append] at hlength
        exact Nat.lt_irrefl _ hlength
      · rw [List.reverse_reverse, hnames]
        exact List.mem_map_of_mem hentry
    · cases h
  · rintro ⟨names, hne, hmem, rfl⟩
    obtain ⟨entry, hentry, heq⟩ := List.mem_map.mp hmem
    have hlength := List.length_pos_iff.mpr hne
    refine ⟨entry, hentry, ?_⟩
    rw [heq, if_pos]
    · simp
    · simpa using hlength

theorem mem_below {x : String × String} : x ∈ d.below p ↔
    ∃ (j : Location) (names : List FileName) (name : String), d.locate? p = some j ∧
      names.reverse ++ j ∈ d.entries.map (·.1) ∧ (names.map (·.val)).getLast? = some name ∧
      x = (name, (names.map (·.val)).foldl entryPath p) := by
  unfold below
  cases d.locate? p with
  | none => simp
  | some j =>
    simp only [List.mem_filterMap, mem_waysBelow, Option.map_eq_some_iff]
    constructor
    · rintro ⟨_, ⟨names, -, hmem, rfl⟩, name, hlast, rfl⟩
      exact ⟨j, names, name, rfl, hmem, hlast, rfl⟩
    · rintro ⟨_, names, name, hj, hmem, hlast, rfl⟩
      obtain rfl := Option.some.inj hj
      refine ⟨_, ⟨names, ?_, hmem, rfl⟩, name, hlast, rfl⟩
      rintro rfl
      cases hlast

/-- One way on from a path through the first of the steps, and the steps that are left. -/
inductive Way (d : Disk) (p : String) : List PatternStep → String → List PatternStep → Prop where
  | literal {name : String} {steps : List PatternStep} : (d.at? (entryPath p name)).isSome →
      Way d p (.literal name :: steps) (entryPath p name) steps
  | child {wildcards : List Wildcard} {steps : List PatternStep} {j : Location} {n : FileName} :
      d.locate? p = some j → d.isDirectory j = true → (d.get? (n :: j)).isSome →
      matchesName wildcards n.val.toList = true → Way d p (.wild wildcards :: steps) (entryPath p n.val) steps
  | dot {wildcards : List Wildcard} {steps : List PatternStep} {name : String} : d.hasDirectory p = true →
      name ∈ dotNames wildcards → Way d p (.wild wildcards :: steps) (Path.join p name) steps
  | below {step : PatternStep} {steps : List PatternStep} {j : Location} {names : List FileName} {name : String} :
      d.locate? p = some j → names.reverse ++ j ∈ d.entries.map (·.1) →
      (names.map (·.val)).getLast? = some name → step.accepts name = true →
      Way d p (.anyDirectories :: step :: steps) ((names.map (·.val)).foldl entryPath p) steps

namespace Way

variable {steps rest : List PatternStep}

theorem length_lt (h : d.Way p steps q rest) : rest.length < steps.length := by
  cases h <;> simp only [List.length_cons] <;> omega

theorem subset (h : d.Way p steps q rest) : rest ⊆ steps := by
  cases h with
  | literal => exact List.subset_cons_self _ _
  | child => exact List.subset_cons_self _ _
  | dot => exact List.subset_cons_self _ _
  | below => exact fun _ hs => List.mem_cons_of_mem _ (List.mem_cons_of_mem _ hs)

theorem ne_empty (h : d.Way p steps q rest) (hp : p ≠ "") : q ≠ "" := by
  cases h with
  | literal hsome =>
    obtain ⟨k, hk, -⟩ := isSome_at?_iff.mp hsome
    exact ne_empty_of_locate? hk
  | @child _ _ _ n => exact entryPath_ne_empty hp n.val_ne.1 n.val_ne.2.2.2
  | @dot wildcards _ name _ hname =>
    have hdots : ∀ name ∈ [".", ".."], Path.isAbsolute name = false := by decide
    refine join_ne_empty hp (hdots name ?_)
    unfold dotNames at hname
    split at hname
    · exact (List.mem_filter.mp hname).1
    · cases hname
  | below => exact foldl_entryPath_ne_empty hp isName_of_mem_map_val

end Way

theorem mem_expand_iff {steps : List PatternStep} : q ∈ d.expand p steps ↔
    steps = [] ∧ q = p ∨ ∃ next rest, d.Way p steps next rest ∧ q ∈ d.expand next rest := by
  constructor
  · intro h
    unfold expand at h
    split at h
    · exact Or.inl ⟨rfl, List.mem_singleton.mp h⟩
    · simp only at h
      split at h
      · rename_i hsome
        exact Or.inr ⟨_, _, .literal hsome, h⟩
      · cases h
    · simp only [List.mem_flatMap, List.mem_append] at h
      obtain ⟨next, hnext | hnext, hq⟩ := h
      · obtain ⟨⟨name, _⟩, hx, rfl⟩ := List.mem_map.mp hnext
        obtain ⟨hchild, hmatch⟩ := List.mem_filter.mp hx
        obtain ⟨j, n, hj, hdir, hsome, heq⟩ := mem_children.mp hchild
        cases heq
        exact Or.inr ⟨_, _, .child hj hdir hsome hmatch, hq⟩
      · split at hnext
        · rename_i hdir
          obtain ⟨name, hname, rfl⟩ := List.mem_map.mp hnext
          exact Or.inr ⟨_, _, .dot hdir hname, hq⟩
        · cases hnext
    · obtain ⟨⟨name, _⟩, hx, hq⟩ := List.mem_flatMap.mp h
      obtain ⟨hbelow, haccepts⟩ := List.mem_filter.mp hx
      obtain ⟨j, names, _, hj, hmem, hlast, heq⟩ := mem_below.mp hbelow
      cases heq
      exact Or.inr ⟨_, _, .below hj hmem hlast haccepts, hq⟩
    · cases h
  · rintro (⟨rfl, rfl⟩ | ⟨next, rest, hway, hq⟩)
    · exact List.mem_singleton_self _
    cases hway with
    | literal hsome =>
      rw [expand, if_pos hsome]
      exact hq
    | @child wildcards steps j n hj hdir hsome hmatch =>
      have hchild := mem_children.mpr ⟨j, n, hj, hdir, hsome, rfl⟩
      rw [expand]
      refine List.mem_flatMap.mpr ⟨_, List.mem_append_left _ ?_, hq⟩
      exact List.mem_map.mpr ⟨_, List.mem_filter.mpr ⟨hchild, hmatch⟩, rfl⟩
    | dot hdir hname =>
      rw [expand]
      refine List.mem_flatMap.mpr ⟨_, List.mem_append_right _ ?_, hq⟩
      rw [if_pos hdir]
      exact List.mem_map_of_mem hname
    | @below step steps j names name hj hmem hlast haccepts =>
      have hbelow := mem_below.mpr ⟨j, names, name, hj, hmem, hlast, rfl⟩
      rw [expand]
      exact List.mem_flatMap.mpr ⟨_, List.mem_filter.mpr ⟨hbelow, haccepts⟩, hq⟩

end WireTypes.Disk
