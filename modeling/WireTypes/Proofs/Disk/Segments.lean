import WireTypes.Catalog.Load
import WireTypes.Proofs.Disk.Walk

/-!
# Paths by their parts

The last name of a path is that of the entry that it leads to, so the format of a file and the module in it do
not depend on the way to it. Nor does it matter when the parts of a path that do not count are left out.

* `exists_pieces_append` : what is put behind a path is put behind its last name;
* `fileName?_of_pieces`, `exists_of_locate?` : the last name of a path, and the entry that it leads to;
* `describedModule?`, `moduleAt?`, `readableModule?_eq_moduleAt?` : the module in a file;
* `locate?_ofSegments` : the parts of a path that count lead where the path leads.
-/

namespace WireTypes

/-- What a last name must not be to name an entry. -/
def pathSteps : List String := ["", ".", ".."]

/-! ## Last names -/

namespace Path

theorem exists_pieces_append (a : String) {b : String} (h : '/' ∉ b.toList) :
    ∃ before last, pieces (a ++ b) = before ++ [last ++ b] := by
  by_cases hslash : '/' ∈ a.toList
  · obtain ⟨x, y, rfl, hy⟩ := exists_last_slash hslash
    have hyb : '/' ∉ (y ++ b).toList := by
      rw [String.toList_append, List.mem_append]
      exact not_or.mpr ⟨hy, h⟩
    refine ⟨pieces x, y, ?_⟩
    rw [String.append_assoc, pieces_append_slash, pieces_eq_singleton hyb]
  · have hab : '/' ∉ (a ++ b).toList := by
      rw [String.toList_append, List.mem_append]
      exact not_or.mpr ⟨hslash, h⟩
    refine ⟨[], a, ?_⟩
    rw [pieces_eq_singleton hab, List.nil_append]

theorem fileName?_of_pieces {p last : String} {before : List String} (h : pieces p = before ++ [last])
    (hlast : last ∉ pathSteps) : fileName? p = some last := by
  simp only [pathSteps, List.mem_cons, List.not_mem_nil, or_false, not_or] at hlast
  have hsegment : pieceSegment? last = some (.named last) := by simp [pieceSegment?, hlast]
  have hlastSegment : (segments p).getLast? = some (.named last) := by
    rw [segments, h, List.filterMap_append, List.filterMap_cons, hsegment, List.filterMap_nil, ← List.append_assoc]
    exact List.getLast?_concat
  rw [fileName?, hlastSegment]

/-- A relative path starts with a name. -/
theorem head_pieces_ne_empty {p first : String} {rest : List String} (hp : p ≠ "") (hrel : isAbsolute p = false)
    (h : pieces p = first :: rest) : first ≠ "" := by
  rintro rfl
  rw [isAbsolute] at hrel
  rw [pieces] at h
  cases hlist : p.toList with
  | nil => exact hp (String.toList_eq_nil_iff.mp hlist)
  | cons c cs =>
    rw [hlist] at hrel h
    have hc : (c == '/') = false := by simpa using hrel
    rw [List.splitOn_cons_eq_if_modifyHead, hc, if_neg Bool.false_ne_true] at h
    cases hsplit : cs.splitOn '/' with
    | nil => exact List.splitOn_ne_nil '/' cs hsplit
    | cons part parts =>
      rw [hsplit, List.modifyHead_cons, List.map_cons] at h
      exact absurd (congrArg String.toList (List.cons.inj h).1) (by simp)

theorem fileName?_val (n : FileName) : fileName? n.val = some n.val := by
  obtain ⟨hempty, hhere, hup, hslash⟩ := n.val_ne
  have hpieces : pieces n.val = [] ++ [n.val] := pieces_eq_singleton hslash
  exact fileName?_of_pieces hpieces (by simp [pathSteps, hempty, hhere, hup])

end Path

namespace Disk

variable {d : Disk} {l k : Location}

theorem exists_of_locate? {p last : String} {before : List String} (hl : d.locate? p = some l)
    (h : Path.pieces p = before ++ [last]) (hlast : last ∉ pathSteps) :
    ∃ (n : FileName) (parent : Location), l = n :: parent ∧ n.val = last := by
  simp only [pathSteps, List.mem_cons, List.not_mem_nil, or_false, not_or] at hlast
  rw [locate?_of_ne_empty (ne_empty_of_locate? hl), h, walk_append, Option.bind_eq_some_iff] at hl
  obtain ⟨parent, -, hstep⟩ := hl
  obtain ⟨-, n, hn, rfl⟩ := (walk_name_iff hlast.1 hlast.2.1 hlast.2.2).mp hstep
  exact ⟨n, parent, rfl, hn⟩

/-! ## Modules in files -/

theorem ofPath_congr {p q : String} (h : Path.fileName? p = Path.fileName? q) :
    Document.Format.ofPath p = Document.Format.ofPath q := by
  rw [Document.Format.ofPath, Path.extension?, h, Document.Format.ofPath, Path.extension?]

/-- The module that a file of this name with this content describes, if it does. -/
def describedModule? (name : String) (content : ByteArray) : Option ModuleDecl :=
  ((String.fromUTF8? content).bind ((Document.Format.ofPath name).read ModuleDecl.decode)).filter
    fun m => !Text.isBlankText m.name

theorem readableModule?_eq_described {p : String} {n : FileName} {content : ByteArray}
    (hname : Path.fileName? p = some n.val) (hat : d.at? p = some (.file content)) :
    d.readableModule? p = describedModule? n.val content := by
  have hformat : Document.Format.ofPath p = Document.Format.ofPath n.val :=
    ofPath_congr (hname.trans (Path.fileName?_val n).symm)
  have htext : d.readText? p = String.fromUTF8? content := by rw [readText?, read?, hat, Option.bind_some]
  rw [readableModule?, readModule, htext, describedModule?, ← hformat]
  cases String.fromUTF8? content with
  | none => rfl
  | some text =>
    rw [Option.bind_some]
    cases hread : (Document.Format.ofPath p).read ModuleDecl.decode text with
    | none => simp only [hread, Except.toOption, Option.filter_none]
    | some m => cases hblank : Text.isBlankText m.name <;> simp [hread, hblank, Except.toOption, Option.filter]

theorem readableModule?_eq_none_of_at? {p : String} (h : ∀ content, d.at? p ≠ some (.file content)) :
    d.readableModule? p = none := by
  have hread : d.readText? p = none := by
    rw [readText?, read?]
    split
    · rename_i content hat
      exact absurd hat (h content)
    · rfl
  rw [readableModule?, readModule, hread]
  rfl

/-- The module in the file at a location. -/
def moduleAt? (d : Disk) : Location → Option ModuleDecl
  | [] => none
  | name :: parent =>
    match d.get? (name :: parent) with
    | some (.file content) => describedModule? name.val content
    | _ => none

theorem readableModule?_eq_moduleAt? {p last : String} {before : List String} {l : Location}
    (hl : d.locate? p = some l) (h : Path.pieces p = before ++ [last]) (hlast : last ∉ pathSteps) :
    d.readableModule? p = d.moduleAt? l := by
  obtain ⟨n, parent, rfl, hn⟩ := exists_of_locate? hl h hlast
  have hat : d.at? p = d.get? (n :: parent) := by rw [at?, hl, Option.bind_some]
  have hname : Path.fileName? p = some n.val := hn ▸ Path.fileName?_of_pieces h hlast
  rw [moduleAt?]
  split
  · rename_i content hget
    exact readableModule?_eq_described hname (hat.trans hget)
  · rename_i hget
    exact readableModule?_eq_none_of_at? fun content hfile => hget content (hat.symm.trans hfile)

/-! ## Parts that count -/

theorem locate?_join_eq (d : Disk) {p q : String} (hp : p ≠ "") (hq : Path.isAbsolute q = false) :
    d.locate? (Path.join p q) = (d.locate? p).bind fun l => d.walk l (Path.pieces q) := by
  apply Option.ext
  intro k
  rw [locate?_join_iff hp hq, Option.bind_eq_some_iff]

theorem join_ne_empty {p q : String} (hp : p ≠ "") (hq : Path.isAbsolute q = false) : Path.join p q ≠ "" := by
  rw [Path.join, hq, if_neg Bool.false_ne_true]
  split <;> simp [hp]

theorem locate?_foldl_join (d : Disk) {p : String} (hp : p ≠ "") {names : List String}
    (hnames : ∀ name ∈ names, '/' ∉ name.toList) :
    d.locate? (names.foldl Path.join p) = (d.locate? p).bind fun l => d.walk l names := by
  induction names generalizing p with
  | nil =>
    rw [List.foldl_nil]
    cases d.locate? p <;> rfl
  | cons name names ih =>
    have hslash := hnames name List.mem_cons_self
    have hrel := Path.isAbsolute_eq_false hslash
    rw [List.foldl_cons, ih (join_ne_empty hp hrel) fun n hn => hnames n (List.mem_cons_of_mem _ hn),
      locate?_join_eq d hp hrel, Path.pieces_eq_singleton hslash, Option.bind_assoc]
    refine Option.bind_congr fun l _ => ?_
    rw [← walk_append, List.singleton_append]

/-- What a walk leads to when the steps that stay are left out. -/
theorem walk_filter {ps : List String} (h : d.walk l ps = some k) :
    d.walk l (ps.filter fun p => p != "" && p != ".") = some k := by
  induction ps generalizing l with
  | nil => exact h
  | cons p ps ih =>
    obtain ⟨j, hj, hk⟩ := walk_cons_iff.mp h
    by_cases hstay : p = "" ∨ p = "."
    · obtain ⟨-, ⟨-, rfl⟩ | ⟨rfl, -⟩ | ⟨name, rfl, -⟩⟩ := walk_singleton_iff.mp hj
      · rw [List.filter_cons_of_neg (by rcases hstay with rfl | rfl <;> decide)]
        exact ih hk
      · exact absurd hstay (by decide)
      · exact absurd hstay (not_or.mpr ⟨name.val_ne.1, name.val_ne.2.1⟩)
    · rw [not_or] at hstay
      rw [List.filter_cons_of_pos (by simp [hstay])]
      exact walk_cons_iff.mpr ⟨j, hj, ih hk⟩

theorem exists_pieceSegment? {p : String} (hempty : p ≠ "") (hhere : p ≠ ".") :
    ∃ s, Path.pieceSegment? p = some s ∧ s.text = p := by
  by_cases hup : p = ".."
  · exact ⟨.up, by simp [Path.pieceSegment?, hup], hup.symm⟩
  · exact ⟨.named p, by simp [Path.pieceSegment?, hempty, hhere, hup], rfl⟩

theorem text_pieceSegment? (pieces : List String) : (pieces.filterMap Path.pieceSegment?).map Segment.text =
    pieces.filter fun p => p != "" && p != "." := by
  induction pieces with
  | nil => rfl
  | cons p pieces ih =>
    by_cases hstay : p = "" ∨ p = "."
    · have hnone : Path.pieceSegment? p = none := by rcases hstay with rfl | rfl <;> rfl
      rw [List.filterMap_cons_none hnone, ih,
        List.filter_cons_of_neg (by rcases hstay with rfl | rfl <;> decide)]
    · rw [not_or] at hstay
      obtain ⟨s, hs, htext⟩ := exists_pieceSegment? hstay.1 hstay.2
      rw [List.filterMap_cons_some hs, List.map_cons, ih, htext, List.filter_cons_of_pos (by simp [hstay])]

theorem ofSegments_cons (s : Segment) (segments : List Segment) :
    Path.ofSegments (s :: segments) = (segments.map Segment.text).foldl Path.join s.text := by
  have hfirst : Path.join "" s.text = s.text := by
    rw [Path.join]
    split
    · rfl
    · exact String.empty_append
  rw [Path.ofSegments, List.foldl_cons, hfirst, List.foldl_map]

/-- The parts of a path that count lead where the path leads. -/
theorem locate?_ofSegments {p : String} (h : d.locate? p = some l) :
    d.locate? (Path.ofSegments (Path.segments p)) = some l := by
  have hp := ne_empty_of_locate? h
  rw [locate?_of_ne_empty hp] at h
  have hdir := isDirectory_of_walk (Path.pieces_ne_nil p) h
  have hfiltered := walk_filter h
  have hslash : ∀ name ∈ (Path.pieces p).filter (fun q => q != "" && q != "."), '/' ∉ name.toList := by
    intro name hname
    exact Path.slash_not_mem_of_mem_pieces (List.mem_filter.mp hname).1
  unfold Path.segments
  simp only
  split
  · rename_i habs
    have hroot : d.locate? "/" = some [] := rfl
    rw [start, if_pos habs] at hfiltered
    rw [List.singleton_append, ofSegments_cons, text_pieceSegment?]
    have hjoin := locate?_foldl_join d (p := "/") (by decide) hslash
    rw [hroot, Option.bind_some] at hjoin
    exact hjoin.trans hfiltered
  rename_i hrel
  rw [start, if_neg hrel] at hdir hfiltered
  split
  · have hhere : d.locate? "." = some d.workDir := by
      have hpieces : Path.pieces "." = ["."] := by decide
      rw [locate?_of_ne_empty (by decide), hpieces]
      exact walk_singleton_iff.mpr ⟨hdir, Or.inl ⟨Or.inr rfl, rfl⟩⟩
    rw [List.singleton_append, ofSegments_cons, text_pieceSegment?]
    have hjoin := locate?_foldl_join d (p := ".") (by decide) hslash
    rw [hhere, Option.bind_some] at hjoin
    exact hjoin.trans hfiltered
  · -- The first part is a name or a step up, and the path starts from there.
    rename_i hnotHere
    cases hpieces : Path.pieces p with
    | nil => exact absurd hpieces (Path.pieces_ne_nil p)
    | cons first rest =>
      have hempty := Path.head_pieces_ne_empty hp (by simpa using hrel) hpieces
      have hhere : first ≠ "." := by
        rintro rfl
        simp [hpieces] at hnotHere
      obtain ⟨s, hs, htext⟩ := exists_pieceSegment? hempty hhere
      rw [hpieces, List.filter_cons_of_pos (by simp [hempty, hhere])] at hfiltered hslash
      have hfirst := hslash first List.mem_cons_self
      have hstart : d.start first = d.workDir := if_neg (by simp [Path.isAbsolute_eq_false hfirst])
      rw [List.nil_append, List.filterMap_cons_some hs, ofSegments_cons, text_pieceSegment?, htext,
        locate?_foldl_join d hempty fun name hname => hslash name (List.mem_cons_of_mem _ hname),
        locate?_of_ne_empty hempty, hstart, Path.pieces_eq_singleton hfirst, ← walk_append,
        List.singleton_append]
      exact hfiltered

end Disk

end WireTypes
