import Mathlib.Data.List.TakeWhile
import WireTypes.Disk.Basic
import WireTypes.Proofs.Text.Slashes

/-!
# Where joined paths lead

* `pieces_append_slash`, `mem_of_mem_pieces` : a slash separates the pieces of a text;
* `walk_singleton_iff`, `walk_append` : what a walk does with one piece, and that it goes on from there;
* `walk_mono` : directories that come up are not in its way;
* `exists_append_of_walk` : a walk with no step upwards stays below the directory that it starts from;
* `hasFile_iff`, `hasDirectory_iff`, `isSome_at?_iff` : what is where a path leads;
* `locate?_join_iff` : a relative path seen from another leads on from where that one leads.
-/

namespace WireTypes

/-! ## Pieces -/

namespace Path

theorem pieces_append_slash (a b : String) : pieces (a ++ "/" ++ b) = pieces a ++ pieces b := by
  have hlist : (a ++ "/" ++ b).toList = a.toList ++ '/' :: b.toList := by simp
  rw [pieces, hlist, List.splitOn_append_cons_self, List.map_append]
  rfl

theorem pieces_ne_nil (p : String) : pieces p ≠ [] := by
  simp [pieces, List.splitOn_ne_nil]

theorem pieces_eq_singleton {p : String} (h : '/' ∉ p.toList) : pieces p = [p] := by
  rw [pieces, List.splitOn_eq_singleton h]
  simp

theorem mem_of_mem_splitOn {a c : Char} {cs part : List Char} (hpart : part ∈ cs.splitOn a)
    (hc : c ∈ part) : c ∈ cs := by
  induction cs generalizing part with
  | nil =>
    obtain rfl : part = [] := by simpa using hpart
    exact hc
  | cons b cs ih =>
    rw [List.splitOn_cons_eq_if_modifyHead] at hpart
    split at hpart
    · rcases List.mem_cons.mp hpart with rfl | hpart
      · exact absurd hc List.not_mem_nil
      · exact List.mem_cons_of_mem _ (ih hpart hc)
    · cases hsplit : cs.splitOn a with
      | nil => exact absurd hsplit (List.splitOn_ne_nil a cs)
      | cons first parts =>
        rw [hsplit] at hpart ih
        rcases List.mem_cons.mp hpart with rfl | hpart
        · rcases List.mem_cons.mp hc with rfl | hc
          · exact List.mem_cons_self
          · exact List.mem_cons_of_mem _ (ih List.mem_cons_self hc)
        · exact List.mem_cons_of_mem _ (ih (List.mem_cons_of_mem _ hpart) hc)

/-- The characters of a piece are those of the text. -/
theorem mem_of_mem_pieces {p piece : String} (h : piece ∈ pieces p) {c : Char} (hc : c ∈ piece.toList) :
    c ∈ p.toList := by
  obtain ⟨part, hpart, rfl⟩ := List.mem_map.mp h
  exact mem_of_mem_splitOn hpart (by simpa using hc)

theorem not_mem_of_mem_splitOn {a : Char} {cs part : List Char} (hpart : part ∈ cs.splitOn a) : a ∉ part := by
  induction cs generalizing part with
  | nil =>
    obtain rfl : part = [] := by simpa using hpart
    exact List.not_mem_nil
  | cons b cs ih =>
    rw [List.splitOn_cons_eq_if_modifyHead] at hpart
    split at hpart
    · rcases List.mem_cons.mp hpart with rfl | hpart
      · exact List.not_mem_nil
      · exact ih hpart
    · rename_i hb
      cases hsplit : cs.splitOn a with
      | nil => exact absurd hsplit (List.splitOn_ne_nil a cs)
      | cons first parts =>
        rw [hsplit] at hpart ih
        rcases List.mem_cons.mp hpart with rfl | hpart
        · have hne : a ≠ b := fun heq => hb (by simp [heq])
          rw [List.mem_cons, not_or]
          exact ⟨hne, ih List.mem_cons_self⟩
        · exact ih (List.mem_cons_of_mem _ hpart)

theorem slash_not_mem_of_mem_pieces {p piece : String} (h : piece ∈ pieces p) : '/' ∉ piece.toList := by
  obtain ⟨part, hpart, rfl⟩ := List.mem_map.mp h
  rw [String.toList_ofList]
  exact not_mem_of_mem_splitOn hpart

theorem isAbsolute_append {p : String} (h : p ≠ "") (q : String) : isAbsolute (p ++ q) = isAbsolute p := by
  unfold isAbsolute
  cases hp : p.toList with
  | nil => exact absurd (String.toList_eq_nil_iff.mp hp) h
  | cons a as => simp [hp]

theorem isAbsolute_eq_false {p : String} (h : '/' ∉ p.toList) : isAbsolute p = false := by
  unfold isAbsolute
  cases hp : p.toList with
  | nil => rfl
  | cons c cs =>
    rw [hp] at h
    have : c ≠ '/' := fun hc => h (hc ▸ List.mem_cons_self)
    simpa using this

theorem exists_eq_append_slash {p : String} (h : p.toList.getLast? = some '/') : ∃ q, p = q ++ "/" := by
  obtain ⟨cs, hcs⟩ := List.getLast?_eq_some_iff.mp h
  refine ⟨String.ofList cs, ?_⟩
  apply String.toList_injective
  simp [hcs]

theorem exists_first_slash {p : String} (h : '/' ∈ p.toList) :
    ∃ a b, p = a ++ "/" ++ b ∧ '/' ∉ a.toList := by
  obtain ⟨before, after, hsplit, hbefore⟩ := List.eq_append_cons_of_mem h
  refine ⟨String.ofList before, String.ofList after, ?_, by simpa using hbefore⟩
  apply String.toList_injective
  simp [hsplit]

theorem exists_last_slash {p : String} (h : '/' ∈ p.toList) :
    ∃ a b, p = a ++ "/" ++ b ∧ '/' ∉ b.toList := by
  obtain ⟨after, before, hsplit, hafter⟩ := List.eq_append_cons_of_mem (List.mem_reverse.mpr h)
  have hlist : p.toList = before.reverse ++ '/' :: after.reverse := by
    rw [← List.reverse_reverse p.toList, hsplit]
    simp
  refine ⟨String.ofList before.reverse, String.ofList after.reverse, ?_, by simpa using hafter⟩
  apply String.toList_injective
  simp [hlist]

end Path

theorem FileName.val_ne (n : FileName) :
    n.val ≠ "" ∧ n.val ≠ "." ∧ n.val ≠ ".." ∧ '/' ∉ n.val.toList := by
  have h := n.property
  simp only [isFileName, Bool.and_eq_true, bne_iff_ne, List.all_eq_true, decide_eq_true_eq] at h
  exact ⟨h.1.1.1.1, h.1.1.1.2, h.1.1.2, fun hmem => (h.2 _ hmem).1 rfl⟩

theorem FileName.ofText?_eq_some_iff {s : String} {n : FileName} : FileName.ofText? s = some n ↔ n.val = s := by
  constructor
  · intro h
    unfold FileName.ofText? at h
    split at h
    · obtain rfl := Option.some.inj h
      rfl
    · cases h
  · rintro rfl
    exact FileName.ofText?_val n

namespace Disk

/-! ## Walks -/

/-- A walk takes a piece from a directory: it stays there, goes up, or goes on to an entry. -/
theorem walk_singleton_iff {d : Disk} {l k : Location} {p : String} :
    d.walk l [p] = some k ↔ d.isDirectory l = true ∧ ((p = "" ∨ p = ".") ∧ k = l ∨ p = ".." ∧ k = l.tail ∨
      ∃ name : FileName, name.val = p ∧ k = name :: l) := by
  constructor
  · intro h
    unfold walk at h
    split at h
    · cases h
    rename_i hdir
    refine ⟨by simpa using hdir, ?_⟩
    split at h
    · rename_i hstay
      exact Or.inl ⟨by simpa using hstay, (Option.some.inj h).symm⟩
    split at h
    · rename_i hup
      exact Or.inr (Or.inl ⟨hup, (Option.some.inj h).symm⟩)
    split at h
    · rename_i name hname
      exact Or.inr (Or.inr ⟨name, FileName.ofText?_eq_some_iff.mp hname, (Option.some.inj h).symm⟩)
    · cases h
  · rintro ⟨hdir, ⟨rfl | rfl, rfl⟩ | ⟨rfl, rfl⟩ | ⟨name, rfl, rfl⟩⟩
    · simp [walk, hdir]
    · simp [walk, hdir]
    · simp [walk, hdir]
    · obtain ⟨hempty, hhere, hup, -⟩ := name.val_ne
      simp [walk, hdir, hempty, hhere, hup, FileName.ofText?_val]

theorem walk_append (d : Disk) (l : Location) (ps qs : List String) :
    d.walk l (ps ++ qs) = (d.walk l ps).bind fun k => d.walk k qs := by
  induction ps generalizing l with
  | nil => rfl
  | cons p ps ih =>
    rw [List.cons_append, walk, walk]
    split
    · rfl
    split
    · exact ih l
    split
    · exact ih l.tail
    split
    · exact ih _
    · rfl

theorem walk_cons_iff {d : Disk} {l k : Location} {p : String} {ps : List String} :
    d.walk l (p :: ps) = some k ↔ ∃ j, d.walk l [p] = some j ∧ d.walk j ps = some k := by
  have := walk_append d l [p] ps
  rw [List.singleton_append] at this
  rw [this, Option.bind_eq_some_iff]

/-- Directories that come up are not in the way of a walk. -/
theorem walk_mono {d d' : Disk} (h : ∀ l, d.isDirectory l = true → d'.isDirectory l = true)
    {l k : Location} {ps : List String} (hwalk : d.walk l ps = some k) : d'.walk l ps = some k := by
  induction ps generalizing l with
  | nil => exact hwalk
  | cons p ps ih =>
    obtain ⟨j, hj, hk⟩ := walk_cons_iff.mp hwalk
    obtain ⟨hdir, hstep⟩ := walk_singleton_iff.mp hj
    exact walk_cons_iff.mpr ⟨j, walk_singleton_iff.mpr ⟨h l hdir, hstep⟩, ih hk⟩

/-- A walk with no step upwards stays below the directory that it starts from. -/
theorem exists_append_of_walk {d : Disk} {l k : Location} {ps : List String} (hup : ∀ p ∈ ps, p ≠ "..")
    (hwalk : d.walk l ps = some k) : ∃ rest, k = rest ++ l := by
  induction ps generalizing l with
  | nil => exact ⟨[], (Option.some.inj hwalk).symm⟩
  | cons p ps ih =>
    obtain ⟨j, hj, hk⟩ := walk_cons_iff.mp hwalk
    obtain ⟨rest, rfl⟩ := ih (fun q hq => hup q (List.mem_cons_of_mem _ hq)) hk
    obtain ⟨-, ⟨-, rfl⟩ | ⟨hp, -⟩ | ⟨name, -, rfl⟩⟩ := walk_singleton_iff.mp hj
    · exact ⟨rest, rfl⟩
    · exact absurd hp (hup p List.mem_cons_self)
    · exact ⟨rest ++ [name], by simp⟩

/-- A piece that is no step of a path by itself leads to an entry of the directory. -/
theorem walk_name_iff {d : Disk} {l k : Location} {p : String} (hempty : p ≠ "") (hhere : p ≠ ".")
    (hup : p ≠ "..") :
    d.walk l [p] = some k ↔ d.isDirectory l = true ∧ ∃ name : FileName, name.val = p ∧ k = name :: l := by
  rw [walk_singleton_iff]
  simp [hempty, hhere, hup]

theorem isDirectory_of_walk {d : Disk} {l k : Location} {ps : List String} (hps : ps ≠ [])
    (h : d.walk l ps = some k) : d.isDirectory l = true := by
  cases ps with
  | nil => exact absurd rfl hps
  | cons p ps =>
    obtain ⟨j, hj, -⟩ := walk_cons_iff.mp h
    exact (walk_singleton_iff.mp hj).1

/-- What stands after the last slash of a path with a slash at its end leads on from a directory. -/
theorem walk_append_empty_iff {d : Disk} {l k : Location} {ps : List String} :
    d.walk l (ps ++ [""]) = some k ↔ d.walk l ps = some k ∧ d.isDirectory k = true := by
  rw [walk_append, Option.bind_eq_some_iff]
  constructor
  · rintro ⟨j, hj, hk⟩
    obtain ⟨hdir, ⟨-, rfl⟩ | ⟨hup, -⟩ | ⟨name, hname, -⟩⟩ := walk_singleton_iff.mp hk
    · exact ⟨hj, hdir⟩
    · exact absurd hup (by decide)
    · exact absurd hname name.val_ne.1
  · rintro ⟨hk, hdir⟩
    exact ⟨k, hk, walk_singleton_iff.mpr ⟨hdir, Or.inl ⟨Or.inl rfl, rfl⟩⟩⟩

/-! ## Locations of paths -/

theorem locate?_mono {d d' : Disk} (hwork : d'.workDir = d.workDir)
    (h : ∀ l, d.isDirectory l = true → d'.isDirectory l = true) {p : String} {l : Location}
    (hp : d.locate? p = some l) : d'.locate? p = some l := by
  unfold locate? at hp ⊢
  rw [hwork]
  split at hp
  · cases hp
  rename_i hempty
  rw [if_neg hempty]
  exact walk_mono h hp

/-- The location that a path starts from. -/
def start (d : Disk) (p : String) : Location := if Path.isAbsolute p then [] else d.workDir

theorem start_append (d : Disk) {p : String} (hp : p ≠ "") (q : String) : d.start (p ++ q) = d.start p := by
  rw [start, start, Path.isAbsolute_append hp]

theorem locate?_of_ne_empty {d : Disk} {p : String} (hp : p ≠ "") :
    d.locate? p = d.walk (d.start p) (Path.pieces p) := by
  simp [locate?, start, hp]

theorem locate?_append_slash_iff {d : Disk} {p : String} (hp : p ≠ "") {l : Location} :
    d.locate? (p ++ "/") = some l ↔ d.locate? p = some l ∧ d.isDirectory l = true := by
  have hpieces := Path.pieces_append_slash p ""
  rw [String.append_empty] at hpieces
  rw [locate?_of_ne_empty (by simp), locate?_of_ne_empty hp, start_append d hp, hpieces]
  exact walk_append_empty_iff

/-- A relative path seen from another leads on from where that one leads. -/
theorem locate?_join_iff {d : Disk} {p q : String} (hp : p ≠ "") (hq : Path.isAbsolute q = false)
    {k : Location} : d.locate? (Path.join p q) = some k ↔
      ∃ l, d.locate? p = some l ∧ d.walk l (Path.pieces q) = some k := by
  unfold Path.join
  rw [hq, if_neg Bool.false_ne_true]
  -- A path that ends in a slash has a last piece that is empty; the other path takes its place.
  by_cases hslash : p.toList.getLast? = some '/'
  · obtain ⟨b, rfl⟩ := Path.exists_eq_append_slash hslash
    have hpieces := Path.pieces_append_slash b ""
    rw [String.append_empty] at hpieces
    rw [if_pos (by simp), locate?_of_ne_empty (by simp), locate?_of_ne_empty hp, start_append d hp,
      Path.pieces_append_slash, walk_append, Option.bind_eq_some_iff, hpieces]
    constructor
    · rintro ⟨l, hl, hk⟩
      have hdir := isDirectory_of_walk (Path.pieces_ne_nil q) hk
      exact ⟨l, walk_append_empty_iff.mpr ⟨hl, hdir⟩, hk⟩
    · rintro ⟨l, hl, hk⟩
      exact ⟨l, (walk_append_empty_iff.mp hl).1, hk⟩
  · rw [if_neg (by simp [hp, hslash]), locate?_of_ne_empty (by simp), locate?_of_ne_empty hp,
      String.append_assoc, start_append d hp, ← String.append_assoc, Path.pieces_append_slash, walk_append,
      Option.bind_eq_some_iff]

theorem hasFile_iff {d : Disk} {p : String} :
    d.hasFile p = true ↔ ∃ l, d.locate? p = some l ∧ d.hasFileAt l = true := Option.any_eq_true ..

theorem hasDirectory_iff {d : Disk} {p : String} :
    d.hasDirectory p = true ↔ ∃ l, d.locate? p = some l ∧ d.isDirectory l = true := Option.any_eq_true ..

theorem isSome_at?_iff {d : Disk} {p : String} :
    (d.at? p).isSome = true ↔ ∃ l, d.locate? p = some l ∧ (d.get? l).isSome = true := by
  rw [at?, Option.isSome_bind, Option.any_eq_true]

theorem ne_empty_of_locate? {d : Disk} {p : String} {l : Location} (h : d.locate? p = some l) : p ≠ "" := by
  rintro rfl
  cases h

/-! ## Slashes at the end -/

theorem exists_slashes (p : String) : ∃ n, p = withoutEnd p ++ slashes n := by
  unfold withoutEnd
  simp only
  split
  · exact ⟨0, (String.append_empty ..).symm⟩
  · exact exists_slashes_trimEndOf p

theorem locate?_append_slashes {d : Disk} {p : String} {l : Location} (hl : d.locate? p = some l)
    (hdir : d.isDirectory l = true) (n : Nat) : d.locate? (p ++ slashes n) = some l := by
  induction n with
  | zero => simpa [slashes] using hl
  | succ n ih =>
    rw [slashes_succ, ← String.append_assoc]
    exact (locate?_append_slash_iff (ne_empty_of_locate? ih)).mpr ⟨ih, hdir⟩

/-- The slashes at the end of the path of a directory do not matter. -/
theorem locate?_of_withoutEnd {d : Disk} {p : String} {l : Location} (hl : d.locate? (withoutEnd p) = some l)
    (hdir : d.isDirectory l = true) : d.locate? p = some l := by
  obtain ⟨n, hn⟩ := exists_slashes p
  rw [hn]
  exact locate?_append_slashes hl hdir n

end Disk

end WireTypes
