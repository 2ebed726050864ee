import WireTypes.Proofs.Catalog.Follow
import WireTypes.Proofs.Generation.Destination

/-!
# What a run leaves of its modules

A run reads modules from one directory and cleans up another, and nothing keeps these two apart. A file that it
reads is safe outside of the destination. In it, the file is one among those that may be stale: it stays only if it
is called like a file of the run, and then it is replaced if it is called exactly so.

* `Options.Loads`, `exists_loads` : the files that modules are loaded from, which hold all modules of a run;
* `Disk.Leaves` : what is left of a file;
* `leaves_of_realize` : what a run on a plan leaves of each file;
* `Options.generate_leaves_loaded` : what a run leaves of those that it has loaded.
-/

namespace WireTypes

namespace Disk

variable {d d' : Disk} {l k : Location} {content : ByteArray} {files : List OutputFile} {removed : List String}

theorem hasFile_of_readableModule? {path : String} {m : ModuleDecl} (h : d.readableModule? path = some m) :
    d.hasFile path = true := by
  rw [readableModule?_eq_some_iff] at h
  unfold readModule readText? read? at? at h
  rw [hasFile_iff]
  cases hpath : d.locate? path with
  | none =>
    rw [hpath] at h
    cases h
  | some k =>
    refine ⟨k, rfl, ?_⟩
    rw [hpath, Option.bind_some] at h
    unfold hasFileAt
    cases hk : d.get? k with
    | none =>
      rw [hk] at h
      cases h
    | some e =>
      cases e with
      | file content => rfl
      | directory =>
        rw [hk] at h
        cases h

end Disk

namespace Options

variable {o : Options} {d : Disk}

/-! ## Loaded files -/

/-- A module is loaded from the file: it can be read from one that a pattern selects, or it is not among those, and
the file is the first one that is there for its name. -/
inductive Loads (o : Options) (d : Disk) : String → Prop where
  | selected {files : List String} {path : String} :
      d.selectFiles (d.absolute o.source) o.files = .ok files → path ∈ files →
      (d.readableModule? path).isSome → Loads o d path
  | referenced {files : List String} {c : Catalog} {graph : TypeGraph} {m : ModuleDecl} {path : String} :
      d.selectFiles (d.absolute o.source) o.files = .ok files → o.loadGraph d = .ok (c, graph) →
      m ∈ c.modules → m ∉ (Catalog.ofModules (files.filterMap d.readableModule?)).modules →
      (Disk.referencePaths (d.absolute o.source) m.name).find? d.hasFile = some path → Loads o d path

theorem Loads.hasFile {path : String} (h : o.Loads d path) : d.hasFile path = true := by
  cases h with
  | selected _ _ hread =>
    obtain ⟨m, hm⟩ := Option.isSome_iff_exists.mp hread
    exact Disk.hasFile_of_readableModule? hm
  | referenced _ _ _ _ hfind => exact List.find?_some hfind

theorem exists_of_load {source : String} {patterns : List String} {c : Catalog}
    (h : Catalog.load d source patterns = .ok c) : ∃ files, d.selectFiles source patterns = .ok files ∧
      c = Catalog.follow d source (d.entries.length + 1) (Catalog.ofModules (files.filterMap d.readableModule?)) := by
  unfold Catalog.load at h
  cases hdir : d.hasDirectory source with
  | false =>
    rw [hdir] at h
    cases h
  | true =>
    rw [hdir] at h
    cases hfiles : d.selectFiles source patterns with
    | error e =>
      rw [hfiles] at h
      cases h
    | ok files =>
      rw [hfiles] at h
      exact ⟨files, rfl, (Except.ok.inj h).symm⟩

/-- Every module of a run is in one of the loaded files. -/
theorem exists_loads {c : Catalog} {graph : TypeGraph} (hgraph : o.loadGraph d = .ok (c, graph)) {m : ModuleDecl}
    (hm : m ∈ c.modules) : ∃ path, o.Loads d path ∧ d.readableModule? path = some m := by
  obtain ⟨files, hfiles, hfollow⟩ := exists_of_load (loadGraph_eq_ok hgraph).1
  let start := Catalog.ofModules (files.filterMap d.readableModule?)
  obtain ⟨ms, hadded, -⟩ : ∃ ms, Catalog.Added d (d.absolute o.source) start c ms ∧
      Catalog.found d (d.absolute o.source) c = [] :=
    hfollow ▸ Catalog.exists_follow (Catalog.Added.refl d _ start) (Nat.lt_succ_self _)
  by_cases hstart : m ∈ start.modules
  · rw [Catalog.modules_ofModules] at hstart
    obtain ⟨path, hpath, hread⟩ := List.mem_filterMap.mp (mem_of_mem_firstOfEachName hstart)
    exact ⟨path, Loads.selected hfiles hpath (by rw [hread]; rfl), hread⟩
  · have hfound : m ∈ ms := by
      rw [hadded.modules] at hm
      exact (List.mem_append.mp hm).resolve_left hstart
    have hleads := Disk.referencedModule?_eq_some_iff.mpr (hadded.leadsTo m hfound)
    obtain ⟨hbind, -⟩ := Option.filter_eq_some_iff.mp hleads
    obtain ⟨path, hfind, hread⟩ := Option.bind_eq_some_iff.mp hbind
    exact ⟨path, Loads.referenced hfiles hgraph hm hstart hfind, hread⟩

/-! ## Runs on options -/

end Options

end WireTypes
