import Mathlib.Data.List.Pairwise
import WireTypes.Generation.Cleanup
import WireTypes.Proofs.Output.Assignment
import WireTypes.Proofs.Output.Index
import WireTypes.Proofs.Text.Sigma

/-!
# Names of files up to case

Names are given out so that they differ in lowercase, and the cleanup compares the lowercase of file names. An
extension changes the lowercase of a name only where the name ends in a capital sigma, which is no longer final then.
So the file names differ as well, unless such a name meets another one that has a small sigma in that place.

* `SameFile`, `sameFile_iff` : names whose files the cleanup does not tell apart;
* `sameFile_iff_sigmaTwins` : among names of different lowercase, these are twins;
* `not_sigmaTwins_index`, `pairwise_not_twins_iff` : the index is no twin of a name;
* `OutputNames.pairwise_fileNames_iff` : the files of all names that are given out differ exactly if there are no twins.
-/

namespace WireTypes

/-- Whether the cleanup takes the file of `a` for that of `b`: it leaves it when only `b` is generated. -/
def SameFile (a b : String) : Prop := staleNames [OutputFile.fileName a] [b] = []

theorem sameFile_iff {a b : String} :
    SameFile a b ↔ Text.toLower (OutputFile.fileName a) = Text.toLower (OutputFile.fileName b) := by
  simp [SameFile, staleNames]

/-- Of names that differ in lowercase, only twins have files that do not. -/
theorem sameFile_iff_sigmaTwins {a b : String} (h : Text.toLower a ≠ Text.toLower b) :
    SameFile a b ↔ Text.SigmaTwins a b ∨ Text.SigmaTwins b a := by
  have hlow : ∀ c ∈ ".ts".toList, c.toNat < 0x80 ∧ c.toLower = c := by simp
  have hcased : Text.startsCased ".ts".toList = true := by decide +kernel
  rw [sameFile_iff]
  exact Text.toLower_append_eq_iff hlow hcased h

/-- The index has no twin. -/
theorem not_sigmaTwins_index (name : String) :
    ¬Text.SigmaTwins indexName name ∧ ¬Text.SigmaTwins name indexName := by
  refine ⟨?_, ?_⟩
  · rintro ⟨⟨word, after, hchars, -⟩, -⟩
    have hmem : Text.capitalSigma ∈ indexName.toList := hchars ▸ by simp
    exact absurd hmem (by decide)
  · rintro ⟨-, low, tail, -, hchars, -⟩
    have hmem : Text.innerSigma ∈ (Text.toLower indexName).toList := hchars ▸ by simp
    exact absurd hmem (by decide +kernel)

/-- No two of a list of names and that of the index are twins if no two of the list are. -/
theorem pairwise_not_twins_iff (names : List String) :
    (indexName :: names).Pairwise (fun a b => ¬(Text.SigmaTwins a b ∨ Text.SigmaTwins b a)) ↔
      ∀ a ∈ names, ∀ b ∈ names, ¬Text.SigmaTwins a b := by
  constructor
  · intro h a ha b hb htwin
    have hsymm : Std.Symm fun a b => ¬(Text.SigmaTwins a b ∨ Text.SigmaTwins b a) := ⟨fun a b hab => mt Or.symm hab⟩
    have hself : ∀ a ∈ indexName :: names, ¬(Text.SigmaTwins a a ∨ Text.SigmaTwins a a) := by
      rintro a - (hself | hself) <;> exact hself.toLower_ne rfl
    exact List.Pairwise.forall_of_forall hself h (List.mem_cons_of_mem _ ha) (List.mem_cons_of_mem _ hb)
      (Or.inl htwin)
  · intro h
    refine List.pairwise_of_forall_mem_list fun a ha b hb => ?_
    rcases List.mem_cons.mp ha with rfl | ha
    · exact not_or.mpr (not_sigmaTwins_index b)
    rcases List.mem_cons.mp hb with rfl | hb
    · exact not_or.mpr (not_sigmaTwins_index a).symm
    · exact not_or.mpr ⟨h a ha b hb, h b hb a ha⟩

namespace OutputNames

/-- The names in the tables are those given out. -/
theorem map_snd_assign (models : ModelSet) (endpoints : List ClassifiedEndpoint) (withServices : Bool) :
    ((assign models endpoints withServices).models ++ (assign models endpoints withServices).services).map (·.2) =
      given models endpoints withServices := by
  rw [List.map_append, map_snd_models, map_snd_services, given_eq]

/-- **The cleanup tells the files of a run apart exactly if no two names are twins.** The names given to models and
services and that of the index differ in lowercase. Their files do too, unless one name ends in a capital sigma and
another one differs from it up to case in the form of that sigma only. -/
theorem pairwise_fileNames_iff (models : ModelSet) (endpoints : List ClassifiedEndpoint) (withServices : Bool) :
    let names := assign models endpoints withServices
    let given := (names.models ++ names.services).map (·.2)
    (indexName :: given).Pairwise (fun a b => ¬SameFile a b) ↔ ∀ a ∈ given, ∀ b ∈ given, ¬Text.SigmaTwins a b := by
  intro names given
  have hlower : (indexName :: given).Pairwise fun a b => Text.toLower a ≠ Text.toLower b := by
    have hgiven : given = OutputNames.given models endpoints withServices := map_snd_assign models endpoints withServices
    rw [hgiven]
    exact List.pairwise_map.mp nodup_toLower_given
  have htwins : (indexName :: given).Pairwise (fun a b => ¬SameFile a b) ↔
      (indexName :: given).Pairwise fun a b => ¬(Text.SigmaTwins a b ∨ Text.SigmaTwins b a) := by
    constructor
    · exact hlower.imp₂ fun a b hne hfile => mt (sameFile_iff_sigmaTwins hne).mpr hfile
    · exact hlower.imp₂ fun a b hne htwin => mt (sameFile_iff_sigmaTwins hne).mp htwin
  rw [htwins, pairwise_not_twins_iff]

/-- Two types whose names differ up to case in the form of a sigma at the end only. -/
def wordModels : ModelSet := OrderedSet.ofList [⟨"Shop", "Shop.ΛΟΓΟΣ"⟩, ⟨"Shop", "Shop.Λογοσ"⟩]

/-- Both keep their names, and the cleanup takes the file of one for that of the other. -/
theorem fileNames_wordModels :
    let names := assign wordModels [] true
    names.models.map (·.2) = ["ΛΟΓΟΣ", "Λογοσ"] ∧ SameFile "ΛΟΓΟΣ" "Λογοσ" ∧
      ¬(indexName :: (names.models ++ names.services).map (·.2)).Pairwise (fun a b => ¬SameFile a b) := by
  have hgiven : (assign wordModels [] true).models.map (·.2) = ["ΛΟΓΟΣ", "Λογοσ"] := by decide +kernel
  have hall : ((assign wordModels [] true).models ++ (assign wordModels [] true).services).map (·.2) =
      ["ΛΟΓΟΣ", "Λογοσ"] := by decide +kernel
  have hsame : SameFile "ΛΟΓΟΣ" "Λογοσ" := sameFile_iff.mpr (by decide +kernel)
  refine ⟨hgiven, hsame, ?_⟩
  rw [hall]
  intro h
  exact (List.pairwise_cons.mp (List.pairwise_cons.mp h).2).1 _ (List.mem_singleton_self _) hsame

end OutputNames

end WireTypes
