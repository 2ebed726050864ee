/-!
# Sets of characters as runs of code points

* `inRuns runs c` : `c` lies in one of the runs, each given by its first and last code point;
* `inSteps steps c` : the same for runs that hold every `step`-th code point only.

The character properties of the sibling modules are tables of this kind.
-/

namespace WireTypes.Text

/-- Whether `c` lies in one of the runs `(first, last)`. -/
def inRuns (runs : List (Nat × Nat)) (c : Char) : Bool :=
  runs.any fun run => run.1 ≤ c.toNat && c.toNat ≤ run.2

/-- Whether `c` lies in one of the runs `(first, last, step)`, counted from `first` by `step`. -/
def inSteps (steps : List (Nat × Nat × Nat)) (c : Char) : Bool :=
  steps.any fun (first, last, step) =>
    first ≤ c.toNat && c.toNat ≤ last && (c.toNat - first) % step == 0

theorem inRuns_iff {runs : List (Nat × Nat)} {c : Char} :
    inRuns runs c = true ↔ ∃ run ∈ runs, run.1 ≤ c.toNat ∧ c.toNat ≤ run.2 := by
  simp [inRuns]

end WireTypes.Text
