import WireTypes.TypeRef.Basic

/-!
# Identities of types

* `TypeId` : the name of a module and the full name of a type in it;
* identities are ordered by module, then by name, each character by character.
-/

namespace WireTypes

/-- A declared type: its module and its full name there. -/
structure TypeId where
  module : String
  name : String
  deriving Repr, DecidableEq, Inhabited

namespace TypeId

/-- The name of the type by itself. -/
def simpleName (id : TypeId) : String := WireTypes.simpleName id.name

/-- The identity in writing, with the module in parentheses. -/
def toText (id : TypeId) : String := id.name ++ " (" ++ id.module ++ ")"

/-! ## Order -/

instance : Ord TypeId := ⟨compareLex (compareOn TypeId.module) (compareOn TypeId.name)⟩

theorem compare_def (a b : TypeId) :
    compare a b = (compare a.module b.module).then (compare a.name b.name) := rfl

instance : Std.TransOrd TypeId :=
  inferInstanceAs (Std.TransCmp (compareLex (compareOn TypeId.module) (compareOn TypeId.name)))

instance : Std.LawfulEqOrd TypeId where
  compare_self := by simp
  eq_of_compare {a b} h := by
    rw [compare_def, Ordering.then_eq_eq, Std.LawfulEqOrd.compare_eq_iff_eq,
      Std.LawfulEqOrd.compare_eq_iff_eq] at h
    cases a; cases b; simp_all

end TypeId

end WireTypes
