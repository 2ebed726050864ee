import WireTypes.Text.CodePoints

/-!
# Blank characters

* `isBlank c` : the property `White_Space`;
* `trim s` : `s` without the blanks at its ends;
* `isBlankText s` : nothing but blanks.
-/

namespace WireTypes.Text

/-- The blank characters. -/
def blankRuns : List (Nat × Nat) :=
  [(0x9, 0xd), (0x20, 0x20), (0x85, 0x85), (0xa0, 0xa0), (0x1680, 0x1680), (0x2000, 0x200a),
   (0x2028, 0x2029), (0x202f, 0x202f), (0x205f, 0x205f), (0x3000, 0x3000)]

/-- Whether `c` is blank. -/
def isBlank (c : Char) : Bool := inRuns blankRuns c

/-- The characters of `cs` without those at its end that satisfy `p`. -/
def dropTail (p : Char → Bool) (cs : List Char) : List Char := (cs.reverse.dropWhile p).reverse

/-- `s` without the characters at its end that satisfy `p`. -/
def trimEndOf (p : Char → Bool) (s : String) : String := String.ofList (dropTail p s.toList)

/-- `s` without the characters at its ends that satisfy `p`. -/
def trimOf (p : Char → Bool) (s : String) : String :=
  String.ofList (dropTail p (s.toList.dropWhile p))

/-- `s` without the blanks at its ends. -/
def trim (s : String) : String := trimOf isBlank s

/-- Whether `s` holds nothing but blanks. -/
def isBlankText (s : String) : Bool := s.toList.all isBlank

theorem isBlank_of_isWhitespace {c : Char} (h : c.isWhitespace = true) : isBlank c = true := by
  simp only [Char.isWhitespace, Bool.or_eq_true, decide_eq_true_eq] at h
  rcases h with ((rfl | rfl) | rfl) | rfl <;> decide

end WireTypes.Text
