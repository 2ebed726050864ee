/-!
# Characters by their code

* `hexDigit?`, `codePoint?` : the value of a hexadecimal digit, and the character of several;
* `escapeWidth?` : how many digits follow the letter of an escape.
-/

namespace WireTypes.Document

/-- The value of a hexadecimal digit. -/
def hexDigit? (c : Char) : Option Nat :=
  if c.isDigit then some (c.toNat - 48)
  else if 'a' ≤ c && c ≤ 'f' then some (c.toNat - 87)
  else if 'A' ≤ c && c ≤ 'F' then some (c.toNat - 55)
  else none

/-- The character that hexadecimal digits name. -/
def codePoint? (digits : List Char) : Option Char :=
  (digits.foldlM (fun n c => (hexDigit? c).map (n * 16 + ·)) 0).bind fun n =>
    if n.isValidChar then some (Char.ofNat n) else none

/-- How many hexadecimal digits follow a letter behind a backslash. -/
def escapeWidth? : Char → Option Nat
  | 'x' => some 2
  | 'u' => some 4
  | 'U' => some 8
  | _ => none

end WireTypes.Document
