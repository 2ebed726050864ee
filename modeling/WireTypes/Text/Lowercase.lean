import WireTypes.Text.Case

/-!
# Lowercase text

* `endsWord before after` : a sigma between `before` and `after` ends its word;
* `toLower s` : `s` in lowercase, character by character, a final sigma in its final form.

Two texts are equal "up to case" in this library when their `toLower` is equal.
-/

namespace WireTypes.Text

/-- The capital sigma. -/
def capitalSigma : Char := Char.ofNat 0x3a3

/-- Whether the first character that counts has case. -/
def startsCased (cs : List Char) : Bool :=
  match cs.dropWhile isCaseIgnorable with
  | c :: _ => isCased c
  | [] => false

/-- Whether a sigma ends its word: a cased character comes before it (`before` is read backwards)
and none comes after it, characters that case ignores apart. -/
def endsWord (before after : List Char) : Bool := startsCased before && !startsCased after

/-- The lowercase of the characters after `before`, which is kept in reverse. -/
def lowerAfter (before : List Char) : List Char → List Char
  | [] => []
  | c :: cs =>
    let low :=
      if c = capitalSigma then [Char.ofNat (if endsWord before cs then 0x3c2 else 0x3c3)]
      else lowerChar c
    low ++ lowerAfter (c :: before) cs

/-- `s` in lowercase. -/
def toLower (s : String) : String := String.ofList (lowerAfter [] s.toList)

@[simp] theorem toLower_empty : toLower "" = "" := rfl

end WireTypes.Text
