/-!
# Plain scalars

How a scalar without quotes reads as null, as a truth value and as an integer. Integers are decimal
without leading zeros, or hexadecimal, octal or binary behind `0x`, `0o` and `0b`.
-/

namespace WireTypes.Document.Plain

/-- Whether the scalar is a null. Nothing at all is one too. -/
def isNull (s : String) : Bool := ["", "~", "null", "Null", "NULL"].contains s

/-- The truth value that the scalar spells. -/
def bool? (s : String) : Option Bool :=
  if ["true", "True", "TRUE"].contains s then some true
  else if ["false", "False", "FALSE"].contains s then some false
  else none

/-- The value of a digit, up to `z`. -/
def digit? (c : Char) : Option Nat :=
  if c.isDigit then some (c.toNat - 48)
  else if c.isAlpha then some (c.toLower.toNat - 87)
  else none

/-- The number that digits in this radix write, at least one of them. -/
def digits? (radix : Nat) : List Char → Option Nat
  | [] => none
  | cs => cs.foldlM (fun n c => (digit? c).bind fun d =>
      if d < radix then some (n * radix + d) else none) 0

/-- The radix that a letter behind a zero announces. -/
def radix? : Char → Option Nat
  | 'x' => some 16
  | 'o' => some 8
  | 'b' => some 2
  | _ => none

/-- Whether the digits have a zero in front that does not count. -/
def hasLeadingZero (cs : List Char) : Bool :=
  match cs with
  | '0' :: _ :: _ => cs.all Char.isDigit
  | _ => false

/-- An unsigned integer: in the radix it announces, or decimal. -/
def unsigned? (cs : List Char) : Option Nat :=
  match cs with
  | '0' :: c :: ds =>
    match radix? c with
    | some radix => digits? radix ds
    | none => if hasLeadingZero cs then none else digits? 10 cs
  | _ => digits? 10 cs

/-- The integer that the scalar writes. -/
def integer? (s : String) : Option Int :=
  match s.toList with
  | '+' :: cs => (unsigned? cs).map Int.ofNat
  | '-' :: cs => (unsigned? cs).map fun n => -Int.ofNat n
  | cs => (unsigned? cs).map Int.ofNat

end WireTypes.Document.Plain
