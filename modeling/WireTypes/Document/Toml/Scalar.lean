import WireTypes.Document.Escape
import WireTypes.Document.Plain
import WireTypes.Document.Value

/-!
# TOML scalars

* `readString` : strings in double quotes, where a backslash starts an escape, or in single quotes,
  on one line or, with three quotes, on several;
* `bareValue?` : truth values, integers, decimal numbers, dates and times.

Lines end in line feeds here.
-/

namespace WireTypes.Document.Toml

/-- Whether the character is a blank inside a line. -/
def isSpacing (c : Char) : Bool := c = ' ' || c = '\t'

/-- Whether the character may stand in comments and on a line of a string. -/
def isInline (c : Char) : Bool := c = '\t' || (0x20 ≤ c.toNat && c.toNat != 0x7f)

/-! ## Strings -/

/-- The character that a letter behind a backslash stands for. -/
def shortEscape? : Char → Option Nat
  | 'b' => some 0x08
  | 't' => some 0x09
  | 'n' => some 0x0a
  | 'f' => some 0x0c
  | 'r' => some 0x0d
  | 'e' => some 0x1b
  | '"' => some 0x22
  | '\\' => some 0x5c
  | _ => none

/-- The character that an escape stands for, and what follows it. -/
def readEscape (cs : List Char) : Option (Char × { rest : List Char // rest.length < cs.length }) :=
  match cs with
  | [] => none
  | c :: rest =>
    match shortEscape? c, escapeWidth? c with
    | some n, _ => some (Char.ofNat n, ⟨rest, by simp⟩)
    | none, some width =>
      if rest.length < width then none
      else (codePoint? (rest.take width)).map fun c =>
        (c, ⟨rest.drop width, by simp only [List.length_drop, List.length_cons]; omega⟩)
    | none, none => none

/-- Whether only blanks are left on the line. -/
def endsLine (cs : List Char) : Bool := (cs.dropWhile isSpacing).head? = some '\n'

/-- The characters up to a closing double quote, and what follows it. -/
def readBasic (cs : List Char) : Option (List Char × List Char) :=
  match cs with
  | [] => none
  | '"' :: rest => some ([], rest)
  | '\\' :: rest =>
    match readEscape rest with
    | some (c, ⟨rest', _⟩) => (readBasic rest').map fun (text, after) => (c :: text, after)
    | none => none
  | c :: rest =>
    if isInline c then (readBasic rest).map fun (text, after) => (c :: text, after) else none
termination_by cs.length
decreasing_by all_goals simp only [List.length_cons]; omega

/-- The characters up to three closing double quotes, and what follows them; one or two more quotes
before them belong to the text. A backslash at the end of a line drops all blanks and line ends
behind it, and `trimming` tells that this goes on. -/
def readLongBasic (trimming : Bool) (cs : List Char) : Option (List Char × List Char) :=
  match cs with
  | [] => none
  | '"' :: '"' :: '"' :: '"' :: '"' :: rest => some (['"', '"'], rest)
  | '"' :: '"' :: '"' :: '"' :: rest => some (['"'], rest)
  | '"' :: '"' :: '"' :: rest => some ([], rest)
  | '\\' :: rest =>
    if endsLine rest then readLongBasic true rest
    else
      match readEscape rest with
      | some (c, ⟨rest', _⟩) => (readLongBasic false rest').map fun (text, after) => (c :: text, after)
      | none => none
  | c :: rest =>
    if trimming && (isSpacing c || c = '\n') then readLongBasic true rest
    else if isInline c || c = '\n' then
      (readLongBasic false rest).map fun (text, after) => (c :: text, after)
    else none
termination_by cs.length
decreasing_by all_goals simp only [List.length_cons]; omega

/-- The characters up to a closing single quote, and what follows it. -/
def readLiteral : List Char → Option (List Char × List Char)
  | [] => none
  | '\'' :: rest => some ([], rest)
  | c :: rest =>
    if isInline c then (readLiteral rest).map fun (text, after) => (c :: text, after) else none

/-- The characters up to three closing single quotes, and what follows them; one or two more quotes
before them belong to the text. -/
def readLongLiteral : List Char → Option (List Char × List Char)
  | [] => none
  | '\'' :: '\'' :: '\'' :: '\'' :: '\'' :: rest => some (['\'', '\''], rest)
  | '\'' :: '\'' :: '\'' :: '\'' :: rest => some (['\''], rest)
  | '\'' :: '\'' :: '\'' :: rest => some ([], rest)
  | c :: rest =>
    if isInline c || c = '\n' then
      (readLongLiteral rest).map fun (text, after) => (c :: text, after)
    else none

/-- The text without the line end that it starts with. -/
def afterBreak : List Char → List Char
  | '\n' :: cs => cs
  | cs => cs

/-- The string at the head of the text, and what follows it; `long` allows for several lines. -/
def readString (long : Bool) : List Char → Option (String × List Char)
  | '"' :: '"' :: '"' :: cs =>
    if long then (readLongBasic false (afterBreak cs)).map fun (text, rest) => (String.ofList text, rest)
    else some ("", '"' :: cs)
  | '\'' :: '\'' :: '\'' :: cs =>
    if long then (readLongLiteral (afterBreak cs)).map fun (text, rest) => (String.ofList text, rest)
    else some ("", '\'' :: cs)
  | '"' :: cs => (readBasic cs).map fun (text, rest) => (String.ofList text, rest)
  | '\'' :: cs => (readLiteral cs).map fun (text, rest) => (String.ofList text, rest)
  | _ => none

/-! ## Numbers -/

/-- The digits of a number, in which underscores may stand between two digits. -/
def digits? (isDigit : Char → Bool) (cs : List Char) : Option (List Char) :=
  let groups := cs.splitOn '_'
  if groups.all fun group => !group.isEmpty && group.all isDigit then some groups.flatten else none

/-- The text behind its sign. -/
def withoutSign : List Char → List Char
  | c :: cs => if c = '+' || c = '-' then cs else c :: cs
  | [] => []

/-- The digits of a decimal number without zeros in front. -/
def decimal? (cs : List Char) : Option (List Char) :=
  (digits? Char.isDigit cs).bind fun ds => if Plain.hasLeadingZero ds then none else some ds

/-- The number that digits in the radix write. -/
def radixNumber? (radix : Nat) (cs : List Char) : Option Nat :=
  (digits? (fun c => ((Plain.digit? c).any (· < radix))) cs).bind (Plain.digits? radix)

/-- The integer that the text writes. -/
def integer? (cs : List Char) : Option Int :=
  match cs with
  | '0' :: 'x' :: ds => (radixNumber? 16 ds).map Int.ofNat
  | '0' :: 'o' :: ds => (radixNumber? 8 ds).map Int.ofNat
  | '0' :: 'b' :: ds => (radixNumber? 2 ds).map Int.ofNat
  | _ => do
    let n ← Plain.digits? 10 (← decimal? (withoutSign cs))
    return if cs.head? = some '-' then -Int.ofNat n else Int.ofNat n

/-- Whether the text is a decimal number with a fraction or an exponent, infinite or no number. -/
def isDecimal (cs : List Char) : Bool :=
  let unsigned := withoutSign cs
  if unsigned = "inf".toList || unsigned = "nan".toList then true
  else
    let isExponentMark (c : Char) : Bool := c = 'e' || c = 'E'
    let mantissa := unsigned.takeWhile fun c => !isExponentMark c
    let exponent := unsigned.dropWhile fun c => !isExponentMark c
    let whole := mantissa.takeWhile (· != '.')
    let fraction := mantissa.dropWhile (· != '.')
    (decimal? whole).isSome &&
      (fraction.isEmpty || (digits? Char.isDigit fraction.tail).isSome) &&
      (exponent.isEmpty || (digits? Char.isDigit (withoutSign exponent.tail)).isSome) &&
      !(fraction.isEmpty && exponent.isEmpty)

/-! ## Dates and times -/

/-- The number that exactly `width` digits at the head of the text write, and what follows them. -/
def readFixed (width : Nat) (cs : List Char) : Option (Nat × List Char) :=
  let ds := cs.take width
  if ds.length = width && ds.all Char.isDigit then
    (Plain.digits? 10 ds).map fun n => (n, cs.drop width)
  else none

/-- What follows the character. -/
def after? (mark : Char) : List Char → Option (List Char)
  | c :: cs => if c = mark then some cs else none
  | [] => none

/-- How many days the month of a year has. -/
def daysIn (year month : Nat) : Nat :=
  if month = 2 then
    if year % 4 = 0 && (year % 100 != 0 || year % 400 = 0) then 29 else 28
  else if month = 4 || month = 6 || month = 9 || month = 11 then 30
  else 31

/-- What follows a date. -/
def afterDate (cs : List Char) : Option (List Char) := do
  let (year, cs) ← readFixed 4 cs
  let (month, cs) ← readFixed 2 (← after? '-' cs)
  let (day, cs) ← readFixed 2 (← after? '-' cs)
  if 1 ≤ month && month ≤ 12 && 1 ≤ day && day ≤ daysIn year month then return cs else none

/-- What follows hours and minutes. -/
def afterClock (cs : List Char) : Option (List Char) := do
  let (hour, cs) ← readFixed 2 cs
  let (minute, cs) ← readFixed 2 (← after? ':' cs)
  if hour < 24 && minute < 60 then return cs else none

/-- What follows the fraction of a second; there may be none. -/
def afterFraction : List Char → Option (List Char)
  | '.' :: c :: cs => if c.isDigit then some (cs.dropWhile Char.isDigit) else none
  | ['.'] => none
  | cs => some cs

/-- What follows a time. The seconds may be left out. -/
def afterTime (cs : List Char) : Option (List Char) := do
  let cs ← afterClock cs
  match cs with
  | ':' :: cs =>
    let (second, cs) ← readFixed 2 cs
    if second ≤ 60 then afterFraction cs else none
  | cs => return cs

/-- Whether the text is an offset from universal time, or empty. -/
def isOffset : List Char → Bool
  | [] => true
  | [c] => c = 'Z' || c = 'z'
  | c :: cs => (c = '+' || c = '-') && (afterClock cs).any List.isEmpty

/-- Whether the text is a date, a time, or both. -/
def isMoment (cs : List Char) : Bool :=
  (afterTime cs).any List.isEmpty ||
    match afterDate cs with
    | none => false
    | some [] => true
    | some (c :: cs) => (c = 'T' || c = 't' || c = ' ') && (afterTime cs).any isOffset

/-! ## Values without quotes -/

/-- Whether the character ends a value without quotes. -/
def endsBare (c : Char) : Bool := isSpacing c || ['\n', ',', ']', '\x7d', '#', '='].contains c

/-- The text up to the end of a value without quotes, and what follows it. A date and a time may have
a space between them. -/
def splitBare (cs : List Char) : List Char × List Char :=
  let first := cs.takeWhile fun c => !endsBare c
  let rest := cs.dropWhile fun c => !endsBare c
  match afterDate first, rest with
  | some [], ' ' :: c :: rest' =>
    if c.isDigit then
      (first ++ ' ' :: c :: rest'.takeWhile (fun c => !endsBare c), rest'.dropWhile fun c => !endsBare c)
    else (first, rest)
  | _, _ => (first, rest)

/-- The value that a text without quotes writes. -/
def bareValue? (cs : List Char) : Option Value :=
  if cs = "true".toList then some (.bool true)
  else if cs = "false".toList then some (.bool false)
  else
    match integer? cs with
    | some n => some (.integer n)
    | none => if isDecimal cs || isMoment cs then some (.number (String.ofList cs)) else none

end WireTypes.Document.Toml
