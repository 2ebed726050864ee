import WireTypes.Document.Escape
import WireTypes.Document.Value

/-!
# JSON

* `Json.parse` : the value that the whole of a text writes;
* `Json.render` : a value in compact form, without blanks.

The readers take the longest text they can at the head of a list of characters and give back what
follows. The numbers that they count down bound how deep values nest; the length of the text is
always enough.
-/

namespace WireTypes.Document.Json

/-! ## Strings -/

/-- The code unit that four hexadecimal digits write. -/
def codeUnit? (a b c d : Char) : Option Nat := do
  return (((← hexDigit? a) * 16 + (← hexDigit? b)) * 16 + (← hexDigit? c)) * 16 + (← hexDigit? d)

/-- The character that a letter behind a backslash stands for. -/
def shortEscape? : Char → Option Nat
  | '"' => some 0x22
  | '\\' => some 0x5c
  | '/' => some 0x2f
  | 'b' => some 0x08
  | 'f' => some 0x0c
  | 'n' => some 0x0a
  | 'r' => some 0x0d
  | 't' => some 0x09
  | _ => none

/-- The code points and code units of a string up to its closing quote, and what follows it. -/
def readUnits : List Char → Option (List Nat × List Char)
  | [] => none
  | '"' :: cs => some ([], cs)
  | '\\' :: 'u' :: a :: b :: c :: d :: cs => do
    let unit ← codeUnit? a b c d
    let (units, rest) ← readUnits cs
    return (unit :: units, rest)
  | '\\' :: c :: cs => do
    let unit ← shortEscape? c
    let (units, rest) ← readUnits cs
    return (unit :: units, rest)
  | c :: cs =>
    if c.toNat < 0x20 || c = '\\' then none
    else do
      let (units, rest) ← readUnits cs
      return (c.toNat :: units, rest)

/-- Whether `unit` is the first half of a surrogate pair. -/
def isHighHalf (unit : Nat) : Bool := 0xd800 ≤ unit && unit < 0xdc00

/-- Whether `unit` is the second half of a surrogate pair. -/
def isLowHalf (unit : Nat) : Bool := 0xdc00 ≤ unit && unit < 0xe000

/-- The characters of code units, unless a half of a surrogate pair stands alone. -/
def joinHalves : List Nat → Option (List Char)
  | [] => some []
  | [unit] => if isHighHalf unit || isLowHalf unit then none else some [Char.ofNat unit]
  | high :: low :: units =>
    if isHighHalf high && isLowHalf low then do
      return Char.ofNat (0x10000 + (high - 0xd800) * 0x400 + (low - 0xdc00)) :: (← joinHalves units)
    else if isHighHalf high || isLowHalf high then none
    else do return Char.ofNat high :: (← joinHalves (low :: units))

/-- The string behind an opening quote, and what follows it. -/
def readString (cs : List Char) : Option (Value × List Char) := do
  let (units, rest) ← readUnits cs
  match joinHalves units with
  | some chars => return (.text (String.ofList chars), rest)
  | none => return (.brokenText, rest)

/-! ## Numbers -/

/-- Splits the text behind its leading digits, at least one. -/
def readDigits (cs : List Char) : Option (List Char × List Char) :=
  match cs with
  | c :: _ => if c.isDigit then some (cs.takeWhile Char.isDigit, cs.dropWhile Char.isDigit) else none
  | [] => none

/-- The integer part of a number: no zero before other digits. -/
def readWhole : List Char → Option (List Char × List Char)
  | '0' :: c :: cs => if c.isDigit then none else some (['0'], c :: cs)
  | cs => readDigits cs

/-- The fraction of a number; there may be none. -/
def readFraction : List Char → Option (List Char × List Char)
  | '.' :: cs => (readDigits cs).map fun (ds, rest) => ('.' :: ds, rest)
  | cs => some ([], cs)

/-- The exponent of a number; there may be none. -/
def readExponent : List Char → Option (List Char × List Char)
  | e :: cs =>
    if e = 'e' || e = 'E' then
      match cs with
      | sign :: ds =>
        if sign = '+' || sign = '-' then
          (readDigits ds).map fun (ds, rest) => (e :: sign :: ds, rest)
        else (readDigits (sign :: ds)).map fun (ds, rest) => (e :: ds, rest)
      | [] => none
    else some ([], e :: cs)
  | [] => some ([], [])

/-- The number that decimal digits write. -/
def natOfDigits (ds : List Char) : Nat := ds.foldl (fun n c => n * 10 + (c.toNat - 48)) 0

/-- A number, `negative` when a minus sign has been read before it. Negative zero is no integer. -/
def readNumber (negative : Bool) (cs : List Char) : Option (Value × List Char) := do
  let (whole, rest) ← readWhole cs
  let (fraction, rest) ← readFraction rest
  let (exponent, rest) ← readExponent rest
  let n := natOfDigits whole
  if fraction.isEmpty && exponent.isEmpty && !(negative && n = 0) then
    return (.integer (if negative then -Int.ofNat n else Int.ofNat n), rest)
  else
    let sign := if negative then ['-'] else []
    return (.number (String.ofList (sign ++ whole ++ fraction ++ exponent)), rest)

/-! ## Values -/

/-- The blanks between the parts of a value. -/
def isSpacing (c : Char) : Bool := c = ' ' || c = '\t' || c = '\r' || c = '\n'

/-- The text after its leading blanks. -/
def skipSpacing (cs : List Char) : List Char := cs.dropWhile isSpacing

mutual

/-- The value at the head of the text, and what follows it. -/
def readValue : Nat → List Char → Option (Value × List Char)
  | 0, _ => none
  | n + 1, cs =>
    match cs with
    | 'n' :: 'u' :: 'l' :: 'l' :: rest => some (.null, rest)
    | 't' :: 'r' :: 'u' :: 'e' :: rest => some (.bool true, rest)
    | 'f' :: 'a' :: 'l' :: 's' :: 'e' :: rest => some (.bool false, rest)
    | '"' :: rest => readString rest
    | '-' :: rest => readNumber true rest
    | '[' :: rest =>
      match skipSpacing rest with
      | ']' :: rest => some (.list [], rest)
      | rest => (readItems n rest).map fun (items, rest) => (.list items, rest)
    | '\x7b' :: rest =>
      match skipSpacing rest with
      | '\x7d' :: rest => some (.record [], rest)
      | rest => (readMembers n rest).map fun (members, rest) => (.record members, rest)
    | rest => readNumber false rest

/-- The items of a list up to its closing bracket. -/
def readItems : Nat → List Char → Option (List Value × List Char)
  | 0, _ => none
  | n + 1, cs => do
    let (item, rest) ← readValue n (skipSpacing cs)
    match skipSpacing rest with
    | ']' :: rest => return ([item], rest)
    | ',' :: rest =>
      let (items, rest) ← readItems n rest
      return (item :: items, rest)
    | _ => none

/-- The members of a record up to its closing brace. -/
def readMembers : Nat → List Char → Option (List (Value × Value) × List Char)
  | 0, _ => none
  | n + 1, cs =>
    match skipSpacing cs with
    | '"' :: rest => do
      let (key, rest) ← readString rest
      match skipSpacing rest with
      | ':' :: rest =>
        let (value, rest) ← readValue n (skipSpacing rest)
        match skipSpacing rest with
        | '\x7d' :: rest => return ([(key, value)], rest)
        | ',' :: rest =>
          let (members, rest) ← readMembers n rest
          return ((key, value) :: members, rest)
        | _ => none
      | _ => none
    | _ => none

end

/-- The value that the whole of `s` writes, blanks at its ends apart. -/
def parse (s : String) : Option Value :=
  let cs := skipSpacing s.toList
  match readValue (cs.length + 1) cs with
  | some (v, rest) => if (skipSpacing rest).isEmpty then some v else none
  | none => none

/-! ## Writing -/

/-- A hexadecimal digit. -/
def hexDigit (n : Nat) : Char := Char.ofNat (if n < 10 then 48 + n else 87 + n)

/-- `c` inside double quotes. -/
def escape (c : Char) : List Char :=
  if c = '"' then ['\\', '"']
  else if c = '\\' then ['\\', '\\']
  else if c = '\n' then ['\\', 'n']
  else if c = '\r' then ['\\', 'r']
  else if c = '\t' then ['\\', 't']
  else if c.toNat = 0x08 then ['\\', 'b']
  else if c.toNat = 0x0c then ['\\', 'f']
  else if c.toNat < 0x20 then
    ['\\', 'u', '0', '0', hexDigit (c.toNat / 16), hexDigit (c.toNat % 16)]
  else [c]

/-- `s` between double quotes. -/
def quote (s : String) : String := "\"" ++ String.ofList (s.toList.flatMap escape) ++ "\""

mutual

/-- The value in compact form. -/
def render : Value → String
  | .null => "null"
  | .bool b => if b then "true" else "false"
  | .integer n => toString n
  | .number digits => digits
  | .text s => quote s
  | .plain s => quote s
  | .brokenText => "\"\""
  | .list items => "[" ++ renderItems items ++ "]"
  | .record members => "\x7b" ++ renderMembers members ++ "\x7d"

/-- The items of a list with commas between them. -/
def renderItems : List Value → String
  | [] => ""
  | [item] => render item
  | item :: items => render item ++ "," ++ renderItems items

/-- The members of a record with commas between them. -/
def renderMembers : List (Value × Value) → String
  | [] => ""
  | [(key, value)] => render key ++ ":" ++ render value
  | (key, value) :: members => render key ++ ":" ++ render value ++ "," ++ renderMembers members

end

end WireTypes.Document.Json
