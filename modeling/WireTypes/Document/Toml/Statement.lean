import WireTypes.Document.Toml.Scalar
import WireTypes.Document.Toml.Table

/-!
# TOML documents

* `readKey`, `readValue` : a dotted key, and a value with its lists and inline tables;
* `readLines` : the pairs and headers of a document, line by line;
* `parse` : the value of a document.

The numbers that the readers count down bound how deep values nest; twice the length of the text is
always enough.
-/

namespace WireTypes.Document.Toml

/-! ## Blanks -/

/-- The text after blanks. -/
def skipSpacing (cs : List Char) : List Char := cs.dropWhile isSpacing

/-- The text behind a comment, if one starts it. -/
def skipComment (cs : List Char) : List Char :=
  match cs with
  | '#' :: cs => cs.dropWhile isInline
  | cs => cs

/-- The text after blanks, comments and line ends; `comment` tells that it starts in a comment. -/
def skipLinesFrom (comment : Bool) : List Char → List Char
  | [] => []
  | c :: cs =>
    if c = '\n' then skipLinesFrom false cs
    else if comment then if isInline c then skipLinesFrom true cs else c :: cs
    else if isSpacing c then skipLinesFrom false cs
    else if c = '#' then skipLinesFrom true cs
    else c :: cs

/-- The text after blanks, comments and line ends. -/
def skipLines (cs : List Char) : List Char := skipLinesFrom false cs

/-! ## Keys -/

/-- Whether the character may stand in a key without quotes. -/
def isBareKey (c : Char) : Bool := c.isAlphanum || c = '_' || c = '-'

/-- One part of a key. -/
def readSimpleKey (cs : List Char) : Option (String × List Char) :=
  match cs with
  | '"' :: _ => readString false cs
  | '\'' :: _ => readString false cs
  | _ =>
    let name := cs.takeWhile isBareKey
    if name.isEmpty then none else some (String.ofList name, cs.dropWhile isBareKey)

/-- A key of one or more parts, and what follows it and the blanks behind it. -/
def readKey : Nat → List Char → Option (List String × List Char)
  | 0, _ => none
  | n + 1, cs => do
    let (key, rest) ← readSimpleKey (skipSpacing cs)
    match skipSpacing rest with
    | '.' :: rest =>
      let (keys, rest) ← readKey n rest
      return (key :: keys, rest)
    | rest => return ([key], rest)

/-! ## Values -/

mutual

/-- The value at the head of the text, and what follows it. -/
def readValue : Nat → List Char → Option (Value × List Char)
  | 0, _ => none
  | n + 1, cs =>
    match cs with
    | '[' :: rest => (readItems n (skipLines rest)).map fun (items, rest) => (.list items, rest)
    | '\x7b' :: rest =>
      (readInline n [] (skipLines rest)).map fun (members, rest) => (members.toValue, rest)
    | '"' :: _ => (readString true cs).map fun (s, rest) => (.text s, rest)
    | '\'' :: _ => (readString true cs).map fun (s, rest) => (.text s, rest)
    | _ =>
      let (bare, rest) := splitBare cs
      (bareValue? bare).map fun v => (v, rest)

/-- The items of a list up to its closing bracket. -/
def readItems : Nat → List Char → Option (List Value × List Char)
  | 0, _ => none
  | n + 1, cs =>
    match cs with
    | ']' :: rest => some ([], rest)
    | cs => do
      let (item, rest) ← readValue n cs
      match skipLines rest with
      | ']' :: rest => return ([item], rest)
      | ',' :: rest =>
        let (items, rest) ← readItems n (skipLines rest)
        return (item :: items, rest)
      | _ => none

/-- The members of an inline table, after those in `members`, up to its closing brace. -/
def readInline : Nat → Members → List Char → Option (Members × List Char)
  | 0, _, _ => none
  | n + 1, members, cs =>
    match cs with
    | '\x7d' :: rest => some (members, rest)
    | cs => do
      let (keys, rest) ← readKey cs.length cs
      let (value, rest) ← readValue n (skipSpacing (← after? '=' rest))
      let members ← members.addPair value keys
      match skipLines rest with
      | '\x7d' :: rest => return (members, rest)
      | ',' :: rest => readInline n members (skipLines rest)
      | _ => none

end

/-! ## Lines -/

/-- A line that says something. -/
inductive Line where
  | pair (keys : List String) (value : Value)
  | header (kind : HeaderKind) (keys : List String)
  deriving Repr, Inhabited

/-- A pair of a key and a value. -/
def readPair (cs : List Char) : Option (Line × List Char) := do
  let (keys, rest) ← readKey cs.length cs
  let rest := skipSpacing (← after? '=' rest)
  let (value, rest) ← readValue (2 * rest.length + 2) rest
  return (.pair keys value, rest)

/-- A header in one pair of brackets or in two. -/
def readHeader (cs : List Char) : Option (Line × List Char) :=
  match cs with
  | '[' :: '[' :: rest => do
    let (keys, rest) ← readKey rest.length rest
    return (.header .element keys, ← after? ']' (← after? ']' rest))
  | '[' :: rest => do
    let (keys, rest) ← readKey rest.length rest
    return (.header .table keys, ← after? ']' rest)
  | _ => none

/-- All lines that say something. Each ends with its line, a comment apart. -/
def readLines : Nat → List Char → Option (List Line)
  | 0, _ => none
  | n + 1, cs =>
    match skipLines cs with
    | [] => some []
    | c :: cs => do
      let (line, rest) ← if c = '[' then readHeader (c :: cs) else readPair (c :: cs)
      match skipComment (skipSpacing rest) with
      | [] => return [line]
      | '\n' :: rest => return line :: (← readLines n rest)
      | _ => none

/-! ## Documents -/

/-- The pairs before the first header, and the sections behind the headers. -/
def sections : List Line → List (List String × Value) × List Section
  | [] => ([], [])
  | .pair keys value :: lines =>
    let (pairs, rest) := sections lines
    ((keys, value) :: pairs, rest)
  | .header kind keys :: lines =>
    let (pairs, rest) := sections lines
    ([], ⟨kind, keys, pairs⟩ :: rest)

/-- Carriage returns before line feeds are left out. -/
def unifyBreaks : List Char → List Char
  | '\r' :: '\n' :: cs => '\n' :: unifyBreaks cs
  | c :: cs => c :: unifyBreaks cs
  | [] => []

/-- The value of a document. -/
def parse (s : String) : Option Value := do
  let cs := unifyBreaks s.toList
  let (pairs, rest) := sections (← readLines (cs.length + 1) cs)
  let root ← Members.addPairs [] pairs
  return (← rest.foldlM (fun members s => members.addSection s s.keys) root).toValue

end WireTypes.Document.Toml
