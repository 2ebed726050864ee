import WireTypes.Document.Escape
import WireTypes.Document.Value
import WireTypes.Document.Yaml.Cursor

/-!
# YAML scalars

* `Gap` : the blanks and line ends between the words of a scalar, and what they are folded to;
* `Scalar` : the value of a scalar, the line of its last character, and the place behind it;
* `readPlain`, `readSingle`, `readDouble` : scalars without quotes, in single and in double quotes.
-/

namespace WireTypes.Document.Yaml

/-! ## Gaps -/

/-- What lies between two words: blanks, or line ends with blanks around them. -/
inductive Gap where
  | blanks (cs : List Char)
  | breaks (first : Option Char) (more : List Char)
  deriving Repr, DecidableEq, Inhabited

namespace Gap

/-- Nothing. -/
def empty : Gap := .blanks []

/-- The gap with one more blank. Blanks beside line ends do not count. -/
def addBlank (c : Char) : Gap → Gap
  | blanks cs => blanks (cs ++ [c])
  | breaks first more => breaks first more

/-- The gap with one more line end. -/
def addBreak (c : Char) : Gap → Gap
  | blanks _ => breaks (some c) []
  | breaks first more => breaks first (more ++ [c])

/-- Whether the gap holds a line end. -/
def isBroken : Gap → Bool
  | blanks _ => false
  | breaks _ _ => true

/-- The characters that the gap is folded to: a single line feed becomes a space, of several the
first is dropped. -/
def fold : Gap → List Char
  | blanks cs => cs
  | breaks (some '\n') [] => [' ']
  | breaks (some '\n') more => more
  | breaks (some c) more => c :: more
  | breaks none more => more

end Gap

/-- A scalar that has been read. -/
structure Scalar where
  value : Value
  /-- The line of the last character. -/
  endLine : Nat
  after : Cursor
  deriving Repr, Inhabited

/-! ## Plain scalars -/

/-- Characters that mean something at the start of a scalar. -/
def indicators : List Char :=
  ['-', '?', ':', ',', '[', ']', '\x7b', '\x7d', '#', '&', '*', '!', '|', '>', '\'', '"', '%', '@',
    Char.ofNat 0x60]

/-- Brackets and commas, which end a plain scalar inside brackets. -/
def isFlowMark (c : Char) : Bool := [',', '[', ']', '\x7b', '\x7d'].contains c

/-- Whether a plain scalar starts here. -/
def startsPlain (flow : Bool) : List Char → Bool
  | [] => false
  | c :: rest =>
    if isSpacing c || isBreak c then false
    else if c = '-' then !startsBlank rest
    else if c = '?' || c = ':' then !flow && !startsBlank rest
    else !indicators.contains c

/-- Whether the scalar ends before a character that is no blank. -/
def endsPlain (flow : Bool) (c : Char) (rest : List Char) : Bool :=
  (c = ':' && startsBlank rest) || (flow && isFlowMark c)

/-- Whether a word may not start here: at a comment, at a marker of documents, and on a later line,
outside of brackets, left of the column `least`. -/
def stopsWord (flow : Bool) (least : Nat) (gap : Gap) (c : Cursor) : Bool :=
  c.atBoundary || (gap != .empty && c.rest.head? = some '#') ||
    (gap.isBroken && !flow && c.column < least)

/-- Goes on with a plain scalar whose characters so far are `word`, `c` being the place of the text
in the last argument. A tab left of the column `least` is refused on later lines. -/
def plainFrom (flow : Bool) (least : Nat) (word : List Char) (gap : Gap) (endLine : Nat)
    (c : Cursor) : List Char → Option Scalar
  | [] => some ⟨.plain (String.ofList word), endLine, { c with rest := [] }⟩
  | x :: rest =>
    let here : Cursor := { c with rest := x :: rest }
    if isBreak x then plainFrom flow least word (gap.addBreak x) endLine (c.past x rest) rest
    else if isSpacing x then
      if x = '\t' && gap.isBroken && c.column < least then none
      else plainFrom flow least word (gap.addBlank x) endLine (c.past x rest) rest
    else if stopsWord flow least gap here || endsPlain flow x rest then
      some ⟨.plain (String.ofList word), endLine, here⟩
    else if flow && x = ':' && rest.head?.any fun y => isFlowMark y || y = '?' then none
    else plainFrom flow least (word ++ gap.fold ++ [x]) .empty c.line (c.past x rest) rest

/-- A plain scalar. Its later lines start at the column `least` or to the right of it. -/
def readPlain (flow : Bool) (least : Nat) (c : Cursor) : Option Scalar :=
  if startsPlain flow c.rest then plainFrom flow least [] .empty c.line c c.rest else none

/-! ## Quoted scalars -/

/-- A scalar in quotes whose closing quote has been read. -/
def closed (text : List Char) (c : Cursor) : Scalar := ⟨.text (String.ofList text), c.line, c⟩

/-- Goes on inside single quotes, behind the text so far. Two quotes stand for one. -/
def singleFrom (text : List Char) (gap : Gap) (c : Cursor) : List Char → Option Scalar
  | [] => none
  | '\'' :: '\'' :: rest =>
    singleFrom (text ++ gap.fold ++ ['\'']) .empty ((c.past '\'' []).past '\'' rest) rest
  | x :: rest =>
    if isBreak x then singleFrom text (gap.addBreak x) (c.past x rest) rest
    else if isSpacing x then singleFrom text (gap.addBlank x) (c.past x rest) rest
    else if Cursor.atBoundary { c with rest := x :: rest } then none
    else if x = '\'' then some (closed (text ++ gap.fold) (c.past x rest))
    else singleFrom (text ++ gap.fold ++ [x]) .empty (c.past x rest) rest

/-- A scalar in single quotes. -/
def readSingle (c : Cursor) : Option Scalar :=
  match c.rest with
  | '\'' :: rest => singleFrom [] .empty (c.past '\'' rest) rest
  | _ => none

/-- The character that a letter behind a backslash stands for. -/
def shortEscape? : Char → Option Nat
  | '0' => some 0x00
  | 'a' => some 0x07
  | 'b' => some 0x08
  | 't' => some 0x09
  | '\t' => some 0x09
  | 'n' => some 0x0a
  | 'v' => some 0x0b
  | 'f' => some 0x0c
  | 'r' => some 0x0d
  | 'e' => some 0x1b
  | ' ' => some 0x20
  | '"' => some 0x22
  | '/' => some 0x2f
  | '\\' => some 0x5c
  | 'N' => some 0x85
  | '_' => some 0xa0
  | 'L' => some 0x2028
  | 'P' => some 0x2029
  | _ => none

/-- The character that an escape stands for, and how many characters it takes behind its backslash. -/
def escape? : List Char → Option (Char × Nat)
  | [] => none
  | x :: rest =>
    match shortEscape? x, escapeWidth? x with
    | some n, _ => some (Char.ofNat n, 1)
    | none, some width =>
      if rest.length < width then none
      else (codePoint? (rest.take width)).map fun c => (c, width + 1)
    | none, none => none

/-- Goes on inside double quotes, behind the text so far. A backslash at the end of a line joins it
with the next one. -/
def doubleFrom (text : List Char) (gap : Gap) (c : Cursor) : List Char → Option Scalar
  | [] => none
  | x :: rest =>
    let after := c.past x rest
    if isBreak x then doubleFrom text (gap.addBreak x) after rest
    else if isSpacing x then doubleFrom text (gap.addBlank x) after rest
    else if Cursor.atBoundary { c with rest := x :: rest } then none
    else if x = '"' then some (closed (text ++ gap.fold) after)
    else if x != '\\' then doubleFrom (text ++ gap.fold ++ [x]) .empty after rest
    else
      match rest with
      | [] => none
      | y :: rest' =>
        if isBreak y then doubleFrom (text ++ gap.fold) (.breaks none []) (after.past y rest') rest'
        else
          match escape? (y :: rest') with
          | some (z, width) =>
            doubleFrom (text ++ gap.fold ++ [z]) .empty (after.advance width) ((y :: rest').drop width)
          | none => none
termination_by cs => cs.length
decreasing_by all_goals simp only [List.length_cons, List.length_drop]; omega

/-- A scalar in double quotes. -/
def readDouble (c : Cursor) : Option Scalar :=
  match c.rest with
  | '"' :: rest => doubleFrom [] .empty (c.past '"' rest) rest
  | _ => none

end WireTypes.Document.Yaml
