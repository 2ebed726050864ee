/-!
# Places in a YAML text

* `Cursor` : what follows a place, and its line and column;
* `Cursor.skip` : the next content, behind blanks, comments and line ends;
* `Cursor.atBoundary` : the end of the document, or a marker of documents at the start of a line.

Line ends are kept as single characters: `unifyBreaks` replaces the other spellings of a line feed.
-/

namespace WireTypes.Document.Yaml

/-! ## Characters -/

/-- Whether the character ends a line, in a text with unified line feeds. -/
def isBreak (c : Char) : Bool := c = '\n' || c.toNat = 0x2028 || c.toNat = 0x2029

/-- Whether the character is a blank inside a line. -/
def isSpacing (c : Char) : Bool := c = ' ' || c = '\t'

/-- Whether a text starts with a blank or a line end, or is over. -/
def startsBlank : List Char → Bool
  | [] => true
  | c :: _ => isSpacing c || isBreak c

/-- Carriage returns, alone or before a line feed, and next lines become line feeds. -/
def unifyBreaks : List Char → List Char
  | '\r' :: '\n' :: cs => '\n' :: unifyBreaks cs
  | c :: cs => (if c = '\r' || c.toNat = 0x85 then '\n' else c) :: unifyBreaks cs
  | [] => []

/-- Whether the character may stand in a document. -/
def isAllowed (c : Char) : Bool :=
  let n := c.toNat
  n = 0x09 || n = 0x0a || n = 0x0d || n = 0x85 || (0x20 ≤ n && n ≤ 0x7e) ||
    (0xa0 ≤ n && n ≤ 0xfffd && n != 0xfeff) || 0x10000 ≤ n

/-! ## Cursors -/

/-- A place in a text. Lines and columns count from zero. -/
structure Cursor where
  rest : List Char
  offset : Nat
  line : Nat
  column : Nat
  deriving Repr, Inhabited

namespace Cursor

/-- The start of a text. -/
def start (cs : List Char) : Cursor := ⟨cs, 0, 0, 0⟩

/-- The place behind the character `c`, with `rest` after it. -/
def past (at_ : Cursor) (c : Char) (rest : List Char) : Cursor :=
  if isBreak c then ⟨rest, at_.offset + 1, at_.line + 1, 0⟩
  else ⟨rest, at_.offset + 1, at_.line, at_.column + 1⟩

/-- The place behind the next `n` characters, none of which ends a line. -/
def advance (c : Cursor) (n : Nat) : Cursor :=
  { c with rest := c.rest.drop n, offset := c.offset + n, column := c.column + n }

/-- Whether three equal characters and a blank follow at the start of a line. -/
def atMarker (c : Cursor) (mark : Char) : Bool :=
  match c.rest with
  | x :: y :: z :: rest => c.column = 0 && x = mark && y = mark && z = mark && startsBlank rest
  | _ => false

/-- Whether the document is over here. -/
def atBoundary (c : Cursor) : Bool := c.rest.isEmpty || c.atMarker '-' || c.atMarker '.'

/-- Goes on from `c`, whose text is the last argument. Where `flow` is set, tabs are blanks
everywhere, else only on the first line and only where `tabs` is set. -/
def skipFrom (flow tabs comment : Bool) (c : Cursor) : List Char → Cursor
  | [] => { c with rest := [] }
  | x :: rest =>
    if isBreak x then skipFrom flow flow false (c.past x rest) rest
    else if comment || x = ' ' || (x = '\t' && (flow || tabs)) then
      skipFrom flow tabs comment (c.past x rest) rest
    else if x = '#' then skipFrom flow tabs true (c.past x rest) rest
    else { c with rest := x :: rest }

/-- The next content: what is neither blank nor line end nor in a comment. -/
def skip (c : Cursor) (flow tabs : Bool) : Cursor := skipFrom flow tabs false c c.rest

/-- The next content inside brackets. -/
def skipFlow (c : Cursor) : Cursor := c.skip true true

/-- Whether the indicator `mark` stands here, with a blank behind it. -/
def atIndicator (c : Cursor) (mark : Char) : Bool :=
  match c.rest with
  | x :: rest => x = mark && startsBlank rest
  | [] => false

end Cursor

end WireTypes.Document.Yaml
