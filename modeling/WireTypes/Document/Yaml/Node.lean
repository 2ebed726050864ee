import WireTypes.Document.Yaml.Scalar

/-!
# YAML documents

* `readFlow` : scalars, and lists and records in brackets;
* `readBlock` : scalars, and lists and records laid out by columns;
* `parse` : the value of the one document of a text.

A node of the block layout belongs to the collection whose column is left of it; `least` is the first
column that does. Anchors, tags, directives and block scalars are refused. The numbers that the
readers count down bound how deep values nest; four times the length of the text is always enough.
-/

namespace WireTypes.Document.Yaml

/-- How many characters may lie between the start of a key and the colon behind it. -/
def keyLimit : Nat := 1024

/-- Whether what has been read from `start` to `c` can be a key: it is short and on one line. -/
def isKeySpan (start c : Cursor) : Bool :=
  start.line = c.line && c.offset - start.offset ≤ keyLimit

/-- Nothing at all, as a value. -/
def nothing : Value := .plain ""

/-! ## Flow layout -/

/-- Whether an opening bracket or brace stands here. -/
def opensFlow (c : Cursor) : Bool := c.rest.head?.any fun x => x = '[' || x = '\x7b'

/-- What follows the character `mark`, if it is the next one. -/
def expect? (mark : Char) (c : Cursor) : Option Cursor :=
  match c.rest with
  | x :: rest => if x = mark then some (c.past x rest) else none
  | [] => none

/-- Whether the next character is `mark`. -/
def isNext (mark : Char) (c : Cursor) : Bool := c.rest.head? = some mark

/-- A scalar in quotes or without. -/
def readScalar (flow : Bool) (least : Nat) (c : Cursor) : Option Scalar :=
  if isNext '\'' c then readSingle c
  else if isNext '"' c then readDouble c
  else readPlain flow least c

mutual

/-- A scalar or a collection in brackets. -/
def readFlow (flow : Bool) (least : Nat) : Nat → Cursor → Option Scalar
  | 0, _ => none
  | n + 1, c =>
    match expect? '[' c, expect? '\x7b' c with
    | some c, _ => (readItems least n c.skipFlow).map fun (items, c) => ⟨.list items, c.line, c⟩
    | _, some c =>
      (readPairs least n c.skipFlow).map fun (members, c) => ⟨.record members, c.line, c⟩
    | none, none => readScalar flow least c

/-- The items of a list up to its closing bracket. -/
def readItems (least : Nat) : Nat → Cursor → Option (List Value × Cursor)
  | 0, _ => none
  | n + 1, c =>
    match expect? ']' c with
    | some c => some ([], c)
    | none => do
      let ((key, value?), c) ← readPair least n c
      let item := value?.elim key fun value => .record [(key, value)]
      match expect? ']' c, expect? ',' c with
      | some c, _ => return ([item], c)
      | _, some c =>
        let (items, c) ← readItems least n c.skipFlow
        return (item :: items, c)
      | none, none => none

/-- The members of a record up to its closing brace. -/
def readPairs (least : Nat) : Nat → Cursor → Option (List (Value × Value) × Cursor)
  | 0, _ => none
  | n + 1, c =>
    match expect? '\x7d' c with
    | some c => some ([], c)
    | none => do
      let ((key, value?), c) ← readPair least n c
      let member := (key, value?.getD nothing)
      match expect? '\x7d' c, expect? ',' c with
      | some c, _ => return ([member], c)
      | _, some c =>
        let (members, c) ← readPairs least n c.skipFlow
        return (member :: members, c)
      | none, none => none

/-- A value inside brackets with the value behind its colon, if there is a colon. -/
def readPair (least : Nat) : Nat → Cursor → Option ((Value × Option Value) × Cursor)
  | 0, _ => none
  | n + 1, c => do
    let key ← readFlow true least n c
    let next := key.after.skipFlow
    match expect? ':' next with
    | none => return ((key.value, none), next)
    | some after =>
      if !isKeySpan c next then none
      else
        let c := after.skipFlow
        if c.rest.head?.any fun x => x = ',' || x = ']' || x = '\x7d' then
          return ((key.value, some nothing), c)
        else
          let value ← readFlow true least n c
          return ((key.value, some value.value), value.after.skipFlow)

end

/-! ## Block layout -/

/-- Whether the next entry of a collection at this column may be here. -/
def isEntryAt (column : Nat) (c : Cursor) : Bool := !c.atBoundary && c.column = column

mutual

/-- The node behind an indicator, or the whole document. `compact` tells whether a collection may
start on the same line; a list may also start in the column `beside` of a later line. -/
def readBlock (compact : Bool) (least : Nat) (beside : Option Nat) :
    Nat → Cursor → Option (Value × Cursor)
  | 0, _ => none
  | n + 1, start =>
    let c := start.skip false !compact
    let collections := compact || start.line < c.line
    if c.atBoundary then some (nothing, c)
    else if c.atIndicator '-' && (least ≤ c.column || beside = some c.column) then
      if collections then (readList n c.column c).map fun (items, c) => (.list items, c) else none
    else if c.column < least then some (nothing, c)
    else do
      let node ← readFlow false least n c
      let next := node.after.skip false true
      if next.atIndicator ':' && isKeySpan c next then
        if collections then
          let (members, c) ← readRecord n c.column c
          return (.record members, c)
        else none
      else if next.rest.isEmpty || node.endLine < next.line then return (node.value, next)
      else none

/-- The entries of a list at a column. -/
def readList : Nat → Nat → Cursor → Option (List Value × Cursor)
  | 0, _, _ => none
  | n + 1, column, c =>
    if isEntryAt column c && c.atIndicator '-' then do
      let (item, c) ← readBlock true (column + 1) none n (c.advance 1)
      let (items, c) ← readList n column c
      return (item :: items, c)
    else some ([], c)

/-- The members of a record at a column. -/
def readRecord : Nat → Nat → Cursor → Option (List (Value × Value) × Cursor)
  | 0, _, _ => none
  | n + 1, column, c =>
    if isEntryAt column c then do
      let key ← readFlow false (column + 1) n c
      let next := key.after.skip false true
      if next.atIndicator ':' && isKeySpan c next then
        let (value, c) ← readBlock false (column + 1) (some column) n (next.advance 1)
        let (members, c) ← readRecord n column c
        return ((key.value, value) :: members, c)
      else none
    else some ([], c)

end

/-! ## Documents -/

/-- Whether nothing but ends of documents follows. -/
def isOver : Nat → Cursor → Bool
  | 0, _ => false
  | n + 1, c => c.rest.isEmpty || (c.atMarker '.' && isOver n ((c.advance 3).skip false true))

/-- The value of the one document of a text. No document at all is an empty one. -/
def parse (s : String) : Option Value :=
  let cs := unifyBreaks s.toList
  if !cs.all isAllowed then none
  else
    let first := (Cursor.start cs).skip false false
    let bound := 4 * (cs.length + 2)
    let document :=
      if first.atMarker '-' then readBlock false 0 none bound (first.advance 3)
      else if first.atMarker '.' then none
      else readBlock true 0 none bound (Cursor.start cs)
    match document with
    | some (v, c) => if isOver bound c then some v else none
    | none => none

end WireTypes.Document.Yaml
