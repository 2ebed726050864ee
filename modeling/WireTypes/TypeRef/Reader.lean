import WireTypes.TypeRef.Basic
import WireTypes.Text.Quoted

/-!
# Reading type references

* `readName`, `readSuffixes` : a qualified name and the suffixes `[]` and `?` at the head of a text;
* `readRef`, `readArgs`, `readMoreArgs` : a reference, its argument list, and the arguments after the
  first. Each takes the longest text it can: an argument list that is not closed, a comma without a
  reference after it and a segment break without a segment are all left unread;
* `TypeRef.parse` : the whole of a text as one reference, blanks at its ends apart;
* `ParseError` : where reading stopped.

The numbers that the readers count down bound how deep references nest; the length of the text is
always enough.
-/

namespace WireTypes.TypeRef

/-! ## Names, blanks and suffixes -/

/-- The blanks that may stand around the parts of a reference. -/
def isSpacing (c : Char) : Bool := c = ' ' || c = '\t' || c = '\r' || c = '\n'

/-- The text after its leading blanks. -/
def skipSpacing (cs : List Char) : List Char := cs.dropWhile isSpacing

/-- Whether a segment of a name starts here. -/
def startsName : List Char → Bool
  | c :: _ => isNameChar c
  | [] => false

/-- Splits the text behind the name it starts with. A segment break belongs to the name when a
segment follows it. -/
def spanName : List Char → List Char × List Char
  | [] => ([], [])
  | c :: cs =>
    if isNameChar c || (isSegmentBreak c && startsName cs) then
      let more := spanName cs
      (c :: more.1, more.2)
    else ([], c :: cs)

/-- The qualified name at the head of the text, and what follows it. -/
def readName (cs : List Char) : Option (String × List Char) :=
  if startsName cs then
    let name := spanName cs
    some (String.ofList name.1, name.2)
  else none

/-- Applies the suffixes at the head of the text to `t`, from left to right. -/
def readSuffixes (t : TypeRef) : List Char → TypeRef × List Char
  | '[' :: ']' :: cs => readSuffixes (.array t) cs
  | '?' :: cs => readSuffixes (nullable t) cs
  | cs => (t, cs)

/-! ## References -/

/-- A reference without its suffixes: the name alone, or cut at its arity and with arguments. -/
def head (name : String) : Option (List TypeRef) → TypeRef
  | some args => .generic (stripArity name) args
  | none => .named name

mutual

/-- The reference at the head of the text, and what follows it. -/
def readRef : Nat → List Char → Option (TypeRef × List Char)
  | 0, _ => none
  | n + 1, cs =>
    match readName cs with
    | none => none
    | some (name, rest) =>
      match readArgs n rest with
      | some (args, rest) => some (readSuffixes (head name (some args)) rest)
      | none => some (readSuffixes (head name none) rest)

/-- The argument list in angle brackets at the head of the text, and what follows it. -/
def readArgs : Nat → List Char → Option (List TypeRef × List Char)
  | n + 1, '<' :: cs =>
    match readRef n (skipSpacing cs) with
    | none => none
    | some (arg, rest) =>
      let more := readMoreArgs n rest
      match skipSpacing more.2 with
      | '>' :: rest => some (arg :: more.1, rest)
      | _ => none
  | _, _ => none

/-- The arguments that follow with a comma before each, and what comes after them. -/
def readMoreArgs : Nat → List Char → List TypeRef × List Char
  | 0, cs => ([], cs)
  | n + 1, cs =>
    match skipSpacing cs with
    | ',' :: rest =>
      match readRef n (skipSpacing rest) with
      | some (arg, rest) =>
        let more := readMoreArgs n rest
        (arg :: more.1, more.2)
      | none => ([], cs)
    | _ => ([], cs)

end

/-! ## Whole texts -/

/-- Why a text is no reference. -/
inductive Fault where
  /-- No name starts at `rest`. -/
  | expectedName (rest : String)
  /-- The reference ends before `rest`. -/
  | leftOver (rest : String)
  deriving Repr, DecidableEq

/-- A text that is no reference, and why. -/
structure ParseError where
  text : String
  fault : Fault
  deriving Repr, DecidableEq

/-- The error in words. -/
def ParseError.message (e : ParseError) : String :=
  let place (rest code : String) :=
    "Error(Error \x7b input: " ++ Text.quote rest ++ ", code: " ++ code ++ " \x7d)"
  "invalid type reference '" ++ e.text ++ "': " ++
    match e.fault with
    | .expectedName rest => place rest "TakeWhile1"
    | .leftOver rest => place rest "Eof"

/-- The reference that the whole of `s` is, blanks at its ends apart. -/
def parse (s : String) : Except ParseError TypeRef :=
  let cs := skipSpacing s.toList
  match readRef (cs.length + 1) cs with
  | none => .error ⟨s, .expectedName (String.ofList cs)⟩
  | some (t, rest) =>
    match skipSpacing rest with
    | [] => .ok t
    | rest => .error ⟨s, .leftOver (String.ofList rest)⟩

end WireTypes.TypeRef
