/-!
# Document values

What a JSON, YAML or TOML document holds before it is read as something in particular.

* `Value` : scalars, lists and records. A scalar written without quotes in a format that leaves its
  type to the reader is `plain`;
* a record keeps its members as they are written, repeated ones too, and its keys are values.
-/

namespace WireTypes.Document

/-- The content of a document. -/
inductive Value where
  | null
  | bool (b : Bool)
  | integer (n : Int)
  /-- A number that is not written as an integer. -/
  | number (digits : String)
  | text (s : String)
  /-- A string whose escapes are halves of surrogate pairs, and so no text. -/
  | brokenText
  /-- A scalar without quotes whose type its reader chooses. -/
  | plain (s : String)
  | list (items : List Value)
  | record (members : List (Value × Value))
  deriving Repr, BEq, Inhabited

end WireTypes.Document
