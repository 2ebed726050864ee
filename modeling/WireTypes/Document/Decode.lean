import WireTypes.Document.Value
import WireTypes.Document.Plain

/-!
# Decoding values

A decoder is a function `Value → Option α`.

* `asText`, `asBool`, `asInt64`, `asOptional`, `asList` : the values that every format writes alike;
* `Dialect` : what formats do differently with records and with names of variants;
* `Dialect.fields` : the fields of a record by name. A record that repeats a known field is refused
  and unknown fields are left aside;
* `required`, `defaulting` : a field that must be there, and one that need not.
-/

namespace WireTypes.Document

/-- A text. A plain scalar is read as the text it is. -/
def asText : Value → Option String
  | .text s => some s
  | .plain s => some s
  | _ => none

/-- A truth value. -/
def asBool : Value → Option Bool
  | .bool b => some b
  | .plain s => Plain.bool? s
  | _ => none

/-- A signed 64-bit integer. -/
def asInt64 (v : Value) : Option Int64 :=
  let inRange (n : Int) : Option Int64 :=
    if Int64.minValue.toInt ≤ n ∧ n ≤ Int64.maxValue.toInt then some (Int64.ofInt n) else none
  match v with
  | .integer n => inRange n
  | .plain s => (Plain.integer? s).bind inRange
  | _ => none

/-- A value that may be null. -/
def asOptional {α : Type} (decode : Value → Option α) (v : Value) : Option (Option α) :=
  match v with
  | .null => some none
  | .plain s => if Plain.isNull s then some none else (decode v).map some
  | _ => (decode v).map some

/-- A list of values that are all decoded alike. A plain scalar of no characters is an empty list. -/
def asList {α : Type} (decode : Value → Option α) : Value → Option (List α)
  | .list items => items.mapM decode
  | .plain "" => some []
  | _ => none

/-! ## Records -/

/-- What formats do differently. -/
structure Dialect where
  /-- A record may be written as the list of its fields in order, the last ones left out. -/
  positional : Bool
  /-- What may stand beside the name of a variant, in a record of that one member. -/
  isUnit : Value → Bool

namespace Dialect

/-- The fields among `names` that a record gives. -/
def fields (d : Dialect) (names : List String) : Value → Option (String → Option Value)
  | .record members => do
    let keys ← members.mapM fun member => asText member.1
    if names.any fun name => keys.count name > 1 then none
    else some fun name => (keys.zip (members.map (·.2))).lookup name
  | .list items =>
    if d.positional && items.length ≤ names.length then some fun name => items[names.idxOf name]?
    else none
  | .plain "" => some fun _ => none
  | _ => none

/-- One of the variants that `spellings` names. -/
def asVariant (d : Dialect) {α : Type} (spellings : List (String × α)) : Value → Option α
  | .record [(key, unit)] =>
    if d.isUnit unit then (asText key).bind fun name => spellings.lookup name else none
  | v => (asText v).bind fun name => spellings.lookup name

end Dialect

/-- A field that must be there. -/
def required {α : Type} (decode : Value → Option α) (field : Option Value) : Option α :=
  field.bind decode

/-- A field that has a value of its own when it is left out. -/
def defaulting {α : Type} (default : α) (decode : Value → Option α) : Option Value → Option α
  | some v => decode v
  | none => some default

end WireTypes.Document
