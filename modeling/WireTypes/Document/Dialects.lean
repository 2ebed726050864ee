import WireTypes.Document.Decode

/-!
# The dialects of the formats

JSON and TOML let a record be written as the list of its fields, YAML does not. A variant's name may
have a null beside it in JSON, an empty list or table in TOML, nothing in YAML.
-/

namespace WireTypes.Document.Dialect

/-- JSON. -/
def json : Dialect where
  positional := true
  isUnit
    | .null => true
    | _ => false

/-- YAML. -/
def yaml : Dialect where
  positional := false
  isUnit _ := false

/-- TOML. -/
def toml : Dialect where
  positional := true
  isUnit
    | .list [] => true
    | .record [] => true
    | _ => false

end WireTypes.Document.Dialect
