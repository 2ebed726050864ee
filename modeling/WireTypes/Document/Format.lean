import WireTypes.Disk.Path
import WireTypes.Document.Dialects
import WireTypes.Document.Json
import WireTypes.Document.Toml.Statement
import WireTypes.Document.Yaml.Node

/-!
# Formats of documents

* `Format.ofPath` : the format that the extension of a file stands for;
* `Format.read` : what a decoder makes of a text in a format.
-/

namespace WireTypes.Document

/-- The formats of documents. -/
inductive Format where
  | json | yaml | toml
  deriving Repr, DecidableEq, Inhabited

namespace Format

/-- The format of the file at a path. What has no extension of another format is JSON. -/
def ofPath (p : String) : Format :=
  match Path.extension? p with
  | some "yaml" => .yaml
  | some "yml" => .yaml
  | some "toml" => .toml
  | _ => .json

/-- The name of the format. -/
def name : Format → String
  | json => "JSON"
  | yaml => "YAML"
  | toml => "TOML"

/-- What the format does differently. -/
def dialect : Format → Dialect
  | json => .json
  | yaml => .yaml
  | toml => .toml

/-- The text without the mark of its byte order. -/
def withoutMark (s : String) : String :=
  match s.toList with
  | c :: cs => if c.toNat = 0xfeff then String.ofList cs else s
  | [] => s

/-- The value that a text in the format writes. Only JSON minds a mark of the byte order. -/
def parse (s : String) : Format → Option Value
  | json => Json.parse s
  | yaml => Yaml.parse (withoutMark s)
  | toml => Toml.parse (withoutMark s)

/-- What a decoder makes of a text in the format. -/
def read {α : Type} (decode : Dialect → Value → Option α) (s : String) (f : Format) : Option α :=
  (f.parse s).bind (decode f.dialect)

end Format

end WireTypes.Document
