import WireTypes.Document.Value

/-!
# TOML tables

* `Item` : what a key of an open table holds. It is kept how a table came about, since that decides
  what may still be added to it;
* `addPair` : a value under a dotted key;
* `addSection` : the pairs behind a header;
* `Members.toValue` : the finished table.
-/

namespace WireTypes.Document.Toml

/-- How a table came about. -/
inductive Origin where
  /-- As a part of a header's key. -/
  | implied
  /-- By a header of its own. -/
  | header
  /-- As a part of a dotted key. -/
  | dotted
  deriving Repr, DecidableEq, Inhabited

/-- What a key holds while tables are open. -/
inductive Item where
  | value (v : Value)
  | table (origin : Origin) (members : List (String × Item))
  /-- A list of tables, the last of which is open. -/
  | tables (earlier : List Value) (last : List (String × Item))
  deriving Inhabited

/-- The keys of an open table. -/
abbrev Members := List (String × Item)

mutual

/-- The item as a value. -/
def Item.toValue : Item → Value
  | .value v => v
  | .table _ members => .record (membersToValue members)
  | .tables earlier last => .list (earlier ++ [.record (membersToValue last)])

/-- The members of a table as values. -/
def membersToValue : List (String × Item) → List (Value × Value)
  | [] => []
  | (key, item) :: members => (.text key, item.toValue) :: membersToValue members

end

namespace Members

/-- The finished table. -/
def toValue (members : Members) : Value := .record (membersToValue members)

/-- The table with an item under a key, in the place of the one that is there. -/
def set (members : Members) (key : String) (item : Item) : Members :=
  if (members.lookup key).isSome then
    members.map fun member => if member.1 = key then (key, item) else member
  else members ++ [(key, item)]

/-- The table with a value under a dotted key. A dotted key extends only tables that dotted keys have
made, and no key is given twice. -/
def addPair (v : Value) : List String → Members → Option Members
  | [], _ => none
  | [key], members => if (members.lookup key).isSome then none else some (members.set key (.value v))
  | key :: keys, members =>
    match members.lookup key with
    | none => (addPair v keys []).map fun sub => members.set key (.table .dotted sub)
    | some (.table .dotted sub) =>
      (addPair v keys sub).map fun sub => members.set key (.table .dotted sub)
    | some _ => none

/-- The table with several values under dotted keys. -/
def addPairs (members : Members) (pairs : List (List String × Value)) : Option Members :=
  pairs.foldlM (fun members (keys, v) => addPair v keys members) members

end Members

/-- What a header announces: a table, or one more table of a list. -/
inductive HeaderKind where
  | table | element
  deriving Repr, DecidableEq, Inhabited

/-- A header and the pairs behind it. -/
structure Section where
  kind : HeaderKind
  keys : List String
  pairs : List (List String × Value)
  deriving Repr, Inhabited

namespace Section

/-- What the last key of the header holds afterwards. A table has one header only. -/
def item? (s : Section) (before : Option Item) : Option Item :=
  match s.kind, before with
  | .table, none => (Members.addPairs [] s.pairs).map (.table .header)
  | .table, some (.table .implied members) => (Members.addPairs members s.pairs).map (.table .header)
  | .element, none => (Members.addPairs [] s.pairs).map (.tables [])
  | .element, some (.tables earlier last) =>
    (Members.addPairs [] s.pairs).map (.tables (earlier ++ [Members.toValue last]))
  | _, some _ => none

end Section

namespace Members

/-- The table with a section under a key. On the way there, tables come about as they are needed, and a
list of tables stands for its last one. -/
def addSection (s : Section) : List String → Members → Option Members
  | [], _ => none
  | [key], members => (s.item? (members.lookup key)).map fun item => members.set key item
  | key :: keys, members =>
    match members.lookup key with
    | none => (addSection s keys []).map fun sub => members.set key (.table .implied sub)
    | some (.table origin sub) =>
      (addSection s keys sub).map fun sub => members.set key (.table origin sub)
    | some (.tables earlier last) =>
      (addSection s keys last).map fun last => members.set key (.tables earlier last)
    | some (.value _) => none

end Members

end WireTypes.Document.Toml
