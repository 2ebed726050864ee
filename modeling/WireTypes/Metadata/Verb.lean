import WireTypes.Text.Case

/-!
# HTTP verbs

* `Verb.ofMethodName? name` : the verb that a method's name starts with, as in `GetOrder`,
  `get_order` or `Put2`, but not in `Getaway`;
* `Verb.hasBody`, `Verb.name`, `Verb.clientMethod`.
-/

namespace WireTypes

/-- The verbs an endpoint's method may answer to. -/
inductive Verb where
  | get | post | put | delete | patch
  deriving Repr, DecidableEq, Inhabited

namespace Verb

/-- The verbs in the order in which a method's name is searched for them. -/
def all : List Verb := [.get, .post, .put, .delete, .patch]

/-- The verb in a request line. -/
def name : Verb → String
  | get => "GET"
  | post => "POST"
  | put => "PUT"
  | delete => "DELETE"
  | patch => "PATCH"

/-- The client's method that sends the verb. -/
def clientMethod : Verb → String
  | get => "get"
  | post => "post"
  | put => "put"
  | delete => "delete"
  | patch => "patch"

/-- Whether a request with this verb carries a body. -/
def hasBody : Verb → Bool
  | post | put | patch => true
  | get | delete => false

/-- The verb with this name. -/
def ofName? (s : String) : Option Verb := all.find? (·.name = s)

/-- What follows `word` in `cs`, the case of ASCII letters apart. -/
def afterWord : List Char → List Char → Option (List Char)
  | [], cs => some cs
  | w :: ws, c :: cs => if c.toLower = w then afterWord ws cs else none
  | _ :: _, [] => none

/-- Whether `word` is the first word of `cs`: no lowercase letter continues it. -/
def isFirstWord (word cs : List Char) : Bool :=
  match afterWord word cs with
  | some (c :: _) => !Text.isLowercase c
  | some [] => true
  | none => false

/-- The verb that the name of a method starts with. -/
def ofMethodName? (s : String) : Option Verb :=
  all.find? fun v => isFirstWord v.clientMethod.toList s.toList

theorem ofName?_name (v : Verb) : ofName? v.name = some v := by cases v <;> decide

end Verb

end WireTypes
