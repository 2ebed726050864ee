import WireTypes.Graph.Basic
import WireTypes.Graph.TypeText
import WireTypes.Text.Lowercase

/-!
# Output names

* `camelCase`, `serviceName` : the names of members and of services;
* `freeName taken name` : `name`, or the first of `name_1`, `name_2`, … that is free up to case;
* `allot taken names` : names given one after the other, each taken from then on;
* `OutputNames.assign` : the names of models and services, none of them that of the index.
-/

namespace WireTypes

/-! ## Members and services -/

/-- `name` with its first character in lowercase. -/
def camelCase (name : String) : String :=
  match name.toList with
  | c :: cs => String.ofList (Text.lowerChar c ++ cs)
  | [] => ""

/-- What the simple names of endpoints end in by convention. -/
def endpointSuffix : String := "Controller"

/-- The simple name of an endpoint without the conventional ending, if something is left. -/
def endpointStem (name : String) : String :=
  let cs := name.toList
  let ending := endpointSuffix.toList
  if ending.isSuffixOf cs && ending.length < cs.length then
    String.ofList (cs.take (cs.length - ending.length))
  else name

/-- The name of the service for an endpoint with this simple name. -/
def serviceName (endpoint : String) : String := endpointStem endpoint ++ "Service"

/-! ## Unique names -/

/-- `name` with a number behind it. -/
def numbered (name : String) (i : Nat) : String := name ++ "_" ++ toString i

/-- `name` if its lowercase is not taken, else the first numbered name that is free. One of the first
`taken.length + 1` is. -/
def freeName (taken : List String) (name : String) : String :=
  let free (s : String) : Bool := !taken.contains (Text.toLower s)
  if free name then name
  else (((List.range (taken.length + 1)).map fun i => numbered name (i + 1)).find? free).getD name

/-- Gives out names one after the other; each is taken, in lowercase, from then on. -/
def allot (taken : List String) : List String → List String
  | [] => []
  | name :: names =>
    let given := freeName taken name
    given :: allot (Text.toLower given :: taken) names

@[simp] theorem length_allot (taken names : List String) :
    (allot taken names).length = names.length := by
  induction names generalizing taken with
  | nil => rfl
  | cons name names ih => simp [allot, ih]

/-! ## Assignment -/

/-- The name of the file that exports all others. -/
def indexName : String := "index"

/-- The names of the files, without their extension. -/
structure OutputNames where
  models : NameTable
  services : NameTable
  deriving Repr, BEq, Inhabited

/-- Names the models in order and then, if asked for, the services in the order of their endpoints. -/
def OutputNames.assign (models : ModelSet) (endpoints : List ClassifiedEndpoint)
    (withServices : Bool) : OutputNames :=
  let ids := models.toList
  let served := if withServices then endpoints.map (·.id) else []
  let given := allot [indexName] (ids.map (·.simpleName) ++ served.map fun id => serviceName id.simpleName)
  { models := ids.zip given
    services := served.zip (given.drop ids.length) }

end WireTypes
