import Mathlib.Data.List.Nodup
import WireTypes.Graph.Basic
import WireTypes.Proofs.Graph.Members

/-!
# Which types are endpoints

Whether a type is an endpoint is decided by its own declaration: by the name of its base, and by whether the
references in the signatures of its methods can be read, whatever they mean.

* `MethodDecl.references` : the references in the signature of a method;
* `readMethod`, `methods_eq` : the methods of a type are read one by one;
* `isOk_readMethod` : a method can be read if its references can;
* `isEndpoint`, `map_id_endpoint?`, `mem_endpointIds_build` : the types that are endpoints;
* `mem_seeds`, `not_isIgnored_of_mem_seeds` : the models in the signatures of endpoints;
* `nodup_endpointIds` : each endpoint is in a graph once.
-/

namespace WireTypes

/-! ## Methods -/

/-- The references in the signature of a method. -/
def MethodDecl.references (m : MethodDecl) : List String := m.returns.toList ++ m.parameters.map (·.type)

theorem MethodDecl.mem_references {m : MethodDecl} {text : String} : text ∈ m.references ↔
    m.returns = some text ∨ ∃ p ∈ m.parameters, p.type = text := by
  simp [references]

theorem isOk_mapM {α β ε : Type} (f : α → Except ε β) (as : List α) :
    (as.mapM f).isOk = as.all fun a => (f a).isOk := by
  induction as with
  | nil => rfl
  | cons a as ih =>
    rw [List.mapM_cons, List.all_cons, ← ih]
    cases f a with
    | error e => rfl
    | ok b => cases as.mapM f <;> rfl

namespace Catalog

/-- The parameter with its type resolved. -/
def readParameter (c : Catalog) (context : String) (p : ParameterDecl) : Except CatalogError Parameter := do
  return ⟨p.name, ← c.resolveText context p.type⟩

/-- What a method returns. -/
def readReturns (c : Catalog) (context : String) (m : MethodDecl) : Except CatalogError Descriptor :=
  match m.returns with
  | some text => c.resolveText context text
  | none => pure (.builtin .void)

/-- The method with its types resolved. -/
def readMethod (c : Catalog) (context : String) (m : MethodDecl) : Except CatalogError Method := do
  let returns ← c.readReturns context m
  let parameters ← m.parameters.mapM (c.readParameter context)
  return ⟨m.name, returns, parameters, m.verb, m.route⟩

theorem methods_eq (c : Catalog) (id : TypeId) :
    c.methods id = c.typeDecl id >>= fun t => t.methods.mapM (c.readMethod id.module) := by
  unfold methods
  refine congrArg (c.typeDecl id >>= ·) (funext fun t => congrArg (t.methods.mapM ·) (funext fun m => ?_))
  unfold readMethod readReturns
  cases m.returns <;> rfl

/-- Whether what is written can be read. -/
def isReadable (text : String) : Bool := (TypeRef.parse text).isOk

theorem isOk_resolveText (c : Catalog) (context text : String) :
    (c.resolveText context text).isOk = isReadable text := by
  unfold resolveText isReadable
  cases TypeRef.parse text <;> rfl

theorem isOk_readReturns (c : Catalog) (context : String) (m : MethodDecl) :
    (c.readReturns context m).isOk = m.returns.toList.all isReadable := by
  unfold readReturns
  cases m.returns with
  | none => rfl
  | some text => simp [isOk_resolveText]

theorem isOk_readParameter (c : Catalog) (context : String) (p : ParameterDecl) :
    (c.readParameter context p).isOk = isReadable p.type := by
  rw [← isOk_resolveText c context]
  unfold readParameter
  cases c.resolveText context p.type <;> rfl

theorem isOk_readMethod (c : Catalog) (context : String) (m : MethodDecl) :
    (c.readMethod context m).isOk = m.references.all isReadable := by
  have hparameters := isOk_mapM (c.readParameter context) m.parameters
  simp only [isOk_readParameter] at hparameters
  rw [MethodDecl.references, List.all_append, List.all_map, ← isOk_readReturns c context]
  unfold readMethod
  cases c.readReturns context m with
  | error e => rfl
  | ok returns =>
    refine Eq.trans ?_ hparameters
    cases m.parameters.mapM (c.readParameter context) <;> rfl

/-! ## Endpoints -/

/-- Whether a type is an endpoint: by the name of its base, and if its methods can be read. -/
def isEndpoint (c : Catalog) (configured : List String) (id : TypeId) : Bool :=
  (c.typeDecl? id).any fun t =>
    t.base.any (isEndpointBase configured) && t.methods.all (·.references.all isReadable)

theorem isOk_methods {c : Catalog} {id : TypeId} {t : TypeDecl} (h : c.typeDecl? id = some t) :
    (c.methods id).isOk = t.methods.all (·.references.all isReadable) := by
  rw [methods_eq, typeDecl_eq_ok_iff.mpr h]
  exact (isOk_mapM _ _).trans (by simp only [isOk_readMethod])

theorem map_id_endpoint? (c : Catalog) (configured : List String) (id : TypeId) :
    (c.endpoint? configured id).map (·.id) = if c.isEndpoint configured id then some id else none := by
  unfold endpoint? isEndpoint
  cases ht : c.typeDecl? id with
  | none => rfl
  | some t =>
    rw [Option.any_some, ← isOk_methods ht, Option.bind_some]
    cases t.base with
    | none => rfl
    | some base =>
      by_cases hbase : isEndpointBase configured base = true
      · cases c.methods id <;> simp [hbase, Except.isOk, Except.toBool]
      · simp [hbase]

/-- The types that may be endpoints. -/
def readableTypes (c : Catalog) : ModelSet := OrderedSet.ofList (c.moduleNames.flatMap c.readableTypesIn)

theorem mem_readableTypes {c : Catalog} {id : TypeId} :
    id ∈ c.readableTypes ↔ id ∈ c.readableTypesIn id.module := by
  rw [readableTypes, OrderedSet.mem_ofList, List.mem_flatMap]
  constructor
  · rintro ⟨module, -, hread⟩
    obtain rfl := module_of_mem_readableTypesIn hread
    exact hread
  · exact fun hread => ⟨id.module, mem_moduleNames_of_mem_readableTypesIn hread, hread⟩

theorem mem_seeds {c : Catalog} {endpoints : List Endpoint} {id : TypeId} : id ∈ c.seeds endpoints ↔
    ∃ e ∈ endpoints, ∃ m ∈ e.methods, ∃ d ∈ m.signature, id ∈ (c.classify d).models := by
  simp [seeds, List.mem_flatMap]

theorem endpoints_eq (c : Catalog) (configured : List String) :
    c.endpoints configured = c.readableTypes.toList.filterMap (c.endpoint? configured) := rfl

end Catalog

namespace TypeGraph

theorem endpointIds_build (c : Catalog) (configured : List String) :
    (build c configured).endpoints.map (·.id) = (c.endpoints configured).map (·.id) := by
  rw [build, List.map_map]
  rfl

theorem not_isIgnored_of_mem_seeds {c : Catalog} {configured : List String} {id : TypeId}
    (h : id ∈ (build c configured).seeds) : c.isIgnored id = false := by
  obtain ⟨-, -, -, -, d, -, hid⟩ := Catalog.mem_seeds.mp h
  exact (Catalog.mem_models_classify d hid).2

theorem mem_endpointIds_build {c : Catalog} {configured : List String} {id : TypeId} :
    id ∈ (build c configured).endpoints.map (·.id) ↔ id ∈ c.readableTypes ∧ c.isEndpoint configured id = true := by
  rw [endpointIds_build, Catalog.endpoints_eq, List.map_filterMap, List.mem_filterMap, OrderedSet.mem_def]
  simp only [Catalog.map_id_endpoint?, Option.ite_none_right_eq_some, Option.some.injEq]
  constructor
  · rintro ⟨a, ha, hendpoint, rfl⟩
    exact ⟨ha, hendpoint⟩
  · rintro ⟨hid, hendpoint⟩
    exact ⟨id, hid, hendpoint, rfl⟩

end TypeGraph

end WireTypes
