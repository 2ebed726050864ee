import WireTypes.Catalog.Resolve

/-!
# Classification of types

* `Classification` : what a type is to a client. A model needs a definition of its own, a built-in
  type has a counterpart, a collection is a list of something, an ignored type is left out, and the
  rest is passed on without a type;
* `Classification.models`, `renderedModel?` : the models in a classification, and the one that its
  rendered type shows;
* `Catalog.classify` : the classification of a descriptor. Arrays and sequences are collections, key
  and value maps are passed on, and any other undeclared generic of one argument stands for it;
* `Catalog.baseModel?`, `baseModels`, `discover` : the models that the base of a type and the type of
  a member lead to.
-/

namespace WireTypes

/-- What a type is to a client. -/
inductive Classification where
  /-- A type of the client's own. -/
  | builtin (target : String)
  | model (id : TypeId)
  /-- An instance of a generic model. -/
  | constructed (id : TypeId) (args : List Classification)
  | collection (element : Classification)
  /-- Any object. -/
  | untyped
  /-- A map from keys to values. -/
  | keyValueMap (name : String)
  /-- A generic type that stands for none of its arguments. -/
  | unsupported (name : String) (args : List Classification)
  /-- A name that means nothing. -/
  | unresolved (name : String)
  /-- A type that is marked as not to be generated. -/
  | ignored
  deriving Repr, BEq, Inhabited

namespace Classification

/-- Why the type is passed on without a type. -/
def reason? : Classification → Option String
  | .untyped => some "untyped object"
  | .keyValueMap name => some ("key-value map '" ++ name ++ "'")
  | .unsupported name _ => some ("unsupported generic '" ++ name ++ "'")
  | .unresolved name => some ("unresolved type '" ++ name ++ "'")
  | _ => none

mutual

/-- All models in the classification, arguments included, in order and with repetitions. -/
def models : Classification → List TypeId
  | .model id => [id]
  | .constructed id args => id :: modelsOfAll args
  | .collection element => element.models
  | .unsupported _ args => modelsOfAll args
  | _ => []

/-- The models in several classifications. -/
def modelsOfAll : List Classification → List TypeId
  | [] => []
  | arg :: args => arg.models ++ modelsOfAll args

end

/-- The model that the rendered type shows. -/
def renderedModel? : Classification → Option TypeId
  | .model id => some id
  | .constructed id _ => some id
  | .collection element => element.renderedModel?
  | _ => none

/-- Whether the type is a model or a collection of one. -/
def isStructured (c : Classification) : Bool := c.renderedModel?.isSome

/-- A collection of something; of an ignored type it is ignored too. -/
def collectionOf : Classification → Classification
  | .ignored => .ignored
  | element => .collection element

end Classification

/-! ## Generic types that no module declares -/

/-- The generic types that are sequences of their one argument. -/
def sequenceNames : List String :=
  ["List", "IList", "IEnumerable", "ICollection", "IReadOnlyList", "IReadOnlyCollection",
    "Collection", "ReadOnlyCollection", "ObservableCollection", "HashSet", "ISet", "Queue", "Stack",
    "LinkedList", "SortedSet", "IQueryable", "IOrderedQueryable", "IOrderedEnumerable",
    "IAsyncEnumerable", "ImmutableArray", "ImmutableList", "IImmutableList", "ConcurrentBag",
    "ConcurrentQueue", "BlockingCollection"]

/-- The generic types that are maps from keys to values. -/
def mapNames : List String :=
  ["Dictionary", "IDictionary", "IReadOnlyDictionary", "SortedDictionary", "SortedList",
    "ConcurrentDictionary", "KeyValuePair"]

namespace Catalog

/-! ## Classification -/

mutual

/-- What a descriptor is to a client. Arrays of bytes travel as strings. -/
def classify (c : Catalog) : Descriptor → Classification
  | .declared id => if c.isIgnored id then .ignored else .model id
  | .constructed id args =>
    if c.isIgnored id then .ignored else .constructed id (c.classifyAll args)
  | .builtin b =>
    match b.target? with
    | some target => .builtin target
    | none => .untyped
  | .array (.builtin .byte) => .builtin "string"
  | .array element => (c.classify element).collectionOf
  | .generic name args =>
    if mapNames.contains (simpleName name) then .keyValueMap name
    else
      match c.classifyAll args with
      | [arg] => if sequenceNames.contains (simpleName name) then arg.collectionOf else arg
      | args => .unsupported name args
  | .unresolved name => .unresolved name

/-- What several descriptors are to a client. -/
def classifyAll (c : Catalog) : List Descriptor → List Classification
  | [] => []
  | arg :: args => c.classify arg :: c.classifyAll args

end

/-! ## Bases and members -/

/-- What the base of a type is to a client, if it declares one that can be read. -/
def baseClassification? (c : Catalog) (id : TypeId) : Option Classification :=
  match c.baseType id with
  | .ok (some base) => some (c.classify base)
  | _ => none

/-- The model that a type extends. -/
def baseModel? (c : Catalog) (id : TypeId) : Option TypeId :=
  match c.baseClassification? id with
  | some (.model base) => some base
  | some (.constructed base _) => some base
  | _ => none

/-- The models that the base of a type leads to. -/
def baseModels (c : Catalog) (id : TypeId) : List TypeId := (c.baseClassification? id).elim [] (·.models)

/-- The models that the type of a member leads to: those in its classification and, if it is a model
itself, those of its base. -/
def discover (c : Catalog) (d : Descriptor) : List TypeId :=
  let classification := c.classify d
  classification.models ++
    match classification with
    | .model id => c.baseModels id
    | .constructed id _ => c.baseModels id
    | _ => []

end Catalog

end WireTypes
