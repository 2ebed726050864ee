import WireTypes.Catalog.Ancestry
import WireTypes.Collection.OrderedSet
import WireTypes.Graph.Classification

/-!
# The closure of a set of models

* `ModelSet` : a set of types, in the order of their identities;
* `Catalog.subtypes` : the types of the same module that derive from a type;
* `Catalog.referredModels` : the models that the properties and the base of a type lead to;
* `Catalog.closure seeds` : all that is reached from the seeds by these two, ignored types left out
  (`mem_closure`).
-/

namespace WireTypes

/-- A set of types. -/
abbrev ModelSet := OrderedSet TypeId

namespace Catalog

/-- The types that may be found as subtypes, each with its ancestors: those of modules that can be
enumerated, ignored ones left out. -/
def derivations (c : Catalog) : List (TypeId × List TypeId) :=
  ((c.moduleNames.flatMap c.readableTypesIn).filter fun id => !c.isIgnored id).map fun id =>
    (id, c.ancestors id)

/-- The types of the module of `id` that derive from it, read off the derivations. -/
def subtypesIn (derivations : List (TypeId × List TypeId)) (id : TypeId) : List TypeId :=
  (derivations.filter fun (sub, ancestors) => sub.module = id.module && ancestors.contains id).map (·.1)

/-- The types of the module of `id` that derive from it. -/
def subtypes (c : Catalog) (id : TypeId) : List TypeId := subtypesIn c.derivations id

/-- The models that the properties and the base of a type lead to. When one property cannot be read,
no property leads anywhere. -/
def referredModels (c : Catalog) (id : TypeId) : List TypeId :=
  (match c.properties id with
    | .ok properties => properties.flatMap fun p => c.discover p.type
    | .error _ => []) ++ c.baseModels id

/-- All models that are reached from the seeds that are not ignored. -/
def closure (c : Catalog) (seeds : ModelSet) : ModelSet :=
  let derivations := c.derivations
  let next (id : TypeId) := subtypesIn derivations id ++ c.referredModels id
  OrderedSet.ofList (explore next c.typeIds (seeds.toList.filter fun id => !c.isIgnored id))

theorem mem_closure {c : Catalog} {seeds : ModelSet} {id : TypeId} :
    id ∈ c.closure seeds ↔
      Reached (fun id => c.subtypes id ++ c.referredModels id) c.typeIds
        (seeds.toList.filter fun id => !c.isIgnored id) id := by
  rw [closure, OrderedSet.mem_ofList, mem_explore]
  rfl

end Catalog

end WireTypes
