import WireTypes.Catalog.Resolve
import WireTypes.Collection.Explore

/-!
# Ancestry

* `Catalog.parents` : the declared types that a type names as its base and its interfaces;
* `Catalog.ancestors` : all that it derives from, nearest first, without itself (`mem_ancestors`).
-/

namespace WireTypes.Catalog

/-- The references to the base and the interfaces of a type, the base first. -/
def parentTexts (t : TypeDecl) : List String := t.base.toList ++ t.interfaces

/-- The declared types among the base and the interfaces of a type. References that cannot be read
and those to other types lead nowhere. -/
def parents (c : Catalog) (id : TypeId) : List TypeId :=
  ((c.typeDecl? id).elim [] parentTexts).filterMap fun text =>
    match c.resolveText id.module text with
    | .ok d => d.definition?
    | .error _ => none

/-- The types that `id` derives from, in the order in which they are found, without `id` itself. -/
def ancestors (c : Catalog) (id : TypeId) : List TypeId := (explore c.parents c.typeIds [id]).tail

theorem cons_ancestors (c : Catalog) (id : TypeId) :
    id :: c.ancestors id = explore c.parents c.typeIds [id] := by
  obtain ⟨rest, h⟩ := prefix_explore c.parents c.typeIds [id]
  rw [ancestors, ← h]
  rfl

theorem nodup_ancestors (c : Catalog) (id : TypeId) : (c.ancestors id).Nodup :=
  (List.nodup_cons.1 (c.cons_ancestors id ▸ nodup_explore c.parents c.typeIds [id])).2

theorem mem_ancestors {c : Catalog} {id a : TypeId} :
    a ∈ c.ancestors id ↔ a ≠ id ∧ Reached c.parents c.typeIds [id] a := by
  have hnodup := nodup_explore c.parents c.typeIds [id]
  rw [← mem_explore, ← cons_ancestors] at *
  have hid := (List.nodup_cons.1 hnodup).1
  constructor
  · exact fun h => ⟨by rintro rfl; exact hid h, List.mem_cons_of_mem _ h⟩
  · exact fun h => (List.mem_cons.1 h.2).resolve_left h.1

end WireTypes.Catalog
