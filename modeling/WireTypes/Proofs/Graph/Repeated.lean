import WireTypes.Proofs.Graph.Alike

/-!
# The graph of a catalog with repeated declarations

A repeated type is one type to the graph: every step goes through sets of types and through their last
declarations. Leaving out the other declarations can therefore change the graph only through a reference that
holds an obscured name.

* `alike_cleaned` : the two catalogs read alike, when no reference holds such a name;
* `endpointIds_cleaned` : the same types are endpoints, whatever the references mean;
* `build_cleaned` : which references mean the same in both catalogs, and when the graphs are the same.
-/

namespace WireTypes

namespace Catalog

variable {c : Catalog}

/-- No reference of a declaration that counts holds an obscured name. -/
def Clear (c : Catalog) : Prop :=
  ∀ id t, c.typeDecl? id = some t → ∀ text ∈ t.references, ¬ c.ObscuredText id.module text

theorem alike_cleaned (h : c.Clear) : c.Alike c.cleaned where
  readable _ _ := mem_readableTypesIn_cleaned
  decl id := by
    rw [typeDecl?_cleaned]
    exact rel_self TypeDecl.SameMembers.refl _
  reads id t ht text htext := resolveText_cleaned (h id t ht text htext)

/-! ## Endpoints -/

theorem readableTypes_cleaned (c : Catalog) : c.cleaned.readableTypes = c.readableTypes := by
  apply OrderedSet.ext
  intro id
  rw [mem_readableTypes, mem_readableTypes, mem_readableTypesIn_cleaned]

/-- The same types are endpoints in both catalogs, whatever their references mean. -/
theorem endpointIds_cleaned (c : Catalog) (configured : List String) :
    (c.cleaned.endpoints configured).map (·.id) = (c.endpoints configured).map (·.id) := by
  have hsame : c.cleaned.isEndpoint configured = c.isEndpoint configured := funext fun id => by
    rw [isEndpoint, typeDecl?_cleaned, isEndpoint]
  simp only [endpoints_eq, readableTypes_cleaned, List.map_filterMap, map_id_endpoint?, hsame]

end Catalog

/-! ## The graph -/

namespace TypeGraph

open Catalog

theorem build_cleaned_of_clear {c : Catalog} (h : c.Clear) (configured : List String) :
    build c.cleaned configured = build c configured :=
  (alike_cleaned h).build_eq c.isIgnored_cleaned configured

/-- **A repeated declaration shows in nothing but obscured names.** Of a list of modules and the same without
the declarations that another one follows: a reference means the same to both exactly if it holds no obscured
name; such a name means nothing to the first and the repeated type to the second; the endpoints are the same
types; and the graphs are the same if no reference of a declaration that counts holds such a name. -/
theorem build_cleaned (ms : List ModuleDecl) :
    let c := ofModules ms
    let cleaned := ofModules (ms.map (·.cleaned))
    (∀ context t, cleaned.resolve context t = c.resolve context t ↔ ¬ c.HoldsObscured context t) ∧
    (∀ context name full, c.Obscured context name full →
      c.resolveName context name = .unresolved name ∧
        cleaned.resolveName context name = .declared ⟨context, full⟩) ∧
    (∀ configured,
      (build cleaned configured).endpoints.map (·.id) = (build c configured).endpoints.map (·.id)) ∧
    ((∀ id t, c.typeDecl? id = some t → ∀ text ∈ t.references, ¬ c.ObscuredText id.module text) →
      ∀ configured, build cleaned configured = build c configured) := by
  intro c cleaned
  have hcleaned : cleaned = c.cleaned := ofModules_map_cleaned ms
  rw [hcleaned]
  refine ⟨fun _ => resolve_cleaned_eq_iff, ?_, ?_, build_cleaned_of_clear⟩
  · exact fun _ _ _ h => ⟨resolveName_of_obscured h, resolveName_cleaned_of_obscured h⟩
  · intro configured
    rw [endpointIds_build, endpointIds_build, endpointIds_cleaned]

/-- A shop that declares its order twice, and an endpoint that returns one by its simple name. -/
def repeatedOrder : List ModuleDecl :=
  [{ name := "Shop"
     types := [
       { name := "Shop.OrdersController"
         base := some "ApiController"
         methods := [{ name := "GetOrder", returns := some "Order" }] },
       { name := "Shop.Order" },
       { name := "Shop.Order" }] }]

theorem obscured_repeatedOrder : (ofModules repeatedOrder).Obscured "Shop" "Order" "Shop.Order" where
  unbroken := by decide +kernel
  unknown := Option.isNone_iff_eq_none.mp (by decide +kernel)
  only := by decide +kernel
  repeated := by decide +kernel

/-- The reference means nothing there, and the graph has no models. Without the first declaration of the order
it means the order, which is then the one model. -/
theorem repeatedOrder_unresolved :
    let c := ofModules repeatedOrder
    let cleaned := ofModules (repeatedOrder.map (·.cleaned))
    let order : TypeId := ⟨"Shop", "Shop.Order"⟩
    c.resolveName "Shop" "Order" = .unresolved "Order" ∧ (build c []).models.toList = [] ∧
      cleaned.resolveName "Shop" "Order" = .declared order ∧ (build cleaned []).models.toList = [order] := by
  refine ⟨resolveName_of_obscured obscured_repeatedOrder, by decide +kernel, ?_, by decide +kernel⟩
  rw [ofModules_map_cleaned]
  exact resolveName_cleaned_of_obscured obscured_repeatedOrder

end TypeGraph

end WireTypes
