import WireTypes.Proofs.Graph.Additive

/-!
# Endpoints are decided in their own module

Whether a type is an endpoint is asked of its own declaration and of nothing else in its module, once all modules
that this one refers to are loaded. Other modules change what the references in its methods mean, but not whether
they can be read.

* `ModuleDecl.DeclaresEndpoint` : what the declaration of an endpoint has;
* `Catalog.LoadsReferences` : a module whose references are loaded, so that its types can be enumerated;
* `isEndpointBase_iff`, `isEndpoint_iff`, `mem_readableTypes_iff` : the conditions of the search, one by one;
* `mem_endpointIds_iff`, `mem_endpointIds_of_mem` : the endpoints of a catalog, and of one of its modules;
* `endpointIds_local` : all of it together.
-/

namespace WireTypes

theorem isEndpointBase_iff {configured : List String} {text : String} : isEndpointBase configured text = true ↔
    ∃ tree, TypeRef.parse text = .ok tree ∧ tree.simpleName ∈ endpointBases configured := by
  unfold isEndpointBase
  cases TypeRef.parse text <;> simp

/-- The base of the type, by the declaration that counts, has one of the effective simple names, and all references
in the signatures of its methods can be read. -/
def ModuleDecl.DeclaresEndpoint (m : ModuleDecl) (configured : List String) (name : String) : Prop :=
  ∃ t, m.type? name = some t ∧
    (∃ base tree, t.base = some base ∧ TypeRef.parse base = .ok tree ∧
      tree.simpleName ∈ endpointBases configured) ∧
    ∀ method ∈ t.methods, ∀ text ∈ method.references, ∃ tree, TypeRef.parse text = .ok tree

namespace Catalog

/-- All modules that the module refers to are loaded. -/
def LoadsReferences (c : Catalog) (m : ModuleDecl) : Prop := ∀ r ∈ m.references, r ∈ c.moduleNames

instance (c : Catalog) (m : ModuleDecl) : Decidable (c.LoadsReferences m) :=
  inferInstanceAs (Decidable (∀ r ∈ m.references, r ∈ c.moduleNames))

variable {c c' : Catalog} {configured : List String} {id : TypeId} {m : ModuleDecl}

/-! ## Conditions of the search -/

theorem missing_eq_nil_iff : m.missing c.moduleNames = [] ↔ c.LoadsReferences m := by
  simp [ModuleDecl.missing, LoadsReferences]

theorem isReadable_iff {text : String} : isReadable text = true ↔ ∃ tree, TypeRef.parse text = .ok tree := by
  unfold isReadable
  cases TypeRef.parse text <;> simp [Except.isOk, Except.toBool]

theorem isEndpoint_iff : c.isEndpoint configured id = true ↔
    ∃ m, c.module? id.module = some m ∧ m.DeclaresEndpoint configured id.name := by
  simp only [isEndpoint, typeDecl?, Option.any_eq_true, Option.bind_eq_some_iff, Bool.and_eq_true, List.all_eq_true,
    isEndpointBase_iff, isReadable_iff, ModuleDecl.DeclaresEndpoint]
  constructor
  · rintro ⟨t, ⟨m, hm, ht⟩, ⟨base, hbase, tree, htree, hname⟩, hmethods⟩
    exact ⟨m, hm, t, ht, ⟨base, tree, hbase, htree, hname⟩, hmethods⟩
  · rintro ⟨m, hm, t, ht, ⟨base, tree, hbase, htree, hname⟩, hmethods⟩
    exact ⟨t, ⟨m, hm, ht⟩, ⟨base, hbase, tree, htree, hname⟩, hmethods⟩

/-- The types that are searched are those of modules whose references are loaded. -/
theorem mem_readableTypes_iff : id ∈ c.readableTypes ↔
    ∃ m, c.module? id.module = some m ∧ c.LoadsReferences m ∧ (m.type? id.name).isSome := by
  rw [mem_readableTypes, mem_readableTypesIn]
  constructor
  · rintro ⟨ids, hids, hid⟩
    obtain ⟨m, hm, hmissing, rfl⟩ := typesIn_eq_ok_iff.mp hids
    obtain ⟨t, ht, rfl⟩ := List.mem_map.mp hid
    exact ⟨m, hm, missing_eq_nil_iff.mp hmissing, isSome_type?_iff.mpr ⟨t, ht, rfl⟩⟩
  · rintro ⟨m, hm, hloaded, hsome⟩
    obtain ⟨t, ht, hname⟩ := isSome_type?_iff.mp hsome
    refine ⟨m.typeIds, typesIn_eq_ok_iff.mpr ⟨m, hm, missing_eq_nil_iff.mpr hloaded, rfl⟩, ?_⟩
    have hmodule := (module?_eq_some_iff.mp hm).2
    exact List.mem_map.mpr ⟨t, ht, by rw [hmodule, hname]⟩

/-! ## Endpoints -/

theorem mem_endpointIds_iff : id ∈ (c.endpoints configured).map (·.id) ↔
    ∃ m, c.module? id.module = some m ∧ c.LoadsReferences m ∧ m.DeclaresEndpoint configured id.name := by
  rw [← TypeGraph.endpointIds_build, TypeGraph.mem_endpointIds_build, mem_readableTypes_iff, isEndpoint_iff]
  constructor
  · rintro ⟨⟨m, hm, hloaded, -⟩, m', hm', hdecl⟩
    obtain rfl := Option.some.inj (hm.symm.trans hm')
    exact ⟨m, hm, hloaded, hdecl⟩
  · rintro ⟨m, hm, hloaded, hdecl⟩
    have hsome : (m.type? id.name).isSome := by
      obtain ⟨t, ht, -⟩ := hdecl
      rw [ht]
      rfl
    exact ⟨⟨m, hm, hloaded, hsome⟩, m, hm, hdecl⟩

theorem mem_endpointIds_of_mem (hm : m ∈ c.modules) (hname : id.module = m.name) :
    id ∈ (c.endpoints configured).map (·.id) ↔ c.LoadsReferences m ∧ m.DeclaresEndpoint configured id.name := by
  have hmodule : c.module? id.module = some m := module?_eq_some_iff.mpr ⟨hm, hname.symm⟩
  rw [mem_endpointIds_iff, hmodule]
  simp

/-- **Endpoints are decided in their own module.** They come by identity, each once, and they are exactly the types of
modules with loaded references whose declarations are those of endpoints. Two catalogs that hold the same module and
both load its references, or both do not, have the same endpoints of it, whatever else they hold. -/
theorem endpointIds_local (c : Catalog) (configured : List String) :
    ((c.endpoints configured).map (·.id)).Pairwise (fun a b => compare a b = .lt) ∧
    (∀ id, id ∈ (c.endpoints configured).map (·.id) ↔
      ∃ m ∈ c.modules, m.name = id.module ∧ c.LoadsReferences m ∧ m.DeclaresEndpoint configured id.name) ∧
    ∀ (c' : Catalog) (m : ModuleDecl), m ∈ c.modules → m ∈ c'.modules →
      (c.LoadsReferences m ↔ c'.LoadsReferences m) →
        ((c.endpoints configured).map (·.id)).filter (·.module = m.name) =
          ((c'.endpoints configured).map (·.id)).filter (·.module = m.name) := by
  have hascending (c : Catalog) : ((c.endpoints configured).map (·.id)).Pairwise fun a b => compare a b = .lt := by
    rw [← TypeGraph.endpointIds_build]
    exact TypeGraph.ascending_endpointIds c configured
  refine ⟨hascending c, fun id => ?_, fun c' m hm hm' hloaded => ?_⟩
  · simp only [mem_endpointIds_iff, module?_eq_some_iff, and_assoc]
  · refine OrderedSet.eq_of_ascending ((hascending c).filter _) ((hascending c').filter _) fun id => ?_
    rw [List.mem_filter, List.mem_filter, decide_eq_true_eq]
    refine and_congr_left fun hname => ?_
    rw [mem_endpointIds_of_mem hm hname, mem_endpointIds_of_mem hm' hname, hloaded]

/-- A shop that refers to a library. -/
def borrowingShop : ModuleDecl where
  name := "Shop"
  references := ["Library"]
  types := [
    { name := "Shop.OrdersController"
      base := some "Web.ApiController"
      methods := [{ name := "GetOrder", returns := some "Order", parameters := [⟨"id", "int?"⟩] }] },
    { name := "Shop.HelpController"
      base := some "Web.ApiController"
      methods := [{ name := "GetHelp", returns := some "List<" }] }]

/-- A module that cannot be enumerated, with a type of the full name of an endpoint. -/
def strangeModule : ModuleDecl where
  name := "Strange"
  references := ["Nowhere"]
  types := [{ name := "Shop.OrdersController" }, { name := "Order", base := some "Order<" }]

/-- What the order is, and where, makes no difference to the endpoints of the shop. -/
theorem endpointIds_local_borrowingShop :
    let c := ofModules [borrowingShop, { name := "Library", types := [{ name := "Order" }] }]
    let c' := ofModules [strangeModule, { name := "Library", references := ["Shop"] }, borrowingShop]
    borrowingShop ∈ c.modules ∧ borrowingShop ∈ c'.modules ∧
      (c.LoadsReferences borrowingShop ↔ c'.LoadsReferences borrowingShop) ∧
      c.resolveName "Shop" "Order" = .declared ⟨"Library", "Order"⟩ ∧
      c'.resolveName "Shop" "Order" = .declared ⟨"Strange", "Order"⟩ ∧
      (c.endpoints []).map (·.id) = [⟨"Shop", "Shop.OrdersController"⟩] ∧
      ((c.endpoints []).map (·.id)).filter (·.module = borrowingShop.name) =
        ((c'.endpoints []).map (·.id)).filter (·.module = borrowingShop.name) := by
  intro c c'
  have hm : borrowingShop ∈ c.modules := by decide +kernel
  have hm' : borrowingShop ∈ c'.modules := by decide +kernel
  have hloaded : c.LoadsReferences borrowingShop := by decide +kernel
  have hloaded' : c'.LoadsReferences borrowingShop := by decide +kernel
  have hiff : c.LoadsReferences borrowingShop ↔ c'.LoadsReferences borrowingShop := iff_of_true hloaded hloaded'
  exact ⟨hm, hm', hiff, rfl, rfl, by decide +kernel, (endpointIds_local c []).2.2 c' borrowingShop hm hm' hiff⟩

end Catalog

end WireTypes
