import WireTypes.Output.Files
import WireTypes.Proofs.Graph.Alike

/-!
# The order of declarations

Modules are searched in the order in which they are loaded, and types in that of their declarations. When no name
is declared twice, each search has at most one hit, so that any order finds it; everything else goes through sets
and through tables by identity. So nothing that is generated depends on the order.

* `Reordered`, `Unambiguous` : the same declarations in another order, none of a name that is taken;
* `typeDecl?_of_reordered`, `resolveName_of_reordered` : every type has the same declaration, every name the same
  meaning;
* `Alike.entityFile_eq` : catalogs that read alike have the same files for a model;
* `build_reordered` : graph, names and files do not depend on the order.
-/

namespace WireTypes

/-- The module with its types in another order. -/
structure ModuleDecl.Reordered (m m' : ModuleDecl) : Prop where
  name : m'.name = m.name
  references : m'.references = m.references
  types : m'.types.Perm m.types

/-- The modules in another order, and in each of them the types in another order. -/
def Reordered (ms ms' : List ModuleDecl) : Prop :=
  ∃ moved, moved.Perm ms ∧ List.Forall₂ ModuleDecl.Reordered moved ms'

/-- No two modules have one name, and no two types, whether of one module or of two. -/
structure Unambiguous (ms : List ModuleDecl) : Prop where
  modules : (ms.map (·.name)).Nodup
  types : (ms.flatMap fun m => m.types.map (·.name)).Nodup

/-! ## Declarations -/

namespace ModuleDecl

theorem type?_eq_some_iff {m : ModuleDecl} (hn : (m.types.map (·.name)).Nodup) {name : String} {t : TypeDecl} :
    m.type? name = some t ↔ t ∈ m.types ∧ t.name = name := by
  constructor
  · exact mem_of_type?_eq_some
  · rintro ⟨ht, hname⟩
    obtain ⟨u, hu⟩ := Option.isSome_iff_exists.mp (Catalog.isSome_type?_iff.mpr ⟨t, ht, hname⟩)
    obtain ⟨hmem, huname⟩ := mem_of_type?_eq_some hu
    rw [hu, List.inj_on_of_nodup_map hn hmem ht (huname.trans hname.symm)]

theorem Reordered.type? {m m' : ModuleDecl} (h : m.Reordered m') (hn : (m.types.map (·.name)).Nodup)
    (name : String) : m'.type? name = m.type? name := by
  have hn' : (m'.types.map (·.name)).Nodup := (h.types.map _).nodup_iff.mpr hn
  apply Option.ext
  intro t
  rw [type?_eq_some_iff hn', type?_eq_some_iff hn, h.types.mem_iff]

theorem Reordered.sameTypes {m m' : ModuleDecl} (h : m.Reordered m') : m.SameTypes m' :=
  ⟨h.name, h.references, h.types.map _⟩

end ModuleDecl

/-! ## Searches with one hit -/

/-- A search that can have only one result finds it in any order. -/
theorem findSome?_congr {α β : Type} {f : α → Option β} {as bs : List α} (hmem : ∀ a, a ∈ as ↔ a ∈ bs)
    (honly : ∀ a ∈ as, ∀ a' ∈ as, ∀ b b', f a = some b → f a' = some b' → b = b') :
    as.findSome? f = bs.findSome? f := by
  cases hbs : bs.findSome? f with
  | none =>
    rw [List.findSome?_eq_none_iff] at hbs ⊢
    exact fun a ha => hbs a ((hmem a).mp ha)
  | some b =>
    obtain ⟨a, ha, hab⟩ := List.exists_of_findSome?_eq_some hbs
    have hsome : (as.findSome? f).isSome :=
      List.findSome?_isSome_iff.mpr ⟨a, (hmem a).mpr ha, by rw [hab, Option.isSome_some]⟩
    obtain ⟨b', hb'⟩ := Option.isSome_iff_exists.mp hsome
    obtain ⟨a', ha', hab'⟩ := List.exists_of_findSome?_eq_some hb'
    rw [hb', honly a' ha' a ((hmem a).mpr ha) b' b hab' hab]

namespace Catalog

variable {c c' : Catalog}

theorem names_typeIds (c : Catalog) :
    c.typeIds.map (·.name) = c.modules.flatMap fun m => m.types.map (·.name) := by
  simp only [typeIds, ModuleDecl.typeIds, List.map_flatMap, List.map_map]
  rfl

theorem eq_of_findIn (hu : (c.typeIds.map (·.name)).Nodup) {module module' name : String}
    {id id' : TypeId} (h : c.findIn module name = some id) (h' : c.findIn module' name = some id') : id = id' := by
  have hname : ∀ {module id}, c.findIn module name = some id → id.name = name := by
    intro module id h
    unfold findIn at h
    split at h
    · rw [← Option.some.inj h]
    · cases h
  have hnames : id.name = id'.name := (hname h).trans (hname h').symm
  exact List.inj_on_of_nodup_map hu (mem_typeIds_of_findIn h) (mem_typeIds_of_findIn h') hnames

/-! ## Catalogs in another order -/

section Reordered

variable {ms ms' : List ModuleDecl} (h : Reordered ms ms') (hu : Unambiguous ms)

include h hu

theorem rel_module?_of_reordered (module : String) :
    Option.Rel ModuleDecl.Reordered ((ofModules ms).module? module) ((ofModules ms').module? module) := by
  obtain ⟨moved, hperm, hmoved⟩ := h
  have hmodules : ∀ ms : List ModuleDecl, (ms.map (·.name)).Nodup → (ofModules ms).modules = ms :=
    fun ms hn => (modules_ofModules ms).trans (firstOfEachName_eq_self hn)
  have hn : (moved.map (·.name)).Nodup := (hperm.map _).nodup_iff.mpr hu.modules
  have hsame : (ofModules moved).module? module = (ofModules ms).module? module := by
    apply module?_of_perm
    rwa [hmodules moved hn, hmodules ms hu.modules]
  rw [← hsame]
  have hname : ∀ m m', ModuleDecl.Reordered m m' → m'.name = m.name := fun _ _ hm => hm.name
  exact rel_module? hname (forall₂_modules_ofModules hname hmoved) module

theorem sameTypes_of_reordered : (ofModules ms).SameTypes (ofModules ms') := fun module =>
  rel_imp (fun _ _ hm => hm.sameTypes) (rel_module?_of_reordered h hu module)

theorem typeDecl?_of_reordered (id : TypeId) : (ofModules ms').typeDecl? id = (ofModules ms).typeDecl? id := by
  unfold typeDecl?
  rcases rel_cases (rel_module?_of_reordered h hu id.module) with ⟨hnone, hnone'⟩ | ⟨m, m', hm, hm', hmoved⟩
  · rw [hnone, hnone']
  · have hmem : m ∈ ms := by
      have hloaded := (module?_eq_some_iff.mp hm).1
      rwa [modules_ofModules, firstOfEachName_eq_self hu.modules] at hloaded
    have hn : (m.types.map (·.name)).Nodup := (List.nodup_flatMap.mp hu.types).1 m hmem
    rw [hm, hm', Option.bind_some, Option.bind_some, hmoved.type? hn]

theorem isIgnored_of_reordered (id : TypeId) : (ofModules ms').isIgnored id = (ofModules ms).isIgnored id := by
  rw [isIgnored, typeDecl?_of_reordered h hu, isIgnored]

theorem resolveName_of_reordered (context name : String) :
    (ofModules ms').resolveName context name = (ofModules ms).resolveName context name := by
  have hsame := sameTypes_of_reordered h hu
  have hnames : ((ofModules ms).typeIds.map (·.name)).Nodup := by
    rw [names_typeIds, modules_ofModules, firstOfEachName_eq_self hu.modules]
    exact hu.types
  refine hsame.resolveName (findSome?_congr (fun module => ?_) ?_)
  · simp only [searchOrder, hsame.references, List.mem_append, List.mem_filter, hsame.mem_moduleNames]
  · exact fun _ _ _ _ _ _ hid hid' => eq_of_findIn hnames hid hid'

theorem alike_of_reordered : (ofModules ms).Alike (ofModules ms') := by
  refine .of_names (sameTypes_of_reordered h hu) (fun id => ?_) (resolveName_of_reordered h hu)
  rw [typeDecl?_of_reordered h hu]
  exact rel_self TypeDecl.SameMembers.refl _

end Reordered

/-! ## Files -/

section Alike

variable (h : c.Alike c') (hi : ∀ id, c'.isIgnored id = c.isIgnored id)

include h hi

theorem Alike.entityFile_eq (hdecl : ∀ id, c'.typeDecl? id = c.typeDecl? id) (nameOf : TypeId → String)
    (combined : Bool) (id : TypeId) : c'.entityFile nameOf combined id = c.entityFile nameOf combined id :=
  entityFile_congr hi (hdecl id) (h.baseType id) (h.properties id) nameOf combined

end Alike

end Catalog

namespace TypeGraph

open Catalog

/-- **Nothing depends on the order of declarations.** Of two lists of the same modules in another order, with
their types in another order, no two modules and no two types of one name: every reference means the same, and is
the same to a client; the graphs are the same, and so are the names and all the files that are generated. -/
theorem build_reordered {ms ms' : List ModuleDecl} (h : Reordered ms ms') (hu : Unambiguous ms)
    (configured : List String) :
    let c := ofModules ms
    let c' := ofModules ms'
    let graph := build c configured
    let graph' := build c' configured
    graph' = graph ∧
    (∀ context t, c'.resolve context t = c.resolve context t) ∧
    (∀ d, c'.classify d = c.classify d) ∧
    (∀ withServices, OutputNames.assign graph'.models graph'.endpoints withServices =
      OutputNames.assign graph.models graph.endpoints withServices) ∧
    ∀ apiPath module combined, OutputPlan.make c' graph' apiPath module combined =
      OutputPlan.make c graph apiPath module combined := by
  intro c c' graph graph'
  have halike : c.Alike c' := alike_of_reordered h hu
  have hi : ∀ id, c'.isIgnored id = c.isIgnored id := isIgnored_of_reordered h hu
  have hgraph : graph' = graph := halike.build_eq hi configured
  rw [hgraph]
  refine ⟨rfl, ?_, classify_congr hi, fun _ => rfl, ?_⟩
  · exact fun context => resolve_congr (resolveName_of_reordered h hu context)
  · intro apiPath module combined
    have hfile : c'.entityFile = c.entityFile := by
      funext nameOf combined id
      exact halike.entityFile_eq hi (typeDecl?_of_reordered h hu) nameOf combined id
    simp only [OutputPlan.make, hfile]

/-- A shop and its stock, in one order. -/
def orderedShop : List ModuleDecl :=
  [{ name := "Shop"
     references := ["Stock"]
     types := [
       { name := "Shop.OrdersController"
         base := some "ApiController"
         methods := [{ name := "GetOrder", returns := some "Order" }] },
       { name := "Shop.Order", properties := [⟨"Item", "Stock.Item"⟩] }] },
   { name := "Stock", types := [{ name := "Stock.Item" }] }]

/-- The same in another order. -/
def reorderedShop : List ModuleDecl :=
  [{ name := "Stock", types := [{ name := "Stock.Item" }] },
   { name := "Shop"
     references := ["Stock"]
     types := [
       { name := "Shop.Order", properties := [⟨"Item", "Stock.Item"⟩] },
       { name := "Shop.OrdersController"
         base := some "ApiController"
         methods := [{ name := "GetOrder", returns := some "Order" }] }] }]

theorem reordered_orderedShop : Reordered orderedShop reorderedShop :=
  ⟨orderedShop.reverse, List.reverse_perm _,
    .cons ⟨rfl, rfl, .refl _⟩ (.cons ⟨rfl, rfl, .swap _ _ _⟩ .nil)⟩

theorem build_reordered_orderedShop :
    let graph := build (ofModules reorderedShop) []
    Reordered orderedShop reorderedShop ∧ Unambiguous orderedShop ∧
      graph = build (ofModules orderedShop) [] ∧
      graph.models.toList = [⟨"Shop", "Shop.Order"⟩, ⟨"Stock", "Stock.Item"⟩] := by
  intro graph
  have hu : Unambiguous orderedShop := ⟨by decide +kernel, by decide +kernel⟩
  exact ⟨reordered_orderedShop, hu, (build_reordered reordered_orderedShop hu []).1, by decide +kernel⟩

end TypeGraph

end WireTypes
