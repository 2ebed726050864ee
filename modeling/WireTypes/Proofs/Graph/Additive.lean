import WireTypes.Proofs.Graph.Alike

/-!
# Graphs are additive in the configured bases

A graph with two lists of endpoint bases is the union of the graphs with either. Whether a type is an endpoint asks
for one of the names, the seeds are gathered endpoint by endpoint, and what several starts reach together each of
them reaches on its own. The lists must not be empty: an empty one stands for the default base, and appending it to
another adds nothing.

* `reached_append`, `Catalog.closure_union` : what is reached is additive in the start, the closure in its seeds;
* `Catalog.isEndpointBase_append`, `Catalog.mem_endpoints_append` : a type is an endpoint for one of the names, and
  all names read the same off it (`Catalog.eq_of_endpoint?`);
* `Catalog.seeds_of_endpoints` : the seeds of several endpoints;
* `TypeGraph.IsUnion`, `TypeGraph.build_append` : the graph.
-/

namespace WireTypes

/-! ## What is reached -/

theorem Reached.of_start {α : Type} {next : α → List α} {within start start' : List α}
    (hstart : ∀ a ∈ start, a ∈ start') {a : α} (h : Reached next within start a) :
    Reached next within start' a := by
  induction h with
  | start ha => exact .start (hstart _ ha)
  | step _ hb hin ih => exact .step ih hb hin

/-- A way from two starts begins at one of them. -/
theorem reached_append {α : Type} {next : α → List α} {within start start' : List α} {a : α} :
    Reached next within (start ++ start') a ↔
      Reached next within start a ∨ Reached next within start' a := by
  constructor
  · intro h
    induction h with
    | start ha => exact (List.mem_append.mp ha).imp .start .start
    | step _ hb hin ih => exact ih.imp (fun h => .step h hb hin) fun h => .step h hb hin
  · rintro (h | h)
    · exact h.of_start fun _ => List.mem_append_left start'
    · exact h.of_start fun _ => List.mem_append_right start

namespace Catalog

variable {c : Catalog}

/-- The search from some seeds finds what the searches from their parts find, in whatever order these go. -/
theorem closure_union (c : Catalog) (seeds seeds' : ModelSet) :
    c.closure (seeds.union seeds') = (c.closure seeds).union (c.closure seeds') := by
  apply OrderedSet.ext
  intro id
  rw [OrderedSet.mem_union, mem_closure, mem_closure, mem_closure, ← reached_append, ← List.filter_append]
  have hstart : ∀ a, a ∈ (seeds.union seeds').toList.filter (fun a => !c.isIgnored a) ↔
      a ∈ (seeds.toList ++ seeds'.toList).filter (fun a => !c.isIgnored a) := fun a => by
    rw [List.mem_filter, List.mem_filter, List.mem_append, ← OrderedSet.mem_def, OrderedSet.mem_union,
      OrderedSet.mem_def, OrderedSet.mem_def]
  exact ⟨.of_start fun a => (hstart a).mp, .of_start fun a => (hstart a).mpr⟩

/-! ## Endpoints -/

section Bases

variable {bases bases' : List String}

theorem isEndpointBase_append (h : bases ≠ []) (h' : bases' ≠ []) (text : String) :
    isEndpointBase (bases ++ bases') text = (isEndpointBase bases text || isEndpointBase bases' text) := by
  have hbases : ∀ {names : List String}, names ≠ [] → endpointBases names = names := fun hne =>
    if_neg (by simpa using hne)
  unfold isEndpointBase
  rw [hbases h, hbases h', hbases (List.append_ne_nil_of_left_ne_nil h _)]
  cases TypeRef.parse text with
  | ok t => rw [Bool.eq_iff_iff]; simp
  | error e => rfl

theorem endpoint?_append (h : bases ≠ []) (h' : bases' ≠ []) (id : TypeId) :
    c.endpoint? (bases ++ bases') id = (c.endpoint? bases id).or (c.endpoint? bases' id) := by
  unfold endpoint?
  cases (c.typeDecl? id).bind (·.base) with
  | none => rfl
  | some base =>
    simp only [isEndpointBase_append h h']
    cases c.methods id <;> cases isEndpointBase bases base <;> cases isEndpointBase bases' base <;> rfl

theorem exists_methods_of_endpoint? {id : TypeId} {e : Endpoint} (h : c.endpoint? bases id = some e) :
    ∃ methods, c.methods id = .ok methods ∧ e = ⟨id, methods⟩ := by
  unfold endpoint? at h
  split at h
  · split at h
    · split at h
      · rename_i methods hmethods
        exact ⟨methods, hmethods, (Option.some.inj h).symm⟩
      · cases h
    · cases h
  · cases h

/-- Whatever the names, what is read off a type is the same, if anything is. -/
theorem eq_of_endpoint? {id : TypeId} {e e' : Endpoint} (h : c.endpoint? bases id = some e)
    (h' : c.endpoint? bases' id = some e') : e = e' := by
  obtain ⟨methods, hread, rfl⟩ := exists_methods_of_endpoint? h
  obtain ⟨methods', hread', rfl⟩ := exists_methods_of_endpoint? h'
  rw [Except.ok.inj (hread.symm.trans hread')]

theorem mem_endpoints_append (h : bases ≠ []) (h' : bases' ≠ []) {e : Endpoint} :
    e ∈ c.endpoints (bases ++ bases') ↔ e ∈ c.endpoints bases ∨ e ∈ c.endpoints bases' := by
  simp only [endpoints_eq, List.mem_filterMap, ← exists_or, ← and_or_left]
  refine exists_congr fun id => and_congr_right fun _ => ?_
  rw [endpoint?_append h h']
  cases hleft : c.endpoint? bases id with
  | none => simp
  | some e' =>
    rw [Option.some_or, Option.some.injEq]
    exact ⟨.inl, fun he => he.elim (fun heq => heq) fun hright => eq_of_endpoint? hleft hright⟩

end Bases

theorem seeds_of_endpoints {endpoints left right : List Endpoint}
    (h : ∀ e, e ∈ endpoints ↔ e ∈ left ∨ e ∈ right) :
    c.seeds endpoints = (c.seeds left).union (c.seeds right) := by
  apply OrderedSet.ext
  intro id
  simp only [OrderedSet.mem_union, mem_seeds, h, or_and_right, exists_or]

end Catalog

namespace TypeGraph

/-! ## Graphs -/

/-- A graph that holds what two others hold, its endpoints by identity and each once. -/
structure IsUnion (both left right : TypeGraph) : Prop where
  ascending : (both.endpoints.map (·.id)).Pairwise fun a b => compare a b = .lt
  endpoints : ∀ e, e ∈ both.endpoints ↔ e ∈ left.endpoints ∨ e ∈ right.endpoints
  seeds : both.seeds = left.seeds.union right.seeds
  models : both.models = left.models.union right.models

theorem ascending_endpointIds (c : Catalog) (configured : List String) :
    ((build c configured).endpoints.map (·.id)).Pairwise fun a b => compare a b = .lt := by
  rw [endpointIds_build, Catalog.endpoints_eq, List.map_filterMap]
  refine c.readableTypes.ascending.filterMap _ fun id id' hlt b hb b' hb' => ?_
  rw [Catalog.map_id_endpoint?, Option.ite_none_right_eq_some, Option.some.injEq] at hb hb'
  rw [← hb.2, ← hb'.2]
  exact hlt

/-- **A graph is additive in the bases of its endpoints.** With the names of two lists that are not empty, the
endpoints are those with either list, by identity and each once; the seeds are the union of the seeds, and the
models the union of the models. What is closed over is additive for any two sets of seeds. -/
theorem build_append (c : Catalog) {bases bases' : List String} (h : bases ≠ []) (h' : bases' ≠ []) :
    (build c (bases ++ bases')).IsUnion (build c bases) (build c bases') ∧
      ∀ seeds seeds' : ModelSet, c.closure (seeds.union seeds') = (c.closure seeds).union (c.closure seeds') := by
  have hendpoints := fun e => Catalog.mem_endpoints_append (c := c) h h' (e := e)
  have hseeds := Catalog.seeds_of_endpoints (c := c) hendpoints
  refine ⟨⟨ascending_endpointIds c _, ?_, hseeds, ?_⟩, c.closure_union⟩
  · intro e
    simp only [build, List.mem_map, hendpoints, or_and_right, exists_or]
  · rw [build, hseeds]
    exact c.closure_union _ _

/-- A module with endpoints of two bases, whose models overlap. -/
def newsShop : Catalog :=
  .ofModules [{
    name := "Shop"
    types := [
      { name := "Shop.OrdersController"
        base := some "ApiController"
        methods := [{ name := "GetOrder", returns := some "Order" }] },
      { name := "Shop.NewsHub"
        base := some "HubController"
        methods := [{ name := "GetNews", returns := some "List<News>" }] },
      { name := "Shop.Order", properties := [⟨"Items", "List<Item>"⟩] },
      { name := "Shop.News", properties := [⟨"About", "Item"⟩] },
      { name := "Shop.Item" }] }]

theorem build_append_newsShop :
    let orders := build newsShop ["ApiController"]
    let news := build newsShop ["HubController"]
    let both := build newsShop ["ApiController", "HubController"]
    ["ApiController"] ≠ [] ∧ ["HubController"] ≠ [] ∧ both.IsUnion orders news ∧
      orders.models.toList = [⟨"Shop", "Shop.Item"⟩, ⟨"Shop", "Shop.Order"⟩] ∧
      news.models.toList = [⟨"Shop", "Shop.Item"⟩, ⟨"Shop", "Shop.News"⟩] ∧
      both.models.toList = [⟨"Shop", "Shop.Item"⟩, ⟨"Shop", "Shop.News"⟩, ⟨"Shop", "Shop.Order"⟩] := by
  intro orders news both
  have horders : ["ApiController"] ≠ [] := List.cons_ne_nil _ _
  have hnews : ["HubController"] ≠ [] := List.cons_ne_nil _ _
  refine ⟨horders, hnews, (build_append newsShop horders hnews).1, ?_, ?_, ?_⟩
  · decide +kernel
  · decide +kernel
  · decide +kernel

end TypeGraph

end WireTypes
