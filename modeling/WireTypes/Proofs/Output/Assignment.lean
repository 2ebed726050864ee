import WireTypes.Proofs.Output.Naming

/-!
# How names are given out

Names are given out in order, to the models and then to the services. Each gets the name that it is to have, or
the first numbered one, as soon as that is free. What comes later in the order has no part in it.

* `FirstFree` : the name to give for a wanted one, and `firstFree_freeName` : it is the one that is given;
* `allot_append`, `firstFree_of_allot` : each name is given in view of those before it;
* `OutputNames.Assigns` : what the tables of names hold;
* `lookup_models_eq_of_before` : the name of a model depends on the models before it;
* `assign_names` : all of it for the names of a run.
-/

namespace WireTypes

/-! ## The first free name -/

/-- `given` is what to give for `wanted` when these names are taken, in lowercase: the wanted name if it is free,
else the first numbered one that is. -/
structure FirstFree (taken : List String) (wanted given : String) : Prop where
  free : Text.toLower given ∉ taken
  first : given = wanted ∨ Text.toLower wanted ∈ taken ∧ ∃ i, 1 ≤ i ∧ given = numbered wanted i ∧
    ∀ j, 1 ≤ j → j < i → Text.toLower (numbered wanted j) ∈ taken

theorem firstFree_freeName (taken : List String) (name : String) :
    FirstFree taken name (freeName taken name) := by
  refine ⟨toLower_freeName_not_mem taken name, ?_⟩
  have hfree := toLower_freeName_not_mem taken name
  unfold freeName at hfree ⊢
  simp only at hfree ⊢
  split
  · exact Or.inl rfl
  rename_i htaken
  rw [if_neg htaken] at hfree
  have hwanted : Text.toLower name ∈ taken := by simpa using htaken
  rw [List.find?_map] at hfree ⊢
  cases hfind : (List.range (taken.length + 1)).find?
      ((fun s => !taken.contains (Text.toLower s)) ∘ fun i => numbered name (i + 1)) with
  | none =>
    rw [hfind] at hfree
    exact absurd hwanted hfree
  | some i =>
    obtain ⟨-, -, hbefore⟩ := List.find?_range_eq_some.mp hfind
    refine Or.inr ⟨hwanted, i + 1, by omega, rfl, fun j hpos hj => ?_⟩
    have := hbefore (j - 1) (by omega)
    rw [Function.comp, Nat.sub_add_cancel hpos] at this
    simpa using this

theorem FirstFree.congr {taken taken' : List String} (htaken : ∀ s, s ∈ taken ↔ s ∈ taken')
    {wanted given : String} (h : FirstFree taken wanted given) : FirstFree taken' wanted given := by
  refine ⟨fun hmem => h.free ((htaken _).mpr hmem), ?_⟩
  rcases h.first with heq | ⟨hwanted, i, hi, heq, hbefore⟩
  · exact Or.inl heq
  · refine Or.inr ⟨(htaken _).mp hwanted, i, hi, heq, fun j hpos hj => ?_⟩
    exact (htaken _).mp (hbefore j hpos hj)

/-! ## One after the other -/

/-- What is taken once the names are given out. -/
def takenAfter (taken names : List String) : List String := ((allot taken names).map Text.toLower).reverse ++ taken

theorem takenAfter_cons (taken : List String) (name : String) (names : List String) :
    takenAfter taken (name :: names) = takenAfter (Text.toLower (freeName taken name) :: taken) names := by
  rw [takenAfter, allot, List.map_cons, List.reverse_cons, List.append_assoc, List.singleton_append, takenAfter]

theorem allot_append (taken names names' : List String) :
    allot taken (names ++ names') = allot taken names ++ allot (takenAfter taken names) names' := by
  induction names generalizing taken with
  | nil => rfl
  | cons name names ih => rw [List.cons_append, allot, allot, ih, takenAfter_cons, List.cons_append]

theorem firstFree_of_allot {taken names before after : List String} {given : String}
    (h : allot taken names = before ++ given :: after) :
    ∃ earlier wanted later, names = earlier ++ wanted :: later ∧ earlier.length = before.length ∧
      FirstFree (taken ++ before.map Text.toLower) wanted given := by
  induction before generalizing taken names with
  | nil =>
    cases names with
    | nil => cases h
    | cons name names =>
      rw [allot, List.nil_append] at h
      obtain ⟨rfl, -⟩ := List.cons.inj h
      refine ⟨[], name, names, rfl, rfl, ?_⟩
      rw [List.map_nil, List.append_nil]
      exact firstFree_freeName taken name
  | cons first before ih =>
    cases names with
    | nil => cases h
    | cons name names =>
      rw [allot, List.cons_append] at h
      obtain ⟨rfl, hrest⟩ := List.cons.inj h
      obtain ⟨earlier, wanted, later, rfl, hlen, hfirst⟩ := ih hrest
      refine ⟨name :: earlier, wanted, later, rfl, by rw [List.length_cons, hlen, List.length_cons], ?_⟩
      refine hfirst.congr fun s => ?_
      simp only [List.mem_append, List.mem_cons, List.map_cons]
      tauto

/-! ## Tables -/

theorem lookup_eq_some_of_mem {table : NameTable} (hnodup : (table.map (·.1)).Nodup) {id : TypeId} {n : String}
    (h : (id, n) ∈ table) : table.lookup id = some n := by
  obtain ⟨before, after, rfl⟩ := List.append_of_mem h
  rw [List.map_append, List.map_cons, List.nodup_append] at hnodup
  refine List.lookup_eq_some_iff.mpr ⟨before, after, rfl, fun e he => ?_⟩
  have hne : e.1 ≠ id := hnodup.2.2 e.1 (List.mem_map_of_mem he) id List.mem_cons_self
  simpa using hne.symm

theorem lookup_zip_append {before after : List TypeId} {given given' : List String} {id : TypeId} {n : String}
    (hlen : before.length = given.length) (hid : id ∉ before) :
    ((before ++ id :: after).zip (given ++ n :: given')).lookup id = some n := by
  rw [List.zip_append hlen, List.zip_cons_cons]
  refine List.lookup_eq_some_iff.mpr ⟨before.zip given, _, rfl, fun e he => ?_⟩
  have hmem : e.1 ∈ before := (List.of_mem_zip he).1
  have hne : id ≠ e.1 := fun heq => hid (heq ▸ hmem)
  simpa using hne

/-- In a table of names given out for its identities, each is the first that is free for what its identity wants. -/
theorem firstFree_of_zip {ids : List TypeId} {taken : List String} {want : TypeId → String} {before after : NameTable}
    {id : TypeId} {n : String} (h : ids.zip (allot taken (ids.map want)) = before ++ (id, n) :: after) :
    FirstFree (taken ++ before.map fun e => Text.toLower e.2) (want id) n := by
  have hlen : ids.length = (allot taken (ids.map want)).length := by rw [length_allot, List.length_map]
  have hids : ids = before.map (·.1) ++ id :: after.map (·.1) := by
    have := congrArg (List.map (·.1)) h
    rwa [List.map_fst_zip (Nat.le_of_eq hlen), List.map_append, List.map_cons] at this
  have hgiven : allot taken (ids.map want) = before.map (·.2) ++ n :: after.map (·.2) := by
    have := congrArg (List.map (·.2)) h
    rwa [List.map_snd_zip (Nat.le_of_eq hlen.symm), List.map_append, List.map_cons] at this
  obtain ⟨earlier, wanted, later, hwanted, hearlier, hfirst⟩ := firstFree_of_allot hgiven
  rw [hids, List.map_append, List.map_cons] at hwanted
  obtain ⟨-, hrest⟩ := List.append_inj hwanted (by rw [hearlier, List.length_map, List.length_map, List.length_map])
  rw [(List.cons.inj hrest).1]
  rwa [List.map_map] at hfirst

namespace OutputNames

/-- The tables give the models and the services names that differ from each other and from that of the index up
to case, each the first that is free when its turn comes. -/
structure Assigns (names : OutputNames) (models services : List TypeId) : Prop where
  models_ids : names.models.map (·.1) = models
  services_ids : names.services.map (·.1) = services
  lookup_models : ∀ e ∈ names.models, names.models.lookup e.1 = some e.2
  lookup_services : ∀ e ∈ names.services, names.services.lookup e.1 = some e.2
  distinct : (indexName :: (names.models ++ names.services).map fun e => Text.toLower e.2).Nodup
  model : ∀ before id n after, names.models = before ++ (id, n) :: after →
    FirstFree (indexName :: before.map fun e => Text.toLower e.2) id.simpleName n
  service : ∀ before id n after, names.services = before ++ (id, n) :: after →
    FirstFree (indexName :: (names.models ++ before).map fun e => Text.toLower e.2) (serviceName id.simpleName) n

/-- The endpoints that services are named for. -/
def served (endpoints : List ClassifiedEndpoint) (withServices : Bool) : List TypeId :=
  if withServices then endpoints.map (·.id) else []

/-- The names of the models, which are given out first. -/
def modelNames (models : List TypeId) : List String := allot [indexName] (models.map (·.simpleName))

/-- The names of the services, given out after those of the models. -/
def serviceNames (models services : List TypeId) : List String :=
  allot (takenAfter [indexName] (models.map (·.simpleName))) (services.map fun id => serviceName id.simpleName)

theorem length_modelNames (models : List TypeId) : (modelNames models).length = models.length := by
  rw [modelNames, length_allot, List.length_map]

theorem length_serviceNames (models services : List TypeId) :
    (serviceNames models services).length = services.length := by
  rw [serviceNames, length_allot, List.length_map]

section Tables

variable {models : ModelSet} {endpoints : List ClassifiedEndpoint} {withServices : Bool}

theorem given_eq : given models endpoints withServices =
    modelNames models.toList ++ serviceNames models.toList (served endpoints withServices) :=
  allot_append ..

theorem models_assign :
    (assign models endpoints withServices).models = models.toList.zip (modelNames models.toList) := by
  have hlen := length_modelNames models.toList
  calc (assign models endpoints withServices).models
    _ = models.toList.zip (given models endpoints withServices) := rfl
    _ = (models.toList ++ []).zip
          (modelNames models.toList ++ serviceNames models.toList (served endpoints withServices)) := by
      rw [given_eq, List.append_nil]
    _ = models.toList.zip (modelNames models.toList) ++ _ := List.zip_append hlen.symm
    _ = models.toList.zip (modelNames models.toList) := by rw [List.zip_nil_left, List.append_nil]

theorem services_assign : (assign models endpoints withServices).services =
    (served endpoints withServices).zip (serviceNames models.toList (served endpoints withServices)) := by
  have hzip : (assign models endpoints withServices).services =
      (served endpoints withServices).zip ((given models endpoints withServices).drop models.toList.length) := rfl
  rw [hzip, given_eq, ← length_modelNames models.toList, List.drop_left]

theorem map_snd_models : (assign models endpoints withServices).models.map (·.2) = modelNames models.toList := by
  rw [models_assign, List.map_snd_zip (Nat.le_of_eq (length_modelNames _))]

theorem map_snd_services : (assign models endpoints withServices).services.map (·.2) =
    serviceNames models.toList (served endpoints withServices) := by
  rw [services_assign, List.map_snd_zip (Nat.le_of_eq (length_serviceNames _ _))]

theorem mem_takenAfter_models {s : String} :
    s ∈ takenAfter [indexName] (models.toList.map (·.simpleName)) ↔
      s ∈ indexName :: (assign models endpoints withServices).models.map fun e => Text.toLower e.2 := by
  have hnames : (assign models endpoints withServices).models.map (fun e => Text.toLower e.2) =
      (modelNames models.toList).map Text.toLower := by
    rw [← map_snd_models, List.map_map]
    rfl
  rw [hnames, takenAfter, List.mem_append, List.mem_reverse, List.mem_singleton, List.mem_cons, or_comm]
  rfl

theorem assigns_assign (hnodup : (endpoints.map (·.id)).Nodup) :
    (assign models endpoints withServices).Assigns models.toList (served endpoints withServices) := by
  have hmodels : (assign models endpoints withServices).models.map (·.1) = models.toList := by
    rw [models_assign, List.map_fst_zip (Nat.le_of_eq (length_modelNames _).symm)]
  have hservices : (assign models endpoints withServices).services.map (·.1) = served endpoints withServices := by
    rw [services_assign, List.map_fst_zip (Nat.le_of_eq (length_serviceNames _ _).symm)]
  constructor
  case models_ids => exact hmodels
  case services_ids => exact hservices
  case lookup_models =>
    have hkeys : ((assign models endpoints withServices).models.map (·.1)).Nodup := hmodels ▸ models.nodup
    exact fun e he => lookup_eq_some_of_mem hkeys he
  case lookup_services =>
    have hserved : (served endpoints withServices).Nodup := by
      unfold served
      split
      · exact hnodup
      · exact List.nodup_nil
    exact fun e he => lookup_eq_some_of_mem (hservices ▸ hserved) he
  case distinct =>
    have hgiven : ((assign models endpoints withServices).models ++
        (assign models endpoints withServices).services).map (fun e => Text.toLower e.2) =
        (given models endpoints withServices).map Text.toLower := by
      rw [given_eq, ← map_snd_models, ← map_snd_services, ← List.map_append, List.map_map]
      rfl
    rw [hgiven, List.nodup_cons]
    refine ⟨fun hmem => ?_, nodup_allot _ _⟩
    obtain ⟨n, hn, heq⟩ := List.mem_map.mp hmem
    exact toLower_not_mem_of_mem_allot hn (heq ▸ List.mem_singleton_self _)
  case model =>
    intro before id n after h
    rw [models_assign] at h
    exact firstFree_of_zip h
  case service =>
    intro before id n after h
    rw [services_assign] at h
    have hfirst := firstFree_of_zip h
    refine hfirst.congr fun s => ?_
    rw [List.mem_append, mem_takenAfter_models, List.map_append, ← List.cons_append, List.mem_append]

end Tables

/-! ## What a name depends on -/

theorem exists_split_of_mem {s : ModelSet} {id : TypeId} (h : id ∈ s) : ∃ before after,
    s.toList = before ++ id :: after ∧ before.Pairwise (fun a b => compare a b = .lt) ∧
      ∀ a, a ∈ before ↔ a ∈ s ∧ compare a id = .lt := by
  obtain ⟨before, after, hsplit⟩ := List.append_of_mem (OrderedSet.mem_def.mp h)
  have hascending := s.ascending
  rw [hsplit, List.pairwise_append, List.pairwise_cons] at hascending
  obtain ⟨hbefore, ⟨hafter, -⟩, hcross⟩ := hascending
  refine ⟨before, after, hsplit, hbefore, fun a => ?_⟩
  rw [OrderedSet.mem_def, hsplit, List.mem_append, List.mem_cons]
  have hself : ∀ a : TypeId, compare a a ≠ .lt := by simp [Std.ReflCmp.compare_self]
  constructor
  · exact fun ha => ⟨Or.inl ha, hcross a ha id List.mem_cons_self⟩
  · rintro ⟨ha | rfl | ha, hlt⟩
    · exact ha
    · exact absurd hlt (hself a)
    · exact absurd (Std.TransCmp.lt_trans hlt (hafter a ha)) (hself a)

theorem lookup_models_of_split {models : ModelSet} {endpoints : List ClassifiedEndpoint} {withServices : Bool}
    {before after : List TypeId} {id : TypeId} (h : models.toList = before ++ id :: after) :
    (assign models endpoints withServices).models.lookup id =
      some (freeName (takenAfter [indexName] (before.map (·.simpleName))) id.simpleName) := by
  have hnodup := models.nodup
  rw [h, List.nodup_append] at hnodup
  have hid : id ∉ before := fun hmem => hnodup.2.2 id hmem id List.mem_cons_self rfl
  obtain ⟨later, hnames⟩ : ∃ later, modelNames models.toList = modelNames before ++
      freeName (takenAfter [indexName] (before.map (·.simpleName))) id.simpleName :: later := by
    rw [h, modelNames, List.map_append, allot_append, List.map_cons, allot, modelNames]
    exact ⟨_, rfl⟩
  rw [models_assign, hnames, h]
  exact lookup_zip_append (length_modelNames before).symm hid

/-- Two sets that agree on what comes before a member give it the same name. -/
theorem lookup_models_eq_of_before {models models' : ModelSet} {endpoints endpoints' : List ClassifiedEndpoint}
    {withServices withServices' : Bool} {id : TypeId} (hid : id ∈ models) (hid' : id ∈ models')
    (hbefore : ∀ a, compare a id = .lt → (a ∈ models ↔ a ∈ models')) :
    (assign models endpoints withServices).models.lookup id =
      (assign models' endpoints' withServices').models.lookup id := by
  obtain ⟨before, after, hsplit, hascending, hmem⟩ := exists_split_of_mem hid
  obtain ⟨before', after', hsplit', hascending', hmem'⟩ := exists_split_of_mem hid'
  have hsame : before = before' := by
    refine OrderedSet.eq_of_ascending hascending hascending' fun a => ?_
    rw [hmem, hmem']
    exact and_congr_left fun hlt => hbefore a hlt
  rw [lookup_models_of_split hsplit, lookup_models_of_split hsplit', hsame]

/-! ## The names of a run -/

/-- **Each model and each service has a name of its own, the first that is free when its turn comes.** The name
of a model depends on the models before it and on nothing else, so that services never change it. -/
theorem assign_names (models : ModelSet) {endpoints : List ClassifiedEndpoint} (withServices : Bool)
    (hnodup : (endpoints.map (·.id)).Nodup) :
    let names := assign models endpoints withServices
    names.Assigns models.toList (if withServices then endpoints.map (·.id) else []) ∧
    (∀ endpoints' withServices', (assign models endpoints' withServices').models = names.models) ∧
    ∀ models' endpoints' withServices', ∀ id ∈ models, id ∈ models' →
      (∀ a, compare a id = .lt → (a ∈ models ↔ a ∈ models')) →
      (assign models' endpoints' withServices').models.lookup id = names.models.lookup id := by
  intro names
  refine ⟨assigns_assign hnodup, ?_, ?_⟩
  · intro endpoints' withServices'
    exact models_assign.trans models_assign.symm
  · intro models' endpoints' withServices' id hid hid' hbefore
    exact (lookup_models_eq_of_before hid hid' hbefore).symm

/-- Items of two modules, a type called like a numbered item, and one called like the service of an endpoint for
items but for case. -/
def itemModels : ModelSet :=
  OrderedSet.ofList [⟨"A", "A.Item"⟩, ⟨"B", "B.Item"⟩, ⟨"B", "B.Item_1"⟩, ⟨"C", "C.itemservice"⟩]

def itemEndpoints : List ClassifiedEndpoint := [⟨⟨"B", "B.ItemController"⟩, []⟩]

theorem assign_names_item :
    (itemEndpoints.map (·.id)).Nodup ∧
    let names := assign itemModels itemEndpoints true
    names.models.map (·.2) = ["Item", "Item_1", "Item_1_1", "itemservice"] ∧
    names.services.map (·.2) = ["ItemService_1"] ∧
    names.Assigns itemModels.toList [⟨"B", "B.ItemController"⟩] := by
  have hnodup : (itemEndpoints.map (·.id)).Nodup := by decide +kernel
  exact ⟨hnodup, by decide +kernel, by decide +kernel, (assign_names itemModels true hnodup).1⟩

end OutputNames

end WireTypes
