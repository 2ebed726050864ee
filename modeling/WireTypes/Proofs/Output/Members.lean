import Mathlib.Data.List.Nodup
import WireTypes.Proofs.Graph.Declared
import WireTypes.Proofs.Output.References
import WireTypes.Proofs.Output.Written
import WireTypes.Proofs.Text.Sigma

/-!
# Names of members

Members are written under their names in camel case, one by one. Nothing tells them apart: overloads of a method get one
name, and so do names that differ in the case of their first character only. The capital i with a dot above adds a
third way, since its lowercase is an i and a dot.

* `lowerChar_eq_singleton`, `lowerChar_eq_i_iff` : one character in lowercase;
* `lowerInitial`, `toList_camelCase` : camel case, character by character;
* `AlikeInitially`, `camelCase_eq_iff` : the names that become one in camel case;
* `NamesMembers` : how members are named, and when their names are distinct;
* `Catalog.omits`, `writtenMethods`, `writtenProperties` : the members that are written;
* `members_of_run` : the names of the members in the files of a run.
-/

namespace WireTypes

/-! ## Camel case -/

namespace Text

/-- The capital i with a dot above. -/
def dottedI : Char := Char.ofNat 0x130

/-- The dot above, which combines with the character before it. -/
def dotAbove : Char := Char.ofNat 0x307

theorem lowerChar_dottedI : lowerChar dottedI = ['i', dotAbove] := by decide

theorem lowerChar_eq_singleton {c : Char} (h : c ≠ dottedI) : ∃ low, lowerChar c = [low] := by
  unfold lowerChar
  split
  · exact ⟨_, rfl⟩
  split
  · rename_i hdotted
    refine absurd ?_ h
    rw [← Char.ofNat_toNat c, hdotted]
    rfl
  split <;> exact ⟨_, rfl⟩

theorem lowerChar_ne_nil (c : Char) : lowerChar c ≠ [] := by
  by_cases hc : c = dottedI
  · rw [hc, lowerChar_dottedI]
    exact List.cons_ne_nil _ _
  · obtain ⟨low, hlow⟩ := lowerChar_eq_singleton hc
    rw [hlow]
    exact List.cons_ne_nil _ _

/-- No run of the lowercase mapping leads to an i, and none to a character before it. -/
theorem i_lt_of_mem_lowerSteps : ∀ entry ∈ lowerSteps, 'i'.toNat < entry.2.2.2 := by decide +kernel

theorem lowerChar_eq_i_iff {c : Char} : lowerChar c = ['i'] ↔ c = 'i' ∨ c = 'I' := by
  constructor
  · intro h
    unfold lowerChar at h
    split at h
    · rename_i hlt
      have hall : ∀ n < 0x80, [(Char.ofNat n).toLower] = ['i'] → Char.ofNat n = 'i' ∨ Char.ofNat n = 'I' := by decide
      simpa only [Char.ofNat_toNat] using hall c.toNat hlt (by rwa [Char.ofNat_toNat])
    split at h
    · exact absurd h (by decide)
    split at h
    · rename_i first last step image hfind
      have himage : 'i'.toNat = image + (c.toNat - first) :=
        toNat_ofNat_of_ne_zero (List.singleton_inj.mp h).symm (by decide)
      have := i_lt_of_mem_lowerSteps _ (List.mem_of_find?_eq_some hfind)
      simp only at this
      omega
    · exact Or.inl (List.singleton_inj.mp h)
  · rintro (rfl | rfl) <;> decide

end Text

open Text

/-- The characters with the first one in lowercase. -/
def lowerInitial : List Char → List Char
  | [] => []
  | c :: cs => lowerChar c ++ cs

theorem lowerInitial_cons_ne_nil (c : Char) (cs : List Char) : lowerInitial (c :: cs) ≠ [] := by
  rw [lowerInitial]
  exact List.append_ne_nil_of_left_ne_nil (lowerChar_ne_nil c) cs

theorem toList_camelCase (name : String) : (camelCase name).toList = lowerInitial name.toList := by
  unfold camelCase
  cases name.toList with
  | nil => rfl
  | cons c cs => exact String.toList_ofList

/-- The same but for the case of the first character. In front of a dot an i in either case is the capital i with a dot
above. -/
inductive AlikeInitially : List Char → List Char → Prop
  | nil : AlikeInitially [] []
  | initial {c d : Char} (rest : List Char) (h : lowerChar c = lowerChar d) : AlikeInitially (c :: rest) (d :: rest)
  | dotted {d : Char} (rest : List Char) (h : d = 'i' ∨ d = 'I') :
    AlikeInitially (dottedI :: rest) (d :: dotAbove :: rest)
  | undotted {c : Char} (rest : List Char) (h : c = 'i' ∨ c = 'I') :
    AlikeInitially (c :: dotAbove :: rest) (dottedI :: rest)

theorem AlikeInitially.lowerInitial_eq {cs ds : List Char} (h : AlikeInitially cs ds) :
    lowerInitial cs = lowerInitial ds := by
  cases h with
  | nil => rfl
  | initial rest h => rw [lowerInitial, lowerInitial, h]
  | dotted rest h => rw [lowerInitial, lowerInitial, lowerChar_dottedI, lowerChar_eq_i_iff.mpr h]; rfl
  | undotted rest h => rw [lowerInitial, lowerInitial, lowerChar_dottedI, lowerChar_eq_i_iff.mpr h]; rfl

theorem AlikeInitially.symm {cs ds : List Char} (h : AlikeInitially cs ds) : AlikeInitially ds cs := by
  cases h with
  | nil => exact .nil
  | initial rest h => exact .initial rest h.symm
  | dotted rest h => exact .undotted rest h
  | undotted rest h => exact .dotted rest h

/-- Behind an i with a dot above, the other name has the i and the dot one after the other. -/
theorem alikeInitially_dottedI {d : Char} {cs ds : List Char} (hd : d ≠ dottedI)
    (h : lowerInitial (dottedI :: cs) = lowerInitial (d :: ds)) : AlikeInitially (dottedI :: cs) (d :: ds) := by
  obtain ⟨low, hlow⟩ := lowerChar_eq_singleton hd
  rw [lowerInitial, lowerInitial, lowerChar_dottedI, hlow] at h
  obtain ⟨rfl, rfl⟩ := List.cons.inj h
  exact .dotted cs (lowerChar_eq_i_iff.mp hlow)

theorem lowerInitial_eq_iff {cs ds : List Char} : lowerInitial cs = lowerInitial ds ↔ AlikeInitially cs ds := by
  refine ⟨fun h => ?_, AlikeInitially.lowerInitial_eq⟩
  cases cs with
  | nil =>
    cases ds with
    | nil => exact .nil
    | cons d ds => exact absurd h.symm (lowerInitial_cons_ne_nil d ds)
  | cons c cs =>
    cases ds with
    | nil => exact absurd h (lowerInitial_cons_ne_nil c cs)
    | cons d ds =>
      by_cases hc : c = dottedI
      · subst hc
        by_cases hd : d = dottedI
        · subst hd
          rw [List.append_cancel_left h]
          exact .initial ds rfl
        · exact alikeInitially_dottedI hd h
      · by_cases hd : d = dottedI
        · subst hd
          exact (alikeInitially_dottedI hc h.symm).symm
        · obtain ⟨low, hlow⟩ := lowerChar_eq_singleton hc
          obtain ⟨low', hlow'⟩ := lowerChar_eq_singleton hd
          rw [lowerInitial, lowerInitial, hlow, hlow'] at h
          obtain ⟨rfl, rfl⟩ := List.cons.inj h
          exact .initial cs (hlow.trans hlow'.symm)

theorem camelCase_eq_iff {a b : String} : camelCase a = camelCase b ↔ AlikeInitially a.toList b.toList := by
  rw [← String.toList_inj, toList_camelCase, toList_camelCase, lowerInitial_eq_iff]

/-! ## Members that are written -/

/-- Members of these names are written under `names`. -/
structure NamesMembers (names members : List String) : Prop where
  camel : names = members.map camelCase
  nodup_iff : names.Nodup ↔ members.Pairwise fun a b => ¬AlikeInitially a.toList b.toList

theorem namesMembers_map (members : List String) : NamesMembers (members.map camelCase) members where
  camel := rfl
  nodup_iff := by
    rw [List.Nodup, List.pairwise_map]
    exact List.Pairwise.iff fun a b => not_congr camelCase_eq_iff

namespace Catalog

/-- Whether members of this type are left out: it is ignored, or made of an ignored type by arrays and undeclared generics
of one argument. -/
def omits (c : Catalog) (d : Descriptor) : Bool := d.core.definition?.any c.isIgnored

/-- The names of the methods of an endpoint that are written: those whose response is not left out. -/
def writtenMethods (c : Catalog) (e : Endpoint) : List String :=
  (e.methods.filter fun m => !c.omits m.returns).map (·.name)

/-- The names of the properties of a type that are written. There are none when one cannot be read. -/
def writtenProperties (c : Catalog) (id : TypeId) : List String :=
  match c.properties id with
  | .ok properties => (properties.filter fun p => !c.omits p.type).map (·.name)
  | .error _ => []

variable {c : Catalog} {nameOf : TypeId → String}

theorem isSome_typeText_classify (d : Descriptor) : ((c.classify d).typeText nameOf).isSome = !c.omits d :=
  (Classification.isSome_typeText nameOf _).trans (c.reflects_core d).written

theorem isSome_request?_classifyMethod (apiPath endpoint : String) (m : Method) :
    ((c.classifyMethod m).request? nameOf apiPath endpoint).isSome = !c.omits m.returns :=
  ClassifiedMethod.isSome_request?.trans (c.reflects_core m.returns).written

theorem names_serviceMethods (apiPath : String) (e : Endpoint) :
    (serviceMethods nameOf apiPath (c.classifyEndpoint e)).map (camelCase ·.1.name) =
      (c.writtenMethods e).map camelCase := by
  rw [serviceMethods, classifyEndpoint, List.filterMap_map, writtenMethods, List.map_map]
  refine map_filterMap_eq_map_filter (fun m => ?_) fun m _ hm => ?_
  · exact Option.isSome_map.trans (isSome_request?_classifyMethod apiPath e.id.simpleName m)
  · obtain ⟨r, -, rfl⟩ := Option.map_eq_some_iff.mp hm
    rfl

theorem names_interface_properties (id : TypeId) :
    (c.interface nameOf id).properties.map (·.1) = (c.writtenProperties id).map camelCase := by
  rw [interface_properties, classifiedProperties, writtenProperties]
  cases c.properties id with
  | error e => rfl
  | ok properties =>
    simp only [List.filterMap_map, List.map_map]
    refine map_filterMap_eq_map_filter (fun p => ?_) fun p _ hp => ?_
    · exact Option.isSome_map.trans (isSome_typeText_classify p.type)
    · obtain ⟨text, -, rfl⟩ := Option.map_eq_some_iff.mp hp
      rfl

end Catalog

/-! ## Files of a run -/

namespace Catalog

variable (c : Catalog) (nameOf : TypeId → String)

theorem exists_members_serviceFile (settings : ServiceSettings) (name : String) (e : Endpoint) :
    ∃ imports members, (serviceFile settings nameOf name (c.classifyEndpoint e)).text =
        serviceText settings.module name imports members ∧
      NamesMembers (members.map (·.1)) (c.writtenMethods e) := by
  refine ⟨_, _, rfl, ?_⟩
  rw [List.map_map]
  exact names_serviceMethods settings.apiPath e ▸ namesMembers_map _

theorem exists_members_entityFile (combined : Bool) (id : TypeId) :
    (∃ t, c.typeDecl? id = some t ∧ t.kind = .enum ∧
        (c.entityFile nameOf combined id).text = enumText (nameOf id) t.values) ∨
      ∃ i : Interface, i.name = nameOf id ∧ (c.entityFile nameOf combined id).text = i.text combined ∧
        NamesMembers (i.properties.map (·.1)) (c.writtenProperties id) := by
  refine (text_entityFile c nameOf combined id).imp_right fun htext => ⟨_, rfl, htext, ?_⟩
  exact names_interface_properties id ▸ namesMembers_map _

end Catalog

/-- **Members are named one by one.** The methods of a service are those of an endpoint whose responses are not ignored,
and the properties of an interface are those of a type that are not ignored. Whatever else they are declared with, all
have their own names in camel case. So the names in a file are distinct exactly if no two of these members have names
that are alike but for the case of the first character. -/
theorem members_of_run (c : Catalog) (configured : List String) (apiPath : Option String) (module : HttpModule)
    (combined : Bool) :
    let graph := TypeGraph.build c configured
    let names := OutputNames.assign graph.models graph.endpoints apiPath.isSome
    let plan := OutputPlan.make c graph apiPath module combined
    (∀ file ∈ plan.services, ∃ e ∈ c.endpoints configured, names.services.lookup e.id = some file.name ∧
      c.methods e.id = .ok e.methods ∧ ∃ imports members,
        file.text = serviceText module file.name imports members ∧
          NamesMembers (members.map (·.1)) (c.writtenMethods e)) ∧
    (∀ file ∈ plan.models, ∃ id ∈ graph.models, names.models.lookup id = some file.name ∧
      ((∃ t, c.typeDecl? id = some t ∧ t.kind = .enum ∧ file.text = enumText file.name t.values) ∨
        ∃ i : Interface, i.name = file.name ∧ file.text = i.text combined ∧
          NamesMembers (i.properties.map (·.1)) (c.writtenProperties id))) := by
  intro graph names plan
  refine ⟨fun file hfile => ?_, fun file hfile => ?_⟩
  · obtain ⟨path, -, classified, hclassified, hname, hservice⟩ := mem_services hfile
    obtain ⟨e, he, rfl⟩ := List.mem_map.mp hclassified
    refine ⟨e, he, hname, Catalog.methods_of_mem_endpoints he, ?_⟩
    rw [hservice]
    exact c.exists_members_serviceFile names.models.nameOf ⟨path, module, combined⟩ file.name e
  · obtain ⟨id, hid, rfl⟩ := List.mem_map.mp hfile
    refine ⟨id, hid, OutputNames.lookup_models_eq_nameOf hid, ?_⟩
    exact c.exists_members_entityFile names.models.nameOf combined id

/-- An endpoint with two overloads, and a type with two properties that differ in the case of a character. -/
def overloadShop : ModuleDecl :=
  { name := "Shop"
    types :=
      [{ name := "Shop.OrdersController", base := some "ApiController"
         methods :=
           [{ name := "Find", returns := some "int", parameters := [⟨"id", "int"⟩] },
            { name := "Find", returns := some "Shop.Order", parameters := [⟨"name", "string"⟩] }] },
       { name := "Shop.Order", properties := [⟨"Total", "int"⟩, ⟨"total", "string"⟩] }] }

/-- The endpoint of `overloadShop`. -/
def overloadEndpoint : Endpoint :=
  { id := ⟨"Shop", "Shop.OrdersController"⟩
    methods :=
      [⟨"Find", .builtin .int32, [⟨"id", .builtin .int32⟩], none, none⟩,
       ⟨"Find", .declared ⟨"Shop", "Shop.Order"⟩, [⟨"name", .builtin .string⟩], none, none⟩] }

/-- The methods differ in their parameters and the properties in their names. Both have one name when they are written. -/
theorem members_overloadShop :
    let c := Catalog.ofModules [overloadShop]
    let plan := OutputPlan.make c (TypeGraph.build c []) (some "api") .httpClient false
    (overloadEndpoint ∈ c.endpoints [] ∧
      overloadEndpoint.methods.Pairwise (fun a b => a.name ≠ b.name ∨
        a.parameters.map (·.type) ≠ b.parameters.map (·.type)) ∧
      ∃ file ∈ plan.services, ∃ imports members, file.text = serviceText .httpClient "OrdersService" imports members ∧
        members.map (·.1) = ["find", "find"]) ∧
    (∃ properties, c.properties ⟨"Shop", "Shop.Order"⟩ = .ok properties ∧ (properties.map (·.name)).Nodup ∧
      ∃ file ∈ plan.models, ∃ i : Interface, file.text = i.text false ∧ i.name = "Order" ∧
        i.properties.map (·.1) = ["total", "total"]) := by
  intro c plan
  let names := OutputNames.assign (TypeGraph.build c []).models (TypeGraph.build c []).endpoints true
  constructor
  · have hendpoints : c.endpoints [] = [overloadEndpoint] := rfl
    have hmem : overloadEndpoint ∈ c.endpoints [] := hendpoints ▸ List.mem_singleton_self _
    have hname : names.services.lookup overloadEndpoint.id = some "OrdersService" := by decide +kernel
    have hcamel : (c.writtenMethods overloadEndpoint).map camelCase = ["find", "find"] := by decide +kernel
    obtain ⟨imports, members, htext, hnames⟩ := c.exists_members_serviceFile names.models.nameOf
      ⟨"api", .httpClient, false⟩ "OrdersService" overloadEndpoint
    refine ⟨hmem, by simp [overloadEndpoint], _, ?_, imports, members, htext, hnames.camel.trans hcamel⟩
    exact List.mem_filterMap.mpr ⟨_, List.mem_map_of_mem hmem, Option.map_eq_some_iff.mpr ⟨_, hname, rfl⟩⟩
  · let id : TypeId := ⟨"Shop", "Shop.Order"⟩
    have hmem : id ∈ (TypeGraph.build c []).models := by decide +kernel
    have hname : names.models.nameOf id = "Order" := by decide +kernel
    have hcamel : (c.writtenProperties id).map camelCase = ["total", "total"] := by decide +kernel
    refine ⟨[⟨"Total", .builtin .int32⟩, ⟨"total", .builtin .string⟩], rfl, by decide, _,
      List.mem_map_of_mem hmem, c.interface names.models.nameOf id, rfl, hname, ?_⟩
    exact (Catalog.names_interface_properties id).trans hcamel

end WireTypes
