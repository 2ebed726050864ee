import WireTypes.Proofs.Graph.Additive
import WireTypes.Proofs.Graph.Closure

/-!
# What a graph holds is declared

Nothing that a graph is made of is invented on the way: a reference means declared types, the seeds are gathered from
such meanings, and from declared types the closure leads to declared types. Only what a closure starts from may be
undeclared. Ignored types are left out of signatures and of closures alike.

* `readMethod_eq_ok_iff`, `mem_typeIds_of_methods` : the types in the signatures of methods;
* `declared_of_mem_seeds` : the seeds of the endpoints that are found;
* `closedOver_declared` : the rules of the closure keep to declared types, apart from the seeds;
* `declared_of_mem_graph` : what references, seeds and closures hold.
-/

namespace WireTypes.Catalog

variable {c : Catalog}

/-! ## Signatures -/

/-- What a method returns is the meaning of its own reference, or nothing. -/
theorem mem_typeIds_of_readReturns {context : String} {m : MethodDecl} {d : Descriptor}
    (h : c.readReturns context m = .ok d) {id : TypeId} (hid : id ∈ d.definitions) : id ∈ c.typeIds := by
  unfold readReturns at h
  split at h
  · exact mem_typeIds_of_resolveText h hid
  · obtain rfl := Except.ok.inj h
    exact absurd hid List.not_mem_nil

theorem mem_typeIds_of_readParameter {context : String} {p : ParameterDecl} {q : Parameter}
    (h : c.readParameter context p = .ok q) {id : TypeId} (hid : id ∈ q.type.definitions) : id ∈ c.typeIds := by
  unfold readParameter at h
  cases hd : c.resolveText context p.type with
  | error e => simp [hd, bind, Except.bind] at h
  | ok d =>
    rw [hd] at h
    obtain rfl := Except.ok.inj h
    exact mem_typeIds_of_resolveText hd hid

theorem readMethod_eq_ok_iff {context : String} {m : MethodDecl} {method : Method} :
    c.readMethod context m = .ok method ↔ ∃ returns parameters, c.readReturns context m = .ok returns ∧
      m.parameters.mapM (c.readParameter context) = .ok parameters ∧
      method = ⟨m.name, returns, parameters, m.verb, m.route⟩ := by
  unfold readMethod
  cases c.readReturns context m with
  | error e => simp [bind, Except.bind]
  | ok returns =>
    cases m.parameters.mapM (c.readParameter context) with
    | error e => simp [bind, Except.bind]
    | ok parameters => simp [bind, Except.bind, pure, Except.pure, eq_comm]

theorem mem_typeIds_of_methods {id : TypeId} {methods : List Method} (h : c.methods id = .ok methods) {m : Method}
    (hm : m ∈ methods) {d : Descriptor} (hd : d ∈ m.signature) {a : TypeId} (ha : a ∈ d.definitions) :
    a ∈ c.typeIds := by
  rw [methods_eq] at h
  cases ht : c.typeDecl id with
  | error e => simp [ht, bind, Except.bind] at h
  | ok t =>
    rw [ht] at h
    obtain ⟨decl, -, hread⟩ := exists_of_forall₂ (mapM_eq_ok_iff.mp h) hm
    obtain ⟨returns, parameters, hreturns, hparameters, rfl⟩ := readMethod_eq_ok_iff.mp hread
    rcases List.mem_cons.mp hd with rfl | hd
    · exact mem_typeIds_of_readReturns hreturns ha
    · obtain ⟨q, hq, rfl⟩ := List.mem_map.mp hd
      obtain ⟨p, -, hp⟩ := exists_of_forall₂ (mapM_eq_ok_iff.mp hparameters) hq
      exact mem_typeIds_of_readParameter hp ha

theorem methods_of_mem_endpoints {configured : List String} {e : Endpoint} (h : e ∈ c.endpoints configured) :
    c.methods e.id = .ok e.methods := by
  rw [endpoints_eq] at h
  obtain ⟨id, -, hid⟩ := List.mem_filterMap.mp h
  obtain ⟨methods, hmethods, rfl⟩ := exists_methods_of_endpoint? hid
  exact hmethods

/-! ## Seeds -/

/-- The seeds are models in signatures, and models are types that are not ignored. -/
theorem declared_of_mem_seeds {configured : List String} {id : TypeId}
    (h : id ∈ c.seeds (c.endpoints configured)) : id ∈ c.typeIds ∧ c.isIgnored id = false := by
  obtain ⟨e, he, m, hm, d, hd, hid⟩ := mem_seeds.mp h
  obtain ⟨hdef, hkept⟩ := mem_models_classify d hid
  exact ⟨mem_typeIds_of_methods (methods_of_mem_endpoints he) hm hd hdef, hkept⟩

/-! ## Closures -/

/-- Every rule of the closure leads to declared types, whatever it starts from. -/
theorem closedOver_declared (c : Catalog) (seeds : ModelSet) :
    c.ClosedOver seeds {id | id ∈ seeds ∨ id ∈ c.typeIds} where
  seeds _ hid _ := Or.inl hid
  subtypes _ _ ids hids _ hsub hkept hanc :=
    Or.inr (mem_typeIds_of_mem_subtypes (mem_subtypes.mpr ⟨ids, hids, hsub, hkept, hanc⟩))
  properties _ _ _ hps p hp _ hm := Or.inr (mem_typeIds_of_properties hps hp (mem_models_classify p.type hm).1)
  base _ _ base hbase _ hm := Or.inr (mem_typeIds_of_baseType hbase (mem_models_classify base hm).1)

/-- **What a graph holds is declared.** All types in the meaning of a reference have a declaration; so have the models
in the signatures of the endpoints, and the members of a closure that are not among its seeds. Neither holds a type
that is ignored. -/
theorem declared_of_mem_graph (c : Catalog) (configured : List String) (seeds : ModelSet) :
    (∀ context t, ∀ id ∈ (c.resolve context t).definitions, (c.typeDecl? id).isSome) ∧
    (∀ id ∈ c.seeds (c.endpoints configured), (c.typeDecl? id).isSome ∧ c.isIgnored id = false) ∧
    ∀ id ∈ c.closure seeds, (id ∉ seeds → (c.typeDecl? id).isSome) ∧ c.isIgnored id = false := by
  simp only [← mem_typeIds_iff]
  refine ⟨?_, ?_, ?_⟩
  · intro context t id hid
    exact mem_typeIds_of_mem_resolve t hid
  · intro id hid
    exact declared_of_mem_seeds hid
  · intro id hid
    have hdecl := closure_subset_of_closedOver (closedOver_declared c seeds) hid
    exact ⟨fun hnot => hdecl.resolve_left hnot, not_isIgnored_of_mem_closure hid⟩

end WireTypes.Catalog
