import WireTypes.Proofs.Catalog.Repeated

/-!
# Types of one simple name

A module may declare a generic type and, beside it, types of the same simple name, with parameters of another
number or with none. An unqualified reference to the generic type is looked up under its name with the arity and
then under its name alone. With the arity it is found as a full name only, since no simple name holds an arity.
So what decides is the plain simple name, and that is the name of its siblings as well.

* `ModuleDecl.siblings`, `Catalog.withoutSiblings` : the other types of that simple name, and the catalog
  without them;
* `Catalog.DeclaresGeneric` : the name of a generic type by itself means nothing else;
* `resolveDefinition_of_declaresGeneric` : it is found exactly if it has no siblings;
* `resolve_generic_siblings` : what the reference means, with the siblings and without them.
-/

namespace WireTypes

/-! ## Siblings -/

/-- Another type with the simple name of the type `full`. -/
def TypeDecl.isSibling (full : String) (t : TypeDecl) : Bool :=
  simpleName t.name = simpleName full && t.name != full

namespace ModuleDecl

/-- The other types of the module with the simple name of the type `full`. -/
def siblings (m : ModuleDecl) (full : String) : List TypeDecl := m.types.filter (·.isSibling full)

def withoutSiblings (m : ModuleDecl) (full : String) : ModuleDecl :=
  { m with types := m.types.filter fun t => !t.isSibling full }

/-- The type is declared, and not repeated. -/
def DeclaresOnce (m : ModuleDecl) (full : String) : Prop := (m.types.filter (·.name = full)).length = 1

instance (m : ModuleDecl) (full : String) : Decidable (m.DeclaresOnce full) :=
  inferInstanceAs (Decidable (_ = _))

theorem siblings_withoutSiblings (m : ModuleDecl) (full : String) :
    (m.withoutSiblings full).siblings full = [] := by
  rw [siblings, withoutSiblings, List.filter_filter, List.filter_eq_nil_iff]
  intro t _
  simp

theorem declaresOnce_withoutSiblings {m : ModuleDecl} {full : String} :
    (m.withoutSiblings full).DeclaresOnce full ↔ m.DeclaresOnce full := by
  have hsame : (m.withoutSiblings full).types.filter (·.name = full) = m.types.filter (·.name = full) := by
    rw [withoutSiblings, List.filter_filter]
    refine List.filter_congr fun t _ => ?_
    by_cases hname : t.name = full <;> simp [TypeDecl.isSibling, hname]
  rw [DeclaresOnce, hsame, DeclaresOnce]

/-- The declarations with the simple name of a type are its own and those of its siblings. -/
theorem length_filter_simpleName (m : ModuleDecl) (full : String) :
    (m.types.filter (simpleName ·.name = simpleName full)).length =
      (m.types.filter (·.name = full)).length + (m.siblings full).length := by
  rw [siblings]
  induction m.types with
  | nil => rfl
  | cons t ts ih =>
    by_cases hname : t.name = full
    · have hsibling : t.isSibling full = false := by simp [TypeDecl.isSibling, hname]
      rw [List.filter_cons_of_pos (by simp [hname]), List.filter_cons_of_pos (by simp [hname]),
        List.filter_cons_of_neg (by simp [hsibling]), List.length_cons, List.length_cons, ih]
      omega
    · by_cases hsimple : simpleName t.name = simpleName full
      · have hsibling : t.isSibling full = true := by simp [TypeDecl.isSibling, hname, hsimple]
        rw [List.filter_cons_of_pos (by simp [hsimple]), List.filter_cons_of_neg (by simp [hname]),
          List.filter_cons_of_pos (by simp [hsibling]), List.length_cons, List.length_cons, ih]
        omega
      · have hsibling : t.isSibling full = false := by simp [TypeDecl.isSibling, hsimple]
        rw [List.filter_cons_of_neg (by simp [hsimple]), List.filter_cons_of_neg (by simp [hname]),
          List.filter_cons_of_neg (by simp [hsibling]), ih]

end ModuleDecl

/-! ## Names with an arity -/

/-- No built-in type is called by a name with an arity. -/
theorem Builtin.ofName?_eq_none {name : String} (h : arityMark ∈ name.toList) : Builtin.ofName? name = none := by
  have hplain : ∀ b ∈ Builtin.all, ∀ s ∈ b.spellings, arityMark ∉ s.toList := by decide +kernel
  rw [Builtin.ofName?, List.find?_eq_none]
  intro b hb hname
  exact hplain b hb name (List.contains_iff_mem.mp hname) h

theorem isSegmentBreak_of_lastSegment {full name s : String} (h : lastSegment full = name ++ s) :
    name.toList.any isSegmentBreak = false := by
  rw [List.any_eq_false]
  intro c hc
  have hmem : c ∈ (lastSegment full).toList := by
    rw [h, String.toList_append]
    exact List.mem_append_left _ hc
  simp [isSegmentBreak_of_mem_lastSegment hmem]

namespace Catalog

variable {c : Catalog}

/-- The catalog in which the module lacks the siblings of the type `full`. -/
def withoutSiblings (c : Catalog) (module full : String) : Catalog where
  modules := c.modules.map fun m => if m.name = module then m.withoutSiblings full else m
  distinct := by
    have hnames : (c.modules.map fun m => if m.name = module then m.withoutSiblings full else m).map (·.name) =
        c.modules.map (·.name) := by
      rw [List.map_map]
      refine List.map_congr_left fun m _ => ?_
      rw [Function.comp]
      split <;> rfl
    rw [hnames]
    exact c.distinct

/-- The module declares a generic type with this last segment, and the segment, with its arity and without, means
nothing else: it is no built-in type and no full name of a loaded type. -/
structure DeclaresGeneric (c : Catalog) (m : ModuleDecl) (full name : String) (arity : Nat) : Prop where
  loaded : m ∈ c.modules
  declared : ∃ t ∈ m.types, t.name = full
  segment : lastSegment full = name ++ "`" ++ toString arity
  unmarked : arityMark ∉ name.toList
  notBuiltin : Builtin.ofName? name = none
  notFull : ∀ k ∈ c.modules, ∀ t ∈ k.types, t.name ≠ name ∧ t.name ≠ name ++ "`" ++ toString arity

/-! ## Look-ups that fail -/

theorem findIn_eq_none {name : String} (h : ∀ k ∈ c.modules, ∀ t ∈ k.types, t.name ≠ name) (module : String) :
    c.findIn module name = none := by
  rw [Option.eq_none_iff_forall_ne_some]
  intro id hid
  unfold findIn at hid
  split at hid
  · rename_i hdecl
    obtain ⟨k, hk, hmem⟩ := List.mem_flatMap.mp (mem_typeIds_iff.mpr hdecl)
    obtain ⟨t, ht, heq⟩ := List.mem_map.mp hmem
    exact h k hk t ht (congrArg TypeId.name heq)
  · cases hid

theorem fullNameMeaning?_eq_none {name : String} (hfull : ∀ k ∈ c.modules, ∀ t ∈ k.types, t.name ≠ name)
    (hbuiltin : Builtin.ofName? name = none) (context : String) : c.fullNameMeaning? context name = none := by
  have hsearch : ((c.searchOrder context).findSome? fun m => c.findIn m name) = none :=
    List.findSome?_eq_none_iff.mpr fun m _ => findIn_eq_none hfull m
  rw [fullNameMeaning?, findIn_eq_none hfull, hbuiltin, hsearch]
  rfl

theorem findSimple_eq_none_of_arityMark {context name : String} (h : arityMark ∈ name.toList) :
    c.findSimple context name = none := by
  rw [Option.eq_none_iff_forall_ne_some]
  intro id hid
  obtain ⟨-, t, ht, -⟩ := findSimple_eq_some_iff.mp hid
  rw [homonyms_eq_nil_of_arityMark h] at ht
  cases ht

theorem declaredName?_eq_findSimple {context name : String} (h : c.fullNameMeaning? context name = none) :
    c.declaredName? context name = c.findSimple context name := by
  rw [declaredName?, resolveName_eq, h]
  cases c.findSimple context name <;> rfl

/-! ## The unqualified name of a generic type -/

theorem homonyms_of_mem {m : ModuleDecl} (hm : m ∈ c.modules) (name : String) :
    c.homonyms m.name name = m.types.filter (simpleName ·.name = name) := by
  rw [homonyms, module?_eq_some_iff.mpr ⟨hm, rfl⟩]
  rfl

namespace DeclaresGeneric

variable {m : ModuleDecl} {full name : String} {arity : Nat}

theorem simpleName_eq (h : c.DeclaresGeneric m full name arity) : simpleName full = name := by
  rw [simpleName, h.segment, stripArity_append_arityMark h.unmarked]

theorem withoutSiblings (h : c.DeclaresGeneric m full name arity) :
    (c.withoutSiblings m.name full).DeclaresGeneric (m.withoutSiblings full) full name arity where
  loaded := List.mem_map.mpr ⟨m, h.loaded, if_pos rfl⟩
  declared := by
    obtain ⟨t, ht, hname⟩ := h.declared
    refine ⟨t, List.mem_filter.mpr ⟨ht, ?_⟩, hname⟩
    simp [TypeDecl.isSibling, hname]
  segment := h.segment
  unmarked := h.unmarked
  notBuiltin := h.notBuiltin
  notFull := by
    intro k hk t ht
    obtain ⟨k', hk', rfl⟩ := List.mem_map.mp hk
    refine h.notFull k' hk' t ?_
    split at ht
    · exact (List.mem_filter.mp ht).1
    · exact ht

/-- The type is the one with its simple name exactly if it has no siblings and is not repeated. -/
theorem findSimple_eq (h : c.DeclaresGeneric m full name arity) : c.findSimple m.name name =
    if m.DeclaresOnce full ∧ m.siblings full = [] then some ⟨m.name, full⟩ else none := by
  have hhomonyms : c.homonyms m.name name = m.types.filter (simpleName ·.name = simpleName full) := by
    rw [homonyms_of_mem h.loaded, h.simpleName_eq]
  have hlen := m.length_filter_simpleName full
  obtain ⟨t, ht, hname⟩ := h.declared
  have hself : t ∈ m.types.filter (·.name = full) := List.mem_filter.mpr ⟨ht, by simpa using hname⟩
  have hpos := List.length_pos_of_mem hself
  split
  · rename_i hsole
    obtain ⟨honce, hnone⟩ := hsole
    rw [ModuleDecl.DeclaresOnce] at honce
    rw [honce, hnone, List.length_nil] at hlen
    obtain ⟨u, hu⟩ := List.length_eq_one_iff.mp hlen
    have hmem : t ∈ m.types.filter (simpleName ·.name = simpleName full) :=
      List.mem_filter.mpr ⟨ht, by simp [hname]⟩
    rw [hu, List.mem_singleton] at hmem
    subst hmem
    refine findSimple_eq_some_iff.mpr ⟨?_, t, hhomonyms.trans hu, by rw [hname]⟩
    exact isSegmentBreak_of_lastSegment (h.segment.trans String.append_assoc)
  · rename_i hnot
    rw [Option.eq_none_iff_forall_ne_some]
    intro id hid
    obtain ⟨-, u, hu, -⟩ := findSimple_eq_some_iff.mp hid
    rw [← hhomonyms, hu, List.length_singleton] at hlen
    refine hnot ⟨?_, List.eq_nil_of_length_eq_zero (by omega)⟩
    rw [ModuleDecl.DeclaresOnce]
    omega

theorem resolveDefinition_eq (h : c.DeclaresGeneric m full name arity) :
    c.resolveDefinition m.name name arity =
      if m.DeclaresOnce full ∧ m.siblings full = [] then some ⟨m.name, full⟩ else none := by
  have hmark := arityMark_mem_definitionName name arity
  have hwith : c.declaredName? m.name (name ++ "`" ++ toString arity) = none := by
    rw [declaredName?_eq_findSimple, findSimple_eq_none_of_arityMark hmark]
    exact fullNameMeaning?_eq_none (fun k hk t ht => (h.notFull k hk t ht).2) (Builtin.ofName?_eq_none hmark) _
  have hplain : c.declaredName? m.name name = c.findSimple m.name name :=
    declaredName?_eq_findSimple
      (fullNameMeaning?_eq_none (fun k hk t ht => (h.notFull k hk t ht).1) h.notBuiltin _)
  rw [Catalog.resolveDefinition_eq, hwith, Option.none_or, hplain, h.findSimple_eq]

theorem resolve_eq {args : List TypeRef} (h : c.DeclaresGeneric m full name args.length) :
    c.resolve m.name (.generic name args) =
      if m.DeclaresOnce full ∧ m.siblings full = [] then .constructed ⟨m.name, full⟩ (c.resolveAll m.name args)
      else .generic name (c.resolveAll m.name args) := by
  rw [resolve, h.resolveDefinition_eq]
  by_cases hsole : m.DeclaresOnce full ∧ m.siblings full = []
  · rw [if_pos hsole, if_pos hsole]
  · rw [if_neg hsole, if_neg hsole]

end DeclaresGeneric

/-- **A generic type is hidden by its siblings.** The unqualified reference to a generic type that is declared
once means an instance of it in the module without its siblings. In the module itself it means that exactly if
there are no siblings, of whatever arity, and an undeclared generic type else. So the siblings do not matter
exactly if there are none, or if the type is repeated and found in neither. -/
theorem resolve_generic_siblings {m : ModuleDecl} {full name : String} {args : List TypeRef}
    (h : c.DeclaresGeneric m full name args.length) :
    let alone := c.withoutSiblings m.name full
    let id : TypeId := ⟨m.name, full⟩
    (alone.resolve m.name (.generic name args) =
      if m.DeclaresOnce full then .constructed id (alone.resolveAll m.name args)
      else .generic name (alone.resolveAll m.name args)) ∧
    (c.resolve m.name (.generic name args) =
      if m.DeclaresOnce full ∧ m.siblings full = [] then .constructed id (c.resolveAll m.name args)
      else .generic name (c.resolveAll m.name args)) ∧
    (c.resolve m.name (.generic name args) = alone.resolve m.name (.generic name args) ↔
      c.resolveAll m.name args = alone.resolveAll m.name args ∧
        (m.siblings full = [] ∨ ¬ m.DeclaresOnce full)) := by
  intro alone id
  have hwith := h.resolve_eq
  have halone : alone.resolve m.name (.generic name args) =
      if m.DeclaresOnce full then .constructed id (alone.resolveAll m.name args)
      else .generic name (alone.resolveAll m.name args) := by
    have heq := h.withoutSiblings.resolve_eq
    simp only [m.siblings_withoutSiblings full, ModuleDecl.declaresOnce_withoutSiblings, and_true] at heq
    exact heq
  refine ⟨halone, hwith, ?_⟩
  rw [halone, hwith]
  by_cases honce : m.DeclaresOnce full
  · by_cases hnone : m.siblings full = []
    · simp [honce, hnone, id]
    · simp [honce, hnone]
  · simp [honce]

/-- A shop with a generic result and, beside it, a result without parameters. -/
def resultShop : ModuleDecl :=
  { name := "Shop", types := [{ name := "Shop.Result`1" }, { name := "Shop.Result" }] }

theorem declaresGeneric_resultShop :
    (ofModules [resultShop]).DeclaresGeneric resultShop "Shop.Result`1" "Result" 1 where
  loaded := List.mem_singleton_self _
  declared := by decide +kernel
  segment := by decide +kernel
  unmarked := by decide +kernel
  notBuiltin := by decide +kernel
  notFull := by decide +kernel

theorem resolve_generic_siblings_resultShop :
    let c := ofModules [resultShop]
    let alone := c.withoutSiblings "Shop" "Shop.Result`1"
    let result : TypeRef := .generic "Result" [.named "int"]
    c.DeclaresGeneric resultShop "Shop.Result`1" "Result" 1 ∧
      alone.resolve "Shop" result =
        .constructed ⟨"Shop", "Shop.Result`1"⟩ (alone.resolveAll "Shop" [.named "int"]) ∧
      c.resolve "Shop" result = .generic "Result" (c.resolveAll "Shop" [.named "int"]) := by
  intro c alone result
  have honce : resultShop.DeclaresOnce "Shop.Result`1" := by decide +kernel
  have hsiblings : resultShop.siblings "Shop.Result`1" ≠ [] := by decide +kernel
  obtain ⟨halone, hwith, -⟩ :=
    @resolve_generic_siblings c resultShop "Shop.Result`1" "Result" [.named "int"] declaresGeneric_resultShop
  exact ⟨declaresGeneric_resultShop, halone.trans (if_pos honce), hwith.trans (if_neg fun h => hsiblings h.2)⟩

/-- No other type of the shop has the last segment of the generic result. Still the reference to it means nothing
declared there, and without the other result it means an instance of it. -/
theorem result_hidden_by_sibling :
    let c := ofModules [resultShop]
    let alone := ofModules [{ resultShop with types := [{ name := "Shop.Result`1" }] }]
    let result : TypeRef := .generic "Result" [.named "int"]
    c.DeclaresGeneric resultShop "Shop.Result`1" "Result" 1 ∧
      (∀ t ∈ resultShop.types, lastSegment t.name = "Result`1" → t.name = "Shop.Result`1") ∧
      c.resolve "Shop" result = .generic "Result" [.builtin .int32] ∧
      alone.resolve "Shop" result = .constructed ⟨"Shop", "Shop.Result`1"⟩ [.builtin .int32] :=
  ⟨declaresGeneric_resultShop, by decide +kernel, rfl, rfl⟩

end Catalog

end WireTypes
