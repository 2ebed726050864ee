import Mathlib.Data.List.Nodup
import WireTypes.Collection.Explore
import WireTypes.Output.Naming

/-!
# Output names never collide

A numbered name ends in an underscore and digits, which are their own lowercase, so that different numbers
give names that differ up to case. One of the first `n + 1` of them is therefore outside any `n` names.

* `toLower_numbered` : how the lowercase of a numbered name ends;
* `toLower_freeName_not_mem` : the name that is given out is free;
* `nodup_allot` : names given out one after the other differ up to case;
* `dot_not_mem_given` : names of files have no dots, since simple names have none;
* `exists_lookup_models`, `nameOf_ne_service` : every model has a name, and none is that of a service.
-/

namespace WireTypes

/-! ## The end of a lowercase text -/

namespace Text

theorem lowerAfter_append (before cs ds : List Char) :
    ∃ low, lowerAfter before (cs ++ ds) = low ++ lowerAfter (cs.reverse ++ before) ds := by
  induction cs generalizing before with
  | nil => exact ⟨[], rfl⟩
  | cons c cs ih =>
    obtain ⟨low, hlow⟩ := ih (c :: before)
    rw [List.cons_append, lowerAfter, hlow, List.reverse_cons, List.append_assoc, ← List.append_assoc]
    exact ⟨_, rfl⟩

/-- ASCII characters that are their own lowercase stay as they are, whatever comes before them. -/
theorem lowerAfter_of_ascii (before : List Char) {cs : List Char}
    (h : ∀ c ∈ cs, c.toNat < 0x80 ∧ c.toLower = c) : lowerAfter before cs = cs := by
  induction cs generalizing before with
  | nil => rfl
  | cons c cs ih =>
    obtain ⟨hlt, hlow⟩ := h c List.mem_cons_self
    have hsigma : c ≠ capitalSigma := by
      rintro rfl
      exact absurd hlt (by decide)
    rw [lowerAfter, ih _ fun d hd => h d (List.mem_cons_of_mem _ hd)]
    simp [hsigma, lowerChar_of_lt hlt, hlow]

end Text

theorem ascii_of_isDigit {c : Char} (h : c.isDigit = true) : c.toNat < 0x80 ∧ c.toLower = c := by
  have hval : 48 ≤ c.val.toNat ∧ c.val.toNat ≤ 57 := by
    simpa [Char.isDigit, UInt32.le_iff_toNat_le] using h
  refine ⟨by show c.val.toNat < 0x80; omega, ?_⟩
  unfold Char.toLower
  split
  · rename_i hupper
    simp only [UInt32.le_iff_toNat_le] at hupper
    have : 65 ≤ c.val.toNat := hupper.1
    omega
  · rfl

theorem toLower_numbered (name : String) (i : Nat) :
    ∃ low, (Text.toLower (numbered name i)).toList = low ++ '_' :: Nat.toDigits 10 i := by
  have hlist : (numbered name i).toList = name.toList ++ '_' :: Nat.toDigits 10 i := by
    simp [numbered]
  have hascii : ∀ c ∈ '_' :: Nat.toDigits 10 i, c.toNat < 0x80 ∧ c.toLower = c := by
    intro c hc
    rcases List.mem_cons.mp hc with rfl | hc
    · decide
    · exact ascii_of_isDigit (Nat.isDigit_of_mem_toDigits (by decide) (by decide) hc)
  obtain ⟨low, hlow⟩ := Text.lowerAfter_append [] name.toList ('_' :: Nat.toDigits 10 i)
  refine ⟨low, ?_⟩
  rw [Text.toLower, String.toList_ofList, hlist, hlow, Text.lowerAfter_of_ascii _ hascii]

/-- The last member of a class in a list is determined by the list. -/
theorem eq_of_last_eq {α : Type} {p : α → Prop} {a b : α} {xs ys ds es : List α} (ha : p a) (hb : p b)
    (hds : ∀ c ∈ ds, ¬p c) (hes : ∀ c ∈ es, ¬p c) (h : xs ++ a :: ds = ys ++ b :: es) :
    xs = ys ∧ a = b ∧ ds = es := by
  rcases List.append_eq_append_iff.mp h with ⟨l, rfl, hl⟩ | ⟨l, rfl, hl⟩
  · cases l with
    | nil =>
      obtain ⟨rfl, rfl⟩ := List.cons.inj hl
      exact ⟨(List.append_nil _).symm, rfl, rfl⟩
    | cons c l => exact absurd hb (hds b ((List.cons.inj hl).2 ▸ by simp))
  · cases l with
    | nil =>
      obtain ⟨rfl, rfl⟩ := List.cons.inj hl
      exact ⟨List.append_nil _, rfl, rfl⟩
    | cons c l => exact absurd ha (hes a ((List.cons.inj hl).2 ▸ by simp))

/-- What follows the last of a character in a text is determined by the text. -/
theorem eq_of_append_cons_eq {α : Type} {a : α} {xs ys ds es : List α} (hd : a ∉ ds) (he : a ∉ es)
    (h : xs ++ a :: ds = ys ++ a :: es) : ds = es :=
  (eq_of_last_eq (p := (· = a)) rfl rfl (fun _ hc heq => hd (heq ▸ hc)) (fun _ hc heq => he (heq ▸ hc)) h).2.2

theorem toLower_numbered_injective (name : String) {i j : Nat}
    (h : Text.toLower (numbered name i) = Text.toLower (numbered name j)) : i = j := by
  obtain ⟨low, hi⟩ := toLower_numbered name i
  obtain ⟨low', hj⟩ := toLower_numbered name j
  have hdigits : Nat.toDigits 10 i = Nat.toDigits 10 j :=
    eq_of_append_cons_eq Nat.underscore_not_in_toDigits Nat.underscore_not_in_toDigits
      (by rw [← hi, ← hj, h])
  have := congrArg (fun ds => Nat.ofDigitChars 10 ds 0) hdigits
  simpa [Nat.ofDigitChars_ten_toDigits] using this

/-! ## Free names -/

theorem exists_free_numbered (taken : List String) (name : String) :
    ∃ i < taken.length + 1, Text.toLower (numbered name (i + 1)) ∉ taken := by
  by_contra hnone
  simp only [not_exists, not_and, not_not] at hnone
  -- There is one candidate more than names taken, and no two are equal up to case.
  let lows := (List.range (taken.length + 1)).map fun i => Text.toLower (numbered name (i + 1))
  have hnodup : lows.Nodup := List.nodup_range.map fun i j h => by
    have := toLower_numbered_injective name h
    omega
  have hsub : ∀ low ∈ lows, low ∈ taken := by
    intro low hlow
    obtain ⟨i, hi, rfl⟩ := List.mem_map.mp hlow
    exact hnone i (List.mem_range.mp hi)
  have hlen := length_le_of_subset hnodup hsub
  simp only [lows, List.length_map, List.length_range] at hlen
  omega

/-- The name given out is the wanted one, or that with a number behind it. -/
theorem freeName_eq (taken : List String) (name : String) :
    freeName taken name = name ∨ ∃ i, freeName taken name = numbered name i := by
  unfold freeName
  simp only
  split
  · exact Or.inl rfl
  cases hfind : ((List.range (taken.length + 1)).map fun i => numbered name (i + 1)).find?
      fun s => !taken.contains (Text.toLower s) with
  | none => exact Or.inl rfl
  | some s =>
    obtain ⟨i, -, rfl⟩ := List.mem_map.mp (List.mem_of_find?_eq_some hfind)
    exact Or.inr ⟨i + 1, rfl⟩

theorem toLower_freeName_not_mem (taken : List String) (name : String) :
    Text.toLower (freeName taken name) ∉ taken := by
  unfold freeName
  simp only
  split
  · rename_i hfree
    simpa using hfree
  cases hfind : ((List.range (taken.length + 1)).map fun i => numbered name (i + 1)).find?
      fun s => !taken.contains (Text.toLower s) with
  | none =>
    obtain ⟨i, hi, hfree⟩ := exists_free_numbered taken name
    have := List.find?_eq_none.mp hfind _ (List.mem_map.mpr ⟨i, List.mem_range.mpr hi, rfl⟩)
    simp [hfree] at this
  | some s => simpa using List.find?_some hfind

/-! ## Names given out in order -/

theorem toLower_not_mem_of_mem_allot {taken names : List String} {n : String} (h : n ∈ allot taken names) :
    Text.toLower n ∉ taken := by
  induction names generalizing taken with
  | nil => exact absurd h List.not_mem_nil
  | cons name names ih =>
    rcases List.mem_cons.mp h with rfl | h
    · exact toLower_freeName_not_mem taken name
    · exact fun hmem => ih h (List.mem_cons_of_mem _ hmem)

/-- Each name is taken from when it is given out, so no two are equal up to case. -/
theorem nodup_allot (taken names : List String) : ((allot taken names).map Text.toLower).Nodup := by
  induction names generalizing taken with
  | nil => exact List.nodup_nil
  | cons name names ih =>
    rw [allot, List.map_cons, List.nodup_cons]
    refine ⟨fun hmem => ?_, ih _⟩
    obtain ⟨n, hn, heq⟩ := List.mem_map.mp hmem
    exact toLower_not_mem_of_mem_allot hn (heq ▸ List.mem_cons_self)

example : allot [indexName] ["Order", "order", "Index"] = ["Order", "order_1", "Index_1"] := by decide +kernel

/-- What holds of the wanted names and of all that is made of them by numbers holds of those given out. -/
theorem forall_mem_allot {p : String → Prop} (hp : ∀ name i, p name → p (numbered name i))
    {taken names : List String} (h : ∀ name ∈ names, p name) : ∀ n ∈ allot taken names, p n := by
  induction names generalizing taken with
  | nil => exact fun n hn => absurd hn List.not_mem_nil
  | cons name names ih =>
    intro n hn
    have hname := h name List.mem_cons_self
    rcases List.mem_cons.mp hn with rfl | hn
    · rcases freeName_eq taken name with heq | ⟨i, heq⟩
      · rwa [heq]
      · exact heq ▸ hp name i hname
    · exact ih (fun name hmem => h name (List.mem_cons_of_mem _ hmem)) n hn

/-! ## Dots -/

/-- A simple name has no dots: it is what follows the last of them. -/
theorem dot_not_mem_simpleName (name : String) : '.' ∉ (simpleName name).toList := by
  intro hmem
  rw [simpleName, stripArity, String.toList_ofList] at hmem
  have hlast := (List.takeWhile_prefix _).subset hmem
  rw [lastSegment, String.toList_ofList, List.mem_reverse] at hlast
  exact absurd (List.all_eq_true.mp List.all_takeWhile _ hlast) (by decide)

theorem dot_not_mem_serviceName {endpoint : String} (h : '.' ∉ endpoint.toList) :
    '.' ∉ (serviceName endpoint).toList := by
  have hstem : '.' ∉ (endpointStem endpoint).toList := by
    unfold endpointStem
    simp only
    split
    · rw [String.toList_ofList]
      exact fun hmem => h (List.mem_of_mem_take hmem)
    · exact h
  rw [serviceName, String.toList_append, List.mem_append, not_or]
  exact ⟨hstem, by decide⟩

theorem dot_not_mem_numbered {name : String} (i : Nat) (h : '.' ∉ name.toList) :
    '.' ∉ (numbered name i).toList := by
  have hdigits : '.' ∉ Nat.toDigits 10 i := fun hmem =>
    absurd (Nat.isDigit_of_mem_toDigits (by decide) (by decide) hmem) (by decide)
  simp [numbered, h, hdigits]

/-! ## Assignment -/

theorem exists_lookup_zip {ids : List TypeId} {given : List String} (hlen : ids.length ≤ given.length)
    {id : TypeId} (h : id ∈ ids) :
    ∃ n, (ids.zip given).lookup id = some n ∧ n ∈ given.take ids.length := by
  induction ids generalizing given with
  | nil => exact absurd h List.not_mem_nil
  | cons a ids ih =>
    cases given with
    | nil => simp at hlen
    | cons n given =>
      rw [List.zip_cons_cons, List.lookup_cons, List.length_cons, List.take_succ_cons]
      by_cases heq : id = a
      · exact ⟨n, by simp [heq], List.mem_cons_self⟩
      · obtain ⟨n', hn', hmem⟩ := ih (Nat.le_of_succ_le_succ hlen) ((List.mem_cons.mp h).resolve_left heq)
        rw [beq_false_of_ne heq]
        exact ⟨n', hn', List.mem_cons_of_mem _ hmem⟩

theorem mem_of_lookup_zip {ids : List TypeId} {given : List String} {id : TypeId} {n : String}
    (h : (ids.zip given).lookup id = some n) : n ∈ given := by
  obtain ⟨before, after, hzip, -⟩ := List.lookup_eq_some_iff.mp h
  have : (id, n) ∈ ids.zip given := by simp [hzip]
  exact (List.of_mem_zip this).2

namespace OutputNames

/-- The names that are given out, those of the models first. -/
def given (models : ModelSet) (endpoints : List ClassifiedEndpoint) (withServices : Bool) : List String :=
  allot [indexName] (models.toList.map (·.simpleName) ++
    (if withServices then endpoints.map (·.id) else []).map fun id => serviceName id.simpleName)

variable {models : ModelSet} {endpoints : List ClassifiedEndpoint} {withServices : Bool}

theorem nodup_given : (given models endpoints withServices).Nodup :=
  List.Nodup.of_map _ (nodup_allot _ _)

theorem dot_not_mem_given {n : String} (h : n ∈ given models endpoints withServices) : '.' ∉ n.toList := by
  have hwanted : ∀ name ∈ models.toList.map (·.simpleName) ++
      (if withServices then endpoints.map (·.id) else []).map (fun id => serviceName id.simpleName),
      '.' ∉ name.toList := by
    intro name hname
    rcases List.mem_append.mp hname with hname | hname
    · obtain ⟨id, -, rfl⟩ := List.mem_map.mp hname
      exact dot_not_mem_simpleName id.name
    · obtain ⟨id, -, rfl⟩ := List.mem_map.mp hname
      exact dot_not_mem_serviceName (dot_not_mem_simpleName id.name)
  unfold given at h
  exact forall_mem_allot (p := fun name => '.' ∉ name.toList) (fun _ i => dot_not_mem_numbered i) hwanted n h

theorem length_models_le_length_given :
    models.toList.length ≤ (given models endpoints withServices).length := by
  simp [given]

/-- Every model has a name, one of the first that are given out. -/
theorem exists_lookup_models {id : TypeId} (h : id ∈ models) :
    ∃ n, (assign models endpoints withServices).models.lookup id = some n ∧
      n ∈ (given models endpoints withServices).take models.toList.length :=
  exists_lookup_zip length_models_le_length_given h

theorem lookup_models_eq_nameOf {id : TypeId} (h : id ∈ models) :
    (assign models endpoints withServices).models.lookup id =
      some ((assign models endpoints withServices).models.nameOf id) := by
  have hlookup : ∃ n, (assign models endpoints withServices).models.lookup id = some n ∧ _ :=
    exists_lookup_models h
  obtain ⟨n, hn, -⟩ := hlookup
  rw [NameTable.nameOf, hn]
  rfl

theorem mem_of_lookup_services {id : TypeId} {n : String}
    (h : (assign models endpoints withServices).services.lookup id = some n) :
    n ∈ (given models endpoints withServices).drop models.toList.length :=
  mem_of_lookup_zip h

/-- No model has the name of a service. -/
theorem nameOf_ne_service {id e : TypeId} (hid : id ∈ models) {n : String}
    (hn : (assign models endpoints withServices).services.lookup e = some n) :
    (assign models endpoints withServices).models.nameOf id ≠ n := by
  have hlookup : ∃ m, (assign models endpoints withServices).models.lookup id = some m ∧ _ :=
    exists_lookup_models hid
  obtain ⟨m, hm, htake⟩ := hlookup
  have hname : (assign models endpoints withServices).models.nameOf id = m := by
    rw [NameTable.nameOf, hm]
    rfl
  have hnodup : (given models endpoints withServices).Nodup := nodup_given
  rw [← List.take_append_drop models.toList.length (given models endpoints withServices),
    List.nodup_append] at hnodup
  rw [hname]
  exact hnodup.2.2 m htake n (mem_of_lookup_services hn)

end OutputNames

end WireTypes
