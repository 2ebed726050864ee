import Mathlib.Data.List.Nodup
import WireTypes.Document.Decode

/-!
# Records that are read back

A record is written from its fields, and a field that is not there is left out. Reading what a reader has made of a
value gives the same again, once this is so of each field.

* `recordOf`, `given`, `memberNames` : the record of some fields, and the names that are written in it;
* `Dialect.fields_recordOf` : its fields are the ones that are there;
* `Restores` : a reader takes back what is written of whatever it reads;
* `RestoresField` : the same of a field, which may be left out.
-/

namespace WireTypes.Document

/-! ## Fields -/

/-- The fields that are there. -/
def given (fields : List (String × Option Value)) : List (String × Value) :=
  fields.filterMap fun (name, v) => v.map (name, ·)

/-- The record of the fields that are there. -/
def recordOf (fields : List (String × Option Value)) : Value :=
  .record ((given fields).map fun (name, v) => (.text name, v))

/-- The names of a record's members. -/
def memberNames : Value → List String
  | .record members => members.filterMap fun member => asText member.1
  | _ => []

variable {fields : List (String × Option Value)}

theorem memberNames_recordOf (fields : List (String × Option Value)) :
    memberNames (recordOf fields) = (given fields).map (·.1) := by
  rw [recordOf, memberNames, List.filterMap_map]
  exact congrFun List.filterMap_eq_map' (given fields)

theorem keys_given_sublist (fields : List (String × Option Value)) :
    ((given fields).map (·.1)).Sublist (fields.map (·.1)) := by
  induction fields with
  | nil => exact .slnil
  | cons field fields ih =>
    obtain ⟨name, v⟩ := field
    cases v with
    | none => exact ih.cons _
    | some v => exact ih.cons_cons _

theorem lookup_given (h : (fields.map (·.1)).Nodup) (name : String) :
    (given fields).lookup name = (fields.lookup name).join := by
  induction fields with
  | nil => rfl
  | cons field fields ih =>
    obtain ⟨key, v⟩ := field
    rw [List.map_cons, List.nodup_cons] at h
    rw [List.lookup_cons]
    by_cases hkey : name = key
    · subst hkey
      rw [beq_self_eq_true]
      cases v with
      | none =>
        -- The field is left out, and no later one has its name.
        show (given fields).lookup name = none
        rw [List.lookup_eq_none_iff]
        rintro ⟨key, v⟩ hgiven
        have hkey : key ∈ fields.map (·.1) := (keys_given_sublist fields).subset (List.mem_map_of_mem hgiven)
        exact bne_iff_ne.mpr fun heq => h.1 (heq ▸ hkey)
      | some v =>
        show ((name, v) :: given fields).lookup name = some v
        rw [List.lookup_cons, beq_self_eq_true]
    · rw [beq_false_of_ne hkey]
      cases v with
      | none => exact ih h.2
      | some v =>
        show ((key, v) :: given fields).lookup name = (fields.lookup name).join
        rw [List.lookup_cons, beq_false_of_ne hkey]
        exact ih h.2

/-- A record that is made of its fields has these fields, in every dialect. -/
theorem Dialect.fields_recordOf (d : Dialect) (h : (fields.map (·.1)).Nodup) (names : List String) :
    d.fields names (recordOf fields) = some fun name => (fields.lookup name).join := by
  have hkeys : ((given fields).map fun (name, v) => (Value.text name, v)).mapM (fun member => asText member.1) =
      some ((given fields).map (·.1)) := by
    rw [List.mapM_map]
    exact List.mapM_pure
  have hcount : (names.any fun name => ((given fields).map (·.1)).count name > 1) = false := by
    rw [List.any_eq_false]
    intro name _
    have hone := List.nodup_iff_count_le_one.mp (h.sublist (keys_given_sublist fields)) name
    simpa using hone
  have hzip : ((given fields).map (·.1)).zip
      (((given fields).map fun (name, v) => (Value.text name, v)).map (·.2)) = given fields := by
    rw [List.map_map]
    exact (List.zip_of_prod rfl rfl).symm
  unfold recordOf Dialect.fields
  simp only [hkeys, hcount, hzip, lookup_given h, Option.bind_eq_bind, Option.bind_some, Bool.false_eq_true, if_false]

/-! ## What is read is read back -/

/-- The reader takes back what is written of whatever it reads. -/
def Restores {α : Type} (decode : Value → Option α) (encode : α → Value) : Prop :=
  ∀ v a, decode v = some a → decode (encode a) = some a

/-- The reader of a field takes back what is written of whatever it reads, if it is written at all. -/
def RestoresField {α : Type} (read : Option Value → Option α) (write : α → Option Value) : Prop :=
  ∀ field a, read field = some a → read (write a) = some a

theorem restores_text : Restores asText .text := fun _ _ _ => rfl

theorem restores_int64 : Restores asInt64 fun n => .integer n.toInt := by
  intro _ n _
  have hrange : Int64.minValue.toInt ≤ n.toInt ∧ n.toInt ≤ Int64.maxValue.toInt :=
    ⟨n.minValue_le_toInt, n.toInt_le⟩
  have hread : asInt64 (.integer n.toInt) = some (Int64.ofInt n.toInt) := if_pos hrange
  rw [hread, n.ofInt_toInt]

variable {α : Type} {decode : Value → Option α} {encode : α → Value}

/-- The variants, if each is found by its name. -/
theorem restores_variant (d : Dialect) {spellings : List (String × α)} {name : α → String}
    (h : ∀ a, spellings.lookup (name a) = some a) :
    Restores (d.asVariant spellings) fun a => .text (name a) :=
  fun _ a _ => h a

theorem Restores.items (h : Restores decode encode) {items : List Value} {as : List α}
    (hitems : items.mapM decode = some as) : (as.map encode).mapM decode = some as := by
  induction items generalizing as with
  | nil =>
    cases hitems
    rfl
  | cons v items ih =>
    simp only [List.mapM_cons, Option.bind_eq_bind, Option.bind_eq_some_iff] at hitems
    obtain ⟨a, ha, rest, hrest, hcons⟩ := hitems
    cases hcons
    rw [List.map_cons, List.mapM_cons, h v a ha, ih hrest]
    rfl

theorem Restores.list (h : Restores decode encode) :
    Restores (asList decode) fun as => .list (as.map encode) := by
  intro v as hv
  unfold asList at hv
  split at hv
  · exact h.items hv
  · cases hv
    rfl
  · cases hv

theorem Restores.required (h : Restores decode encode) :
    RestoresField (required decode) fun a => some (encode a) := by
  intro field a ha
  obtain ⟨v, -, hv⟩ := Option.bind_eq_some_iff.mp ha
  exact h v a hv

theorem Restores.defaulting {default : α} (h : Restores decode encode)
    (hdefault : decode (encode default) = some default) :
    RestoresField (defaulting default decode) fun a => some (encode a) := by
  intro field a ha
  cases field with
  | none =>
    cases ha
    exact hdefault
  | some v => exact h v a ha

theorem eq_some_of_asOptional {v : Value} {a : α} (h : asOptional decode v = some (some a)) :
    decode v = some a := by
  unfold asOptional at h
  split at h
  · cases h
  · split at h
    · cases h
    · simpa using h
  · simpa using h

/-- A field that need not be there, and is left out when it is not. -/
theorem Restores.optional (h : Restores decode encode) (htext : ∀ a, ∃ s, encode a = .text s) :
    RestoresField (Document.defaulting none (asOptional decode)) (Option.map encode) := by
  intro field a ha
  cases a with
  | none => rfl
  | some a =>
    cases field with
    | none => cases ha
    | some v =>
      have hread := h v a (eq_some_of_asOptional ha)
      obtain ⟨s, hs⟩ := htext a
      rw [hs] at hread
      rw [Option.map_some, hs]
      show (decode (.text s)).map some = some (some a)
      rw [hread, Option.map_some]

/-- A record is restored if its fields are, each under a name of its own. -/
theorem restores_record (d : Dialect) {names : List String} {read : (String → Option Value) → Option α}
    {layout : α → List (String × Option Value)} (hnames : ∀ a, ((layout a).map (·.1)).Nodup)
    (hread : ∀ field a, read field = some a → read (fun name => ((layout a).lookup name).join) = some a) :
    Restores (fun v => (d.fields names v).bind read) fun a => recordOf (layout a) := by
  intro v a h
  obtain ⟨field, -, ha⟩ := Option.bind_eq_some_iff.mp h
  show (d.fields names (recordOf (layout a))).bind read = some a
  rw [d.fields_recordOf (hnames a), Option.bind_some]
  exact hread field a ha

/-- A record of two fields that must both be there. -/
theorem restores_pair {β γ : Type} (d : Dialect) {first second : String} (hnames : first ≠ second)
    {decodeFirst : Value → Option β} {encodeFirst : β → Value} (hfirst : Restores decodeFirst encodeFirst)
    {decodeSecond : Value → Option γ} {encodeSecond : γ → Value} (hsecond : Restores decodeSecond encodeSecond)
    (make : β → γ → α) (left : α → β) (right : α → γ) (hleft : ∀ b c, left (make b c) = b)
    (hright : ∀ b c, right (make b c) = c) :
    Restores
      (fun v => do
        let field ← d.fields [first, second] v
        return make (← required decodeFirst (field first)) (← required decodeSecond (field second)))
      fun a => recordOf [(first, some (encodeFirst (left a))), (second, some (encodeSecond (right a)))] := by
  refine restores_record d (fun _ => by simpa using hnames) fun field a h => ?_
  simp only [Option.bind_eq_bind, Option.bind_eq_some_iff] at h ⊢
  obtain ⟨b, hb, c, hc, heq⟩ := h
  cases heq
  rw [hleft, hright]
  refine ⟨b, ?_, c, ?_, rfl⟩
  · rw [List.lookup_cons, beq_self_eq_true]
    exact hfirst.required _ _ hb
  · rw [List.lookup_cons, beq_false_of_ne hnames.symm, List.lookup_cons, beq_self_eq_true]
    exact hsecond.required _ _ hc

end WireTypes.Document
