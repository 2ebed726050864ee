import Mathlib.Tactic.SplitIfs
import WireTypes.Document.Json

/-!
# Written JSON is read back

Everything in a value but numbers is written in such a way that reading it gives it back: the escapes of a string,
the items of a list and the members of a record, whatever follows.

* `readUnits_escape`, `joinHalves_toNat`, `readString_quote` : strings;
* `isNumberless` : the values without numbers and without what no JSON text writes;
* `exists_head_render` : what is written of them begins with no blank and with no closing bracket;
* `ReadBack`, `readBack` : the readers give them back, whatever follows them;
* `parse_render` : and so does reading the whole text.
-/

namespace WireTypes.Document.Json

/-! ## Strings -/

/-- What was read, with one unit more before it. -/
def withUnit (unit : Nat) : Option (List Nat × List Char) → Option (List Nat × List Char) :=
  Option.map fun (units, rest) => (unit :: units, rest)

theorem readUnits_short {c : Char} {unit : Nat} (h : shortEscape? c = some unit) (cs : List Char) :
    readUnits ('\\' :: c :: cs) = withUnit unit (readUnits cs) := by
  have hc : c ≠ 'u' := by
    rintro rfl
    cases h
  rw [readUnits, h]
  · cases readUnits cs <;> rfl
  · rintro a b c' d cs' rfl
    exact absurd rfl hc

theorem codeUnit?_hexDigit {n : Nat} (h : n < 0x20) :
    codeUnit? '0' '0' (hexDigit (n / 16)) (hexDigit (n % 16)) = some n := by
  have hall : ∀ n < 0x20, codeUnit? '0' '0' (hexDigit (n / 16)) (hexDigit (n % 16)) = some n := by decide
  exact hall n h

theorem readUnits_hex {n : Nat} (h : n < 0x20) (cs : List Char) :
    readUnits (['\\', 'u', '0', '0', hexDigit (n / 16), hexDigit (n % 16)] ++ cs) =
      withUnit n (readUnits cs) := by
  rw [List.cons_append, List.cons_append, List.cons_append, List.cons_append, List.cons_append, List.cons_append,
    List.nil_append, readUnits, codeUnit?_hexDigit h]
  cases readUnits cs <;> rfl

theorem readUnits_plain {c : Char} (hlow : 0x20 ≤ c.toNat) (hquote : c ≠ '"') (hslash : c ≠ '\\')
    (cs : List Char) : readUnits (c :: cs) = withUnit c.toNat (readUnits cs) := by
  rw [readUnits]
  · rw [if_neg (by simp [hslash]; omega)]
    cases readUnits cs <;> rfl
  all_goals simp [hquote, hslash]

/-- One character is read as its code, whatever it is escaped to. -/
theorem readUnits_escape_append (c : Char) (cs : List Char) :
    readUnits (escape c ++ cs) = withUnit c.toNat (readUnits cs) := by
  unfold escape
  split_ifs with hquote hslash hn hr ht hb hf hlow
  · rw [hquote]
    exact readUnits_short rfl cs
  · rw [hslash]
    exact readUnits_short rfl cs
  · rw [hn]
    exact readUnits_short rfl cs
  · rw [hr]
    exact readUnits_short rfl cs
  · rw [ht]
    exact readUnits_short rfl cs
  · rw [hb]
    exact readUnits_short rfl cs
  · rw [hf]
    exact readUnits_short rfl cs
  · exact readUnits_hex hlow cs
  · exact readUnits_plain (Nat.le_of_not_lt hlow) hquote hslash cs

theorem readUnits_escape (cs rest : List Char) :
    readUnits (cs.flatMap escape ++ '"' :: rest) = some (cs.map Char.toNat, rest) := by
  induction cs with
  | nil => rw [List.flatMap_nil, List.nil_append, readUnits]; rfl
  | cons c cs ih =>
    rw [List.flatMap_cons, List.append_assoc, readUnits_escape_append, ih]
    rfl

/-- No character is half of a surrogate pair. -/
theorem isHalf_toNat (c : Char) : (isHighHalf c.toNat || isLowHalf c.toNat) = false := by
  have hvalid := c.valid
  simp only [isHighHalf, isLowHalf, Bool.or_eq_false_iff, Bool.and_eq_false_iff, decide_eq_false_iff_not]
  simp only [UInt32.isValidChar, Nat.isValidChar] at hvalid
  have htoNat : c.toNat = c.val.toNat := rfl
  omega

theorem joinHalves_toNat (cs : List Char) : joinHalves (cs.map Char.toNat) = some cs := by
  induction cs with
  | nil => rw [List.map_nil, joinHalves]
  | cons c cs ih =>
    have hhalf := isHalf_toNat c
    cases cs with
    | nil => simp [joinHalves, hhalf]
    | cons c' cs =>
      have hhigh : isHighHalf c.toNat = false := (Bool.or_eq_false_iff.mp hhalf).1
      rw [List.map_cons] at ih ⊢
      rw [List.map_cons, joinHalves, hhigh, ih]
      simp_all

theorem readString_quote (s : String) (rest : List Char) :
    readString ((s.toList.flatMap escape) ++ '"' :: rest) = some (.text s, rest) := by
  rw [readString, readUnits_escape]
  simp [joinHalves_toNat]

/-! ## Values -/

mutual

/-- Whether a value holds no number and nothing that JSON cannot write. -/
def isNumberless : Value → Bool
  | .null => true
  | .bool _ => true
  | .text _ => true
  | .list items => areNumberless items
  | .record members => areNumberlessMembers members
  | _ => false

/-- Whether all items are values without numbers. -/
def areNumberless : List Value → Bool
  | [] => true
  | item :: items => isNumberless item && areNumberless items

/-- Whether all keys are texts and all members are values without numbers. -/
def areNumberlessMembers : List (Value × Value) → Bool
  | [] => true
  | (.text _, value) :: members => isNumberless value && areNumberlessMembers members
  | _ :: _ => false

end

theorem skipSpacing_cons {c : Char} (h : isSpacing c = false) (cs : List Char) :
    skipSpacing (c :: cs) = c :: cs := List.dropWhile_cons_of_neg (by simp [h])

theorem toList_quote (s : String) (rest : List Char) :
    (quote s).toList ++ rest = '"' :: (s.toList.flatMap escape ++ '"' :: rest) := by
  simp [quote]

/-- What is written begins with no blank and closes nothing. -/
theorem exists_head_render {v : Value} (h : isNumberless v = true) :
    ∃ c cs, (render v).toList = c :: cs ∧ isSpacing c = false ∧ c ≠ ']' := by
  cases v with
  | null => exact ⟨'n', _, rfl, by decide, by decide⟩
  | bool b =>
    cases b with
    | false => exact ⟨'f', _, rfl, by decide, by decide⟩
    | true => exact ⟨'t', _, rfl, by decide, by decide⟩
  | text s => exact ⟨'"', _, (List.append_nil _).symm.trans (toList_quote s []), by decide, by decide⟩
  | list items => exact ⟨'[', _, by simp [render]; rfl, by decide, by decide⟩
  | record members => exact ⟨'\x7b', _, by simp [render]; rfl, by decide, by decide⟩
  | integer n => cases h
  | number digits => cases h
  | brokenText => cases h
  | plain s => cases h

theorem skipSpacing_render {v : Value} (h : isNumberless v = true) (rest : List Char) :
    skipSpacing ((render v).toList ++ rest) = (render v).toList ++ rest := by
  obtain ⟨c, cs, hrender, hspacing, -⟩ := exists_head_render h
  rw [hrender, List.cons_append, skipSpacing_cons hspacing]

theorem toList_render_list (items : List Value) (rest : List Char) :
    (render (.list items)).toList ++ rest = '[' :: ((renderItems items).toList ++ ']' :: rest) := by
  simp [render]

theorem toList_render_record (members : List (Value × Value)) (rest : List Char) :
    (render (.record members)).toList ++ rest =
      '\x7b' :: ((renderMembers members).toList ++ '\x7d' :: rest) := by
  simp [render]

theorem toList_renderItems_cons (item next : Value) (items : List Value) (rest : List Char) :
    (renderItems (item :: next :: items)).toList ++ rest =
      (render item).toList ++ (',' :: ((renderItems (next :: items)).toList ++ rest)) := by
  simp [renderItems]

theorem toList_renderMembers_singleton (key : String) (value : Value) (rest : List Char) :
    (renderMembers [(.text key, value)]).toList ++ rest =
      '"' :: (key.toList.flatMap escape ++ '"' :: (':' :: ((render value).toList ++ rest))) := by
  rw [← toList_quote]
  simp [renderMembers, render]

theorem toList_renderMembers_cons (key : String) (value : Value) (next : Value × Value)
    (members : List (Value × Value)) (rest : List Char) :
    (renderMembers ((.text key, value) :: next :: members)).toList ++ rest =
      '"' :: (key.toList.flatMap escape ++ '"' :: (':' :: ((render value).toList ++
        (',' :: ((renderMembers (next :: members)).toList ++ rest))))) := by
  rw [← toList_quote]
  simp [renderMembers, render]

theorem areNumberless_cons {item : Value} {items : List Value} (h : areNumberless (item :: items) = true) :
    isNumberless item = true ∧ areNumberless items = true := Bool.and_eq_true_iff.mp h

theorem areNumberlessMembers_cons {member : Value × Value} {members : List (Value × Value)}
    (h : areNumberlessMembers (member :: members) = true) :
    ∃ key value, member = (.text key, value) ∧ isNumberless value = true ∧ areNumberlessMembers members = true := by
  obtain ⟨key, value⟩ := member
  cases key with
  | text key =>
    obtain ⟨hvalue, hmembers⟩ := Bool.and_eq_true_iff.mp h
    exact ⟨key, value, rfl, hvalue, hmembers⟩
  | _ => cases h

theorem exists_head_renderItems {item : Value} (h : isNumberless item = true) (items : List Value) :
    ∃ c cs, (renderItems (item :: items)).toList = c :: cs ∧ isSpacing c = false ∧ c ≠ ']' := by
  obtain ⟨c, cs, hrender, hc⟩ := exists_head_render h
  cases items with
  | nil => exact ⟨c, cs, hrender, hc⟩
  | cons next items =>
    have hcons := toList_renderItems_cons item next items []
    rw [List.append_nil, hrender] at hcons
    exact ⟨c, _, hcons, hc⟩

theorem exists_head_renderMembers (key : String) (value : Value) (members : List (Value × Value)) :
    ∃ cs, (renderMembers ((.text key, value) :: members)).toList = '"' :: cs := by
  cases members with
  | nil => exact ⟨_, (List.append_nil _).symm.trans (toList_renderMembers_singleton key value [])⟩
  | cons next members =>
    exact ⟨_, (List.append_nil _).symm.trans (toList_renderMembers_cons key value next members [])⟩

/-- What the readers give back that count down from `n`. The length of what is written bounds how deep it nests. -/
structure ReadBack (n : Nat) : Prop where
  value : ∀ {v : Value}, isNumberless v = true → (render v).toList.length < n → ∀ rest,
    readValue n ((render v).toList ++ rest) = some (v, rest)
  items : ∀ {items : List Value}, areNumberless items = true → items ≠ [] →
    (renderItems items).toList.length + 1 < n → ∀ rest,
    readItems n ((renderItems items).toList ++ ']' :: rest) = some (items, rest)
  members : ∀ {members : List (Value × Value)}, areNumberlessMembers members = true → members ≠ [] →
    (renderMembers members).toList.length + 1 < n → ∀ rest,
    readMembers n ((renderMembers members).toList ++ '\x7d' :: rest) = some (members, rest)

namespace ReadBack

variable {n : Nat} (h : ReadBack n)

include h

theorem value_succ {v : Value} (hv : isNumberless v = true) (hn : (render v).toList.length < n + 1)
    (rest : List Char) : readValue (n + 1) ((render v).toList ++ rest) = some (v, rest) := by
  cases v with
  | null => rw [render]; rfl
  | bool b => cases b <;> rw [render] <;> rfl
  | text s =>
    rw [render, toList_quote, readValue]
    exact readString_quote s rest
  | list items =>
    have hlength := congrArg List.length (toList_render_list items [])
    simp only [List.length_append, List.length_cons, List.length_nil] at hlength
    rw [toList_render_list, readValue]
    cases items with
    | nil => rfl
    | cons item items =>
      have hitems := h.items hv (List.cons_ne_nil item items) (by omega) rest
      obtain ⟨c, cs, hhead, hspacing, hclose⟩ := exists_head_renderItems (areNumberless_cons hv).1 items
      rw [hhead, List.cons_append] at hitems ⊢
      simp only [skipSpacing_cons hspacing]
      split
      · rename_i heq
        exact absurd (List.cons.inj heq).1 hclose
      · rw [hitems]
        rfl
  | record members =>
    have hlength := congrArg List.length (toList_render_record members [])
    simp only [List.length_append, List.length_cons, List.length_nil] at hlength
    rw [toList_render_record, readValue]
    cases members with
    | nil => rfl
    | cons member members =>
      have hmembers := h.members hv (List.cons_ne_nil member members) (by omega) rest
      obtain ⟨key, value, rfl, -, -⟩ := areNumberlessMembers_cons hv
      obtain ⟨cs, hhead⟩ := exists_head_renderMembers key value members
      rw [hhead, List.cons_append] at hmembers ⊢
      have hskip : skipSpacing ('"' :: (cs ++ '\x7d' :: rest)) = '"' :: (cs ++ '\x7d' :: rest) :=
        skipSpacing_cons (by decide) _
      simp only [hskip]
      split
      · rename_i heq
        cases (List.cons.inj heq).1
      · rw [hmembers]
        rfl
  | integer m => cases hv
  | number digits => cases hv
  | brokenText => cases hv
  | plain s => cases hv

theorem items_succ {items : List Value} (hitems : areNumberless items = true) (hne : items ≠ [])
    (hn : (renderItems items).toList.length + 1 < n + 1) (rest : List Char) :
    readItems (n + 1) ((renderItems items).toList ++ ']' :: rest) = some (items, rest) := by
  obtain ⟨item, items, rfl⟩ := List.exists_cons_of_ne_nil hne
  obtain ⟨hitem, hrest⟩ := areNumberless_cons hitems
  cases items with
  | nil =>
    have hread := h.value hitem (Nat.lt_of_succ_lt_succ hn) (']' :: rest)
    have hskip : skipSpacing (']' :: rest) = ']' :: rest := skipSpacing_cons (by decide) _
    rw [renderItems, readItems, skipSpacing_render hitem, hread]
    simp only [Option.bind_eq_bind, Option.bind_some, hskip]
    rfl
  | cons next items =>
    have hlength := congrArg List.length (toList_renderItems_cons item next items [])
    simp only [List.length_append, List.length_cons, List.length_nil] at hlength
    let more := (renderItems (next :: items)).toList ++ ']' :: rest
    have hread := h.value hitem (by omega) (',' :: more)
    have hreads := h.items hrest (List.cons_ne_nil next items) (by omega) rest
    have hskip : skipSpacing (',' :: more) = ',' :: more := skipSpacing_cons (by decide) _
    rw [toList_renderItems_cons, readItems, skipSpacing_render hitem, hread]
    simp only [Option.bind_eq_bind, Option.bind_some, hskip]
    rw [hreads]
    rfl

/-- A member is read with what stands behind it. -/
theorem readMembers_member {value : Value} (hvalue : isNumberless value = true)
    (hn : (render value).toList.length < n) (key : String) {c : Char} (hc : isSpacing c = false)
    (after : List Char) :
    readMembers (n + 1)
        ('"' :: (key.toList.flatMap escape ++ '"' :: (':' :: ((render value).toList ++ c :: after)))) =
      match c :: after with
      | '\x7d' :: rest => some ([(.text key, value)], rest)
      | ',' :: rest => do
        let (members, rest) ← readMembers n rest
        return ((.text key, value) :: members, rest)
      | _ => none := by
  have hread := h.value hvalue hn (c :: after)
  have hquote : ∀ cs, skipSpacing ('"' :: cs) = '"' :: cs := skipSpacing_cons (by decide)
  have hcolon : ∀ cs, skipSpacing (':' :: cs) = ':' :: cs := skipSpacing_cons (by decide)
  rw [readMembers, hquote]
  simp only [readString_quote, Option.bind_eq_bind, Option.bind_some, hcolon, skipSpacing_render hvalue, hread,
    skipSpacing_cons hc]
  rfl

theorem members_succ {members : List (Value × Value)} (hmembers : areNumberlessMembers members = true)
    (hne : members ≠ []) (hn : (renderMembers members).toList.length + 1 < n + 1) (rest : List Char) :
    readMembers (n + 1) ((renderMembers members).toList ++ '\x7d' :: rest) = some (members, rest) := by
  obtain ⟨member, members, rfl⟩ := List.exists_cons_of_ne_nil hne
  obtain ⟨key, value, rfl, hvalue, hrest⟩ := areNumberlessMembers_cons hmembers
  cases members with
  | nil =>
    have hlength := congrArg List.length (toList_renderMembers_singleton key value [])
    simp only [List.length_append, List.length_cons, List.length_nil] at hlength
    rw [toList_renderMembers_singleton, h.readMembers_member hvalue (by omega) key (by decide)]
    rfl
  | cons next members =>
    have hlength := congrArg List.length (toList_renderMembers_cons key value next members [])
    simp only [List.length_append, List.length_cons, List.length_nil] at hlength
    have hreads := h.members hrest (List.cons_ne_nil next members) (by omega) rest
    rw [toList_renderMembers_cons, h.readMembers_member hvalue (by omega) key (by decide)]
    simp only [hreads]
    rfl

end ReadBack

theorem readBack (n : Nat) : ReadBack n := by
  induction n with
  | zero => exact ⟨fun _ hn => absurd hn (Nat.not_lt_zero _), fun _ _ hn => absurd hn (Nat.not_lt_zero _),
      fun _ _ hn => absurd hn (Nat.not_lt_zero _)⟩
  | succ n ih => exact ⟨ih.value_succ, ih.items_succ, ih.members_succ⟩

/-- **What is written of a value without numbers is read back as it was.** -/
theorem parse_render {v : Value} (h : isNumberless v = true) : parse (render v) = some v := by
  have hskip := skipSpacing_render h []
  have hread := (readBack ((render v).toList.length + 1)).value h (Nat.lt_succ_self _) []
  rw [List.append_nil] at hskip hread
  rw [parse, hskip, hread]
  rfl

end WireTypes.Document.Json
