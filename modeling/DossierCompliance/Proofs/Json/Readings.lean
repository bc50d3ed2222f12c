import DossierCompliance.Proofs.Json.Normal

/-!
Readings and the values they hold. What is read from a text in JSON has none of
the forms that other notations add, and if nothing in it is broken it holds a
value: the items and members one by one, with the last of several members of
one key. A value in normal form is read as itself.
-/

namespace DossierCompliance.Json

theorem exists_of_forall₂ {α β : Type} {p : α → β → Prop} {as : List α} {bs : List β}
    (h : List.Forall₂ p as bs) : ∀ b ∈ bs, ∃ a, p a b := by
  induction h with
  | nil => exact fun b hb => absurd hb List.not_mem_nil
  | cons hhead _ ih => exact List.forall_mem_cons.mpr ⟨⟨_, hhead⟩, ih⟩

namespace Reading

mutual

/-- The reading of a text in JSON, whole or broken off. -/
def IsJson : Reading → Prop
  | .null | .bool _ | .number _ | .string _ | .flawed _ _ | .broken _ => True
  | .scalar _ _ _ | .marked _ _ | .list _ | .mapping _ => False
  | .array items _ => IsJsonItems items
  | .object members _ => IsJsonMembers members

def IsJsonItems : List Reading → Prop
  | [] => True
  | item :: rest => item.IsJson ∧ IsJsonItems rest

def IsJsonMembers : List (String × Reading) → Prop
  | [] => True
  | (_, value) :: rest => value.IsJson ∧ IsJsonMembers rest

end

theorem isJsonItems_iff {items : List Reading} :
    IsJsonItems items ↔ ∀ item ∈ items, item.IsJson := by
  induction items with
  | nil => simp [IsJsonItems]
  | cons item items ih => simp [IsJsonItems, ih]

theorem isJsonMembers_iff {members : List (String × Reading)} :
    IsJsonMembers members ↔ ∀ entry ∈ members, entry.2.IsJson := by
  induction members with
  | nil => simp [IsJsonMembers]
  | cons entry members ih =>
    obtain ⟨key, value⟩ := entry
    simp [IsJsonMembers, ih]

theorem toItems_eq_ok_iff {items : List Reading} {values : List Json} :
    toItems items = .ok values ↔ List.Forall₂ (fun r v => r.toJson = .ok v) items values := by
  induction items generalizing values with
  | nil => simp [toItems, eq_comm]
  | cons item items ih =>
    rw [List.forall₂_cons_left_iff]
    constructor
    · intro h
      obtain ⟨value, hvalue, hrest⟩ := bind_eq_ok h
      obtain ⟨values, hvalues, hend⟩ := bind_eq_ok hrest
      exact ⟨value, values, hvalue, ih.mp hvalues, (Except.ok.inj hend).symm⟩
    · rintro ⟨value, values, hvalue, hvalues, rfl⟩
      rw [toItems, hvalue, ih.mpr hvalues]
      rfl

theorem toMembers_eq_ok_iff {members : List (String × Reading)} {values : List (String × Json)} :
    toMembers members = .ok values ↔
      List.Forall₂ (fun m v => m.1 = v.1 ∧ m.2.toJson = .ok v.2) members values := by
  induction members generalizing values with
  | nil => simp [toMembers, eq_comm]
  | cons entry members ih =>
    obtain ⟨key, item⟩ := entry
    rw [List.forall₂_cons_left_iff]
    constructor
    · intro h
      obtain ⟨value, hvalue, hrest⟩ := bind_eq_ok h
      obtain ⟨values, hvalues, hend⟩ := bind_eq_ok hrest
      exact ⟨(key, value), values, ⟨rfl, hvalue⟩, ih.mp hvalues, (Except.ok.inj hend).symm⟩
    · rintro ⟨⟨_, value⟩, values, ⟨rfl, hvalue⟩, hvalues, rfl⟩
      rw [toMembers, hvalue, ih.mpr hvalues]
      rfl

theorem exists_toItems {items : List Reading} (h : ∀ item ∈ items, ∃ v, item.toJson = .ok v) :
    ∃ values, toItems items = .ok values := by
  simp only [toItems_eq_ok_iff]
  induction items with
  | nil => exact ⟨[], .nil⟩
  | cons item items ih =>
    obtain ⟨⟨value, hvalue⟩, hrest⟩ := List.forall_mem_cons.mp h
    obtain ⟨values, hvalues⟩ := ih hrest
    exact ⟨value :: values, .cons hvalue hvalues⟩

theorem exists_toMembers {members : List (String × Reading)}
    (h : ∀ entry ∈ members, ∃ v, entry.2.toJson = .ok v) :
    ∃ values, toMembers members = .ok values := by
  simp only [toMembers_eq_ok_iff]
  induction members with
  | nil => exact ⟨[], .nil⟩
  | cons entry members ih =>
    obtain ⟨⟨value, hvalue⟩, hrest⟩ := List.forall_mem_cons.mp h
    obtain ⟨values, hvalues⟩ := ih hrest
    exact ⟨(entry.1, value) :: values, .cons ⟨rfl, hvalue⟩ hvalues⟩

end Reading

/-! ### Values as readings -/

theorem toReadings_eq_map (items : List Json) : toReadings items = items.map toReading := by
  induction items with
  | nil => rfl
  | cons item items ih => rw [toReadings, ih, List.map_cons]

theorem toMemberReadings_eq_map (members : List (String × Json)) :
    toMemberReadings members = members.map fun entry => (entry.1, entry.2.toReading) := by
  induction members with
  | nil => rfl
  | cons entry members ih =>
    obtain ⟨key, value⟩ := entry
    rw [toMemberReadings, ih, List.map_cons]

mutual

/-- The reading of a value in normal form holds that value. -/
theorem toJson_toReading : ∀ {j : Json}, j.Normal → j.toReading.toJson = .ok j
  | .null, _ | .bool _, _ | .number _, _ | .string _, _ => rfl
  | .array items, h => by
    rw [toReading, Reading.toJson, toItems_toReadings h]
    rfl
  | .object members, h => by
    rw [toReading, Reading.toJson, toMembers_toMemberReadings h.2]
    exact congrArg (fun ms => Except.ok (Json.object ms)) (Members.sorted_eq_self h.1)

theorem toItems_toReadings : ∀ {items : List Json}, NormalItems items →
    Reading.toItems (toReadings items) = .ok items
  | [], _ => rfl
  | item :: items, h => by
    rw [toReadings, Reading.toItems, toJson_toReading h.1, toItems_toReadings h.2]
    rfl

theorem toMembers_toMemberReadings : ∀ {members : List (String × Json)}, NormalMembers members →
    Reading.toMembers (toMemberReadings members) = .ok members
  | [], _ => rfl
  | (key, value) :: members, h => by
    rw [toMemberReadings, Reading.toMembers, toJson_toReading h.1,
      toMembers_toMemberReadings h.2]
    rfl

end

mutual

theorem isJson_toReading : ∀ j : Json, j.toReading.IsJson
  | .null | .bool _ | .number _ | .string _ => trivial
  | .array items => isJsonItems_toReadings items
  | .object members => isJsonMembers_toMemberReadings members

theorem isJsonItems_toReadings : ∀ items : List Json, Reading.IsJsonItems (toReadings items)
  | [] => trivial
  | item :: items => ⟨isJson_toReading item, isJsonItems_toReadings items⟩

theorem isJsonMembers_toMemberReadings :
    ∀ members : List (String × Json), Reading.IsJsonMembers (toMemberReadings members)
  | [] => trivial
  | (_, value) :: members => ⟨isJson_toReading value, isJsonMembers_toMemberReadings members⟩

end

/-! ### Readings of texts -/

open Reading (IsJson IsJsonItems IsJsonMembers)

theorem isJson_readWord {value : Reading} (hvalue : value.IsJson) (word cs : List Char) :
    (readWord value word cs).reading.IsJson := by
  induction word generalizing cs with
  | nil => exact hvalue
  | cons expected word ih =>
    cases cs with
    | nil => trivial
    | cons c cs =>
      rw [readWord]
      split
      · exact ih cs
      · trivial

theorem isJson_toStep (e : StringEnd) : e.toStep.reading.IsJson := by
  cases e with
  | closed chars flawed rest => cases flawed <;> trivial
  | stopped fault flawed => cases flawed <;> trivial

theorem isJson_readNumber (cs : List Char) : (readNumber cs).reading.IsJson := by
  unfold readNumber
  split
  · trivial
  · trivial
  · split <;> trivial

theorem isJson_readScalar (fuel : Nat) (cs : List Char) :
    (readScalar fuel cs).reading.IsJson := by
  unfold readScalar
  split
  · trivial
  · split_ifs
    · exact isJson_readWord (by trivial) _ _
    · exact isJson_readWord (by trivial) _ _
    · exact isJson_readWord (by trivial) _ _
    · exact isJson_toStep _
    · exact isJson_readNumber _
    · trivial

theorem isJson_atLevel (level : Nat) {r : Reading} (hr : r.IsJson) : (atLevel level r).IsJson := by
  unfold atLevel
  split_ifs
  · exact hr
  · trivial

mutual

theorem isJson_readValue : ∀ (fuel level : Nat) (cs : List Char),
    (readValue fuel level cs).reading.IsJson
  | 0, _, _ => by
    unfold readValue
    trivial
  | fuel + 1, level, cs => by
    unfold readValue
    split
    · trivial
    · split_ifs
      · exact isJson_atLevel _ (isJson_readItems fuel (level + 1) true _)
      · exact isJson_atLevel _ (isJson_readMembers fuel (level + 1) true _)
      · exact isJson_readScalar fuel _

theorem isJson_readItems : ∀ (fuel level : Nat) (first : Bool) (cs : List Char),
    IsJsonItems (readItems fuel level first cs).parts
  | 0, _, _, _ => by
    unfold readItems
    trivial
  | fuel + 1, level, first, cs => by
    unfold readItems
    split
    · trivial
    · trivial
    · split_ifs
      · exact isJson_readItem fuel level _
      · split
        · exact ⟨trivial, trivial⟩
        · exact ⟨trivial, trivial⟩
        · exact isJson_readItem fuel level _
      · trivial

theorem isJson_readItem : ∀ (fuel level : Nat) (cs : List Char),
    IsJsonItems (readItem fuel level cs).parts
  | 0, _, _ => by
    unfold readItem
    trivial
  | fuel + 1, level, cs => by
    have hitem := isJson_readValue fuel level cs
    unfold readItem
    dsimp only
    split
    · exact ⟨hitem, trivial⟩
    · exact ⟨hitem, isJson_readItems fuel level false _⟩

theorem isJson_readMembers : ∀ (fuel level : Nat) (first : Bool) (cs : List Char),
    IsJsonMembers (readMembers fuel level first cs).parts
  | 0, _, _, _ => by
    unfold readMembers
    trivial
  | fuel + 1, level, first, cs => by
    unfold readMembers
    split
    · trivial
    · split_ifs
      · trivial
      · exact isJson_readMember fuel level _
      · exact isJson_readMember fuel level _
      · trivial

theorem isJson_readMember : ∀ (fuel level : Nat) (cs : List Char),
    IsJsonMembers (readMember fuel level cs).parts
  | 0, _, _ => by
    unfold readMember
    trivial
  | fuel + 1, level, cs => by
    unfold readMember
    split
    · split
      · trivial
      · trivial
      · dsimp only
        split_ifs
        · trivial
        · exact isJson_readValueOf fuel level _ _
    · trivial
    · trivial

theorem isJson_readValueOf : ∀ (fuel level : Nat) (key : String) (cs : List Char),
    IsJsonMembers (readValueOf fuel level key cs).parts
  | 0, _, _, _ => by
    unfold readValueOf
    trivial
  | fuel + 1, level, key, cs => by
    unfold readValueOf
    split
    · exact ⟨trivial, trivial⟩
    · next rest =>
      have hvalue := isJson_readValue fuel level rest
      dsimp only
      split
      · exact ⟨hvalue, trivial⟩
      · exact ⟨hvalue, isJson_readMembers fuel level false _⟩
    · exact ⟨trivial, trivial⟩

end

theorem isJson_read (text : String) : (Document.read text).root.IsJson :=
  isJson_readValue _ 0 text.toList

end DossierCompliance.Json
