import DossierCompliance.Proofs.Decimal.Whole
import DossierCompliance.Proofs.Json.Normal
import DossierCompliance.Proofs.Value.Kinds

/-!
Snapshot values, written and read back. A value of a document has ascending keys
at every level. If all its numbers are finite, it is written as a value in
normal form, and equals what is read back from there.
-/

namespace DossierCompliance.Value

open Members (Ascending)

mutual

/-- Keys strictly ascending at every level. -/
def Ordered : Value → Prop
  | .null | .bool _ | .number _ | .text _ => True
  | .list items => OrderedItems items
  | .map entries => Ascending entries ∧ OrderedEntries entries

def OrderedItems : List Value → Prop
  | [] => True
  | item :: rest => item.Ordered ∧ OrderedItems rest

def OrderedEntries : List (String × Value) → Prop
  | [] => True
  | (_, value) :: rest => value.Ordered ∧ OrderedEntries rest

end

mutual

/-- All numbers finite, at every level. -/
def AllFinite : Value → Prop
  | .null | .bool _ | .text _ => True
  | .number x => x.isFinite = true
  | .list items => AllFiniteItems items
  | .map entries => AllFiniteEntries entries

def AllFiniteItems : List Value → Prop
  | [] => True
  | item :: rest => item.AllFinite ∧ AllFiniteItems rest

def AllFiniteEntries : List (String × Value) → Prop
  | [] => True
  | (_, value) :: rest => value.AllFinite ∧ AllFiniteEntries rest

end

theorem orderedEntries_iff {entries : List (String × Value)} :
    OrderedEntries entries ↔ ∀ entry ∈ entries, entry.2.Ordered := by
  induction entries with
  | nil => simp [OrderedEntries]
  | cons entry entries ih =>
    obtain ⟨key, value⟩ := entry
    simp [OrderedEntries, ih]

mutual

/-- The value of a value in JSON has ascending keys, whatever order they had there. -/
theorem ordered_ofJson : ∀ j : Json, (ofJson j).Ordered
  | .null | .bool _ | .number _ | .string _ => trivial
  | .array items => orderedItems_ofItems items
  | .object members => by
    refine ⟨Members.ascending_sorted _, orderedEntries_iff.mpr fun entry hentry => ?_⟩
    exact orderedEntries_iff.mp (orderedEntries_ofMembers members) entry
      (Members.mem_of_mem_sorted hentry)

theorem orderedItems_ofItems : ∀ items : List Json, OrderedItems (ofItems items)
  | [] => trivial
  | item :: rest => ⟨ordered_ofJson item, orderedItems_ofItems rest⟩

theorem orderedEntries_ofMembers : ∀ members : List (String × Json),
    OrderedEntries (ofMembers members)
  | [] => trivial
  | (_, value) :: rest => ⟨ordered_ofJson value, orderedEntries_ofMembers rest⟩

end

theorem ordered_decode {r : Json.Reading} {v : Value} (h : decode r = .ok v) : v.Ordered := by
  rw [decode_eq] at h
  obtain ⟨j, -, hj⟩ := Json.bind_eq_ok h
  obtain rfl := Except.ok.inj hj
  exact ordered_ofJson j

/-! ### Writing -/

theorem keys_entriesJson (entries : List (String × Value)) :
    Members.keys (entriesJson entries) = Members.keys entries := by
  induction entries with
  | nil => rfl
  | cons entry entries ih =>
    obtain ⟨key, value⟩ := entry
    exact congrArg (key :: ·) ih

theorem keys_ofMembers (members : List (String × Json)) :
    Members.keys (ofMembers members) = Members.keys members := by
  induction members with
  | nil => rfl
  | cons entry members ih =>
    obtain ⟨key, value⟩ := entry
    exact congrArg (key :: ·) ih

theorem normal_numberJson (x : Float) : (numberJson x).Normal := by
  unfold numberJson Json.ofReal
  split
  · split <;> trivial
  · split <;> trivial

mutual

theorem normal_toJson : ∀ {v : Value}, v.Ordered → v.toJson.Normal
  | .null, _ | .bool _, _ | .text _, _ => trivial
  | .number x, _ => normal_numberJson x
  | .list _, h => normal_itemsJson h
  | .map entries, h => by
    refine ⟨?_, normal_entriesJson h.2⟩
    rw [Ascending, keys_entriesJson]
    exact h.1

theorem normal_itemsJson : ∀ {items : List Value}, OrderedItems items →
    Json.NormalItems (itemsJson items)
  | [], _ => trivial
  | _ :: _, h => ⟨normal_toJson h.1, normal_itemsJson h.2⟩

theorem normal_entriesJson : ∀ {entries : List (String × Value)}, OrderedEntries entries →
    Json.NormalMembers (entriesJson entries)
  | [], _ => trivial
  | (_, _) :: _, h => ⟨normal_toJson h.1, normal_entriesJson h.2⟩

end

/-- A finite number is written as a number that equals it. -/
theorem numberJson_of_isFinite {x : Float} (h : x.isFinite = true) :
    ∃ n, numberJson x = .number n ∧ (n.toFloat == x) = true := by
  unfold numberJson
  split
  · next n hwhole =>
    split
    · next hsmall => exact ⟨_, rfl, Decimal.ofInt_beq hwhole hsmall⟩
    · exact ⟨_, rfl, Decimal.beq_self_of_isFinite h⟩
  · exact ⟨.real x, if_pos h, Decimal.beq_self_of_isFinite h⟩

/-- Null alone is written as null. -/
theorem toJson_ne_null {v : Value} (hfinite : v.AllFinite) (hnull : v.isNull = false) :
    v.toJson ≠ .null := by
  cases v with
  | null => cases hnull
  | number x =>
    obtain ⟨n, hn, -⟩ := numberJson_of_isFinite hfinite
    rw [toJson, hn]
    exact Json.noConfusion
  | _ => exact Json.noConfusion

mutual

theorem ofJson_toJson : ∀ {v : Value}, v.Ordered → v.AllFinite → beq (ofJson v.toJson) v = true
  | .null, _, _ => rfl
  | .bool b, _, _ => by simp [toJson, ofJson, beq]
  | .number x, _, hfinite => by
    obtain ⟨n, hn, hequal⟩ := numberJson_of_isFinite hfinite
    rw [toJson, hn, ofJson, beq, hequal]
  | .text s, _, _ => by simp [toJson, ofJson, beq]
  | .list _, hordered, hfinite => by
    rw [toJson, ofJson, beq]
    exact ofItems_itemsJson hordered hfinite
  | .map entries, hordered, hfinite => by
    have hkeys : Ascending (ofMembers (entriesJson entries)) := by
      rw [Ascending, keys_ofMembers, keys_entriesJson]
      exact hordered.1
    rw [toJson, ofJson, Members.sorted_eq_self hkeys, beq]
    exact ofMembers_entriesJson hordered.2 hfinite

theorem ofItems_itemsJson : ∀ {items : List Value}, OrderedItems items → AllFiniteItems items →
    beqItems (ofItems (itemsJson items)) items = true
  | [], _, _ => rfl
  | item :: rest, hordered, hfinite => by
    rw [itemsJson, ofItems, beqItems, ofJson_toJson hordered.1 hfinite.1,
      ofItems_itemsJson hordered.2 hfinite.2]
    rfl

theorem ofMembers_entriesJson : ∀ {entries : List (String × Value)}, OrderedEntries entries →
    AllFiniteEntries entries → beqEntries (ofMembers (entriesJson entries)) entries = true
  | [], _, _ => rfl
  | (key, value) :: rest, hordered, hfinite => by
    rw [entriesJson, ofMembers, beqEntries, ofJson_toJson hordered.1 hfinite.1,
      ofMembers_entriesJson hordered.2 hfinite.2]
    simp

end

end DossierCompliance.Value
