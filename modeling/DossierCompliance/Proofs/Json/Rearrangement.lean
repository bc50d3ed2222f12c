import DossierCompliance.Proofs.Json.Canonical

/-!
Values whose members have changed places. One move takes the members of one
object, at any depth, to another order, and any number of moves may follow one
another; a number may also give way to one that is written alike. Where no key
is repeated, two values come out of each other in this way exactly when their
sorted forms have one text.
-/

namespace DossierCompliance.Json

/-- One value comes out of another by moving members within their objects and
exchanging numbers for others that are written with the same characters. -/
inductive Rearranged : Json → Json → Prop where
  | refl (a : Json) : Rearranged a a
  | trans {a b c : Json} (hab : Rearranged a b) (hbc : Rearranged b c) : Rearranged a c
  | number {m n : Number} (h : m.render = n.render) : Rearranged (.number m) (.number n)
  | members {ms ns : List (String × Json)} (h : ms.Perm ns) :
      Rearranged (.object ms) (.object ns)
  | item (before after : List Json) {a b : Json} (h : Rearranged a b) :
      Rearranged (.array (before ++ a :: after)) (.array (before ++ b :: after))
  | member (before after : List (String × Json)) (key : String) {a b : Json}
      (h : Rearranged a b) :
      Rearranged (.object (before ++ (key, a) :: after)) (.object (before ++ (key, b) :: after))

namespace Rearranged

theorem symm {a b : Json} (h : Rearranged a b) : Rearranged b a := by
  induction h with
  | refl a => exact .refl a
  | trans _ _ ihab ihbc => exact .trans ihbc ihab
  | number h => exact .number h.symm
  | members h => exact .members h.symm
  | item before after _ ih => exact .item before after ih
  | member before after key _ ih => exact .member before after key ih

/-- Items may be rearranged one after the other. -/
theorem array {xs ys : List Json} (h : List.Forall₂ Rearranged xs ys) :
    Rearranged (.array xs) (.array ys) := by
  have hbehind (before : List Json) :
      Rearranged (.array (before ++ xs)) (.array (before ++ ys)) := by
    induction h generalizing before with
    | nil => exact .refl _
    | @cons x y xs ys hxy _ ih =>
      refine (item before xs hxy).trans ?_
      simpa using ih (before ++ [y])
  exact hbehind []

/-- So may the values of members. -/
theorem object {ms ns : List (String × Json)}
    (h : List.Forall₂ (fun m n => m.1 = n.1 ∧ Rearranged m.2 n.2) ms ns) :
    Rearranged (.object ms) (.object ns) := by
  have hbehind (before : List (String × Json)) :
      Rearranged (.object (before ++ ms)) (.object (before ++ ns)) := by
    induction h generalizing before with
    | nil => exact .refl _
    | @cons m n ms ns hmn _ ih =>
      obtain ⟨k, v⟩ := m
      obtain ⟨l, w⟩ := n
      obtain ⟨rfl, hvw⟩ : k = l ∧ Rearranged v w := hmn
      refine (member before ms k hvw).trans ?_
      simpa using ih (before ++ [(k, w)])
  exact hbehind []

end Rearranged

/-! ### Values that are rearranged -/

mutual

/-- Values that are alike differ in numbers only. -/
theorem rearranged_of_alike : ∀ {a b : Json}, Alike a b → Rearranged a b
  | .null, b, h => by
    cases b with
    | null => exact .refl _
    | _ => cases h
  | .bool _, b, h => by
    cases b with
    | bool _ => cases h; exact .refl _
    | _ => cases h
  | .number _, b, h => by
    cases b with
    | number _ => exact .number h
    | _ => cases h
  | .string _, b, h => by
    cases b with
    | string _ => cases h; exact .refl _
    | _ => cases h
  | .array _, b, h => by
    cases b with
    | array _ => exact .array (rearrangedItems_of_alike h)
    | _ => cases h
  | .object _, b, h => by
    cases b with
    | object _ => exact .object (rearrangedMembers_of_alike h)
    | _ => cases h

theorem rearrangedItems_of_alike : ∀ {xs ys : List Json}, AlikeItems xs ys →
    List.Forall₂ Rearranged xs ys
  | [], [], _ => .nil
  | [], _ :: _, h => by cases h
  | _ :: _, [], h => by cases h
  | _ :: _, _ :: _, h => .cons (rearranged_of_alike h.1) (rearrangedItems_of_alike h.2)

theorem rearrangedMembers_of_alike : ∀ {ms ns : List (String × Json)}, AlikeMembers ms ns →
    List.Forall₂ (fun m n => m.1 = n.1 ∧ Rearranged m.2 n.2) ms ns
  | [], [], _ => .nil
  | [], (_, _) :: _, h => by cases h
  | (_, _) :: _, [], h => by cases h
  | (_, _) :: _, (_, _) :: _, h =>
    .cons ⟨h.1, rearranged_of_alike h.2.1⟩ (rearrangedMembers_of_alike h.2.2)

end

mutual

/-- Sorting moves members within their objects, if none of them has the key of
another. -/
theorem rearranged_sorted : ∀ {a : Json}, a.UniqueKeys → Rearranged a a.sorted
  | .null, _ | .bool _, _ | .number _, _ | .string _, _ => .refl _
  | .array _, h => .array (rearranged_sortedItems h)
  | .object ms, h => by
    have hkeys : (Members.keys (sortedMembers ms)).Nodup := by
      rw [keys_sortedMembers]
      exact h.1
    exact .trans (.object (rearranged_sortedMembers h.2))
      (.members (Members.sorted_perm hkeys).symm)

theorem rearranged_sortedItems : ∀ {items : List Json}, UniqueKeysItems items →
    List.Forall₂ Rearranged items (sortedItems items)
  | [], _ => .nil
  | _ :: _, h => .cons (rearranged_sorted h.1) (rearranged_sortedItems h.2)

theorem rearranged_sortedMembers : ∀ {ms : List (String × Json)}, UniqueKeysMembers ms →
    List.Forall₂ (fun m n => m.1 = n.1 ∧ Rearranged m.2 n.2) ms (sortedMembers ms)
  | [], _ => .nil
  | (_, _) :: _, h => .cons ⟨rfl, rearranged_sorted h.1⟩ (rearranged_sortedMembers h.2)

end

/-! ### What a move keeps -/

theorem uniqueKeysItems_iff {items : List Json} :
    UniqueKeysItems items ↔ ∀ item ∈ items, item.UniqueKeys := by
  induction items with
  | nil => simp [UniqueKeysItems]
  | cons item items ih => simp [UniqueKeysItems, ih]

theorem uniqueKeysMembers_iff {ms : List (String × Json)} :
    UniqueKeysMembers ms ↔ ∀ entry ∈ ms, entry.2.UniqueKeys := by
  induction ms with
  | nil => simp [UniqueKeysMembers]
  | cons entry ms ih =>
    obtain ⟨k, v⟩ := entry
    simp [UniqueKeysMembers, ih]

theorem alike_refl (a : Json) : Alike a a :=
  render_eq_iff.mp rfl

theorem Alike.trans {a b c : Json} (hab : Alike a b) (hbc : Alike b c) : Alike a c := by
  rw [← render_eq_iff] at hab hbc ⊢
  exact hab.trans hbc

theorem alikeItems_iff {xs ys : List Json} : AlikeItems xs ys ↔ List.Forall₂ Alike xs ys := by
  induction xs generalizing ys with
  | nil => cases ys <;> simp [AlikeItems]
  | cons x xs ih => cases ys <;> simp [AlikeItems, ih]

/-- Whether keys are repeated in an array is told by one item and by the others. -/
theorem uniqueKeys_array_iff {before after : List Json} {a : Json} :
    (array (before ++ a :: after)).UniqueKeys ↔
      a.UniqueKeys ∧ UniqueKeysItems (before ++ after) := by
  rw [UniqueKeys, uniqueKeysItems_iff, uniqueKeysItems_iff]
  simp only [List.forall_mem_append, List.forall_mem_cons]
  exact and_left_comm

/-- In an object it is told by the value of one member, by all keys and by the
other values. -/
theorem uniqueKeys_object_iff {before after : List (String × Json)} {key : String} {a : Json} :
    (object (before ++ (key, a) :: after)).UniqueKeys ↔
      a.UniqueKeys ∧ (Members.keys before ++ key :: Members.keys after).Nodup ∧
        UniqueKeysMembers (before ++ after) := by
  have hkeys : Members.keys (before ++ (key, a) :: after) =
      Members.keys before ++ key :: Members.keys after := by
    simp [Members.keys]
  rw [UniqueKeys, hkeys, uniqueKeysMembers_iff, uniqueKeysMembers_iff]
  simp only [List.forall_mem_append, List.forall_mem_cons]
  rw [and_left_comm (a := ∀ entry ∈ before, entry.2.UniqueKeys)]
  exact and_left_comm

section Sorted

variable {a b : Json}

/-- Sorting takes objects to the same whose members are the same in another order. -/
theorem alike_sorted_of_perm {ms ns : List (String × Json)} (h : ms.Perm ns)
    (hms : (Members.keys ms).Nodup) : Alike (object ms).sorted (object ns).sorted := by
  have hns : (Members.keys ns).Nodup := (h.map Prod.fst).nodup_iff.mp hms
  rw [← keys_sortedMembers] at hms hns
  have hmoved : (sortedMembers ms).Perm (sortedMembers ns) := by
    rw [sortedMembers_eq_map, sortedMembers_eq_map]
    exact h.map _
  refine (alikeMembers_sorted_iff hms hns).mpr ⟨hmoved.length_eq, ?_⟩
  exact fun entry hentry => ⟨entry.2, hmoved.mem_iff.mp hentry, alike_refl _⟩

theorem alike_sorted_item (before after : List Json) (h : Alike a.sorted b.sorted) :
    Alike (array (before ++ a :: after)).sorted (array (before ++ b :: after)).sorted := by
  have hsame (items : List Json) : List.Forall₂ Alike items items :=
    List.forall₂_same.mpr fun item _ => alike_refl item
  refine alikeItems_iff.mpr ?_
  simp only [sortedItems_eq_map, List.map_append, List.map_cons]
  exact List.rel_append (hsame _) (.cons h (hsame _))

theorem alike_sorted_member (before after : List (String × Json)) (key : String)
    (hkeys : (Members.keys before ++ key :: Members.keys after).Nodup)
    (h : Alike a.sorted b.sorted) :
    Alike (object (before ++ (key, a) :: after)).sorted
      (object (before ++ (key, b) :: after)).sorted := by
  have hsorted (v : Json) :
      (Members.keys (sortedMembers (before ++ (key, v) :: after))).Nodup := by
    rw [keys_sortedMembers]
    simpa [Members.keys] using hkeys
  refine (alikeMembers_sorted_iff (hsorted a) (hsorted b)).mpr ⟨?_, ?_⟩
  · simp [sortedMembers_eq_map]
  · -- only the member of the key has another value on the other side
    simp only [sortedMembers_eq_map, List.map_append, List.map_cons]
    intro entry hentry
    rcases List.mem_append.mp hentry with hold | hrest
    · exact ⟨entry.2, List.mem_append_left _ hold, alike_refl _⟩
    rcases List.mem_cons.mp hrest with rfl | hold
    · exact ⟨b.sorted, List.mem_append_right _ List.mem_cons_self, h⟩
    · exact ⟨entry.2, List.mem_append_right _ (List.mem_cons_of_mem _ hold), alike_refl _⟩

end Sorted

namespace Rearranged

/-- A rearranged value repeats no key either, and sorting leads to the same. -/
theorem alike_sorted {a b : Json} (h : Rearranged a b) (ha : a.UniqueKeys) :
    b.UniqueKeys ∧ Alike a.sorted b.sorted := by
  induction h with
  | refl a => exact ⟨ha, alike_refl _⟩
  | trans _ _ ihab ihbc =>
    obtain ⟨hb, hab⟩ := ihab ha
    obtain ⟨hc, hbc⟩ := ihbc hb
    exact ⟨hc, hab.trans hbc⟩
  | number h => exact ⟨trivial, h⟩
  | @members ms ns h =>
    obtain ⟨hkeys, hvalues⟩ := ha
    refine ⟨⟨(h.map Prod.fst).nodup_iff.mp hkeys, ?_⟩, alike_sorted_of_perm h hkeys⟩
    rw [uniqueKeysMembers_iff] at hvalues ⊢
    exact fun entry hentry => hvalues entry (h.mem_iff.mpr hentry)
  | item before after _ ih =>
    obtain ⟨hitem, hothers⟩ := uniqueKeys_array_iff.mp ha
    obtain ⟨hb, hab⟩ := ih hitem
    exact ⟨uniqueKeys_array_iff.mpr ⟨hb, hothers⟩, alike_sorted_item before after hab⟩
  | member before after key _ ih =>
    obtain ⟨hvalue, hkeys, hothers⟩ := uniqueKeys_object_iff.mp ha
    obtain ⟨hb, hab⟩ := ih hvalue
    exact ⟨uniqueKeys_object_iff.mpr ⟨hb, hkeys, hothers⟩,
      alike_sorted_member before after key hkeys hab⟩

theorem render_sorted_eq {a b : Json} (h : Rearranged a b) (ha : a.UniqueKeys) :
    a.sorted.render = b.sorted.render :=
  render_eq_iff.mpr (h.alike_sorted ha).2

end Rearranged

/-- Values without repeated keys come out of each other exactly when their
sorted forms have one text. -/
theorem render_sorted_eq_iff_rearranged {a b : Json} (ha : a.UniqueKeys) (hb : b.UniqueKeys) :
    a.sorted.render = b.sorted.render ↔ Rearranged a b := by
  constructor
  · intro h
    have hmiddle : Rearranged a.sorted b.sorted := rearranged_of_alike (render_eq_iff.mp h)
    exact (rearranged_sorted ha).trans (hmiddle.trans (rearranged_sorted hb).symm)
  · intro h
    exact h.render_sorted_eq ha

end DossierCompliance.Json
