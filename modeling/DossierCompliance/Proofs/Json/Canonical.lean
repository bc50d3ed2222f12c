import DossierCompliance.Proofs.Json.Members
import DossierCompliance.Proofs.Json.Printing

/-!
The canonical text of a value: its members are sorted at every level and then
written. Values whose objects repeat no key have one canonical text exactly
when they are the same up to the order of members, with numbers compared as
they are written. The text holds no control characters.
-/

namespace DossierCompliance.Json

open Members (Ascending)
open Text (NoControls)

/-! ### Writing and alikeness -/

mutual

theorem chars_eq_of_alike : ∀ {a b : Json}, Alike a b → a.chars = b.chars
  | .null, b, h => by
    cases b <;> simp_all [Alike]
  | .bool _, b, h => by
    cases b <;> simp_all [Alike]
  | .number _, b, h => by
    cases b <;> simp_all [Alike, chars]
  | .string _, b, h => by
    cases b <;> simp_all [Alike]
  | .array xs, b, h => by
    cases b <;> simp only [Alike] at h
    case array ys =>
      rcases xs with _ | ⟨x, xs⟩ <;> rcases ys with _ | ⟨y, ys⟩ <;>
        simp only [AlikeItems] at h
      · rfl
      · rw [chars, chars, chars_eq_of_alike h.1, itemChars_eq_of_alike h.2]
  | .object ms, b, h => by
    cases b <;> simp only [Alike] at h
    case object ns =>
      rcases ms with _ | ⟨⟨k, v⟩, ms⟩ <;> rcases ns with _ | ⟨⟨l, w⟩, ns⟩ <;>
        simp only [AlikeMembers] at h
      · rfl
      · obtain ⟨rfl, hvw, hrest⟩ := h
        rw [chars, chars, chars_eq_of_alike hvw, memberChars_eq_of_alike hrest]

theorem itemChars_eq_of_alike : ∀ {xs ys : List Json}, AlikeItems xs ys →
    itemChars xs = itemChars ys
  | [], [], _ => rfl
  | [], _ :: _, h => by cases h
  | _ :: _, [], h => by cases h
  | x :: xs, y :: ys, h => by
    rw [itemChars, itemChars, chars_eq_of_alike h.1, itemChars_eq_of_alike h.2]

theorem memberChars_eq_of_alike : ∀ {ms ns : List (String × Json)}, AlikeMembers ms ns →
    memberChars ms = memberChars ns
  | [], [], _ => rfl
  | [], (_, _) :: _, h => by cases h
  | (_, _) :: _, [], h => by cases h
  | (k, v) :: ms, (l, w) :: ns, h => by
    obtain ⟨rfl, hvw, hrest⟩ := h
    rw [memberChars, memberChars, chars_eq_of_alike hvw, memberChars_eq_of_alike hrest]

end

/-- One text is the text of one value, as far as numbers can be told apart. -/
theorem render_eq_iff {a b : Json} : a.render = b.render ↔ Alike a b := by
  constructor
  · intro h
    have hchars : a.chars ++ [] = b.chars ++ [] := by
      simpa [render, ← String.toList_inj] using h
    exact (chars_append_inj a b Text.endsRun_nil Text.endsRun_nil hchars).1
  · intro h
    rw [render, render, chars_eq_of_alike h]

/-! ### Order of members -/

mutual

/-- No object of the value has two members of one key. -/
def UniqueKeys : Json → Prop
  | .null | .bool _ | .number _ | .string _ => True
  | .array items => UniqueKeysItems items
  | .object members => (Members.keys members).Nodup ∧ UniqueKeysMembers members

def UniqueKeysItems : List Json → Prop
  | [] => True
  | item :: rest => item.UniqueKeys ∧ UniqueKeysItems rest

def UniqueKeysMembers : List (String × Json) → Prop
  | [] => True
  | (_, value) :: rest => value.UniqueKeys ∧ UniqueKeysMembers rest

end

mutual

/-- The same value up to the order of members at every level, with numbers
compared as they are written. -/
def SameValue : Json → Json → Prop
  | .null, .null => True
  | .bool a, .bool b => a = b
  | .number m, .number n => m.render = n.render
  | .string s, .string t => s = t
  | .array xs, .array ys => SameItems xs ys
  | .object ms, .object ns => ms.length = ns.length ∧ SameMembers ms ns
  | _, _ => False

def SameItems : List Json → List Json → Prop
  | [], [] => True
  | x :: xs, y :: ys => SameValue x y ∧ SameItems xs ys
  | _, _ => False

/-- Each member has a counterpart under its key, wherever that stands. -/
def SameMembers : List (String × Json) → List (String × Json) → Prop
  | [], _ => True
  | (k, v) :: ms, ns => (∃ w, (k, w) ∈ ns ∧ SameValue v w) ∧ SameMembers ms ns

end

theorem sortedItems_eq_map (items : List Json) : sortedItems items = items.map sorted := by
  induction items with
  | nil => rfl
  | cons item items ih => rw [sortedItems, ih, List.map_cons]

theorem sortedMembers_eq_map (ms : List (String × Json)) :
    sortedMembers ms = ms.map fun entry => (entry.1, entry.2.sorted) := by
  induction ms with
  | nil => rfl
  | cons entry ms ih =>
    obtain ⟨k, v⟩ := entry
    rw [sortedMembers, ih, List.map_cons]

theorem keys_sortedMembers (ms : List (String × Json)) :
    Members.keys (sortedMembers ms) = Members.keys ms := by
  simp [sortedMembers_eq_map, Members.keys]

theorem uniqueKeys_of_mem {ms : List (String × Json)} (hms : UniqueKeysMembers ms)
    {k : String} {v : Json} (h : (k, v) ∈ ms) : v.UniqueKeys := by
  induction ms with
  | nil => cases h
  | cons entry ms ih =>
    obtain ⟨l, w⟩ := entry
    rcases List.mem_cons.mp h with heq | htail
    · cases heq
      exact hms.1
    · exact ih hms.2 htail

/-- Each member has a counterpart that is alike, under its key. -/
def Counterparts (ms ns : List (String × Json)) : Prop :=
  ∀ entry ∈ ms, ∃ w, (entry.1, w) ∈ ns ∧ Alike entry.2 w

theorem alikeMembers_counterparts {ms ns : List (String × Json)} (h : AlikeMembers ms ns) :
    Members.keys ms = Members.keys ns ∧ Counterparts ms ns := by
  induction ms generalizing ns with
  | nil =>
    cases ns with
    | nil => exact ⟨rfl, fun _ hentry => by cases hentry⟩
    | cons _ _ => cases h
  | cons entry ms ih =>
    obtain ⟨k, v⟩ := entry
    rcases ns with _ | ⟨⟨l, w⟩, ns⟩
    · cases h
    obtain ⟨rfl, hvw, hrest⟩ := h
    obtain ⟨hkeys, hcounter⟩ := ih hrest
    refine ⟨by simpa [Members.keys] using hkeys, ?_⟩
    intro entry hentry
    rcases List.mem_cons.mp hentry with rfl | htail
    · exact ⟨w, List.mem_cons_self, hvw⟩
    · obtain ⟨x, hx, halike⟩ := hcounter entry htail
      exact ⟨x, List.mem_cons_of_mem _ hx, halike⟩

theorem alikeMembers_of_counterparts {ms ns : List (String × Json)}
    (hkeys : Members.keys ms = Members.keys ns) (hnodup : (Members.keys ns).Nodup)
    (hcounter : Counterparts ms ns) : AlikeMembers ms ns := by
  induction ms generalizing ns with
  | nil =>
    rcases ns with _ | ⟨_, _⟩
    · trivial
    · simp [Members.keys] at hkeys
  | cons entry ms ih =>
    obtain ⟨k, v⟩ := entry
    rcases ns with _ | ⟨⟨l, w⟩, ns⟩
    · simp [Members.keys] at hkeys
    obtain ⟨rfl, hrest⟩ : k = l ∧ Members.keys ms = Members.keys ns := by
      simpa [Members.keys] using hkeys
    obtain ⟨hnew, hnodup'⟩ := List.nodup_cons.mp hnodup
    have hvw : Alike v w := by
      obtain ⟨x, hx, halike⟩ := hcounter (k, v) List.mem_cons_self
      rcases List.mem_cons.mp hx with heq | htail
      · cases heq
        exact halike
      · exact absurd (List.mem_map.mpr ⟨_, htail, rfl⟩) hnew
    refine ⟨rfl, hvw, ih hrest hnodup' ?_⟩
    intro entry hentry
    obtain ⟨x, hx, halike⟩ := hcounter entry (List.mem_cons_of_mem _ hentry)
    rcases List.mem_cons.mp hx with heq | htail
    · have hkey : entry.1 ∈ Members.keys ns := hrest ▸ List.mem_map_of_mem hentry
      have hsame : entry.1 = k := congrArg Prod.fst heq
      exact absurd (hsame ▸ hkey) hnew
    · exact ⟨x, htail, halike⟩

/-- Ascending members are alike when as many stand on either side and each has
a counterpart: the order leaves no choice. -/
theorem alikeMembers_iff {ms ns : List (String × Json)} (hms : Ascending ms)
    (hns : Ascending ns) :
    AlikeMembers ms ns ↔ ms.length = ns.length ∧ Counterparts ms ns := by
  constructor
  · intro h
    obtain ⟨hkeys, hcounter⟩ := alikeMembers_counterparts h
    have hlength := congrArg List.length hkeys
    exact ⟨by simpa [Members.keys] using hlength, hcounter⟩
  · rintro ⟨hlength, hcounter⟩
    have hsubset : Members.keys ms ⊆ Members.keys ns := by
      intro k hk
      obtain ⟨entry, hentry, rfl⟩ := List.mem_map.mp hk
      obtain ⟨w, hw, _⟩ := hcounter entry hentry
      exact List.mem_map.mpr ⟨_, hw, rfl⟩
    have hperm : (Members.keys ms).Perm (Members.keys ns) :=
      (hms.nodup.subperm hsubset).perm_of_length_le (by simp [Members.keys, hlength])
    have hkeys : Members.keys ms = Members.keys ns :=
      hperm.eq_of_pairwise (fun _ _ _ _ hab hba => absurd (hab.trans hba) (lt_irrefl _)) hms hns
    exact alikeMembers_of_counterparts hkeys hns.nodup hcounter

/-- Sorted members are alike when the unsorted ones have counterparts among
each other. -/
theorem alikeMembers_sorted_iff {ms ns : List (String × Json)}
    (hms : (Members.keys ms).Nodup) (hns : (Members.keys ns).Nodup) :
    AlikeMembers (Members.sorted ms) (Members.sorted ns) ↔
      ms.length = ns.length ∧ Counterparts ms ns := by
  have hpermMs := Members.sorted_perm hms
  have hpermNs := Members.sorted_perm hns
  rw [alikeMembers_iff (Members.ascending_sorted ms) (Members.ascending_sorted ns),
    hpermMs.length_eq, hpermNs.length_eq]
  simp only [Counterparts, hpermMs.mem_iff, hpermNs.mem_iff]

mutual

/-- Without repeated keys, values sorted at every level are alike exactly when
the values are the same up to the order of members. -/
theorem alike_sorted_iff : ∀ {a b : Json}, a.UniqueKeys → b.UniqueKeys →
    (Alike a.sorted b.sorted ↔ SameValue a b)
  | .null, b, _, _ => by
    cases b <;> simp [sorted, Alike, SameValue]
  | .bool _, b, _, _ => by
    cases b <;> simp [sorted, Alike, SameValue]
  | .number _, b, _, _ => by
    cases b <;> simp [sorted, Alike, SameValue]
  | .string _, b, _, _ => by
    cases b <;> simp [sorted, Alike, SameValue]
  | .array xs, b, hxs, hb => by
    cases b <;> simp only [sorted, Alike, SameValue]
    case array ys => exact alikeItems_sorted_iff hxs hb
  | .object ms, b, hms, hb => by
    cases b <;> simp only [sorted, Alike, SameValue]
    case object ns =>
      have hsortedMs : (Members.keys (sortedMembers ms)).Nodup := by
        rw [keys_sortedMembers]
        exact hms.1
      have hsortedNs : (Members.keys (sortedMembers ns)).Nodup := by
        rw [keys_sortedMembers]
        exact hb.1
      rw [alikeMembers_sorted_iff hsortedMs hsortedNs, counterparts_sorted_iff hms.2 hb.2]
      simp [sortedMembers_eq_map]

theorem alikeItems_sorted_iff : ∀ {xs ys : List Json}, UniqueKeysItems xs →
    UniqueKeysItems ys → (AlikeItems (sortedItems xs) (sortedItems ys) ↔ SameItems xs ys)
  | [], [], _, _ => Iff.rfl
  | [], _ :: _, _, _ => Iff.rfl
  | _ :: _, [], _, _ => Iff.rfl
  | x :: xs, y :: ys, hxs, hys => by
    simp only [sortedItems, AlikeItems, SameItems]
    rw [alike_sorted_iff hxs.1 hys.1, alikeItems_sorted_iff hxs.2 hys.2]

theorem counterparts_sorted_iff : ∀ {ms ns : List (String × Json)}, UniqueKeysMembers ms →
    UniqueKeysMembers ns →
    (Counterparts (sortedMembers ms) (sortedMembers ns) ↔ SameMembers ms ns)
  | [], _, _, _ => by simp [Counterparts, sortedMembers, SameMembers]
  | (k, v) :: ms, ns, hms, hns => by
    have htail := counterparts_sorted_iff hms.2 hns
    have hhead : (∃ w, (k, w) ∈ sortedMembers ns ∧ Alike v.sorted w) ↔
        ∃ w, (k, w) ∈ ns ∧ SameValue v w := by
      rw [sortedMembers_eq_map]
      constructor
      · rintro ⟨w, hw, halike⟩
        obtain ⟨⟨l, x⟩, hmem, heq⟩ := List.mem_map.mp hw
        cases heq
        exact ⟨x, hmem, (alike_sorted_iff hms.1 (uniqueKeys_of_mem hns hmem)).mp halike⟩
      · rintro ⟨w, hw, hsame⟩
        exact ⟨w.sorted, List.mem_map.mpr ⟨_, hw, rfl⟩,
          (alike_sorted_iff hms.1 (uniqueKeys_of_mem hns hw)).mpr hsame⟩
    rw [SameMembers, ← htail, ← hhead]
    simp [Counterparts, sortedMembers]

end

/-- Values without repeated keys have one canonical text exactly when they are
the same up to the order of members. -/
theorem render_sorted_eq_iff {a b : Json} (ha : a.UniqueKeys) (hb : b.UniqueKeys) :
    a.sorted.render = b.sorted.render ↔ SameValue a b :=
  render_eq_iff.trans (alike_sorted_iff ha hb)

/-! ### Control characters -/

theorem noControls_escapeChar (c : Char) : NoControls (escapeChar c) := by
  have hhex : ∀ n < 16, Text.uncontrolled (Text.lowerHexDigit n) = true := by decide
  unfold escapeChar
  split
  -- the escapes of two characters
  iterate 7 next => decide
  split
  · next hcode =>
    have hhigh := hhex (c.toNat / 16) (by omega)
    have hlow := hhex (c.toNat % 16) (by omega)
    have hlead : NoControls ['\\', 'u', '0', '0'] := by decide
    exact hlead.append (.cons hhigh (.cons hlow Text.madeOf_nil))
  · next hcode =>
    exact .cons (by simpa [Text.uncontrolled] using hcode) Text.madeOf_nil

theorem noControls_stringChars (s : String) : NoControls (stringChars s) := by
  refine .cons (by decide) (.append ?_ (.cons (by decide) Text.madeOf_nil))
  intro c hc
  obtain ⟨d, _, hd⟩ := List.mem_flatMap.mp hc
  exact noControls_escapeChar d c hd

mutual

/-- No written value holds a control character: those inside of strings are
escaped. -/
theorem noControls_chars : ∀ j : Json, NoControls j.chars
  | .null | .bool true | .bool false => by decide
  | .number n => by
    rw [chars]
    exact (legible_render_number n).mono fun _ => Decimal.uncontrolled_of_numeralChar
  | .string s => by
    rw [chars]
    exact noControls_stringChars s
  | .array [] => by decide
  | .array (item :: rest) => by
    rw [chars]
    exact .cons (by decide) ((noControls_chars item).append (noControls_itemChars rest))
  | .object [] => by decide
  | .object ((key, value) :: rest) => by
    rw [chars]
    exact .append (.append (.cons (by decide) (noControls_stringChars key))
      (.cons (by decide) (noControls_chars value))) (noControls_memberChars rest)

theorem noControls_itemChars : ∀ items : List Json, NoControls (itemChars items)
  | [] => by decide
  | item :: rest => by
    rw [itemChars]
    exact .cons (by decide) ((noControls_chars item).append (noControls_itemChars rest))

theorem noControls_memberChars : ∀ members : List (String × Json),
    NoControls (memberChars members)
  | [] => by decide
  | (key, value) :: rest => by
    rw [memberChars]
    exact .append (.append (.cons (by decide) (noControls_stringChars key))
      (.cons (by decide) (noControls_chars value))) (noControls_memberChars rest)

end

end DossierCompliance.Json
