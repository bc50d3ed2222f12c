import DossierCompliance.Json.Shape
import DossierCompliance.Proofs.Json.Canonical

/-!
Values in normal form. Every value that is read is in normal form. What holds of
each value of a field holds of the records that are decoded with it.
-/

namespace DossierCompliance.Json

open Members (Ascending)

theorem normalMembers_iff {ms : List (String × Json)} :
    NormalMembers ms ↔ ∀ entry ∈ ms, entry.2.Normal := by
  induction ms with
  | nil => simp [NormalMembers]
  | cons entry ms ih =>
    obtain ⟨k, v⟩ := entry
    simp [NormalMembers, ih]

theorem normalItems_iff {items : List Json} :
    NormalItems items ↔ ∀ item ∈ items, item.Normal := by
  induction items with
  | nil => simp [NormalItems]
  | cons item items ih => simp [NormalItems, ih]

/-- An object built of values in normal form is in normal form. -/
theorem normal_ofMembers {entries : List (String × Json)} (h : NormalMembers entries) :
    (ofMembers entries).Normal := by
  refine ⟨Members.ascending_sorted entries, ?_⟩
  rw [normalMembers_iff] at h ⊢
  exact fun entry hentry => h entry (Members.mem_of_mem_sorted hentry)

mutual

theorem normal_sorted : ∀ j : Json, j.sorted.Normal
  | .null | .bool _ | .number _ | .string _ => trivial
  | .array items => normal_sortedItems items
  | .object members => normal_ofMembers (normal_sortedMembers members)

theorem normal_sortedItems : ∀ items : List Json, NormalItems (sortedItems items)
  | [] => trivial
  | item :: rest => ⟨normal_sorted item, normal_sortedItems rest⟩

theorem normal_sortedMembers : ∀ members : List (String × Json),
    NormalMembers (sortedMembers members)
  | [] => trivial
  | (_, value) :: rest => ⟨normal_sorted value, normal_sortedMembers rest⟩

end

/-! ### Reading -/

theorem bind_eq_ok {ε α β : Type} {x : Except ε α} {f : α → Except ε β} {b : β}
    (h : x >>= f = .ok b) : ∃ a, x = .ok a ∧ f a = .ok b := by
  cases x with
  | error e => cases h
  | ok a => exact ⟨a, rfl, h⟩

theorem endingWith_eq_ok {α : Type} {value a : α} {fault : Option Fault}
    (h : Reading.endingWith value fault = .ok a) : a = value := by
  cases fault with
  | none => exact (Except.ok.inj h).symm
  | some fault => cases h

mutual

/-- Whatever is read is in normal form. -/
theorem normal_toJson : ∀ {r : Reading} {j : Json}, r.toJson = .ok j → j.Normal
  | .null, _, h => by cases h; trivial
  | .bool _, _, h => by cases h; trivial
  | .number _, _, h => by cases h; trivial
  | .string _, _, h => by cases h; trivial
  | .scalar _ _ spelled, _, h => normal_toJson (r := spelled) h
  | .marked _ _, _, h => by cases h
  | .list _, _, h => by
    obtain ⟨values, hvalues, hend⟩ := bind_eq_ok h
    cases hend
    exact normal_toItems hvalues
  | .array _ _, _, h => by
    obtain ⟨values, hvalues, hend⟩ := bind_eq_ok h
    rw [endingWith_eq_ok hend]
    exact normal_toItems hvalues
  | .object _ _, _, h => by
    obtain ⟨values, hvalues, hend⟩ := bind_eq_ok h
    rw [endingWith_eq_ok hend]
    exact normal_ofMembers (normal_toMembers hvalues)
  | .mapping _, _, h => by
    obtain ⟨values, hvalues, hend⟩ := bind_eq_ok h
    cases hend
    exact normal_ofMembers (normal_toEntries hvalues)
  | .flawed _ _, _, h => by cases h
  | .broken _, _, h => by cases h

theorem normal_toItems : ∀ {items : List Reading} {values : List Json},
    Reading.toItems items = .ok values → NormalItems values
  | [], _, h => by cases h; trivial
  | _ :: _, _, h => by
    obtain ⟨value, hvalue, hrest⟩ := bind_eq_ok h
    obtain ⟨values, hvalues, hend⟩ := bind_eq_ok hrest
    cases hend
    exact ⟨normal_toJson hvalue, normal_toItems hvalues⟩

theorem normal_toMembers : ∀ {members : List (String × Reading)} {values : List (String × Json)},
    Reading.toMembers members = .ok values → NormalMembers values
  | [], _, h => by cases h; trivial
  | (_, _) :: _, _, h => by
    obtain ⟨value, hvalue, hrest⟩ := bind_eq_ok h
    obtain ⟨values, hvalues, hend⟩ := bind_eq_ok hrest
    cases hend
    exact ⟨normal_toJson hvalue, normal_toMembers hvalues⟩

theorem normal_toEntries : ∀ {entries : List (Reading × Reading)} {values : List (String × Json)},
    Reading.toEntries entries = .ok values → NormalMembers values
  | [], _, h => by cases h; trivial
  | (_, _) :: _, _, h => by
    obtain ⟨key, _, hnamed⟩ := bind_eq_ok h
    cases key with
    | string name =>
      obtain ⟨value, hvalue, hrest⟩ := bind_eq_ok hnamed
      obtain ⟨values, hvalues, hend⟩ := bind_eq_ok hrest
      cases hend
      exact ⟨normal_toJson hvalue, normal_toEntries hvalues⟩
    | _ => cases hnamed

end

theorem normal_value {r : Reading} {j : Json} (h : Decoder.value r = .ok j) : j.Normal := by
  unfold Decoder.value at h
  cases hread : r.toJson with
  | error fault => simp [hread, Except.mapError] at h
  | ok read =>
    rw [hread] at h
    cases h
    exact normal_toJson hread

/-! ### Records -/

namespace Placed

variable {α β : Type}

/-- What is decoded, if anything is, has a property. -/
def Gives (p : α → Prop) (x : Placed α) : Prop :=
  ∀ a, x = .ok a → p a

theorem seq_eq_ok {f : Placed (α → β)} {x : Placed α} {b : β} (h : f <*> x = .ok b) :
    ∃ g a, f = .ok g ∧ x = .ok a ∧ b = g a := by
  have hseq : seq f x = .ok b := h
  cases f with
  | ok g =>
    cases x with
    | ok a => exact ⟨g, a, rfl, rfl, (ok.inj hseq).symm⟩
    | failed place why => cases hseq
  | failed place why =>
    cases x with
    | ok a => cases hseq
    | failed place' why' =>
      simp only [seq] at hseq
      split at hseq <;> cases hseq

variable {p : β → Prop} {q : α → Prop} {f : Placed (α → β)} {x : Placed α}

/-- A property of what a part has may be used for the whole. -/
theorem Gives.seq_of (hf : f.Gives fun g => ∀ a, q a → p (g a)) (hx : x.Gives q) :
    (f <*> x).Gives p := by
  intro b hb
  obtain ⟨g, a, hg, ha, rfl⟩ := seq_eq_ok hb
  exact hf g hg a (hx a ha)

/-- A part may be anything when the property does not depend on it. -/
theorem Gives.seq (hf : f.Gives fun g => ∀ a, p (g a)) : (f <*> x).Gives p :=
  Gives.seq_of (fun g hg a (_ : True) => hf g hg a) fun _ _ => trivial

theorem Gives.map {g : α → β} (hg : ∀ a, p (g a)) : (g <$> x).Gives p := by
  intro b hb
  obtain ⟨g', a, hg', _, rfl⟩ := seq_eq_ok (f := .ok g) hb
  cases hg'
  exact hg a

end Placed

theorem gives_required {α : Type} {q : α → Prop} {decode : Decoder α}
    (hdecode : ∀ r a, decode r = .ok a → q a) (fs : Fields) (name : String) :
    (fs.required name decode).Gives q := by
  intro a ha
  unfold Fields.required at ha
  split at ha
  · next place r _ =>
    cases hr : decode r with
    | error why => simp [hr, Placed.ofExcept] at ha
    | ok b =>
      simp only [hr, Placed.ofExcept, Placed.ok.injEq] at ha
      exact hdecode r a (ha ▸ hr)
  · cases ha

/-- The value of a field that may be any value is read in normal form. -/
theorem gives_value (fs : Fields) (name : String) :
    (fs.required name Decoder.value).Gives Normal :=
  gives_required (fun _ _ h => normal_value h) fs name

/-- A decoded record has what all results of its parts have. -/
theorem of_record {α : Type} {p : α → Prop} {names : List String} {closed : Bool}
    {build : Fields → Placed α} (hbuild : ∀ fs, (build fs).Gives p) {r : Reading} {a : α}
    (h : Decoder.record names closed build r = .ok a) : p a := by
  obtain ⟨fs, _, hparts⟩ := bind_eq_ok h
  cases hplaced : ((fun _ a => a) <$> fs.check names closed <*> build fs : Placed α) with
  | failed place why => simp [hplaced, Placed.toExcept] at hparts
  | ok b =>
    have hb : b = a := by simpa [hplaced, Placed.toExcept] using hparts
    obtain ⟨g, c, hg, hc, rfl⟩ := Placed.seq_eq_ok hplaced
    obtain ⟨g', _, hg', _, rfl⟩ := Placed.seq_eq_ok (f := .ok fun _ a => a) hg
    cases hg'
    exact hb ▸ hbuild fs c hc

end DossierCompliance.Json
