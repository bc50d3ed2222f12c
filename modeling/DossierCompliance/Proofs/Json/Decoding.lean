import DossierCompliance.Proofs.Json.Readings

/-!
Decoders and the shapes they read. A shape says in which values a thing is
found. A decoder reads a shape when what it takes out of a text has the shape in
the value of that text, and when it takes out of a value whatever has the shape
in it. Its mismatches are left open. A record is an object or the array of its
fields, and is read as its fields are; so what a text and a value give can
differ for no record that is built of fields.
-/

namespace DossierCompliance.Json

variable {α β : Type}

/-! ### Decoders -/

/-- Up to a size of readings and values: what is taken out of a reading has a
shape in the value that the reading holds, and out of a value there is taken
what has the shape in it. The size is for shapes that have others of their kind
inside. -/
structure Decoder.Reads (size : Nat) (decode : Decoder α) (shape : Json → α → Prop) : Prop where
  sound : ∀ {r : Reading} {a : α}, r.IsJson → sizeOf r < size → decode r = .ok a →
    ∃ j, r.toJson = .ok j ∧ shape j a
  complete : ∀ {j : Json} {a : α}, j.Normal → sizeOf j < size → shape j a →
    decode j.toReading = .ok a

namespace Decoder

variable {size : Nat} {decode : Decoder α} {shape : Json → α → Prop}

theorem Reads.mono {other : Nat} (h : Reads other decode shape) (hsize : size ≤ other) :
    Reads size decode shape where
  sound hr hlt := h.sound hr (hlt.trans_le hsize)
  complete hj hlt := h.complete hj (hlt.trans_le hsize)

theorem Reads.congr {other : Json → α → Prop} (h : Reads size decode shape)
    (hshape : ∀ j a, shape j a ↔ other j a) : Reads size decode other where
  sound hr hlt ha := by
    obtain ⟨j, hj, hja⟩ := h.sound hr hlt ha
    exact ⟨j, hj, (hshape j _).mp hja⟩
  complete hj hlt ha := h.complete hj hlt ((hshape _ _).mpr ha)

theorem reads_zero : Reads 0 decode shape where
  sound _ hlt := absurd hlt (Nat.not_lt_zero _)
  complete _ hlt := absurd hlt (Nat.not_lt_zero _)

/-- Only what is read out of JSON counts. -/
theorem Reads.of_eq {other : Decoder α} (h : Reads size other shape)
    (heq : ∀ r : Reading, r.IsJson → decode r = other r) : Reads size decode shape where
  sound hr hlt ha := h.sound hr hlt (heq _ hr ▸ ha)
  complete hj hlt ha := (heq _ (isJson_toReading _)).trans (h.complete hj hlt ha)

theorem reads_text (size : Nat) : Reads size text fun j s => j = .string s where
  sound {r s} hr _ hs := by
    cases r with
    | string t =>
      cases hs
      exact ⟨_, rfl, rfl⟩
    | scalar | marked => cases hr
    | _ => cases hs
  complete {j s} _ _ hj := by
    subst hj
    rfl

theorem reads_value (size : Nat) : Reads size value fun j v => v = j where
  sound {r v} _ _ hv := by
    cases hread : r.toJson with
    | error fault => simp [value, hread, Except.mapError] at hv
    | ok j =>
      have hvj : v = j := by simpa [value, hread, Except.mapError, eq_comm] using hv
      exact ⟨j, rfl, hvj⟩
  complete {j v} hj _ hv := by
    rw [hv, value, toJson_toReading hj]
    rfl

/-- What is read is taken further by a function that may refuse it. -/
theorem Reads.bind {next : α → Except Mismatch β} (h : Reads size decode shape) :
    Reads size (fun r => decode r >>= next) fun j b => ∃ a, shape j a ∧ next a = .ok b where
  sound {r b} hr hlt hb := by
    obtain ⟨a, ha, hnext⟩ := bind_eq_ok hb
    obtain ⟨j, hj, hja⟩ := h.sound hr hlt ha
    exact ⟨j, hj, a, hja, hnext⟩
  complete {j b} hj hlt hb := by
    obtain ⟨a, hja, hnext⟩ := hb
    rw [h.complete hj hlt hja]
    exact hnext

/-- Null, or something of a shape. -/
inductive OrNull (shape : Json → α → Prop) : Json → Option α → Prop where
  | null : OrNull shape .null none
  | given {j : Json} {a : α} (hnull : j ≠ .null) (h : shape j a) : OrNull shape j (some a)

theorem optional_of_ne_null {r : Reading} (hr : r.IsJson) (hnull : r ≠ .null) :
    optional decode r = (decode r).map some := by
  cases r with
  | null => exact absurd rfl hnull
  | scalar => cases hr
  | _ => rfl

theorem toReading_ne_null {j : Json} (h : j ≠ .null) : j.toReading ≠ .null := by
  cases j <;> simp_all [toReading]

theorem toJson_ne_null {r : Reading} (hr : r.IsJson) (hnull : r ≠ .null) {j : Json}
    (h : r.toJson = .ok j) : j ≠ .null := by
  rintro rfl
  cases r with
  | null => exact hnull rfl
  | scalar | marked | list | mapping => cases hr
  | array items ending =>
    obtain ⟨values, _, hend⟩ := bind_eq_ok h
    cases endingWith_eq_ok hend
  | object members ending =>
    obtain ⟨values, _, hend⟩ := bind_eq_ok h
    cases endingWith_eq_ok hend
  | _ => cases h

theorem Reads.optional (h : Reads size decode shape) :
    Reads size (optional decode) (OrNull shape) where
  sound {r o} hr hlt ho := by
    by_cases hnull : r = .null
    · subst hnull
      cases ho
      exact ⟨.null, rfl, .null⟩
    · rw [optional_of_ne_null hr hnull] at ho
      cases ha : decode r with
      | error why => simp [ha, Except.map] at ho
      | ok a =>
        obtain ⟨j, hj, hja⟩ := h.sound hr hlt ha
        have hsome : o = some a := by simpa [ha, Except.map, eq_comm] using ho
        exact ⟨j, hj, hsome ▸ .given (toJson_ne_null hr hnull hj) hja⟩
  complete {j o} hj hlt ho := by
    cases ho with
    | null => rfl
    | given hnull hja =>
      rw [optional_of_ne_null (isJson_toReading j) (toReading_ne_null hnull),
        h.complete hj hlt hja]
      rfl

theorem each_eq_ok_iff {items : List Reading} {ending : Option Fault} {as : List α} :
    each decode items ending = .ok as ↔
      ending = none ∧ List.Forall₂ (fun r a => decode r = .ok a) items as := by
  induction items generalizing as with
  | nil => cases ending <;> simp [each, eq_comm]
  | cons item items ih =>
    rw [List.forall₂_cons_left_iff]
    constructor
    · intro h
      obtain ⟨a, ha, hrest⟩ := bind_eq_ok h
      obtain ⟨more, hmore, hend⟩ := bind_eq_ok hrest
      obtain ⟨hending, hitems⟩ := ih.mp hmore
      exact ⟨hending, a, more, ha, hitems, (Except.ok.inj hend).symm⟩
    · rintro ⟨hending, a, more, ha, hitems, rfl⟩
      rw [each, ha, ih.mpr ⟨hending, hitems⟩]
      rfl

/-- An array whose items have the shapes of the items of a list. -/
inductive ListOf (shape : Json → α → Prop) : Json → List α → Prop where
  | array {items : List Json} {as : List α} (h : List.Forall₂ shape items as) :
      ListOf shape (.array items) as

/-- What each item gives has its shape in the value of the item. -/
theorem exists_values {items : List Reading} {as : List α}
    (hitems : List.Forall₂ (fun r a => decode r = .ok a) items as)
    (hsound : ∀ r ∈ items, ∀ a, decode r = .ok a → ∃ j, r.toJson = .ok j ∧ shape j a) :
    ∃ values, List.Forall₂ (fun r j => r.toJson = .ok j) items values ∧
      List.Forall₂ shape values as := by
  induction hitems with
  | nil => exact ⟨[], .nil, .nil⟩
  | cons ha _ ih =>
    obtain ⟨j, hj, hja⟩ := hsound _ List.mem_cons_self _ ha
    obtain ⟨values, hvalues, hshapes⟩ := ih fun r hr => hsound r (List.mem_cons_of_mem _ hr)
    exact ⟨j :: values, .cons hj hvalues, .cons hja hshapes⟩

theorem Reads.list (h : Reads size decode shape) : Reads size (list decode) (ListOf shape) where
  sound {r as} hr hlt has := by
    cases r with
    | array items ending =>
      obtain ⟨rfl, hitems⟩ := each_eq_ok_iff.mp has
      have hitem : ∀ item ∈ items, ∀ a, decode item = .ok a →
          ∃ j, item.toJson = .ok j ∧ shape j a := by
        intro item hmem a ha
        have hsize := List.sizeOf_lt_of_mem hmem
        rw [Reading.array.sizeOf_spec] at hlt
        exact h.sound (Reading.isJsonItems_iff.mp hr item hmem) (by omega) ha
      obtain ⟨values, hvalues, hshapes⟩ := exists_values hitems hitem
      refine ⟨.array values, ?_, .array hshapes⟩
      rw [Reading.toJson, Reading.toItems_eq_ok_iff.mpr hvalues]
      rfl
    | scalar | marked | list | mapping => cases hr
    | flawed fault skipped => cases skipped <;> cases has
    | _ => cases has
  complete {j as} hj hlt has := by
    cases has with
    | @array items as hshapes =>
      rw [toReading, toReadings_eq_map]
      refine each_eq_ok_iff.mpr ⟨rfl, ?_⟩
      rw [List.forall₂_map_left_iff]
      have hitem : ∀ item ∈ items, item.Normal ∧ sizeOf item < size := by
        intro item hmem
        have hsize := List.sizeOf_lt_of_mem hmem
        rw [Json.array.sizeOf_spec] at hlt
        exact ⟨normalItems_iff.mp hj item hmem, by omega⟩
      have hparts := (List.forall₂_and_left _ _).mpr ⟨hitem, hshapes⟩
      exact hparts.imp fun _ _ ⟨⟨hnormal, hsmall⟩, hja⟩ => h.complete hnormal hsmall hja

end Decoder

/-! ### Records -/

/-- The value of a field of a record, which is an object or the array of its
fields in their order. -/
def field? (names : List String) : Json → String → Option Json
  | .object members, name => Members.get? members name
  | .array items, name => Members.get? (names.zip items) name
  | _, _ => none

/-- A record with no other fields than the given ones. -/
def IsRecord (names : List String) : Json → Prop
  | .object members => ∀ entry ∈ members, entry.1 ∈ names
  | .array items => items.length ≤ names.length
  | _ => False

namespace Fields

variable {size : Nat} {fs : Fields} {name : String} {decode : Decoder α}
  {shape : Json → α → Prop}

theorem map_findFrom? (name : String) (place : Nat) (entries : List (String × Reading)) :
    (findFrom? name place entries).map Prod.snd = Members.get? entries name := by
  induction entries generalizing place with
  | nil => rfl
  | cons entry entries ih =>
    obtain ⟨key, r⟩ := entry
    rw [findFrom?, Members.get?_cons]
    by_cases hkey : key = name <;> simp [hkey, ih]

theorem map_find? (fs : Fields) (name : String) :
    (fs.find? name).map Prod.snd = Members.get? fs.entries name :=
  map_findFrom? name 0 fs.entries

theorem ofExcept_eq_ok_iff {place : Nat} {x : Except Mismatch α} {a : α} :
    Placed.ofExcept place x = .ok a ↔ x = .ok a := by
  cases x <;> simp [Placed.ofExcept]

theorem required_eq_ok_iff {a : α} :
    fs.required name decode = .ok a ↔
      ∃ r, Members.get? fs.entries name = some r ∧ decode r = .ok a := by
  rw [required, ← map_find?]
  cases fs.find? name with
  | none => simp [missing]
  | some found => simp [ofExcept_eq_ok_iff]

theorem optional_eq_ok_iff {o : Option α} :
    fs.optional name decode = .ok o ↔
      Members.get? fs.entries name = none ∧ o = none ∨
        ∃ r, Members.get? fs.entries name = some r ∧ Decoder.optional decode r = .ok o := by
  rw [optional, defaulted, ← map_find?]
  cases fs.find? name with
  | none => simp [eq_comm]
  | some found => simp [ofExcept_eq_ok_iff]

/-- The names are checked in one pass, which keeps those it has seen. -/
theorem checkFrom_eq_ok_iff {names : List String} {ending : Option Fault} {place : Nat}
    {seen : List String} {entries : List (String × Reading)} :
    checkFrom names true ending place seen entries = .ok () ↔
      ending = none ∧ (Members.keys entries).Nodup ∧
        ∀ key ∈ Members.keys entries, key ∈ names ∧ key ∉ seen := by
  induction entries generalizing place seen with
  | nil => cases ending <;> simp [checkFrom, Members.keys]
  | cons entry entries ih =>
    obtain ⟨key, r⟩ := entry
    have hkeys : Members.keys ((key, r) :: entries) = key :: Members.keys entries := rfl
    rw [checkFrom, hkeys, List.nodup_cons, List.forall_mem_cons]
    by_cases hkey : key ∈ names
    · by_cases hseen : key ∈ seen
      · simp [hkey, hseen]
      · simp only [List.contains_iff_mem, hkey, hseen, if_true, if_false, ih]
        grind
    · simp [hkey]

theorem check_eq_ok_iff {names : List String} :
    fs.check names true = .ok () ↔
      fs.left = 0 ∧ fs.ending = none ∧ (Members.keys fs.entries).Nodup ∧
        ∀ key ∈ Members.keys fs.entries, key ∈ names := by
  rw [check]
  by_cases hleft : 0 < fs.left
  · have hne : fs.left ≠ 0 := by omega
    simp [hleft, hne]
  · have hzero : fs.left = 0 := by omega
    simp [hzero, checkFrom_eq_ok_iff]

/-- The values that the fields hold. -/
def held (fs : Fields) (name : String) : Option Json :=
  (Members.get? fs.entries name).bind fun r => r.toJson.toOption

/-- The entries of a record are smaller than the record. -/
theorem entries_small {names : List String} {r : Reading} (hr : r.IsJson)
    (hfs : ofReading names r = .ok fs) :
    ∀ entry ∈ fs.entries, entry.2.IsJson ∧ sizeOf entry.2 < sizeOf r := by
  rintro ⟨key, item⟩ hentry
  cases r with
  | object members ending =>
    obtain rfl := Except.ok.inj hfs
    have hsize : sizeOf (key, item) < sizeOf members := List.sizeOf_lt_of_mem hentry
    rw [Prod.mk.sizeOf_spec] at hsize
    rw [Reading.object.sizeOf_spec]
    exact ⟨Reading.isJsonMembers_iff.mp hr _ hentry, by dsimp only; omega⟩
  | array items ending =>
    obtain rfl := Except.ok.inj hfs
    have hmem : item ∈ items := (List.of_mem_zip hentry).2
    have hsize := List.sizeOf_lt_of_mem hmem
    rw [Reading.array.sizeOf_spec]
    exact ⟨Reading.isJsonItems_iff.mp hr _ hmem, by dsimp only; omega⟩
  | scalar | marked | list | mapping => cases hr
  | _ => cases hfs

theorem held_of_forall₂ {values : Members Json}
    (h : List.Forall₂ (fun m v => m.1 = v.1 ∧ m.2.toJson = .ok v.2) fs.entries values)
    (name : String) : fs.held name = Members.get? values name := by
  have hrel := Members.get?_of_forall₂ (p := fun r v => Reading.toJson r = .ok v) h name
  rw [held]
  generalize Members.get? fs.entries name = read, Members.get? values name = value at hrel
  cases hrel with
  | none => rfl
  | some hvalue => simp [hvalue, Except.toOption]

/-- A record whose entries hold values holds a record of those values. -/
theorem exists_record {names : List String} {r : Reading}
    (hr : r.IsJson) (hfs : ofReading names r = .ok fs) (hcheck : fs.check names true = .ok ())
    (hentries : ∀ entry ∈ fs.entries, ∃ v, entry.2.toJson = .ok v) :
    ∃ j, r.toJson = .ok j ∧ j.IsRecord names ∧ ∀ name, j.field? names name = fs.held name := by
  obtain ⟨hleft, hending, hkeys, hnames⟩ := check_eq_ok_iff.mp hcheck
  cases r with
  | object members ending =>
    obtain rfl := Except.ok.inj hfs
    obtain ⟨values, hvalues⟩ := Reading.exists_toMembers hentries
    have hpaired := Reading.toMembers_eq_ok_iff.mp hvalues
    have hsame : Members.keys values = Members.keys members :=
      (Members.keys_eq_of_forall₂ (p := fun r v => Reading.toJson r = .ok v) hpaired).symm
    have hnodup : (Members.keys values).Nodup := hsame ▸ hkeys
    refine ⟨.object (Members.sorted values), ?_, ?_, ?_⟩
    · rw [Reading.toJson, hvalues]
      exact congrArg (Reading.endingWith _) hending
    · intro entry hentry
      have hmem := (Members.sorted_perm hnodup).mem_iff.mp hentry
      exact hnames _ (hsame ▸ List.mem_map_of_mem hmem)
    · intro name
      rw [held_of_forall₂ hpaired]
      exact Members.get?_sorted_of_nodup hnodup name
  | array items ending =>
    obtain rfl := Except.ok.inj hfs
    have hlength : items.length ≤ names.length := Nat.sub_eq_zero_iff_le.mp hleft
    have hitems : ∀ item ∈ items, ∃ v, item.toJson = .ok v := by
      intro item hmem
      rw [← List.map_snd_zip hlength] at hmem
      obtain ⟨entry, hentry, rfl⟩ := List.mem_map.mp hmem
      exact hentries entry hentry
    obtain ⟨values, hvalues⟩ := Reading.exists_toItems hitems
    have hpaired := Reading.toItems_eq_ok_iff.mp hvalues
    refine ⟨.array values, ?_, ?_, ?_⟩
    · rw [Reading.toJson, hvalues]
      exact congrArg (Reading.endingWith _) hending
    · rw [IsRecord, ← hpaired.length_eq]
      exact hlength
    · intro name
      exact (held_of_forall₂ (Members.forall₂_zip hpaired names) name).symm
  | scalar | marked | list | mapping => cases hr
  | _ => cases hfs

/-- The entries of a record among values hold the readings of its fields. -/
theorem exists_entries {names : List String} (hunique : names.Nodup) {j : Json} (hj : j.Normal)
    (hrecord : j.IsRecord names) :
    ∃ fs, ofReading names j.toReading = .ok fs ∧ fs.check names true = .ok () ∧
      ∀ name, Members.get? fs.entries name = (j.field? names name).map toReading := by
  cases j with
  | object members =>
    have hkeys : Members.keys (toMemberReadings members) = Members.keys members := by
      simp [toMemberReadings_eq_map, Members.keys]
    refine ⟨_, rfl, check_eq_ok_iff.mpr ⟨rfl, rfl, ?_, ?_⟩, ?_⟩
    · exact hkeys ▸ hj.1.nodup
    · intro key hkey
      rw [hkeys] at hkey
      obtain ⟨entry, hentry, rfl⟩ := List.mem_map.mp hkey
      exact hrecord entry hentry
    · intro name
      rw [toMemberReadings_eq_map]
      exact Members.get?_map toReading members name
  | array items =>
    have hlength : (toReadings items).length = items.length := by simp [toReadings_eq_map]
    refine ⟨_, rfl, check_eq_ok_iff.mpr ⟨?_, rfl, ?_, ?_⟩, ?_⟩
    · exact hlength ▸ Nat.sub_eq_zero_of_le hrecord
    · exact (Members.keys_zip_sublist names _).nodup hunique
    · intro key hkey
      exact (Members.keys_zip_sublist names _).subset hkey
    · intro name
      rw [toReadings_eq_map, List.zip_map_right]
      exact Members.get?_map toReading (names.zip items) name
  | _ => cases hrecord

/-- Up to a size of entries and fields, a part of a record is built as its shape
says: when it is built, the covered fields that are written hold values and the
part has the shape in them; and it is built out of whatever has the shape. -/
structure Reads (size : Nat) (covered : List String) (build : Fields → Placed α)
    (shape : (String → Option Json) → α → Prop) : Prop where
  sound : ∀ {fs : Fields} {a : α},
    (∀ entry ∈ fs.entries, entry.2.IsJson ∧ sizeOf entry.2 < size) → build fs = .ok a →
      (∀ name ∈ covered, ∀ r, Members.get? fs.entries name = some r → ∃ v, r.toJson = .ok v) ∧
        shape fs.held a
  complete : ∀ {fs : Fields} {field? : String → Option Json} {a : α},
    (∀ name, Members.get? fs.entries name = (field? name).map toReading) →
    (∀ name v, field? name = some v → v.Normal ∧ sizeOf v < size) → shape field? a →
      build fs = .ok a

/-- A field that has to be there. -/
def Required (name : String) (shape : Json → α → Prop) (field? : String → Option Json) (a : α) :
    Prop :=
  ∃ v, field? name = some v ∧ shape v a

/-- A field that may be left out or null. -/
def Optional (name : String) (shape : Json → α → Prop) (field? : String → Option Json)
    (o : Option α) : Prop :=
  field? name = none ∧ o = none ∨ ∃ v, field? name = some v ∧ Decoder.OrNull shape v o

theorem held_eq_some {name : String} {r : Reading} {v : Json}
    (hr : Members.get? fs.entries name = some r) (hv : r.toJson = .ok v) :
    fs.held name = some v := by
  simp [held, hr, hv, Except.toOption]

theorem held_eq_none {name : String} (h : Members.get? fs.entries name = none) :
    fs.held name = none := by
  simp [held, h]

theorem reads_required (name : String) (h : decode.Reads size shape) :
    Reads size [name] (fun fs => fs.required name decode) (Required name shape) where
  sound {fs a} hsmall ha := by
    obtain ⟨r, hr, hra⟩ := required_eq_ok_iff.mp ha
    obtain ⟨hjson, hlt⟩ := hsmall _ (Members.mem_of_get? hr)
    obtain ⟨v, hv, hva⟩ := h.sound hjson hlt hra
    refine ⟨?_, v, held_eq_some hr hv, hva⟩
    rintro other hother r' hr'
    obtain rfl := List.mem_singleton.mp hother
    cases hr.symm.trans hr'
    exact ⟨v, hv⟩
  complete {fs field? a} hentries hsmall ha := by
    obtain ⟨v, hv, hva⟩ := ha
    obtain ⟨hnormal, hlt⟩ := hsmall name v hv
    exact required_eq_ok_iff.mpr
      ⟨v.toReading, by rw [hentries, hv]; rfl, h.complete hnormal hlt hva⟩

theorem reads_optional (name : String) (h : decode.Reads size shape) :
    Reads size [name] (fun fs => fs.optional name decode) (Optional name shape) where
  sound {fs o} hsmall ho := by
    rcases optional_eq_ok_iff.mp ho with ⟨hnone, rfl⟩ | ⟨r, hr, hro⟩
    · refine ⟨?_, .inl ⟨held_eq_none hnone, rfl⟩⟩
      rintro other hother r' hr'
      obtain rfl := List.mem_singleton.mp hother
      cases hnone.symm.trans hr'
    · obtain ⟨hjson, hlt⟩ := hsmall _ (Members.mem_of_get? hr)
      obtain ⟨v, hv, hvo⟩ := h.optional.sound hjson hlt hro
      refine ⟨?_, .inr ⟨v, held_eq_some hr hv, hvo⟩⟩
      rintro other hother r' hr'
      obtain rfl := List.mem_singleton.mp hother
      cases hr.symm.trans hr'
      exact ⟨v, hv⟩
  complete {fs field? o} hentries hsmall ho := by
    rcases ho with ⟨hnone, rfl⟩ | ⟨v, hv, hvo⟩
    · exact optional_eq_ok_iff.mpr (.inl ⟨by rw [hentries, hnone]; rfl, rfl⟩)
    · obtain ⟨hnormal, hlt⟩ := hsmall name v hv
      exact optional_eq_ok_iff.mpr
        (.inr ⟨v.toReading, by rw [hentries, hv]; rfl, h.optional.complete hnormal hlt hvo⟩)

section Parts

variable {names more : List String} {part : Fields → Placed α}
  {held : (String → Option Json) → α → Prop}

theorem Reads.map (h : Reads size names part held) (f : α → β) :
    Reads size names (fun fs => f <$> part fs) fun field? b => ∃ a, held field? a ∧ b = f a where
  sound {fs b} hsmall hb := by
    obtain ⟨g, a, hg, ha, rfl⟩ := Placed.seq_eq_ok (f := .ok f) hb
    obtain rfl := Placed.ok.inj hg
    obtain ⟨hcovered, hheld⟩ := h.sound hsmall ha
    exact ⟨hcovered, a, hheld, rfl⟩
  complete {fs field? b} hentries hsmall hb := by
    obtain ⟨a, ha, rfl⟩ := hb
    rw [h.complete hentries hsmall ha]
    rfl

theorem Reads.seq {first : Fields → Placed (α → β)}
    {heldFirst : (String → Option Json) → (α → β) → Prop}
    (hfirst : Reads size names first heldFirst) (hpart : Reads size more part held) :
    Reads size (names ++ more) (fun fs => first fs <*> part fs)
      fun field? b => ∃ f a, heldFirst field? f ∧ held field? a ∧ b = f a where
  sound {fs b} hsmall hb := by
    obtain ⟨f, a, hf, ha, rfl⟩ := Placed.seq_eq_ok hb
    obtain ⟨hnames, hheldFirst⟩ := hfirst.sound hsmall hf
    obtain ⟨hmore, hheld⟩ := hpart.sound hsmall ha
    refine ⟨?_, f, a, hheldFirst, hheld, rfl⟩
    intro name hname
    rcases List.mem_append.mp hname with hname | hname
    · exact hnames name hname
    · exact hmore name hname
  complete {fs field? b} hentries hsmall hb := by
    obtain ⟨f, a, hf, ha, rfl⟩ := hb
    rw [hfirst.complete hentries hsmall hf, hpart.complete hentries hsmall ha]
    rfl

end Parts

end Fields

/-! ### Whole records -/

namespace Decoder

theorem record_eq_ok_iff {names : List String} {closed : Bool} {build : Fields → Placed α}
    {r : Reading} {a : α} :
    record names closed build r = .ok a ↔
      ∃ fs, Fields.ofReading names r = .ok fs ∧ fs.check names closed = .ok () ∧
        build fs = .ok a := by
  constructor
  · intro h
    obtain ⟨fs, hfs, hparts⟩ := bind_eq_ok h
    cases hplaced : ((fun _ a => a) <$> fs.check names closed <*> build fs : Placed α) with
    | failed place why => simp [hplaced, Placed.toExcept] at hparts
    | ok b =>
      have hba : b = a := by simpa [hplaced, Placed.toExcept] using hparts
      obtain ⟨g, c, hg, hc, rfl⟩ := Placed.seq_eq_ok hplaced
      obtain ⟨g', u, hg', hu, rfl⟩ := Placed.seq_eq_ok (f := .ok fun _ a => a) hg
      cases hg'
      exact ⟨fs, hfs, hu, hba ▸ hc⟩
  · rintro ⟨fs, hfs, hcheck, hbuild⟩
    rw [record, hfs]
    change ((fun _ a => a) <$> fs.check names closed <*> build fs : Placed α).toExcept = .ok a
    rw [hcheck, hbuild]
    rfl

theorem field?_small {names : List String} {j v : Json} (hj : j.Normal) {name : String}
    (h : j.field? names name = some v) : v.Normal ∧ sizeOf v < sizeOf j := by
  cases j with
  | object members =>
    have hmem : (name, v) ∈ members := Members.mem_of_get? h
    have hsize := List.sizeOf_lt_of_mem hmem
    rw [Prod.mk.sizeOf_spec] at hsize
    rw [Json.object.sizeOf_spec]
    exact ⟨normalMembers_iff.mp hj.2 _ hmem, by omega⟩
  | array items =>
    have hmem : v ∈ items := (List.of_mem_zip (Members.mem_of_get? h)).2
    have hsize := List.sizeOf_lt_of_mem hmem
    rw [Json.array.sizeOf_spec]
    exact ⟨normalItems_iff.mp hj v hmem, by omega⟩
  | _ => cases h

/-- A record closed to other fields is read as its parts are. -/
theorem reads_record {size : Nat} {names covered : List String} {build : Fields → Placed α}
    {shape : (String → Option Json) → α → Prop} (hunique : names.Nodup)
    (hcovered : names ⊆ covered) (h : Fields.Reads size covered build shape) :
    Reads (size + 1) (record names true build) fun j a =>
      j.IsRecord names ∧ shape (j.field? names) a where
  sound {r a} hr hlt ha := by
    obtain ⟨fs, hfs, hcheck, hbuild⟩ := record_eq_ok_iff.mp ha
    obtain ⟨_, _, hkeys, hnames⟩ := Fields.check_eq_ok_iff.mp hcheck
    have hsmall : ∀ entry ∈ fs.entries, entry.2.IsJson ∧ sizeOf entry.2 < size := by
      intro entry hentry
      obtain ⟨hjson, hentrylt⟩ := Fields.entries_small hr hfs entry hentry
      exact ⟨hjson, by omega⟩
    obtain ⟨hvalues, hshape⟩ := h.sound hsmall hbuild
    have hentries : ∀ entry ∈ fs.entries, ∃ v, entry.2.toJson = .ok v := by
      intro entry hentry
      have hkey := hnames _ (List.mem_map_of_mem hentry)
      exact hvalues _ (hcovered hkey) _ (Members.get?_of_mem hkeys hentry)
    obtain ⟨j, hj, hrecord, hfields⟩ := Fields.exists_record hr hfs hcheck hentries
    exact ⟨j, hj, hrecord, funext hfields ▸ hshape⟩
  complete {j a} hj hlt ha := by
    obtain ⟨hrecord, hshape⟩ := ha
    obtain ⟨fs, hfs, hcheck, hentries⟩ := Fields.exists_entries hunique hj hrecord
    refine record_eq_ok_iff.mpr ⟨fs, hfs, hcheck, h.complete hentries ?_ hshape⟩
    intro name v hv
    obtain ⟨hnormal, hvlt⟩ := field?_small hj hv
    exact ⟨hnormal, by omega⟩

end Decoder

/-! ### Values and texts -/

section Sources

variable {decode : Decoder α} {shape : Json → α → Prop}

/-- What is taken out of a value is taken out of its reading. -/
theorem decodeValue_eq_ok {j : Json} {a : α} :
    decodeValue decode j = .ok a ↔ decode j.toReading = .ok a := by
  rw [decodeValue]
  cases decode j.toReading <;> simp [Except.mapError]

/-- What is taken out of a value has the shape in it, and is taken if it has. -/
theorem decodeValue_eq_ok_iff (h : ∀ size, decode.Reads size shape) {j : Json} (hj : j.Normal)
    {a : α} : decodeValue decode j = .ok a ↔ shape j a := by
  rw [decodeValue_eq_ok]
  constructor
  · intro ha
    obtain ⟨read, hread, hshape⟩ :=
      (h (sizeOf j.toReading + 1)).sound (isJson_toReading j) (Nat.lt_succ_self _) ha
    obtain rfl := Except.ok.inj ((toJson_toReading hj).symm.trans hread)
    exact hshape
  · exact (h (sizeOf j + 1)).complete hj (Nat.lt_succ_self _)

/-- What is taken out of a text has the shape in the value of the text. -/
theorem exists_parse_of_decodeText (h : ∀ size, decode.Reads size shape) {text : String} {a : α}
    (ha : decodeText decode text = .ok a) :
    ∃ j, parse text = .ok j ∧ j.Normal ∧ shape j a := by
  rw [decodeText, Document.decode] at ha
  cases hroot : decode (Document.read text).root with
  | error why => simp [hroot] at ha
  | ok b =>
    rw [hroot] at ha
    cases htrailing : (Document.read text).trailing with
    | true => simp [htrailing] at ha
    | false =>
      obtain rfl : b = a := by simpa [htrailing] using ha
      obtain ⟨j, hj, hshape⟩ := (h _).sound (isJson_read text) (Nat.lt_succ_self _) hroot
      refine ⟨j, ?_, normal_toJson hj, hshape⟩
      simp [parse, hj, htrailing, Except.bind]

end Sources

end DossierCompliance.Json
