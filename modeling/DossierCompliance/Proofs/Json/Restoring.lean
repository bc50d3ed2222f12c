import DossierCompliance.Proofs.Json.Decoding
import DossierCompliance.Proofs.Named

/-!
Values that are written, and read again out of what was written. A decoder restores
a value when it takes just that value out of what a writer makes of it. Of a record
it is enough that each field is restored, whether unknown fields are read over or
not. What is read out of a JSON value, all of whose numbers are finite, has the
properties that make it one that is restored.
-/

namespace DossierCompliance.Json

variable {α β : Type}

/-! ### Values of finite numbers -/

mutual

/-- Every number in the value is within the range of binary64 numbers. -/
def AllFinite : Json → Prop
  | .null | .bool _ | .string _ => True
  | .number n => n.toFloat.isFinite = true
  | .array items => AllFiniteItems items
  | .object members => AllFiniteMembers members

def AllFiniteItems : List Json → Prop
  | [] => True
  | item :: rest => item.AllFinite ∧ AllFiniteItems rest

def AllFiniteMembers : List (String × Json) → Prop
  | [] => True
  | (_, value) :: rest => value.AllFinite ∧ AllFiniteMembers rest

end

theorem allFiniteItems_iff {items : List Json} :
    AllFiniteItems items ↔ ∀ item ∈ items, item.AllFinite := by
  induction items with
  | nil => simp [AllFiniteItems]
  | cons item items ih => simp [AllFiniteItems, ih]

theorem allFiniteMembers_iff {members : List (String × Json)} :
    AllFiniteMembers members ↔ ∀ entry ∈ members, entry.2.AllFinite := by
  induction members with
  | nil => simp [AllFiniteMembers]
  | cons entry members ih =>
    obtain ⟨key, value⟩ := entry
    simp [AllFiniteMembers, ih]

/-! ### What is read -/

/-- What is taken out of a value of finite numbers has a property. -/
def Decoder.Yields (decode : Decoder α) (p : α → Prop) : Prop :=
  ∀ (j : Json) (a : α), j.AllFinite → decode j.toReading = .ok a → p a

/-- The entries are those of a value of finite numbers. -/
def Fields.AllFinite (fs : Fields) : Prop :=
  ∀ entry ∈ fs.entries, ∃ v : Json, v.AllFinite ∧ entry.2 = v.toReading

/-- The whole numbers that fit 64 bits with a sign. -/
def FitsInt64 (n : Int) : Prop :=
  -(Nat.pow 2 63 : Int) ≤ n ∧ n < (Nat.pow 2 63 : Int)

theorem fitsInt64_zero : FitsInt64 0 :=
  ⟨by decide, by decide⟩

namespace Decoder

variable {decode : Decoder α} {p : α → Prop}

theorem number_toReading {j : Json} {n : Number} (h : number j.toReading = .ok n) :
    j = .number n := by
  cases j <;> cases h
  rfl

theorem yields_real : real.Yields fun x => x.isFinite = true := by
  intro j x hj hx
  obtain ⟨n, hn, hfloat⟩ := bind_eq_ok hx
  obtain rfl := number_toReading hn
  cases hfloat
  exact hj

theorem yields_int64 : int64.Yields FitsInt64 := by
  intro j n _ hn
  obtain ⟨number, -, hwhole⟩ := bind_eq_ok hn
  cases number with
  | whole m =>
    dsimp only at hwhole
    split at hwhole
    · next hin =>
      cases hwhole
      simpa [FitsInt64] using hin
    · cases hwhole
  | real x => cases hwhole

theorem Yields.optional (h : decode.Yields p) :
    (optional decode).Yields fun o => ∀ a ∈ o, p a := by
  intro j o hj ho
  by_cases hnull : j = .null
  · subst hnull
    cases ho
    exact fun a ha => absurd ha (Option.not_mem_none a)
  · rw [optional_of_ne_null (isJson_toReading j) (toReading_ne_null hnull)] at ho
    cases ha : decode j.toReading with
    | error why => simp [ha, Except.map] at ho
    | ok a =>
      obtain rfl : some a = o := by simpa [ha, Except.map] using ho
      exact fun b hb => Option.mem_some_iff.mp hb ▸ h j a hj ha

theorem Yields.list (h : decode.Yields p) : (list decode).Yields fun as => ∀ a ∈ as, p a := by
  intro j as hj has
  cases j with
  | array items =>
    rw [toReading, toReadings_eq_map] at has
    obtain ⟨-, hpaired⟩ := each_eq_ok_iff.mp has
    rw [List.forall₂_map_left_iff] at hpaired
    have hread := (List.forall₂_and_left _ _).mpr ⟨allFiniteItems_iff.mp hj, hpaired⟩
    intro a ha
    obtain ⟨item, hitem, hitemRead⟩ := exists_of_forall₂ hread a ha
    exact h item a hitem hitemRead
  | _ => cases has

end Decoder

namespace Fields

variable {fs : Fields} {decode : Decoder α} {p : α → Prop}

theorem defaulted_eq_ok_iff {name : String} {absent a : α} :
    fs.defaulted name absent decode = .ok a ↔
      Members.get? fs.entries name = none ∧ a = absent ∨
        ∃ r, Members.get? fs.entries name = some r ∧ decode r = .ok a := by
  rw [defaulted, ← map_find?]
  cases fs.find? name with
  | none => simp [eq_comm]
  | some found => simp [ofExcept_eq_ok_iff]

theorem allFinite_of_ofReading {names : List String} {j : Json} (hj : j.AllFinite)
    (h : ofReading names j.toReading = .ok fs) : fs.AllFinite := by
  rintro ⟨key, r⟩ hentry
  cases j with
  | object members =>
    obtain rfl := Except.ok.inj h
    rw [toMemberReadings_eq_map] at hentry
    obtain ⟨⟨name, v⟩, hmember, hsame⟩ := List.mem_map.mp hentry
    cases hsame
    exact ⟨v, allFiniteMembers_iff.mp hj _ hmember, rfl⟩
  | array items =>
    obtain rfl := Except.ok.inj h
    have hitem := (List.of_mem_zip hentry).2
    rw [toReadings_eq_map] at hitem
    obtain ⟨v, hv, rfl⟩ := List.mem_map.mp hitem
    exact ⟨v, allFiniteItems_iff.mp hj v hv, rfl⟩
  | _ => cases h

theorem AllFinite.required (hfs : fs.AllFinite) (h : decode.Yields p) (name : String) :
    (fs.required name decode).Gives p := by
  intro a ha
  obtain ⟨r, hr, hra⟩ := required_eq_ok_iff.mp ha
  obtain ⟨v, hv, rfl⟩ := hfs _ (Members.mem_of_get? hr)
  exact h v a hv hra

theorem AllFinite.defaulted (hfs : fs.AllFinite) (h : decode.Yields p) (name : String) (absent : α)
    (habsent : p absent) : (fs.defaulted name absent decode).Gives p := by
  intro a ha
  rcases defaulted_eq_ok_iff.mp ha with ⟨-, rfl⟩ | ⟨r, hr, hra⟩
  · exact habsent
  · obtain ⟨v, hv, rfl⟩ := hfs _ (Members.mem_of_get? hr)
    exact h v a hv hra

theorem AllFinite.optional (hfs : fs.AllFinite) (h : decode.Yields p) (name : String) :
    (fs.optional name decode).Gives fun o => ∀ a ∈ o, p a :=
  hfs.defaulted h.optional name none fun a ha => absurd ha (Option.not_mem_none a)

end Fields

theorem Decoder.yields_record {names : List String} {closed : Bool} {build : Fields → Placed α}
    {p : α → Prop} (h : ∀ fs : Fields, fs.AllFinite → (build fs).Gives p) :
    (record names closed build).Yields p := by
  intro j a hj ha
  obtain ⟨fs, hfs, -, hbuild⟩ := record_eq_ok_iff.mp ha
  exact h fs (Fields.allFinite_of_ofReading hj hfs) a hbuild

/-! ### What is written -/

/-- What is written of a value is read as that value. -/
def Decoder.Restores (decode : Decoder α) (write : α → Json) (a : α) : Prop :=
  decode (write a).toReading = .ok a

/-- The entries are the readings of the given members, whose keys differ. -/
def Fields.Hold (fs : Fields) (written : Members Json) : Prop :=
  ∀ name, Members.get? fs.entries name = (Members.get? written name).map toReading

/-- The outcome of a part of a record that is read. -/
def Placed.Is (x : Placed α) (a : α) : Prop :=
  x = .ok a

theorem Placed.Is.map {x : Placed α} {a : α} (h : x.Is a) (f : α → β) : (f <$> x).Is (f a) := by
  cases h
  rfl

theorem Placed.Is.seq {f : Placed (α → β)} {g : α → β} {x : Placed α} {a : α} (hf : f.Is g)
    (hx : x.Is a) : (f <*> x).Is (g a) := by
  cases hf
  cases hx
  rfl

namespace Decoder

variable {decode : Decoder α} {write : α → Json}

theorem restores_text (s : String) : Restores text .string s := rfl

theorem restores_text? (o : Option String) : Restores (optional text) .ofText? o := by
  cases o <;> rfl

theorem restores_boolean (b : Bool) : Restores boolean .bool b := rfl

theorem restores_int64 {n : Int} (h : FitsInt64 n) : Restores int64 .ofInt n := by
  have hin : (-(Nat.pow 2 63 : Int) ≤ n && n < (Nat.pow 2 63 : Int)) = true := by
    simpa [FitsInt64] using h
  rw [Restores, ofInt, toReading, int64, wholeIn]
  exact if_pos hin

theorem restores_real {x : Float} (h : x.isFinite = true) : Restores real .ofReal x := by
  rw [Restores, ofReal, if_pos h]
  rfl

theorem restores_value {j : Json} (h : j.Normal) : Restores value id j := by
  rw [Restores, value, id, toJson_toReading h]
  rfl

theorem restores_parsed {parse : String → Option α} {spell : α → String} {a : α}
    (h : parse (spell a) = some a) : Restores (parsed parse) (fun a => .string (spell a)) a := by
  have htext : text (.string (spell a)) = .ok (spell a) := rfl
  simp only [Restores, toReading, parsed, htext, bind, Except.bind, h]
  rfl

theorem restores_option {o : Option α} (h : ∀ a ∈ o, Restores decode write a)
    (hnull : ∀ a, write a ≠ .null) : Restores (optional decode) (.ofOption write) o := by
  cases o with
  | none => rfl
  | some a =>
    have hread : decode (write a).toReading = .ok a := h a rfl
    rw [Restores, ofOption,
      optional_of_ne_null (isJson_toReading _) (toReading_ne_null (hnull a)), hread]
    rfl

/-- Null, or the text of a value that is read from its text. -/
theorem restores_parsed? {parse : String → Option α} {spell : α → String}
    (h : ∀ a, parse (spell a) = some a) (o : Option α) :
    Restores (optional (parsed parse)) (.ofOption fun a => .string (spell a)) o :=
  restores_option (fun a _ => restores_parsed (h a)) nofun

/-- Null, or a record. -/
theorem restores_record? {written : α → Members Json} {o : Option α}
    (h : ∀ a ∈ o, Restores decode (fun a => ofMembers (written a)) a) :
    Restores (optional decode) (.ofOption fun a => ofMembers (written a)) o :=
  restores_option h nofun

theorem restores_list {as : List α} (h : ∀ a ∈ as, Restores decode write a) :
    Restores (list decode) (.ofList write) as := by
  have hitems : List.Forall₂ (fun r a => decode r = .ok a)
      ((as.map write).map toReading) as := by
    rw [List.map_map, List.forall₂_map_left_iff, List.forall₂_same]
    exact h
  rw [Restores, ofList, toReading, toReadings_eq_map]
  exact each_eq_ok_iff.mpr ⟨rfl, hitems⟩

theorem restores_named [Named α] [LawfulNamed α] (a : α) :
    Restores Named.decode Named.toJson a := by
  rw [Restores, Named.toJson_eq]
  exact Named.variantNamed_eq_ok_iff.mpr rfl

end Decoder

namespace Fields

variable {fs : Fields} {written : Members Json} {decode : Decoder α} {write : α → Json} {a : α}

theorem Hold.get? (hfs : fs.Hold written) {name : String} {v : Json}
    (hname : Members.get? written name = some v) :
    Members.get? fs.entries name = some v.toReading := by
  rw [hfs, hname]
  rfl

theorem Hold.required (hfs : fs.Hold written) (name : String) (h : decode.Restores write a)
    (hname : Members.get? written name = some (write a)) : (fs.required name decode).Is a :=
  required_eq_ok_iff.mpr ⟨_, hfs.get? hname, h⟩

theorem Hold.defaulted (hfs : fs.Hold written) (name : String) (absent : α)
    (h : decode.Restores write a) (hname : Members.get? written name = some (write a)) :
    (fs.defaulted name absent decode).Is a :=
  defaulted_eq_ok_iff.mpr (.inr ⟨_, hfs.get? hname, h⟩)

theorem Hold.optional {o : Option α} {write : Option α → Json} (hfs : fs.Hold written)
    (name : String) (h : (Decoder.optional decode).Restores write o)
    (hname : Members.get? written name = some (write o)) : (fs.optional name decode).Is o :=
  hfs.defaulted name none h hname

theorem Hold.nullable {o : Option α} {write : Option α → Json} (hfs : fs.Hold written)
    (name : String) (h : (Decoder.optional decode).Restores write o)
    (hname : Members.get? written name = some (write o)) : (fs.nullable name decode).Is o := by
  rw [Fields.nullable]
  split
  · exact hfs.required name h hname
  · exact hfs.optional name h hname

/-- Names that are known are checked alike whether the record is closed or not. -/
theorem checkFrom_of_known {names : List String} (closed : Bool) {ending : Option Fault}
    {entries : List (String × Reading)} (h : ∀ key ∈ Members.keys entries, key ∈ names)
    (place : Nat) (seen : List String) :
    checkFrom names closed ending place seen entries =
      checkFrom names true ending place seen entries := by
  induction entries generalizing place seen with
  | nil => rfl
  | cons entry entries ih =>
    obtain ⟨key, r⟩ := entry
    obtain ⟨hkey, hkeys⟩ := List.forall_mem_cons.mp h
    have hknown : names.contains key = true := List.contains_iff_mem.mpr hkey
    rw [checkFrom, checkFrom, if_pos hknown, if_pos hknown, ih hkeys]

theorem check_of_known {names : List String} (closed : Bool)
    (h : ∀ key ∈ Members.keys fs.entries, key ∈ names) :
    fs.check names closed = fs.check names true := by
  rw [check, check, checkFrom_of_known closed h]

end Fields

/-- A record of all its fields is restored when every field is. -/
theorem Decoder.restores_record {names : List String} {closed : Bool} {build : Fields → Placed α}
    {written : Members Json} {a : α} (hkeys : Members.keys written = names) (hunique : names.Nodup)
    (h : ∀ fs : Fields, fs.Hold written → (build fs).Is a) :
    record names closed build (ofMembers written).toReading = .ok a := by
  have hread : Members.keys (toMemberReadings (Members.sorted written)) =
      Members.keys (Members.sorted written) := by
    simp [toMemberReadings_eq_map, Members.keys]
  have hknown : ∀ key ∈ Members.keys (Members.sorted written), key ∈ names := by
    intro key hkey
    obtain ⟨entry, hentry, rfl⟩ := List.mem_map.mp hkey
    exact hkeys ▸ List.mem_map_of_mem (Members.mem_of_mem_sorted hentry)
  refine record_eq_ok_iff.mpr ⟨_, rfl, ?_, h _ fun name => ?_⟩
  · rw [Fields.check_of_known closed (hread ▸ hknown)]
    exact Fields.check_eq_ok_iff.mpr
      ⟨rfl, rfl, hread ▸ (Members.ascending_sorted written).nodup, hread ▸ hknown⟩
  · have hnodup : (Members.keys written).Nodup := hkeys ▸ hunique
    rw [← Members.get?_sorted_of_nodup hnodup name, toMemberReadings_eq_map]
    exact Members.get?_map toReading (Members.sorted written) name

end DossierCompliance.Json
