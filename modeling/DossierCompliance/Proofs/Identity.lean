import DossierCompliance.Identity
import DossierCompliance.Proofs.Json.Decoding
import DossierCompliance.Proofs.Text.Blank

/-!
The form of identifiers. A constructor gives an identifier of its form, whatever
the text. A stored identifier is the stored text: it has the form only if the
text has, and the first nine bytes of a stored establishment number may end
inside a character or not be there at all.
-/

namespace DossierCompliance

open Json (Decoder)

/-! ### Forms -/

/-- A text of so many ASCII digits. -/
def IsNumber (count : Nat) (text : String) : Prop :=
  text.toList.length = count ∧ ∀ c ∈ text.toList, c.isDigit = true

/-- A text of so many ASCII digits, in any spacing. -/
def IsSpacedNumber (count : Nat) (text : String) : Prop :=
  let digits := text.toList.filter fun c => !Text.blankChar c
  digits.length = count ∧ ∀ c ∈ digits, c.isDigit = true

/-- A text of seven ASCII digits and an ASCII capital. -/
def IsSite (text : String) : Prop :=
  ∃ digits capital, text.toList = digits ++ [capital] ∧ digits.length = 7 ∧
    (∀ c ∈ digits, c.isDigit = true) ∧ capital.isUpper = true

theorem utf8ByteSize_ofList (cs : List Char) :
    (String.ofList cs).utf8ByteSize = (cs.map Char.utf8Size).sum := by
  induction cs with
  | nil => rfl
  | cons c cs ih =>
    rw [String.ofList_cons, String.utf8ByteSize_append, String.utf8ByteSize_singleton, ih,
      List.map_cons, List.sum_cons]

theorem utf8Size_of_isDigit {c : Char} (h : c.isDigit = true) : c.utf8Size = 1 := by
  simp only [Char.isDigit, Bool.and_eq_true, decide_eq_true_eq] at h
  exact Char.utf8Size_eq_one_iff.mpr (UInt32.le_trans h.2 (by decide))

/-- Digits take one byte each. -/
theorem utf8ByteSize_digits {cs : List Char} (h : ∀ c ∈ cs, c.isDigit = true) :
    (String.ofList cs).utf8ByteSize = cs.length := by
  have hones : ∀ size ∈ cs.map Char.utf8Size, size = 1 := by
    rintro size hsize
    obtain ⟨c, hc, rfl⟩ := List.mem_map.mp hsize
    exact utf8Size_of_isDigit (h c hc)
  rw [utf8ByteSize_ofList, List.sum_eq_card_nsmul _ 1 hones]
  simp

theorem isDigits_iff {count : Nat} {text : String} :
    isDigits count text = true ↔ IsNumber count text := by
  simp only [isDigits, IsNumber, Bool.and_eq_true, beq_iff_eq, List.all_eq_true]
  refine and_congr_left fun hdigits => ?_
  rw [← utf8ByteSize_digits hdigits, String.ofList_toList]

theorem isNumber_compact_iff {count : Nat} {text : String} :
    IsNumber count (Text.compact text) ↔ IsSpacedNumber count text := by
  rw [IsNumber, Text.compact, String.toList_ofList]
  rfl

theorem isSiteCode_iff {text : String} : isSiteCode text = true ↔ IsSite text := by
  simp only [isSiteCode, Bool.and_eq_true, beq_iff_eq, List.all_eq_true, IsSite]
  constructor
  · rintro ⟨⟨hlength, hdigits⟩, hcapital⟩
    have hdrop : (text.toList.drop 7).length = 1 := by simp [hlength]
    obtain ⟨capital, hlast⟩ := List.length_eq_one_iff.mp hdrop
    refine ⟨text.toList.take 7, capital, ?_, by simp [hlength], hdigits, ?_⟩
    · rw [← hlast, List.take_append_drop]
    · exact hcapital capital (by simp [hlast])
  · rintro ⟨digits, capital, htext, hlength, hdigits, hcapital⟩
    rw [htext, ← hlength, List.take_left, List.drop_left]
    exact ⟨⟨by simp [hlength], hdigits⟩, by simpa using hcapital⟩

theorem compact_of_isNumber {count : Nat} {text : String} (h : IsNumber count text) :
    Text.compact text = text :=
  Text.compact_eq_self fun c hc => Text.blankChar_of_isDigit (h.2 c hc)

/-! ### Constructors -/

/-- A text that passes a check is what the identifier made of it holds. -/
theorem ofChecked_eq_ok_iff {ε α : Type} {make : String → α} {text : α → String}
    (hmake : ∀ s a, make s = a ↔ s = text a) {check : Bool} {form : String → Prop} {s : String}
    (hcheck : check = true ↔ form s) {why : ε} {a : α} :
    (if check then Except.ok (make s) else .error why) = .ok a ↔ form (text a) ∧ s = text a := by
  split
  · next hpassed =>
    rw [Except.ok.injEq, hmake]
    exact ⟨fun h => ⟨h ▸ hcheck.mp hpassed, h⟩, fun h => h.2⟩
  · next hfailed =>
    simp only [reduceCtorEq, false_iff]
    rintro ⟨hform, rfl⟩
    exact hfailed (hcheck.mpr hform)

theorem Nda.mk_eq_iff (s : String) (n : Nda) : ⟨s⟩ = n ↔ s = n.text :=
  ⟨fun h => h ▸ rfl, fun h => h ▸ rfl⟩

theorem Uai.mk_eq_iff (s : String) (u : Uai) : ⟨s⟩ = u ↔ s = u.text :=
  ⟨fun h => h ▸ rfl, fun h => h ▸ rfl⟩

theorem Siret.mk_eq_iff (s : String) (n : Siret) : ⟨s⟩ = n ↔ s = n.text :=
  ⟨fun h => h ▸ rfl, fun h => h ▸ rfl⟩

theorem Nda.ofText_eq_ok_iff {raw : String} {n : Nda} :
    ofText raw = .ok n ↔ IsNumber 11 n.text ∧ Text.compact raw = n.text :=
  ofChecked_eq_ok_iff mk_eq_iff isDigits_iff

theorem Uai.ofText_eq_ok_iff {raw : String} {u : Uai} :
    ofText raw = .ok u ↔ IsSite u.text ∧ raw = u.text :=
  ofChecked_eq_ok_iff mk_eq_iff isSiteCode_iff

theorem Siret.ofText_eq_ok_iff {raw : String} {s : Siret} :
    ofText raw = .ok s ↔ IsNumber 14 s.text ∧ Text.compact raw = s.text :=
  ofChecked_eq_ok_iff mk_eq_iff isDigits_iff

/-! ### Constructed and stored identifiers -/

/-- How an identifier comes about that holds a text: the constructor gives it if
and only if the text has a form, and storage gives it where the text stands. -/
structure Admits {α : Type} (ofText : String → Except InvalidIdentifier α) (decode : Decoder α)
    (form : String → Prop) (a : α) (text : String) : Prop where
  constructed : (∃ raw, ofText raw = .ok a) ↔ form text
  stored : ∀ j : Json, j.Normal → (Json.decodeValue decode j = .ok a ↔ j = .string text)
  storedInText : ∀ s, Json.decodeText decode s = .ok a → Json.parse s = .ok (.string text)

section Stored

variable {α : Type} {make : String → α} {text : α → String}

theorem reads_stored (hmake : ∀ s a, make s = a ↔ s = text a) (size : Nat) :
    Decoder.Reads size (fun r => return make (← Decoder.text r)) fun j a =>
      j = .string (text a) := by
  refine (Decoder.reads_text size).bind.congr fun j a => ?_
  simp [pure, Except.pure, hmake]

theorem admits_of_constructed (hmake : ∀ s a, make s = a ↔ s = text a)
    {ofText : String → Except InvalidIdentifier α} {form : String → Prop} {a : α}
    (hconstructed : (∃ raw, ofText raw = .ok a) ↔ form (text a)) :
    Admits ofText (fun r => return make (← Decoder.text r)) form a (text a) where
  constructed := hconstructed
  stored _ hj := Json.decodeValue_eq_ok_iff (reads_stored hmake) hj
  storedInText s h := by
    obtain ⟨j, hj, -, rfl⟩ := Json.exists_parse_of_decodeText (reads_stored hmake) h
    exact hj

end Stored

/-- A number is the compact form of itself. -/
theorem exists_compact_iff {count : Nat} {text : String} :
    (∃ raw, IsNumber count text ∧ Text.compact raw = text) ↔ IsNumber count text :=
  ⟨fun ⟨_, h, _⟩ => h, fun h => ⟨text, h, compact_of_isNumber h⟩⟩

theorem Nda.admits (n : Nda) : Admits ofText decode (IsNumber 11) n n.text := by
  refine admits_of_constructed mk_eq_iff ?_
  simp only [ofText_eq_ok_iff, exists_compact_iff]

theorem Uai.admits (u : Uai) : Admits ofText decode IsSite u u.text := by
  refine admits_of_constructed mk_eq_iff ?_
  simp [ofText_eq_ok_iff]

theorem Siret.admits (s : Siret) : Admits ofText decode (IsNumber 14) s s.text := by
  refine admits_of_constructed mk_eq_iff ?_
  simp only [ofText_eq_ok_iff, exists_compact_iff]

/-! ### The legal unit -/

namespace Siret

theorem leading?_cons {bytes : Nat} (hbytes : bytes ≠ 0) (c : Char) (cs : List Char) :
    leading? bytes (c :: cs) =
      if c.utf8Size ≤ bytes then (leading? (bytes - c.utf8Size) cs).map (c :: ·) else none := by
  cases bytes with
  | zero => exact absurd rfl hbytes
  | succ bytes =>
    rw [leading?]
    exact hbytes

theorem leading?_append (front rest : List Char) :
    leading? (front.map Char.utf8Size).sum (front ++ rest) = some front := by
  induction front with
  | nil => cases rest <;> rfl
  | cons c front ih =>
    have hpos := c.utf8Size_pos
    rw [List.map_cons, List.sum_cons, List.cons_append, leading?_cons (by omega),
      if_pos (Nat.le_add_right _ _), Nat.add_sub_cancel_left, ih]
    rfl

theorem of_leading? {bytes : Nat} {cs front : List Char} (h : leading? bytes cs = some front) :
    (front.map Char.utf8Size).sum = bytes ∧ front <+: cs := by
  induction cs generalizing bytes front with
  | nil =>
    cases bytes with
    | zero =>
      cases h
      exact ⟨rfl, List.nil_prefix⟩
    | succ bytes => cases h
  | cons c cs ih =>
    by_cases hbytes : bytes = 0
    · subst hbytes
      cases h
      exact ⟨rfl, List.nil_prefix⟩
    · rw [leading?_cons hbytes] at h
      split at h
      · next hfits =>
        obtain ⟨rest, hrest, rfl⟩ := Option.map_eq_some_iff.mp h
        obtain ⟨hcount, hfront⟩ := ih hrest
        refine ⟨?_, List.cons_prefix_cons.mpr ⟨rfl, hfront⟩⟩
        rw [List.map_cons, List.sum_cons]
        omega
      · cases h

/-- A number has a legal unit if it has a front of nine bytes, which it then is. -/
theorem siren?_eq_some_iff {s : Siret} {front : String} :
    s.siren? = some front ↔ front.utf8ByteSize = 9 ∧ ∃ rest, s.text = front ++ rest := by
  rw [siren?, Option.map_eq_some_iff]
  constructor
  · rintro ⟨cs, hcs, rfl⟩
    obtain ⟨hcount, rest, hrest⟩ := of_leading? hcs
    refine ⟨(utf8ByteSize_ofList cs).trans hcount, String.ofList rest, ?_⟩
    rw [← String.ofList_append, hrest, String.ofList_toList]
  · rintro ⟨hcount, rest, hrest⟩
    refine ⟨front.toList, ?_, String.ofList_toList⟩
    rw [← hcount, hrest, String.toList_append, ← leading?_append front.toList rest.toList,
      ← utf8ByteSize_ofList, String.ofList_toList]

theorem siren?_of_isNumber {s : Siret} (h : IsNumber 14 s.text) :
    s.siren? = some (String.ofList (s.text.toList.take 9)) := by
  obtain ⟨hlength, hdigits⟩ := h
  rw [siren?_eq_some_iff]
  constructor
  · rw [utf8ByteSize_digits fun c hc => hdigits c (List.mem_of_mem_take hc)]
    simp [hlength]
  · refine ⟨String.ofList (s.text.toList.drop 9), ?_⟩
    rw [← String.ofList_append, List.take_append_drop, String.ofList_toList]

end Siret

/-! ### What can be relied on -/

/-- The constructors admit the identifiers of their forms and no others, and
storage admits any text. An establishment number has a legal unit exactly when a
front of its text takes nine bytes; of fourteen digits these are the first nine. -/
theorem identifiers_admitted (n : Nda) (u : Uai) (s : Siret) :
    Admits Nda.ofText Nda.decode (IsNumber 11) n n.text ∧
    Admits Uai.ofText Uai.decode IsSite u u.text ∧
    Admits Siret.ofText Siret.decode (IsNumber 14) s s.text ∧
    (∀ front, s.siren? = some front ↔
      front.utf8ByteSize = 9 ∧ ∃ rest, s.text = front ++ rest) ∧
    (IsNumber 14 s.text → s.siren? = some (String.ofList (s.text.toList.take 9))) :=
  ⟨n.admits, u.admits, s.admits, fun _ => Siret.siren?_eq_some_iff, Siret.siren?_of_isNumber⟩

/-- Three digits are stored as an establishment number, which has no legal unit. -/
theorem stored_three_digits :
    Json.decodeValue Siret.decode (.string "123") = .ok ⟨"123"⟩ ∧ ¬ IsNumber 14 "123" ∧
      Siret.siren? ⟨"123"⟩ = none := by
  refine ⟨rfl, ?_, by decide⟩
  rw [← isDigits_iff]
  decide

end DossierCompliance
