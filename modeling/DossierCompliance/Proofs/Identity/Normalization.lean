import DossierCompliance.Proofs.Identity

/-!
How a constructor brings identifiers into their form. A number is taken in any
spacing and held without it: which texts are accepted and what they become does
not depend on blanks, and what is held is accepted as it is. A site code is taken
as it is written. A text that is refused is named by the refusal.
-/

namespace DossierCompliance

/-- A constructor of identifiers that takes numbers of so many digits in any
spacing, and holds them without blanks. -/
structure Normalizes {α : Type} (ofText : String → Except InvalidIdentifier α)
    (text : α → String) (count : Nat) (refusal : String → InvalidIdentifier) : Prop where
  accepts : ∀ raw, (∃ a, ofText raw = .ok a) ↔ IsNumber count (Text.compact raw)
  holds : ∀ raw a, ofText raw = .ok a → text a = Text.compact raw
  refuses : ∀ raw why, ofText raw = .error why ↔
    ¬ IsNumber count (Text.compact raw) ∧ why = refusal raw
  respaced : ∀ raw other, Text.SameButBlanks raw other →
    (ofText raw).toOption = (ofText other).toOption
  again : ∀ raw a, ofText raw = .ok a → ofText (text a) = .ok a
  same : ∀ raw other a b, ofText raw = .ok a → ofText other = .ok b →
    (a = b ↔ Text.compact raw = Text.compact other)

section Checked

variable {α : Type} {make : String → α} {text : α → String}

/-- A text that fails a check is refused, and no other. -/
theorem ofChecked_eq_error_iff {ε : Type} {check : Bool} {form : Prop}
    (hcheck : check = true ↔ form) {a : α} {why refusal : ε} :
    (if check then Except.ok a else .error refusal) = .error why ↔ ¬ form ∧ why = refusal := by
  rw [← hcheck]
  cases check <;> simp [eq_comm]

/-- The constructor that makes the identifier of the compact form if that passes the
check. -/
abbrev ofCompact (make : String → α) (count : Nat) (refusal : String → InvalidIdentifier)
    (raw : String) : Except InvalidIdentifier α :=
  if isDigits count (Text.compact raw) then .ok (make (Text.compact raw)) else .error (refusal raw)

theorem ofCompact_eq_ok_iff (hmake : ∀ s a, make s = a ↔ s = text a) {count : Nat}
    {refusal : String → InvalidIdentifier} {raw : String} {a : α} :
    ofCompact make count refusal raw = .ok a ↔
      IsNumber count (text a) ∧ Text.compact raw = text a :=
  ofChecked_eq_ok_iff hmake isDigits_iff

theorem normalizes_ofCompact (hmake : ∀ s a, make s = a ↔ s = text a) (count : Nat)
    (refusal : String → InvalidIdentifier) :
    Normalizes (ofCompact make count refusal) text count refusal where
  accepts raw := by
    have htext : Text.compact raw = text (make (Text.compact raw)) := (hmake _ _).mp rfl
    simp only [ofCompact_eq_ok_iff hmake]
    constructor
    · rintro ⟨a, hnumber, hcompact⟩
      exact hcompact ▸ hnumber
    · intro hnumber
      exact ⟨make (Text.compact raw), htext ▸ hnumber, htext⟩
  holds raw a ha := ((ofCompact_eq_ok_iff hmake).mp ha).2.symm
  refuses raw why := ofChecked_eq_error_iff isDigits_iff
  respaced raw other h := by
    rw [ofCompact, ofCompact, Text.compact_eq_iff.mpr h]
    cases isDigits count (Text.compact other) <;> rfl
  again raw a ha := by
    obtain ⟨hnumber, -⟩ := (ofCompact_eq_ok_iff hmake).mp ha
    exact (ofCompact_eq_ok_iff hmake).mpr ⟨hnumber, compact_of_isNumber hnumber⟩
  same raw other a b ha hb := by
    obtain ⟨-, ha⟩ := (ofCompact_eq_ok_iff hmake).mp ha
    obtain ⟨-, hb⟩ := (ofCompact_eq_ok_iff hmake).mp hb
    rw [ha, hb, ← hmake, (hmake (text a) a).mpr rfl]

end Checked

theorem Nda.normalizes : Normalizes ofText text 11 .nda :=
  normalizes_ofCompact mk_eq_iff 11 .nda

theorem Siret.normalizes : Normalizes ofText text 14 .siret :=
  normalizes_ofCompact mk_eq_iff 14 .siret

/-- The constructors of both numbers take their digits in any spacing and hold them
without it; the legal unit of an establishment number is its first nine digits. A
site code is taken if it has its form as it is written, and held so. -/
theorem identifiers_normalized :
    Normalizes Nda.ofText Nda.text 11 .nda ∧
    Normalizes Siret.ofText Siret.text 14 .siret ∧
    (∀ raw s, Siret.ofText raw = .ok s →
      s.siren? = some (String.ofList (s.text.toList.take 9))) ∧
    (∀ raw u, Uai.ofText raw = .ok u ↔ IsSite raw ∧ u.text = raw) ∧
    (∀ raw why, Uai.ofText raw = .error why ↔ ¬ IsSite raw ∧ why = .uai raw) := by
  refine ⟨Nda.normalizes, Siret.normalizes, fun raw s hs => ?_, fun raw u => ?_,
    fun raw why => ofChecked_eq_error_iff isSiteCode_iff⟩
  · exact Siret.siren?_of_isNumber (Siret.ofText_eq_ok_iff.mp hs).1
  · rw [Uai.ofText_eq_ok_iff]
    constructor
    · rintro ⟨hsite, rfl⟩
      exact ⟨hsite, rfl⟩
    · rintro ⟨hsite, hheld⟩
      exact ⟨hheld ▸ hsite, hheld.symm⟩

/-- A number with blanks in three places, one of them a no-break space. -/
theorem siren_of_spaced :
    let raw := "732 829 320\u00a000074"
    Siret.ofText raw = .ok ⟨"73282932000074"⟩ ∧
      Siret.ofText "73282932000074" = .ok ⟨"73282932000074"⟩ ∧
      Siret.siren? ⟨"73282932000074"⟩ = some "732829320" := by
  intro raw
  have hspaced : Siret.ofText raw = .ok ⟨"73282932000074"⟩ := by decide
  obtain ⟨-, hsiret, hsiren, -⟩ := identifiers_normalized
  refine ⟨hspaced, hsiret.again raw _ hspaced, (hsiren raw _ hspaced).trans ?_⟩
  decide

end DossierCompliance
