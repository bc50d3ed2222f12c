import DossierCompliance.Calendar.Date
import DossierCompliance.Proofs.Decimal.Digits
import DossierCompliance.Proofs.Text.Blank
import Mathlib.Tactic

/-!
Dates are read back as they were written. Month and day have a fixed number of
digits, so what follows them may be anything; a year may have more digits than
four, but then it has a sign, and its digits end at the hyphen behind it.
-/

namespace DossierCompliance.Date

open Decimal (AllDigits)

/-! ### Padded numbers -/

theorem allDigits_padded (width n : Nat) : AllDigits (padded width n) := by
  intro c hc
  rcases List.mem_append.mp hc with h | h
  · rw [List.eq_of_mem_replicate h]
    decide
  · exact Decimal.isDigit_toDigits h

theorem ofDigits_padded (width n : Nat) : Decimal.ofDigits (padded width n) = n := by
  simp [padded]

theorem length_padded {width n : Nat} (hwidth : 0 < width) (hn : n < 10 ^ width) :
    (padded width n).length = width := by
  have hdigits := (Nat.length_toDigits_le_iff (by decide) hwidth).mpr hn
  simp only [padded, List.length_append, List.length_replicate]
  omega

theorem padded_ne_nil (width n : Nat) : padded width n ≠ [] := by
  simp [padded]

/-! ### Reading numbers -/

theorem skipBlanks_cons {c : Char} (hc : Text.blankChar c = false) (rest : List Char) :
    Text.skipBlanks (c :: rest) = c :: rest := by
  simp [Text.skipBlanks, hc]

theorem skipBlanks_digits {ds : List Char} (hds : AllDigits ds) (hne : ds ≠ [])
    (rest : List Char) : Text.skipBlanks (ds ++ rest) = ds ++ rest := by
  obtain ⟨c, ds, rfl⟩ := List.exists_cons_of_ne_nil hne
  exact skipBlanks_cons (Text.blankChar_of_isDigit (hds c List.mem_cons_self)) _

/-- What does not go on with a run of digits. -/
abbrev NoDigitHead (cs : List Char) : Prop :=
  Text.EndsRun Char.isDigit cs

/-- A run of digits is read as a number when it fills the width or ends within it. -/
theorem readNumber_digits {width : Nat} {ds rest : List Char} (hds : AllDigits ds)
    (hne : ds ≠ []) (hwidth : ds.length ≤ width)
    (hend : ds.length = width ∨ NoDigitHead rest) :
    readNumber width (ds ++ rest) = some (Decimal.ofDigits ds, rest) := by
  have htake : (ds ++ rest).take width = ds ++ rest.take (width - ds.length) := by
    rw [List.take_append, List.take_of_length_le hwidth]
  have hdigits : ((ds ++ rest).take width).takeWhile Char.isDigit = ds := by
    rw [htake]
    apply Text.takeWhile_run hds
    rcases hend with hfull | hhead
    · simp [hfull, Text.endsRun_nil]
    · intro c hc
      rw [List.head?_take] at hc
      split at hc
      · cases hc
      · exact hhead c hc
  simp only [readNumber, skipBlanks_digits hds hne, hdigits, List.isEmpty_iff]
  rw [if_neg hne, List.drop_left]

theorem readNumber_padded (width n : Nat) (hwidth : 0 < width) (hn : n < 10 ^ width)
    (rest : List Char) : readNumber width (padded width n ++ rest) = some (n, rest) := by
  have hlength := length_padded hwidth hn
  rw [readNumber_digits (allDigits_padded width n) (padded_ne_nil width n) hlength.le
    (Or.inl hlength), ofDigits_padded]

theorem readSeparator_cons {c : Char} (hc : Text.blankChar c = false) (rest : List Char) :
    readSeparator c (c :: rest) = some rest := by
  simp [readSeparator, skipBlanks_cons hc]

/-! ### Reading dates -/

/-- A signed year goes on as long as digits follow. -/
theorem readNumber_year (n : Nat) (rest : List Char) :
    readNumber (padded 4 n ++ '-' :: rest).length (padded 4 n ++ '-' :: rest) =
      some (n, '-' :: rest) := by
  have hlength : (padded 4 n).length ≤ (padded 4 n ++ '-' :: rest).length := by simp
  rw [readNumber_digits (allDigits_padded 4 n) (padded_ne_nil 4 n) hlength
    (Or.inr (Text.endsRun_cons (by decide) rest)), ofDigits_padded]

theorem head?_padded (width n : Nat) (rest : List Char) :
    (padded width n ++ rest).head?.any Char.isDigit = true := by
  obtain ⟨c, ds, hds⟩ := List.exists_cons_of_ne_nil (padded_ne_nil width n)
  have hc := allDigits_padded width n c (by simp [hds])
  simp [hds, hc]

theorem readYear_yearChars (year : Int) (rest : List Char) :
    readYear (yearChars year ++ '-' :: rest) = some (year, '-' :: rest) := by
  unfold yearChars
  split
  · next hnegative =>
    rw [List.cons_append, readYear, skipBlanks_cons (by decide)]
    simp only [head?_padded, readNumber_year, if_true, Option.map_some, Option.some.injEq,
      Prod.mk.injEq, and_true]
    omega
  split
  · next hnegative hlong =>
    rw [List.cons_append, readYear, skipBlanks_cons (by decide)]
    simp only [head?_padded, readNumber_year, if_true, Option.map_some, Option.some.injEq,
      Prod.mk.injEq, and_true]
    omega
  · next hnegative hlong =>
    have hread := readNumber_padded 4 year.natAbs (by decide) (by omega)
      ('-' :: rest)
    obtain ⟨c, ds, hds⟩ := List.exists_cons_of_ne_nil (padded_ne_nil 4 year.natAbs)
    have hc := allDigits_padded 4 year.natAbs c (by simp [hds])
    rw [hds, List.cons_append] at hread ⊢
    rw [readYear, skipBlanks_cons (Text.blankChar_of_isDigit hc)]
    split
    · next heq =>
      obtain ⟨rfl, _⟩ := List.cons.inj heq
      exact absurd hc (by decide)
    · next heq =>
      obtain ⟨rfl, _⟩ := List.cons.inj heq
      exact absurd hc (by decide)
    · simp only [hread, Option.map_some, Option.some.injEq, Prod.mk.injEq, and_true]
      omega

theorem isDate_of_date (d : Date) :
    1 ≤ d.month ∧ d.month ≤ 12 ∧ 1 ≤ d.day ∧ d.day ≤ 31 := by
  have hvalid := d.valid
  have hdays : daysInMonth d.year d.month ≤ 31 := by
    unfold daysInMonth
    split
    · split <;> decide
    all_goals decide
  simp only [isDate, Bool.and_eq_true, decide_eq_true_eq] at hvalid
  omega

theorem ofParts?_self (d : Date) : ofParts? d.year d.month d.day = some d :=
  dif_pos d.valid

/-- A written date is read back, and what stands behind it is left. -/
theorem read_chars (d : Date) (rest : List Char) : read (d.chars ++ rest) = some (d, rest) := by
  obtain ⟨_, hmonth, _, hday⟩ := isDate_of_date d
  have hhyphen : Text.blankChar '-' = false := by decide
  have hreadMonth := readNumber_padded 2 d.month (by decide) (by omega)
    ('-' :: (padded 2 d.day ++ rest))
  have hreadDay := readNumber_padded 2 d.day (by decide) (by omega) rest
  simp only [read, chars, List.append_assoc, List.cons_append, readYear_yearChars,
    readSeparator_cons hhyphen, hreadMonth, hreadDay, ofParts?_self, Option.bind_eq_bind,
    Option.bind_some, Option.pure_def]

/-- The text of a date names that date. -/
theorem ofText?_text (d : Date) : ofText? d.text = some d := by
  have hread := read_chars d []
  rw [List.append_nil] at hread
  simp only [ofText?, text, String.toList_ofList, hread, Option.bind_eq_bind, Option.bind_some,
    Text.skipBlanks, List.dropWhile_nil, List.isEmpty_nil, if_true, Option.pure_def]

/-! ### Characters -/

theorem noControls_padded (width n : Nat) : Text.NoControls (padded width n) :=
  (allDigits_padded width n).mono fun _ hc =>
    Decimal.uncontrolled_of_numeralChar (Decimal.numeralChar_of_isDigit hc)

theorem noControls_chars (d : Date) : Text.NoControls d.chars := by
  have hyear : Text.NoControls (yearChars d.year) := by
    unfold yearChars
    split
    · exact .cons (by decide) (noControls_padded 4 _)
    split
    · exact .cons (by decide) (noControls_padded 4 _)
    · exact noControls_padded 4 _
  exact hyear.append (.cons (by decide) ((noControls_padded 2 _).append
    (.cons (by decide) (noControls_padded 2 _))))

end DossierCompliance.Date
