import DossierCompliance.Calendar.Instant
import DossierCompliance.Proofs.Calendar.Dates

/-!
Instants are read back as far as their fraction was written. A leap second is
written as the second numbered 60 and read as one. So an instant written with
as many digits as it needs is read back whole, and one written with six digits
up to the microsecond.
-/

namespace DossierCompliance.Instant

open Decimal (AllDigits)
open Date (padded NoDigitHead)

/-- The nanoseconds that are left of a count when so many digits of the
fraction are written. -/
def keptNanos (digits nanos : Nat) : Nat :=
  nanos / 10 ^ (9 - digits) * 10 ^ (9 - digits)

theorem keptNanos_le (digits nanos : Nat) : keptNanos digits nanos ≤ nanos :=
  Nat.div_mul_le_self _ _

/-- Whole seconds are kept, whatever becomes of the fraction. -/
theorem keptNanos_add_seconds {digits : Nat} (hdigits : digits ≤ 9) (seconds nanos : Nat) :
    keptNanos digits (seconds * nanosInSecond + nanos) =
      seconds * nanosInSecond + keptNanos digits nanos := by
  have hunit : nanosInSecond = 10 ^ digits * 10 ^ (9 - digits) := by
    rw [← Nat.pow_add, Nat.add_sub_cancel' hdigits]
    rfl
  have hpositive : 0 < 10 ^ (9 - digits) := Nat.pow_pos (by decide)
  rw [keptNanos, keptNanos, hunit, ← Nat.mul_assoc, Nat.add_comm,
    Nat.add_mul_div_right _ _ hpositive, Nat.add_mul, Nat.add_comm]

/-- The digits of a fraction that its last digits do not shorten. -/
theorem keptNanos_fractionDigits (nanos : Nat) :
    keptNanos (fractionDigits nanos) nanos = nanos := by
  unfold fractionDigits keptNanos
  split
  · next hzero =>
    simp only [beq_iff_eq] at hzero
    simp [hzero]
  split
  · next hmillis =>
    exact Nat.div_mul_cancel (Nat.dvd_of_mod_eq_zero (by simpa using hmillis))
  split
  · next hmicros =>
    exact Nat.div_mul_cancel (Nat.dvd_of_mod_eq_zero (by simpa using hmicros))
  · simp

theorem fractionDigits_le (nanos : Nat) : fractionDigits nanos ≤ 9 := by
  unfold fractionDigits
  split
  · decide
  split
  · decide
  split <;> decide

/-! ### Reading the clock -/

/-- What may stand behind a written fraction: neither a digit nor a point. -/
def EndsFraction (cs : List Char) : Prop :=
  NoDigitHead cs ∧ ∀ c ∈ cs.head?, c ≠ '.'

theorem readFraction_of_ends {cs : List Char} (hcs : EndsFraction cs) :
    readFraction cs = some (0, cs) := by
  unfold readFraction
  split
  · next rest => exact absurd rfl (hcs.2 '.' rfl)
  · rfl

theorem ofDigits_take_padded {nanos : Nat} (hnanos : nanos < nanosInSecond) (digits : Nat) :
    Decimal.ofDigits ((padded 9 nanos).take digits) = nanos / 10 ^ (9 - digits) := by
  have hlength : (padded 9 nanos).length = 9 := Date.length_padded (by decide) hnanos
  rw [Decimal.ofDigits_take (Date.allDigits_padded 9 nanos), Date.ofDigits_padded, hlength]

/-- The digits that were written of a fraction are read back. -/
theorem readFraction_fractionChars {digits nanos : Nat} (hdigits : digits ≤ 9)
    (hnanos : nanos < nanosInSecond) {rest : List Char} (hrest : EndsFraction rest) :
    readFraction (fractionChars digits nanos ++ rest) = some (keptNanos digits nanos, rest) := by
  unfold fractionChars
  split
  · next hzero =>
    simp only [beq_iff_eq] at hzero
    have hnone : keptNanos 0 nanos = 0 := by
      have hquotient : nanos / 10 ^ (9 - 0) = 0 := Nat.div_eq_of_lt hnanos
      rw [keptNanos, hquotient, Nat.zero_mul]
    rw [List.nil_append, readFraction_of_ends hrest, hzero, hnone]
  · next hsome =>
    have hlength : (padded 9 nanos).length = 9 := Date.length_padded (by decide) hnanos
    have hkept : ((padded 9 nanos).take digits).length = digits := by
      rw [List.length_take, hlength]
      omega
    have hall : AllDigits ((padded 9 nanos).take digits) :=
      (Date.allDigits_padded 9 nanos).sublist (List.take_sublist _ _)
    have hnonempty : (padded 9 nanos).take digits ≠ [] := by
      intro hnil
      rw [hnil] at hkept
      simp [← hkept] at hsome
    have hvalue := ofDigits_take_padded hnanos digits
    have hspan := Text.takeWhile_run hall hrest.1
    have htake : ((padded 9 nanos).take digits).take 9 = (padded 9 nanos).take digits :=
      List.take_of_length_le (by omega)
    simp only [List.cons_append, readFraction, hspan, htake, List.isEmpty_iff]
    rw [if_neg hnonempty, hvalue, hkept, List.drop_left' hkept]
    rfl

/-- A written clock is read back; a leap second counts for a second of
nanoseconds. -/
theorem readClock_clockChars {second leap digits nanos : Nat} (hsecond : second < secondsInDay)
    (hleap : leap = 0 ∨ leap = 1 ∧ second % 60 = 59) (hdigits : digits ≤ 9)
    (hnanos : nanos < nanosInSecond) {rest : List Char} (hrest : EndsFraction rest) :
    readClock (clockChars second leap ++ (fractionChars digits nanos ++ rest)) =
      some ((second, leap * nanosInSecond + keptNanos digits nanos), rest) := by
  have hday : second < 86400 := hsecond
  have hcolon : Text.blankChar ':' = false := by decide
  have hreadHour (cs : List Char) := Date.readNumber_padded 2 (second / 3600) (by decide)
    (by omega) cs
  have hreadMinute (cs : List Char) := Date.readNumber_padded 2 (second / 60 % 60)
    (by decide) (by omega) cs
  have hreadSecond (cs : List Char) := Date.readNumber_padded 2 (second % 60 + leap)
    (by decide) (by omega) cs
  simp only [readClock, clockChars, List.append_assoc, List.cons_append, hreadHour, hreadMinute,
    hreadSecond, Date.readSeparator_cons hcolon, readFraction_fractionChars hdigits hnanos hrest,
    Option.bind_eq_bind, Option.bind_some, Option.pure_def]
  have hranges : ¬ ((23 < second / 3600 ∨ 59 < second / 60 % 60) ∨ 60 < second % 60 + leap) := by
    omega
  rw [if_neg (by simpa using hranges)]
  rcases hleap with rfl | ⟨rfl, hlast⟩
  · have hplain : ¬ (second % 60 + 0 == 60) = true := by
      simp only [beq_iff_eq]
      omega
    rw [if_neg hplain]
    simp only [Option.some.injEq, Prod.mk.injEq, and_true, Nat.zero_mul, Nat.zero_add]
    omega
  · rw [if_pos (by simp [hlast])]
    simp only [Option.some.injEq, Prod.mk.injEq, and_true, Nat.one_mul]
    omega

/-! ### Reading instants -/

theorem isTime_of_instant (t : Instant) : t.second < secondsInDay ∧
    (t.nanos / nanosInSecond = 0 ∨ t.nanos / nanosInSecond = 1 ∧ t.second % 60 = 59) := by
  have hvalid := t.valid
  have hunit : nanosInSecond = 1000000000 := rfl
  simp only [isTime, Bool.and_eq_true, Bool.or_eq_true, decide_eq_true_eq, beq_iff_eq] at hvalid
  obtain ⟨hsecond, hnanos⟩ := hvalid
  rw [hunit] at hnanos ⊢
  exact ⟨hsecond, by omega⟩

theorem isTime_keptNanos (t : Instant) (digits : Nat) :
    isTime t.second (keptNanos digits t.nanos) = true := by
  have hvalid := t.valid
  have hle := keptNanos_le digits t.nanos
  simp only [isTime, Bool.and_eq_true, Bool.or_eq_true, decide_eq_true_eq, beq_iff_eq]
    at hvalid ⊢
  exact ⟨hvalid.1, hvalid.2.imp (lt_of_le_of_lt hle) (And.imp_left (lt_of_le_of_lt hle))⟩

/-- The instant without the digits of its fraction that are not kept. -/
def cut (t : Instant) (digits : Nat) : Instant :=
  ⟨t.date, t.second, keptNanos digits t.nanos, isTime_keptNanos t digits⟩

/-- An instant is read back as far as its fraction was written. -/
theorem ofText?_charsWith (t : Instant) {digits : Nat} (hdigits : digits ≤ 9) :
    ofText? (String.ofList (t.charsWith digits ++ ['Z'])) = some (t.cut digits) := by
  obtain ⟨hsecond, hleap⟩ := isTime_of_instant t
  have hends : EndsFraction ['Z'] := ⟨Text.endsRun_cons (by decide) _, by simp⟩
  have hblanks : Text.skipBlanks ['Z'] = ['Z'] := by decide
  have hoffset : readOffset ['Z'] = some (0, []) := by decide
  have hclock := readClock_clockChars hsecond hleap hdigits
    (Nat.mod_lt t.nanos (by decide)) hends
  have hnanos : t.nanos / nanosInSecond * nanosInSecond
      + keptNanos digits (t.nanos % nanosInSecond) = keptNanos digits t.nanos := by
    rw [← keptNanos_add_seconds hdigits, Nat.div_add_mod']
  have hlocal : ofLocal? t.date t.second (keptNanos digits t.nanos) 0 = some (t.cut digits) := by
    have hbefore : ¬ ((t.second : Int) - 0 < 0) := by omega
    have hafter : ¬ ((secondsInDay : Int) ≤ (t.second : Int) - 0) := by omega
    simp only [ofLocal?]
    rw [if_neg hbefore, if_neg hafter]
    exact dif_pos (isTime_keptNanos t digits)
  simp only [ofText?, charsWith, String.toList_ofList, List.append_assoc, List.cons_append,
    Date.read_chars, hclock, hnanos, hblanks, hoffset, Option.bind_eq_bind, Option.bind_some]
  simpa [Text.skipBlanks] using hlocal

theorem cut_eq_self {t : Instant} {digits : Nat} (h : keptNanos digits t.nanos = t.nanos) :
    t.cut digits = t := by
  cases t
  simp_all [cut]

theorem cut_fractionDigits (t : Instant) :
    t.cut (fractionDigits (t.nanos % nanosInSecond)) = t := by
  apply cut_eq_self
  have hsplit := keptNanos_add_seconds (fractionDigits_le (t.nanos % nanosInSecond))
    (t.nanos / nanosInSecond) (t.nanos % nanosInSecond)
  rwa [keptNanos_fractionDigits, Nat.div_add_mod'] at hsplit

/-- The text of an instant names that instant. -/
theorem ofText?_text (t : Instant) : ofText? t.text = some t := by
  rw [text, chars, ofText?_charsWith t (fractionDigits_le _), cut_fractionDigits]

theorem ofText?_microsText (t : Instant) : ofText? t.microsText = some (t.cut 6) :=
  ofText?_charsWith t (by decide)

/-- The same instant up to the microsecond. -/
def SameMicros (t u : Instant) : Prop :=
  t.date = u.date ∧ t.second = u.second ∧ t.nanos / 1000 = u.nanos / 1000

/-- Six digits of a fraction depend on its microseconds alone. -/
theorem fractionChars_micros_congr {m n : Nat} (hm : m < nanosInSecond) (hn : n < nanosInSecond)
    (h : m / 1000 = n / 1000) : fractionChars 6 m = fractionChars 6 n := by
  have hlengthM : (padded 9 m).length = 9 := Date.length_padded (by decide) hm
  have hlengthN : (padded 9 n).length = 9 := Date.length_padded (by decide) hn
  have hdigits : (padded 9 m).take 6 = (padded 9 n).take 6 := by
    apply Decimal.ofDigits_inj ((Date.allDigits_padded 9 m).sublist (List.take_sublist _ _))
      ((Date.allDigits_padded 9 n).sublist (List.take_sublist _ _))
    · rw [List.length_take, List.length_take, hlengthM, hlengthN]
    · rw [ofDigits_take_padded hm, ofDigits_take_padded hn]
      exact h
  simp [fractionChars, hdigits]

/-- What is written with six digits is the instant up to the microsecond. -/
theorem microsText_eq_iff {t u : Instant} : t.microsText = u.microsText ↔ SameMicros t u := by
  constructor
  · intro h
    have hread := ofText?_microsText t
    rw [h, ofText?_microsText u, Option.some.injEq] at hread
    simp only [cut, Instant.mk.injEq, keptNanos] at hread
    obtain ⟨hdate, hsecond, hnanos⟩ := hread
    exact ⟨hdate.symm, hsecond.symm, by omega⟩
  · rintro ⟨hdate, hsecond, hmicros⟩
    have hleap : t.nanos / nanosInSecond = u.nanos / nanosInSecond := by
      unfold nanosInSecond
      omega
    have hmicros' : t.nanos % nanosInSecond / 1000 = u.nanos % nanosInSecond / 1000 := by
      unfold nanosInSecond
      omega
    have hfraction := fractionChars_micros_congr (Nat.mod_lt t.nanos (by decide))
      (Nat.mod_lt u.nanos (by decide)) hmicros'
    rw [microsText, microsText, charsWith, charsWith, hdate, hsecond, hleap, hfraction]

theorem noControls_microsText (t : Instant) : Text.NoControls t.microsText.toList := by
  have hclock : Text.NoControls (clockChars t.second (t.nanos / nanosInSecond)) :=
    (Date.noControls_padded 2 _).append (.cons (by decide) ((Date.noControls_padded 2 _).append
      (.cons (by decide) (Date.noControls_padded 2 _))))
  have hfraction : Text.NoControls (fractionChars 6 (t.nanos % nanosInSecond)) :=
    .cons (by decide) ((Date.noControls_padded 9 _).sublist (List.take_sublist _ _))
  have hall := ((Date.noControls_chars t.date).append
    (.cons (by decide : Text.uncontrolled 'T' = true) (hclock.append hfraction))).append
      (.cons (by decide : Text.uncontrolled 'Z' = true) Text.madeOf_nil)
  simpa [microsText, charsWith] using hall

end DossierCompliance.Instant
