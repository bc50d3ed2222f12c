import DossierCompliance.Calendar.Micros
import DossierCompliance.Proofs.Calendar.Instants

/-!
What of an instant a database keeps. A leap second is lost, for it is counted
as the second after it. Whole microseconds of any other second are kept, and
what is finer goes down where it is cut off, but up before the year from which
microseconds are counted, and then the six digits that are written change.
-/

namespace DossierCompliance.Instant

/-- The instant has no part that is finer than a microsecond. -/
def IsWhole (t : Instant) : Prop :=
  t.nanos % nanosInMicro = 0

/-- The instant is within a leap second. -/
def IsLeap (t : Instant) : Prop :=
  nanosInSecond ≤ t.nanos

instance (t : Instant) : Decidable t.IsWhole :=
  inferInstanceAs (Decidable (_ = _))

instance (t : Instant) : Decidable t.IsLeap :=
  inferInstanceAs (Decidable (_ ≤ _))

/-- Before the leap second with which the calendar ends there is nowhere to go on. -/
def IsLast (t : Instant) : Prop :=
  t.date.next? = none ∧ t.second + 1 = secondsInDay

theorem ofParts?_self (t : Instant) : ofParts? t.date t.second t.nanos = some t :=
  dif_pos t.valid

/-- Nanoseconds that stay within their second are carried nowhere. -/
theorem carried?_of_lt (date : Date) {second nanos : Nat} (hsecond : second < secondsInDay)
    (hnanos : nanos < nanosInSecond) :
    carried? date second nanos = ofParts? date second nanos := by
  have hquotient : nanos / nanosInSecond = 0 := Nat.div_eq_of_lt hnanos
  have hrest : nanos % nanosInSecond = nanos := Nat.mod_eq_of_lt hnanos
  simp only [carried?, hquotient, hrest, Nat.add_zero, if_pos hsecond]

theorem cutNanos_of_whole {nanos : Nat} (h : nanos % nanosInMicro = 0) (upward : Bool) :
    cutNanos upward nanos = nanos := by
  unfold nanosInMicro at h
  unfold cutNanos nanosInMicro
  split <;> omega

/-- Whole microseconds of a second that is not a leap second are given back. -/
theorem cutToMicros_of_whole {t : Instant} (hwhole : t.IsWhole) (hleap : ¬ t.IsLeap) :
    t.cutToMicros = t := by
  obtain ⟨hsecond, _⟩ := isTime_of_instant t
  rw [cutToMicros, cutNanos_of_whole hwhole, carried?_of_lt t.date hsecond (Nat.lt_of_not_le hleap),
    ofParts?_self]
  rfl

/-! ### Carrying -/

theorem exists_ofParts? (date : Date) {second nanos : Nat} (hsecond : second < secondsInDay)
    (hnanos : nanos < nanosInSecond) :
    ∃ t, ofParts? date second nanos = some t ∧ t.date = date ∧ t.second = second ∧
      t.nanos = nanos := by
  have hvalid : isTime second nanos = true := by
    simp [isTime, hsecond, hnanos]
  exact ⟨_, dif_pos hvalid, rfl, rfl, rfl⟩

theorem carried?_of_next {date next : Date} {second nanos wrapped : Nat}
    (htotal : second + nanos / nanosInSecond = secondsInDay + wrapped)
    (hnext : date.next? = some next) :
    carried? date second nanos = ofParts? next wrapped (nanos % nanosInSecond) := by
  have hwrapped : second + nanos / nanosInSecond - secondsInDay = wrapped := by omega
  have hover : ¬ second + nanos / nanosInSecond < secondsInDay := by omega
  rw [carried?, hnext, hwrapped]
  simp only [if_neg hover, Option.bind_eq_bind, Option.bind_some]

theorem carried?_of_last {date : Date} {second nanos : Nat}
    (htotal : secondsInDay ≤ second + nanos / nanosInSecond) (hnext : date.next? = none) :
    carried? date second nanos = none := by
  rw [carried?, hnext]
  simp only [if_neg (Nat.not_lt.mpr htotal), Option.bind_eq_bind, Option.bind_none]

/-- Nanoseconds that fill one or two seconds are carried to another second, if
there is one. -/
theorem carried?_cases (date : Date) {second nanos : Nat} (hsecond : second < secondsInDay)
    (hlower : nanosInSecond ≤ nanos) (hupper : nanos < 3 * nanosInSecond) :
    (∃ t, carried? date second nanos = some t ∧ t.second ≠ second) ∨
      carried? date second nanos = none ∧ date.next? = none ∧
        secondsInDay ≤ second + nanos / nanosInSecond := by
  have hcarry : 1 ≤ nanos / nanosInSecond ∧ nanos / nanosInSecond < secondsInDay := by
    unfold nanosInSecond at hlower hupper ⊢
    unfold secondsInDay
    omega
  have hrest : nanos % nanosInSecond < nanosInSecond := Nat.mod_lt nanos (by decide)
  by_cases htotal : second + nanos / nanosInSecond < secondsInDay
  · obtain ⟨t, ht, _, hmoved, _⟩ := exists_ofParts? date htotal hrest
    exact .inl ⟨t, by simp only [carried?, if_pos htotal, ht], by omega⟩
  · have hover := Nat.le_of_not_lt htotal
    cases hnext : date.next? with
    | none => exact .inr ⟨carried?_of_last hover hnext, rfl, hover⟩
    | some next =>
      obtain ⟨wrapped, hwrapped⟩ := Nat.exists_eq_add_of_le hover
      obtain ⟨t, ht, _, hmoved, _⟩ :=
        exists_ofParts? next (by omega : wrapped < secondsInDay) hrest
      exact .inl ⟨t, (carried?_of_next hwrapped hnext).trans ht, by omega⟩

theorem next?_ne_none {d : Date} (h : d.year < lastYear) : d.next? ≠ none := by
  have hfirst : firstYear ≤ d.year := by
    have hvalid := d.valid
    simp only [isDate, Bool.and_eq_true, decide_eq_true_eq] at hvalid
    omega
  have hvalid : isDate (d.year + 1) 1 1 = true := by
    have hdays : daysInMonth (d.year + 1) 1 = 31 := rfl
    simp only [isDate, Bool.and_eq_true, decide_eq_true_eq, hdays]
    omega
  have hsome : Date.ofParts? (d.year + 1) 1 1 ≠ none := by
    rw [Date.ofParts?, dif_pos hvalid]
    exact Option.some_ne_none _
  intro hnone
  rw [Date.next?] at hnone
  cases hday : Date.ofParts? d.year d.month (d.day + 1) with
  | some next => rw [hday] at hnone; cases hnone
  | none =>
    cases hmonth : Date.ofParts? d.year (d.month + 1) 1 with
    | some next => rw [hday, hmonth] at hnone; cases hnone
    | none => rw [hday, hmonth] at hnone; exact hsome hnone

/-! ### The six digits that are written -/

theorem cutToMicros_eq {t u : Instant} {nanos : Nat}
    (hnanos : cutNanos (t.date.year < countingYear) t.nanos = nanos)
    (hcarried : carried? t.date t.second nanos = some u) : t.cutToMicros = u := by
  rw [cutToMicros, hnanos, hcarried]
  rfl

theorem cutToMicros_eq_self {t : Instant} {nanos : Nat}
    (hnanos : cutNanos (t.date.year < countingYear) t.nanos = nanos)
    (hcarried : carried? t.date t.second nanos = none) : t.cutToMicros = t := by
  rw [cutToMicros, hnanos, hcarried]
  rfl

theorem not_sameMicros {t u : Instant} (h : u.second ≠ t.second) : ¬ SameMicros u t :=
  fun hsame => h hsame.2.1

/-- A leap second is given back as another second, unless it is the last one. -/
theorem sameMicros_cutToMicros_of_leap {t : Instant} (hleap : t.IsLeap) :
    SameMicros t.cutToMicros t ↔ t.IsLast := by
  obtain ⟨hsecond, hminute⟩ := isTime_of_instant t
  obtain ⟨cut, hcut⟩ : ∃ cut, cutNanos (t.date.year < countingYear) t.nanos = cut := ⟨_, rfl⟩
  have hbounds : nanosInSecond ≤ cut ∧ cut < 3 * nanosInSecond := by
    rw [← hcut]
    unfold IsLeap at hleap
    unfold nanosInSecond at hleap hminute ⊢
    unfold cutNanos nanosInMicro
    split <;> omega
  have hcarry : 1 ≤ cut / nanosInSecond ∧ cut / nanosInSecond ≤ 2 := by
    unfold nanosInSecond at hbounds ⊢
    omega
  rcases carried?_cases t.date hsecond hbounds.1 hbounds.2 with
    ⟨u, hcarried, hmoved⟩ | ⟨hnone, hnext, hover⟩
  · rw [cutToMicros_eq hcut hcarried]
    refine iff_of_false (not_sameMicros hmoved) fun hlast => ?_
    have hover : secondsInDay ≤ t.second + cut / nanosInSecond := by
      rw [← hlast.2]
      omega
    rw [carried?_of_last hover hlast.1] at hcarried
    cases hcarried
  · rw [cutToMicros_eq_self hcut hnone]
    refine iff_of_true ⟨rfl, rfl, rfl⟩ ⟨hnext, ?_⟩
    have hlastOfMinute : t.second % 60 = 59 := by
      rcases hminute with hzero | ⟨_, hlast⟩
      · unfold IsLeap nanosInSecond at hleap
        unfold nanosInSecond at hzero
        omega
      · exact hlast
    unfold secondsInDay at hsecond hover ⊢
    omega

/-- What is finer than a microsecond is cut off downward from the year on from
which microseconds are counted. -/
theorem sameMicros_cutToMicros_of_later {t : Instant} (hleap : ¬ t.IsLeap)
    (hyear : countingYear ≤ t.date.year) : SameMicros t.cutToMicros t := by
  obtain ⟨hsecond, _⟩ := isTime_of_instant t
  have hcut : cutNanos (t.date.year < countingYear) t.nanos =
      t.nanos / nanosInMicro * nanosInMicro := by
    simp [cutNanos, Int.not_lt.mpr hyear]
  have hnanos : t.nanos / nanosInMicro * nanosInMicro < nanosInSecond :=
    Nat.lt_of_le_of_lt (Nat.div_mul_le_self _ _) (Nat.lt_of_not_le hleap)
  obtain ⟨u, hu, hdate, hsame, hwhole⟩ := exists_ofParts? t.date hsecond hnanos
  rw [cutToMicros_eq hcut ((carried?_of_lt t.date hsecond hnanos).trans hu)]
  refine ⟨hdate, hsame, ?_⟩
  rw [hwhole]
  unfold nanosInMicro
  omega

/-- Before that year it is made up to the next microsecond. -/
theorem sameMicros_cutToMicros_of_earlier {t : Instant} (hleap : ¬ t.IsLeap)
    (hyear : t.date.year < countingYear) : SameMicros t.cutToMicros t ↔ t.IsWhole := by
  obtain ⟨hsecond, _⟩ := isTime_of_instant t
  constructor
  · intro hsame
    by_contra hpart
    have hcut : cutNanos (t.date.year < countingYear) t.nanos =
        (t.nanos / nanosInMicro + 1) * nanosInMicro := by
      unfold IsWhole nanosInMicro at hpart
      simp only [cutNanos, hyear, decide_true, if_true]
      unfold nanosInMicro
      omega
    obtain ⟨up, hup⟩ : ∃ up, (t.nanos / nanosInMicro + 1) * nanosInMicro = up := ⟨_, rfl⟩
    rw [hup] at hcut
    by_cases hnanos : up < nanosInSecond
    · obtain ⟨u, hu, _, _, hmoved⟩ := exists_ofParts? t.date hsecond hnanos
      rw [cutToMicros_eq hcut ((carried?_of_lt t.date hsecond hnanos).trans hu)] at hsame
      obtain ⟨_, _, hmicros⟩ := hsame
      rw [hmoved, ← hup] at hmicros
      unfold nanosInMicro at hmicros
      omega
    · have hupper : up < 3 * nanosInSecond := by
        unfold IsLeap at hleap
        rw [← hup]
        unfold nanosInMicro
        unfold nanosInSecond at hleap ⊢
        omega
      rcases carried?_cases t.date hsecond (Nat.le_of_not_lt hnanos) hupper with
        ⟨u, hcarried, hmoved⟩ | ⟨_, hnext, _⟩
      · rw [cutToMicros_eq hcut hcarried] at hsame
        exact not_sameMicros hmoved hsame
      · have hlast : countingYear < lastYear := by decide
        exact next?_ne_none (Int.lt_trans hyear hlast) hnext
  · intro hwhole
    rw [cutToMicros_of_whole hwhole hleap]
    exact ⟨rfl, rfl, rfl⟩

/-- A database keeps the six digits that are written of an instant. -/
def KeepsMicros (t : Instant) : Prop :=
  t.cutToMicros.microsText = t.microsText

/-- Which instants are given back with the same six digits: in a leap second only
those of the last one, and in another second all from the year on from which
microseconds are counted, and before it the whole microseconds. -/
theorem keepsMicros_iff (t : Instant) :
    t.KeepsMicros ↔
      t.IsLeap ∧ t.IsLast ∨ ¬ t.IsLeap ∧ (countingYear ≤ t.date.year ∨ t.IsWhole) := by
  rw [KeepsMicros, microsText_eq_iff]
  by_cases hleap : t.IsLeap
  · rw [sameMicros_cutToMicros_of_leap hleap]
    simp [hleap]
  · by_cases hyear : countingYear ≤ t.date.year
    · simp [hleap, hyear, sameMicros_cutToMicros_of_later hleap hyear]
    · rw [sameMicros_cutToMicros_of_earlier hleap (Int.lt_of_not_ge hyear)]
      simp [hleap, hyear]

end DossierCompliance.Instant
