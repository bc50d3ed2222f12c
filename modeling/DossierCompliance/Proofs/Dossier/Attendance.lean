import DossierCompliance.Proofs.Decimal.Sums
import DossierCompliance.Proofs.Dossier.Stored
import DossierCompliance.Proofs.Rule.Standard

/-!
The rate of attendance. The hours of a dossier that was read are finite, but
their totals need not be: where both exceed all numbers the rate is not a number,
and then no comparison with it holds, so that no rule for a low rate complains. In
all other cases the rate is a percentage, and it is below a threshold or not.
-/

namespace DossierCompliance

namespace Dossier

open Decimal

/-! ### Totals -/

/-- The hours of all days are finite numbers. -/
def HasFiniteHours (d : Dossier) : Prop :=
  ∀ a ∈ d.attendance, a.IsStored

/-- Both totals are infinite, and that of the scheduled hours is above zero. -/
structure TotalsOverflow (d : Dossier) : Prop where
  positive : 0.0 < d.hoursScheduled
  scheduled : d.hoursScheduled.isInf = true
  attended : d.hoursAttended.isInf = true

theorem isNaN_total {hours : List Float} (h : ∀ x ∈ hours, x.isFinite = true) :
    (total hours).isNaN = false := by
  have hfold (x : Float) (hx : x.isNaN = false) : (hours.foldl (· + ·) x).isNaN = false := by
    induction hours generalizing x with
    | nil => exact hx
    | cons y hours ih =>
      rw [List.forall_mem_cons] at h
      exact ih h.2 _ (isNaN_add hx h.1)
  exact hfold 0.0 rfl

theorem HasFiniteHours.isNaN_hoursScheduled {d : Dossier} (h : d.HasFiniteHours) :
    d.hoursScheduled.isNaN = false :=
  isNaN_total (List.forall_mem_map.mpr fun a ha => (h a ha).1)

theorem HasFiniteHours.isNaN_hoursAttended {d : Dossier} (h : d.HasFiniteHours) :
    d.hoursAttended.isNaN = false :=
  isNaN_total (List.forall_mem_map.mpr fun a ha => (h a ha).2)

/-! ### The rate -/

theorem isNaN_limited (x : Float) : (limited x).isNaN = x.isNaN := by
  rw [limited]
  split_ifs with hlow hhigh
  · exact (isNaN_of_lt hlow).1.symm
  · exact (isNaN_of_lt hhigh).2.symm
  · rfl

/-- A number is brought into the range. -/
theorem limited_between {x : Float} (hx : x.isNaN = false) :
    0.0 ≤ limited x ∧ limited x ≤ 100.0 := by
  rw [limited]
  split_ifs with hlow hhigh
  · decide
  · decide
  · exact ⟨le_iff.mpr ⟨hx, rfl, hlow⟩, le_iff.mpr ⟨rfl, hx, hhigh⟩⟩

variable {d : Dossier}

/-- The rate is not a number just where an infinite total is divided by another. -/
theorem HasFiniteHours.isNaN_attendanceRate_iff (h : d.HasFiniteHours) :
    d.attendanceRate.isNaN = true ↔ d.TotalsOverflow := by
  have hscheduled := h.isNaN_hoursScheduled
  rw [attendanceRate]
  split_ifs with hnone
  · have hnot := (le_iff.mp hnone).2.2
    exact ⟨nofun, fun hoverflow => absurd hoverflow.positive hnot⟩
  · have hsome : 0.0 < d.hoursScheduled := by
      by_contra hnot
      exact hnone (le_iff.mpr ⟨rfl, hscheduled, hnot⟩)
    rw [isNaN_limited, isNaN_mul (by decide) (by decide),
      isNaN_div_iff h.isNaN_hoursAttended hsome]
    exact ⟨fun h => ⟨hsome, h.2, h.1⟩, fun h => ⟨h.attended, h.scheduled⟩⟩

/-- A rate that is a number is a percentage. -/
theorem attendanceRate_between (h : d.attendanceRate.isNaN = false) :
    0.0 ≤ d.attendanceRate ∧ d.attendanceRate ≤ 100.0 := by
  rw [attendanceRate] at h ⊢
  split_ifs at h ⊢ with hnone
  · decide
  · rw [isNaN_limited] at h
    exact limited_between h

/-! ### Scheduled hours of a usual size -/

/-- No day is scheduled for more than `1e292` hours, or less than minus as many,
and there are fewer than `2 ^ 53` days. -/
structure HasModestSchedule (d : Dossier) : Prop where
  hours : ∀ a ∈ d.attendance, -1e292 ≤ a.hoursScheduled ∧ a.hoursScheduled ≤ 1e292
  days : d.attendance.length < 2 ^ 53

theorem HasModestSchedule.isFinite_hoursScheduled (h : d.HasModestSchedule) :
    d.hoursScheduled.isFinite = true := by
  have hwithin : ∀ x ∈ d.attendance.map (·.hoursScheduled),
      Within (2 ^ (53 + 1992)) x.toModel.unpack :=
    List.forall_mem_map.mpr fun a ha => within_of_between (h.hours a ha).1 (h.hours a ha).2
  have hzero : Within (0 * 2 ^ (53 + 1992)) (0.0 : Float).toModel.unpack := trivial
  have hdays : 0 + (d.attendance.map (·.hoursScheduled)).length < 2 ^ 53 := by
    rw [Nat.zero_add, List.length_map]
    exact h.days
  exact isFinite_of_within (within_foldl (by decide) hzero hwithin hdays)

theorem HasModestSchedule.not_overflow (h : d.HasModestSchedule) : ¬ d.TotalsOverflow := by
  intro hoverflow
  have hfinite := isInf_of_isFinite h.isFinite_hoursScheduled
  rw [hoverflow.scheduled] at hfinite
  cases hfinite

end Dossier

/-! ### Thresholds -/

namespace Comparison

variable (d : Dossier) (bound : Float)

/-- The rate of attendance beside a bound. -/
def ofRate (operator : Operator) (bound : Float) : Comparison :=
  ⟨"attendance_rate", operator, some (.number bound)⟩

theorem holds_less_iff : (ofRate .less bound).holds d.snapshot = true ↔
    d.attendanceRate < bound :=
  holds_rate d bound

theorem holds_atLeast_iff : (ofRate .atLeast bound).holds d.snapshot = true ↔
    bound ≤ d.attendanceRate := by
  have hkey : Value.segments "attendance_rate" = ["attendance_rate"] := by decide
  rw [holds, ofRate, actual, d.snapshot.resolve_key hkey, d.step_snapshot.2.2.2.2.2.1]
  exact decide_eq_true_iff

variable {d bound}

/-- A rate that is a number is below a bound or not, and the comparisons say so. -/
theorem holds_atLeast_eq (hrate : d.attendanceRate.isNaN = false) (hbound : bound.isNaN = false) :
    (ofRate .atLeast bound).holds d.snapshot = !(ofRate .less bound).holds d.snapshot := by
  rw [Bool.eq_iff_iff, Bool.not_eq_true', ← Bool.not_eq_true, holds_atLeast_iff, holds_less_iff,
    Decimal.le_iff, and_iff_right hrate, and_iff_right hbound]

/-- With a rate that is not a number neither holds. -/
theorem not_holds_of_isNaN (hrate : d.attendanceRate.isNaN = true) (bound : Float) :
    (ofRate .less bound).holds d.snapshot = false ∧
      (ofRate .atLeast bound).holds d.snapshot = false := by
  simp only [← Bool.not_eq_true, holds_less_iff, holds_atLeast_iff]
  constructor
  · intro hless
    rw [(Decimal.isNaN_of_lt hless).1] at hrate
    cases hrate
  · intro hleast
    rw [(Decimal.le_iff.mp hleast).1] at hrate
    cases hrate

end Comparison

namespace RuleDocument

/-- The rule of the standard document by which a low rate keeps a dossier open. -/
theorem get?_closureMinimum : ∃ r ∈ standard.rulesFor .closed,
    standard.get? "CLOSURE_ATTENDANCE_MINIMUM" = some r ∧ r.severity = .blocking ∧
      r.condition = .single (Comparison.ofRate .less 80) :=
  ⟨_, List.mem_cons_self, rfl, rfl, rfl⟩

end RuleDocument

namespace Dossier

open Comparison (ofRate)
open RuleDocument (standard)

variable {d : Dossier}

/-- A rate is not below a bound either because it reaches it or because it is not a number. -/
theorem HasFiniteHours.not_less_iff (h : d.HasFiniteHours) {bound : Float}
    (hbound : bound.isNaN = false) :
    ¬ d.attendanceRate < bound ↔ bound ≤ d.attendanceRate ∨ d.TotalsOverflow := by
  rw [← h.isNaN_attendanceRate_iff, Decimal.le_iff]
  constructor
  · intro hless
    cases hrate : d.attendanceRate.isNaN with
    | true => exact .inr rfl
    | false => exact .inl ⟨rfl, hbound, hless⟩
  · rintro (⟨-, -, hless⟩ | hrate) hbelow
    · exact hless hbelow
    · rw [(Decimal.isNaN_of_lt hbelow).1] at hrate
      cases hrate

/-- Closing by the standard rules asks for a rate that is not below 80. -/
theorem not_less_of_closing {today : Date}
    (h : (assess standard ⟨d, .closed, today⟩).verdict.isSuccess = true) :
    ¬ d.attendanceRate < 80 :=
  ((RuleDocument.rules_standard_iff d .closed).mp
    ((isSuccess_assess_iff standard _).mp h).2).1

/-- How far the rate of a dossier that was read can be relied on. It is a number
unless both totals overflow, which they do not where the scheduled hours are of a
usual size. Then it is a percentage, and of the comparisons whether it is below a
bound or reaches it just one holds; where the totals overflow neither holds. So a
dossier passes the blocking rule about closing just with a rate of at least 80 or
with totals that overflow, and is closed by the standard rules in no other case. -/
theorem rate_usable_iff {j : Json} (hj : j.AllFinite)
    (hd : Json.decodeValue Dossier.decode j = .ok d) :
    (d.attendanceRate.isNaN = true ↔ d.TotalsOverflow) ∧
    (d.HasModestSchedule → ¬ d.TotalsOverflow) ∧
    (¬ d.TotalsOverflow → 0.0 ≤ d.attendanceRate ∧ d.attendanceRate ≤ 100.0 ∧
      ∀ bound : Float, bound.isNaN = false →
        (ofRate .atLeast bound).holds d.snapshot = !(ofRate .less bound).holds d.snapshot) ∧
    (d.TotalsOverflow → ∀ bound : Float, (ofRate .less bound).holds d.snapshot = false ∧
      (ofRate .atLeast bound).holds d.snapshot = false) ∧
    (∃ r ∈ standard.rulesFor .closed, standard.get? "CLOSURE_ATTENDANCE_MINIMUM" = some r ∧
      r.severity = .blocking ∧ ∃ violated, r.condition.evaluate d.snapshot = .ok violated ∧
        (violated = false ↔ 80 ≤ d.attendanceRate ∨ d.TotalsOverflow)) ∧
    ∀ today, (assess standard ⟨d, .closed, today⟩).verdict.isSuccess = true →
      80 ≤ d.attendanceRate ∨ d.TotalsOverflow := by
  have hfinite : d.HasFiniteHours :=
    (Dossier.yields j d hj (Json.decodeValue_eq_ok.mp hd)).attendance
  have hrate := hfinite.isNaN_attendanceRate_iff
  have hnumber (hno : ¬ d.TotalsOverflow) : d.attendanceRate.isNaN = false :=
    Bool.eq_false_iff.mpr (mt hrate.mp hno)
  have hbound : (80 : Float).isNaN = false := rfl
  refine ⟨hrate, HasModestSchedule.not_overflow, ?_, ?_, ?_, ?_⟩
  · intro hno
    obtain ⟨hlow, hhigh⟩ := attendanceRate_between (hnumber hno)
    exact ⟨hlow, hhigh, fun bound hbound => Comparison.holds_atLeast_eq (hnumber hno) hbound⟩
  · exact fun hoverflow => Comparison.not_holds_of_isNaN (hrate.mpr hoverflow)
  · obtain ⟨r, hr, hget, hblocking, hcondition⟩ := RuleDocument.get?_closureMinimum
    refine ⟨r, hr, hget, hblocking, (ofRate .less 80).holds d.snapshot, ?_, ?_⟩
    · rw [hcondition, Condition.evaluate_of_wellFormed (by decide)]
      simp [Condition.comparisons]
    · rw [← Bool.not_eq_true, Comparison.holds_less_iff]
      exact hfinite.not_less_iff hbound
  · intro today hclosed
    exact (hfinite.not_less_iff hbound).mp (not_less_of_closing hclosed)

end Dossier

/-! ### Two days -/

/-- A dossier about to be closed, with two days of the same hours. -/
def readyJson (scheduled attended : Float) : Json :=
  let day (date : String) : Json := .object [("date", .string date),
    ("hours_scheduled", .number (.real scheduled)), ("hours_attended", .number (.real attended))]
  .object
    [("id", .string "dos-1"), ("tenant_id", .string "org-1"), ("status", .string "INVOICED"),
     ("learner", .object [("first_name", .string "Ana"), ("last_name", .string "Lopes"),
       ("email", .string "ana@example.org")]),
     ("organization", .object [("id", .string "org-1"), ("name", .string "Horizon"),
       ("nda_number", .string "11755432175"), ("kind", .string "TRAINING_PROVIDER")]),
     ("contracts", .array [.object [("id", .string "ctr-1"), ("status", .string "SIGNED")]]),
     ("attendance", .array [day "2026-03-09", day "2026-03-10"]),
     ("certificate_generated", .bool true)]

def readyDossier (scheduled attended : Float) : Dossier where
  id := "dos-1"
  tenantId := "org-1"
  status := .invoiced
  learner := ⟨"Ana", "Lopes", some "ana@example.org"⟩
  organization := ⟨"org-1", "Horizon", some "11755432175", false, none, .trainingProvider, none⟩
  contracts := [⟨"ctr-1", .signed, none, 0, none⟩]
  session := none
  proofs := []
  attendance :=
    [⟨⟨2026, 3, 9, by decide⟩, scheduled, attended, false⟩,
     ⟨⟨2026, 3, 10, by decide⟩, scheduled, attended, false⟩]
  certificateGenerated := true
  employerReference := none
  supervisorName := none

theorem decodeValue_readyJson (scheduled attended : Float) :
    Json.decodeValue Dossier.decode (readyJson scheduled attended) =
      .ok (readyDossier scheduled attended) := by
  rfl

theorem allFinite_readyJson {scheduled attended : Float} (hscheduled : scheduled.isFinite = true)
    (hattended : attended.isFinite = true) : (readyJson scheduled attended).AllFinite := by
  have hscheduled : (Json.Number.real scheduled).toFloat.isFinite = true := hscheduled
  have hattended : (Json.Number.real attended).toFloat.isFinite = true := hattended
  simp only [readyJson, Json.AllFinite, Json.AllFiniteMembers, Json.AllFiniteItems, hscheduled,
    hattended, and_true]

open Comparison (ofRate)
open RuleDocument (standard)

/-- Days of seven hours, half of them attended: the rate is below 80, and the dossier
is not closed. -/
theorem rate_usable_of_seven :
    (readyJson 7.0 3.5).AllFinite ∧
      Json.decodeValue Dossier.decode (readyJson 7.0 3.5) = .ok (readyDossier 7.0 3.5) ∧
      ¬ (readyDossier 7.0 3.5).TotalsOverflow ∧
      (ofRate .less 80).holds (readyDossier 7.0 3.5).snapshot = true ∧
      (ofRate .atLeast 80).holds (readyDossier 7.0 3.5).snapshot = false ∧
      (assess standard ⟨readyDossier 7.0 3.5, .closed, ⟨2026, 6, 1, by decide⟩⟩).verdict.isSuccess =
        false := by
  have hjson : (readyJson 7.0 3.5).AllFinite := allFinite_readyJson (by decide) (by decide)
  have hread := decodeValue_readyJson 7.0 3.5
  obtain ⟨-, hmodest, husable, -, -, hclosing⟩ := Dossier.rate_usable_iff hjson hread
  have hschedule : (readyDossier 7.0 3.5).HasModestSchedule :=
    ⟨by decide +kernel, by decide⟩
  have hno := hmodest hschedule
  have hless : (ofRate .less 80).holds (readyDossier 7.0 3.5).snapshot = true :=
    (Comparison.holds_less_iff _ _).mpr (by decide)
  have hleast := (husable hno).2.2 80 rfl
  rw [hless] at hleast
  refine ⟨hjson, hread, hno, hless, hleast, Bool.eq_false_iff.mpr fun hclosed => ?_⟩
  rcases hclosing _ hclosed with hreached | hoverflow
  · exact absurd hreached (by decide)
  · exact hno hoverflow

/-- Days of so many hours that two of them exceed all numbers, and little more than
half of them attended: the rate is not a number, and the dossier is closed. -/
theorem overflow_closes :
    (readyJson 1.7e308 0.9e308).AllFinite ∧
      Json.decodeValue Dossier.decode (readyJson 1.7e308 0.9e308) =
        .ok (readyDossier 1.7e308 0.9e308) ∧
      (readyDossier 1.7e308 0.9e308).attendanceRate.isNaN = true ∧
      (ofRate .less 80).holds (readyDossier 1.7e308 0.9e308).snapshot = false ∧
      (ofRate .atLeast 80).holds (readyDossier 1.7e308 0.9e308).snapshot = false ∧
      (assess standard
        ⟨readyDossier 1.7e308 0.9e308, .closed, ⟨2026, 6, 1, by decide⟩⟩).verdict.isSuccess =
          true := by
  have hjson : (readyJson 1.7e308 0.9e308).AllFinite :=
    allFinite_readyJson (by decide +kernel) (by decide +kernel)
  have hrate : (readyDossier 1.7e308 0.9e308).attendanceRate.isNaN = true := by decide +kernel
  obtain ⟨hless, hleast⟩ := Comparison.not_holds_of_isNaN hrate 80
  exact ⟨hjson, decodeValue_readyJson _ _, hrate, hless, hleast, by decide +kernel⟩

end DossierCompliance
