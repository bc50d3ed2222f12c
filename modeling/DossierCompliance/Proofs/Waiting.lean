import DossierCompliance.Proofs.Regulation
import DossierCompliance.Proofs.Rule.Editing

/-!
Waiting with a change of status. Of all that is assessed the certification alone
is asked for on a day, and it can only run out. So what is found on a day is
found again on each later day, told in the same words, and nothing can be added
but the complaint about the certification; without a last day of the
certification nothing that is told depends on the day.
-/

namespace DossierCompliance

/-! ### What is told -/

/-- What is told of a finding, the details apart. A rule that could not be
evaluated has no severity. -/
structure Notice where
  ruleId : String
  severity : Option Severity
  message : String

def Notice.isBlocking (n : Notice) : Bool :=
  n.severity == some .blocking

def Finding.notice (f : Finding) : Notice where
  ruleId := f.ruleId
  severity := f.violation?.map (·.severity)
  message := f.message

theorem Finding.isBlocking_notice (f : Finding) : f.notice.isBlocking = f.isBlocking := by
  cases f <;> rfl

namespace Assessment

variable {a b : Assessment}

def notices (a : Assessment) : List Notice :=
  a.findings.map (·.notice)

/-- The verdict does not depend on the details. -/
theorem verdict_eq_of_notices (a : Assessment) :
    a.verdict.errors = (a.notices.filter (·.isBlocking)).map (·.message) ∧
      a.verdict.warnings = (a.notices.filter (!·.isBlocking)).map (·.message) := by
  simp only [notices, List.filter_map, List.map_map, Function.comp_def, Finding.isBlocking_notice]
  exact ⟨rfl, rfl⟩

theorem within_of_notices (h : a.notices.Sublist b.notices) : a.verdict.Within b.verdict := by
  obtain ⟨herrors, hwarnings⟩ := a.verdict_eq_of_notices
  obtain ⟨herrors', hwarnings'⟩ := b.verdict_eq_of_notices
  apply Verdict.Within.of_sublists
  · rw [herrors, herrors']
    exact (h.filter _).map _
  · rw [hwarnings, hwarnings']
    exact (h.filter _).map _

/-- All that the first assessment finds is found by the second, in the same
order; beside it the second finds at most that a certification is required. -/
structure StillFoundBy (a b : Assessment) : Prop where
  notices : a.notices.Sublist b.notices
  added : a.notices = b.notices ∨ ∃ v before after,
    b.HasComplaint Regulation.qualiopiRequired v ∧
      a.findings = before ++ after ∧ b.findings = before ++ .violation v :: after
  verdict : a.verdict.Within b.verdict

theorem StillFoundBy.of_notices_eq (h : a.notices = b.notices) : a.StillFoundBy b where
  notices := h ▸ List.Sublist.refl _
  added := .inl h
  verdict := within_of_notices (h ▸ List.Sublist.refl _)

theorem StillFoundBy.of_added {v : Violation} {before after : List Finding}
    (hv : b.HasComplaint Regulation.qualiopiRequired v) (ha : a.findings = before ++ after)
    (hb : b.findings = before ++ .violation v :: after) : a.StillFoundBy b := by
  have hfindings : a.findings.Sublist b.findings := by
    rw [ha, hb]
    exact (List.sublist_cons_self _ _).append_left before
  exact ⟨hfindings.map _, .inr ⟨v, before, after, hv, ha, hb⟩, within hfindings⟩

end Assessment

/-! ### The day of an assessment -/

theorem Organization.IsCertifiedOn.of_le {o : Organization} {earlier later : Date}
    (h : o.IsCertifiedOn later) (hle : earlier ≤ later) : o.IsCertifiedOn earlier :=
  ⟨h.1, fun last hlast => Int.le_trans hle (h.2 last hlast)⟩

/-- Without a last day a certification is in force on every day, or on none. -/
theorem Organization.isCertifiedOn_of_no_end {o : Organization} (h : o.qualiopiValidUntil = none)
    (day : Date) : o.IsCertifiedOn day ↔ o.qualiopiCertified = true := by
  simp [IsCertifiedOn, h]

namespace Regulation

variable {d : Dossier} {target : Status} {day other : Date}

theorem checkQualiopi_of_le (hle : day ≤ other) (h : checkQualiopi ⟨d, target, other⟩ = none) :
    checkQualiopi ⟨d, target, day⟩ = none := by
  rw [checkQualiopi_eq_none, Dossier.hasFunding_iff] at h ⊢
  exact fun htarget => (h htarget).imp_right fun hcertified => hcertified.of_le hle

theorem checkQualiopi_of_no_end (hend : d.organization.qualiopiValidUntil = none) :
    checkQualiopi ⟨d, target, day⟩ = none ↔ checkQualiopi ⟨d, target, other⟩ = none := by
  rw [checkQualiopi_eq_none, checkQualiopi_eq_none, Dossier.hasFunding_iff, Dossier.hasFunding_iff,
    Organization.isCertifiedOn_of_no_end hend, Organization.isCertifiedOn_of_no_end hend]

/-- The day on which the certification is missed stands in the details only. -/
theorem notice_of_checkQualiopi {v w : Violation}
    (hv : checkQualiopi ⟨d, target, day⟩ = some v)
    (hw : checkQualiopi ⟨d, target, other⟩ = some w) :
    (Finding.violation v).notice = (Finding.violation w).notice := by
  have hmessage : v.message = w.message :=
    (named_of_checkQualiopi hv).2.trans (named_of_checkQualiopi hw).2.symm
  obtain ⟨message, details, rfl⟩ := eq_blocking_of_check qualiopi_mem_checks hv
  obtain ⟨message', details', rfl⟩ := eq_blocking_of_check qualiopi_mem_checks hw
  obtain rfl : message = message' := hmessage
  rfl

end Regulation

open Regulation

variable (rules : RuleDocument) (d : Dossier) (target : Status)

/-- The findings of two days differ in one place only, that of the certification. -/
theorem exists_findings_around (day other : Date) :
    ∃ before after : List Finding,
      (assess rules ⟨d, target, day⟩).findings =
        before ++ ((checkQualiopi ⟨d, target, day⟩).toList.map .violation ++ after) ∧
      (assess rules ⟨d, target, other⟩).findings =
        before ++ ((checkQualiopi ⟨d, target, other⟩).toList.map .violation ++ after) := by
  have hthree (nda qualiopi tutor : Option Violation) :
      [nda, qualiopi, tutor].filterMap id = nda.toList ++ (qualiopi.toList ++ tutor.toList) := by
    cases nda <;> cases qualiopi <;> cases tutor <;> rfl
  have hnda : checkNda ⟨d, target, other⟩ = checkNda ⟨d, target, day⟩ := rfl
  have htutor : checkTutor ⟨d, target, other⟩ = checkTutor ⟨d, target, day⟩ := rfl
  refine ⟨(checkNda ⟨d, target, day⟩).toList.map .violation,
    (checkTutor ⟨d, target, day⟩).toList.map .violation ++ rules.findings target d.snapshot,
    ?_, ?_⟩
  · rw [assess, findings_eq, hthree]
    simp only [List.map_append, List.append_assoc]
  · rw [assess, findings_eq, hthree, hnda, htutor]
    simp only [List.map_append, List.append_assoc]

/-- Where a certification is missed on both days or on neither, the same is told. -/
theorem notices_eq_of_checkQualiopi {day other : Date}
    (h : checkQualiopi ⟨d, target, day⟩ = none ↔ checkQualiopi ⟨d, target, other⟩ = none) :
    (assess rules ⟨d, target, day⟩).notices = (assess rules ⟨d, target, other⟩).notices := by
  obtain ⟨before, after, hday, hother⟩ := exists_findings_around rules d target day other
  rw [Assessment.notices, Assessment.notices, hday, hother]
  cases hv : checkQualiopi ⟨d, target, day⟩ with
  | none => rw [h.mp hv]
  | some v =>
    obtain ⟨w, hw⟩ : ∃ w, checkQualiopi ⟨d, target, other⟩ = some w := by
      refine Option.ne_none_iff_exists'.mp fun hnone => ?_
      rw [h.mpr hnone] at hv
      cases hv
    rw [hw]
    simp [notice_of_checkQualiopi hv hw]

/-- Waiting does not help. What is found on a day is found on each later day, in
the same order, and nothing else can be found then but that a certification is
required; so a change that is allowed on a later day is allowed already. When no
last day of the certification is known, the same is told on all days. -/
theorem waiting_never_helps :
    (∀ earlier later : Date, earlier ≤ later →
      (assess rules ⟨d, target, earlier⟩).StillFoundBy (assess rules ⟨d, target, later⟩)) ∧
    (d.organization.qualiopiValidUntil = none → ∀ day other : Date,
      (assess rules ⟨d, target, day⟩).notices = (assess rules ⟨d, target, other⟩).notices) := by
  constructor
  · intro earlier later hle
    cases hlater : checkQualiopi ⟨d, target, later⟩ with
    | none =>
      have hearlier := checkQualiopi_of_le hle hlater
      exact .of_notices_eq (notices_eq_of_checkQualiopi rules d target (by rw [hearlier, hlater]))
    | some v =>
      cases hearlier : checkQualiopi ⟨d, target, earlier⟩ with
      | some w =>
        -- The two complaints give different days in their details.
        have hboth : checkQualiopi ⟨d, target, earlier⟩ = none ↔
            checkQualiopi ⟨d, target, later⟩ = none := by
          rw [hearlier, hlater]
          exact iff_of_false (Option.some_ne_none w) (Option.some_ne_none v)
        exact .of_notices_eq (notices_eq_of_checkQualiopi rules d target hboth)
      | none =>
        obtain ⟨before, after, ha, hb⟩ := exists_findings_around rules d target earlier later
        rw [hearlier] at ha
        rw [hlater] at hb
        apply Assessment.StillFoundBy.of_added _ ha hb
        exact (hasComplaint_iff rules ⟨d, target, later⟩ qualiopi_mem_checks).mpr hlater
  · intro hend day other
    exact notices_eq_of_checkQualiopi rules d target (checkQualiopi_of_no_end hend)

/-- An enrolment that is allowed on the last day of the certification, and not on
the next. -/
theorem refinanced_waits :
    let today := assess ⟨none, []⟩ ⟨refinanced, .enrolled, ⟨2026, 6, 30, rfl⟩⟩
    let tomorrow := assess ⟨none, []⟩ ⟨refinanced, .enrolled, ⟨2026, 7, 1, rfl⟩⟩
    today.StillFoundBy tomorrow ∧ today.verdict.isSuccess = true ∧
      tomorrow.verdict.isSuccess = false := by
  intro today tomorrow
  have hlater : (⟨2026, 6, 30, rfl⟩ : Date) ≤ ⟨2026, 7, 1, rfl⟩ := by decide
  exact ⟨(waiting_never_helps ⟨none, []⟩ refinanced .enrolled).1 _ _ hlater, rfl, rfl⟩

end DossierCompliance
