import DossierCompliance.Proofs.Assessment
import DossierCompliance.Proofs.Dossier.Snapshots
import DossierCompliance.Proofs.Rule.StandardText

/-!
What the standard rules allow. Each comparison of a blocking rule is read as a
statement about the dossier that the snapshot was taken of, and a change to a
status is allowed when the statements for this status hold, beside those of the
regulatory checks.
-/

namespace DossierCompliance

namespace Dossier

/-- Some contract is signed. -/
def IsSigned (d : Dossier) : Prop :=
  ∃ c ∈ d.contracts, c.status = .signed

theorem hasSignedContract_iff (d : Dossier) : d.hasSignedContract = true ↔ d.IsSigned := by
  simp [hasSignedContract, IsSigned]

/-- What is asked of a dossier for a change to a status on a day. The attendance
and the hours are compared as binary64 numbers. -/
def Allowed (d : Dossier) (today : Date) : Status → Prop
  | .draft => d.HasFunding today
  | .enrolled => d.HasFunding today ∧ d.learner.email ≠ none
  | .contracted => d.HasFunding today ∧ d.HasTutor
  | .inTraining => d.HasFunding today ∧ d.HasTutor ∧ d.IsSigned ∧ d.session ≠ none
  | .completed => d.HasFunding today ∧ ¬ (d.attendanceRate < 80 ∧ 0 < d.hoursScheduled)
  | .invoiced => d.HasDeclaration ∧ d.HasFunding today ∧ d.IsSigned ∧ d.attendance ≠ []
  | .closed => d.HasDeclaration ∧ d.HasFunding today ∧ d.IsSigned ∧
      d.certificateGenerated = true ∧ ¬ d.attendanceRate < 80
  | .cancelled => True

end Dossier

/-! ### Comparisons -/

theorem Value.beq_null_iff (v : Value) : (v == .null) = true ↔ v = .null := by
  have hbeq : (v == .null) = Value.beq v .null := rfl
  rw [hbeq]
  cases v <;> simp [Value.beq]

namespace Comparison

variable (d : Dossier)

/-- A comparison with null asks whether nothing is found. -/
theorem holds_absent_iff (snapshot : Value) (field : String) :
    holds snapshot ⟨field, .equals, none⟩ = true ↔ snapshot.resolve field = .null :=
  Value.beq_null_iff _

theorem holds_email :
    holds d.snapshot ⟨"learner.email", .equals, none⟩ = true ↔ d.learner.email = none := by
  rw [holds_absent_iff, d.resolve_email]
  exact Value.ofOption_eq_null_iff (fun _ => Value.noConfusion) _

theorem holds_date :
    holds d.snapshot ⟨"attendance.date", .equals, none⟩ = true ↔ d.attendance = [] := by
  rw [holds_absent_iff, d.resolve_date, Value.ofOption_eq_null_iff (fun _ => Value.noConfusion),
    List.head?_eq_none_iff]

theorem holds_session :
    holds d.snapshot ⟨"session", .equals, none⟩ = true ↔ d.session = none := by
  rw [holds_absent_iff, d.snapshot.resolve_key (by decide), d.step_snapshot.2.2.1]
  exact Value.ofOption_eq_null_iff (fun _ => Value.noConfusion) _

theorem holds_unsigned :
    holds d.snapshot ⟨"has_signed_contract", .isFalse, none⟩ = true ↔ ¬ d.IsSigned := by
  rw [holds, actual, d.snapshot.resolve_key (by decide), d.step_snapshot.2.1,
    ← d.hasSignedContract_iff]
  cases d.hasSignedContract <;> decide

theorem holds_uncertified :
    holds d.snapshot ⟨"certificate_generated", .isFalse, none⟩ = true ↔
      ¬ d.certificateGenerated = true := by
  rw [holds, actual, d.snapshot.resolve_key (by decide), d.step_snapshot.2.2.2.2.2.2]
  cases d.certificateGenerated <;> decide

theorem holds_rate (bound : Float) :
    holds d.snapshot ⟨"attendance_rate", .less, some (.number bound)⟩ = true ↔
      d.attendanceRate < bound := by
  have hkey : Value.segments "attendance_rate" = ["attendance_rate"] := by decide
  rw [holds, actual, d.snapshot.resolve_key hkey, d.step_snapshot.2.2.2.2.2.1]
  exact decide_eq_true_iff

theorem holds_hours (bound : Float) :
    holds d.snapshot ⟨"hours_scheduled", .greater, some (.number bound)⟩ = true ↔
      bound < d.hoursScheduled := by
  have hkey : Value.segments "hours_scheduled" = ["hours_scheduled"] := by decide
  rw [holds, actual, d.snapshot.resolve_key hkey, d.step_snapshot.2.2.2.2.1]
  exact decide_eq_true_iff

end Comparison

namespace RuleDocument

theorem wellFormed_standard : ∀ r ∈ standard.rules, r.condition.malformed? = none := by
  decide

theorem rulesFor_standard (target : Status) :
    standard.rulesFor target = match target with
      | .draft | .contracted => []
      | .enrolled => enrolmentRules
      | .inTraining => trainingRules
      | .completed => completionRules
      | .invoiced => invoiceRules
      | .closed => closureRules
      | .cancelled => cancellationRules := by
  cases target <;> rfl

/-- A blocking rule of the document keeps silent when one of its comparisons
does not hold. -/
theorem evaluate_standard {r : Rule} (hr : r ∈ standard.rules) (snapshot : Value) :
    r.condition.evaluate snapshot ≠ .ok true ↔
      ¬ ∀ c ∈ r.condition.comparisons, c.holds snapshot = true := by
  rw [Condition.evaluate_of_wellFormed (wellFormed_standard r hr), ne_eq, Except.ok.injEq,
    List.all_eq_true]

/-- The statements that the rules for a status make about a dossier. -/
theorem rules_standard_iff (d : Dossier) (target : Status) :
    (∀ r ∈ standard.rulesFor target, r.severity = .blocking →
      r.condition.evaluate d.snapshot ≠ .ok true) ↔
    match target with
    | .draft | .contracted | .cancelled => True
    | .enrolled => d.learner.email ≠ none
    | .inTraining => d.IsSigned ∧ d.session ≠ none
    | .completed => ¬ (d.attendanceRate < 80 ∧ 0 < d.hoursScheduled)
    | .invoiced => d.IsSigned ∧ d.attendance ≠ []
    | .closed => ¬ d.attendanceRate < 80 ∧ d.IsSigned ∧ d.certificateGenerated = true := by
  have hrules : (∀ r ∈ standard.rulesFor target, r.severity = .blocking →
        r.condition.evaluate d.snapshot ≠ .ok true) ↔
      ∀ r ∈ standard.rulesFor target, r.severity = .blocking →
        ¬ ∀ c ∈ r.condition.comparisons, c.holds d.snapshot = true := by
    refine forall₂_congr fun r hr => ?_
    rw [evaluate_standard (List.mem_of_mem_filter hr)]
  rw [hrules, rulesFor_standard]
  cases target with
  | draft => simp
  | enrolled =>
    simp [-Bool.not_eq_true, enrolmentRules, Condition.comparisons, Comparison.holds_email]
  | contracted => simp
  | inTraining =>
    simp [-Bool.not_eq_true, trainingRules, Condition.comparisons, Comparison.holds_unsigned,
      Comparison.holds_session]
  | completed =>
    simp [-Bool.not_eq_true, completionRules, Condition.comparisons, Comparison.holds_rate,
      Comparison.holds_hours]
    exact imp_iff_not_or.symm
  | invoiced =>
    simp [-Bool.not_eq_true, invoiceRules, Condition.comparisons, Comparison.holds_unsigned,
      Comparison.holds_date]
  | closed =>
    simp [-Bool.not_eq_true, closureRules, Condition.comparisons, Comparison.holds_rate,
      Comparison.holds_unsigned, Comparison.holds_uncertified]
  | cancelled => simp [cancellationRules]

/-- What the standard rules allow, which are loaded from their text: no rule fails
to be evaluated, and a change is allowed exactly when the dossier has what is asked
for the status. -/
theorem standard_verdict (d : Dossier) (target : Status) (today : Date) :
    loadStandard = .ok standard ∧
    (∀ ruleId why, .failed ruleId why ∉ (assess standard ⟨d, target, today⟩).findings) ∧
    ((assess standard ⟨d, target, today⟩).verdict.isSuccess = true ↔ d.Allowed today target) := by
  refine ⟨loadStandard_eq, ?_, ?_⟩
  · intro ruleId why
    exact not_failed_of_wellFormed wellFormed_standard _ ruleId why
  · rw [isSuccess_assess_iff, rules_standard_iff, Regulation.findings_eq_nil_iff,
      Regulation.checkNda_eq_none, Regulation.checkQualiopi_eq_none, Regulation.checkTutor_eq_none]
    cases target <;>
      simp [Dossier.Allowed, Status.isInvoicing, Status.isActive] <;> tauto

end RuleDocument

end DossierCompliance
