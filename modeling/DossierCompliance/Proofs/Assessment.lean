import DossierCompliance.Assessment
import DossierCompliance.Proofs.Dossier.Channels
import DossierCompliance.Proofs.Identity

/-!
What decides a verdict. The regulatory checks always block; a rule blocks when
its severity says so and its condition holds. A change is allowed when no check
and no blocking rule complains, and a rule that could not be evaluated never
stands in its way.
-/

namespace DossierCompliance

/-! ### Regulatory checks -/

/-- The certification is in force on a day: its last day, if one is known, is not over. -/
def Organization.IsCertifiedOn (o : Organization) (day : Date) : Prop :=
  o.qualiopiCertified = true ∧ ∀ last ∈ o.qualiopiValidUntil, day ≤ last

theorem Organization.qualiopiActiveOn_iff (o : Organization) (day : Date) :
    o.qualiopiActiveOn day = true ↔ o.IsCertifiedOn day := by
  rw [qualiopiActiveOn, IsCertifiedOn, Bool.and_eq_true]
  cases o.qualiopiValidUntil <;> simp

/-- The certification is in force on its last day, and no longer on the next. -/
example :
    let o : Organization := ⟨"org-1", "Horizon", none, true, some ⟨2026, 6, 30, rfl⟩,
      .trainingProvider, none⟩
    o.qualiopiActiveOn ⟨2026, 6, 30, rfl⟩ = true ∧
      o.qualiopiActiveOn ⟨2026, 7, 1, rfl⟩ = false := by
  decide

namespace Dossier

/-- The dossier has no public or mutualised funds, or its organization is
certified on the day. -/
def HasFunding (d : Dossier) (today : Date) : Prop :=
  (∀ c ∈ d.contracts, ∀ f ∈ c.financer, f.channel.isRegulated = false) ∨
    d.organization.IsCertifiedOn today

/-- An activity declaration number has eleven digits. -/
def IsDeclaration (text : String) : Prop :=
  IsSpacedNumber 11 text

/-- The organization has an activity declaration number. -/
def HasDeclaration (d : Dossier) : Prop :=
  ∃ text ∈ d.organization.ndaNumber, IsDeclaration text

/-- An optional text is given and holds more than blanks. -/
def IsGiven (stored : Option String) : Prop :=
  ∃ text ∈ stored, ∃ c ∈ text.toList, Text.blankChar c = false

/-- An apprentice has an employer and a supervisor. -/
def HasTutor (d : Dossier) : Prop :=
  d.organization.kind ≠ .apprenticeshipCenter ∨
    IsGiven d.employerReference ∧ IsGiven d.supervisorName

theorem isMissing_eq_false (stored : Option String) :
    Text.isMissing stored = false ↔ IsGiven stored := by
  cases stored with
  | none => simp [Text.isMissing, IsGiven]
  | some text => simp [Text.isMissing, Text.isBlank, IsGiven]

end Dossier

namespace Regulation

variable {input : CheckInput}

theorem isDigits_compact (text : String) :
    isDigits 11 (Text.compact text) = true ↔ Dossier.IsDeclaration text :=
  isDigits_iff.trans isNumber_compact_iff

theorem ndaComplaint?_eq_none (stored : Option String) (target : Status) :
    ndaComplaint? stored target = none ↔ ∃ text ∈ stored, Dossier.IsDeclaration text := by
  cases stored with
  | none => simp [ndaComplaint?]
  | some text =>
    simp only [ndaComplaint?, Nda.ofText, Option.mem_def, Option.some.injEq, exists_eq_left',
      ← isDigits_compact]
    cases isDigits 11 (Text.compact text) <;> simp

theorem checkNda_eq_none :
    checkNda input = none ↔ input.target.isInvoicing = true → input.dossier.HasDeclaration := by
  unfold checkNda
  cases hinvoicing : input.target.isInvoicing with
  | false => simp
  | true => simp [ndaComplaint?_eq_none, Dossier.HasDeclaration]

theorem checkQualiopi_eq_none :
    checkQualiopi input = none ↔
      input.target ≠ .cancelled → input.dossier.HasFunding input.today := by
  simp only [checkQualiopi, ite_eq_left_iff, reduceCtorEq, imp_false, not_not, Bool.or_eq_true,
    beq_iff_eq, List.isEmpty_iff, List.map_eq_nil_iff, Dossier.regulatedChannels_eq_nil,
    Dossier.HasFunding, Organization.qualiopiActiveOn_iff]
  tauto

theorem missingTutorFields_eq_nil (d : Dossier) :
    missingTutorFields d = [] ↔
      Dossier.IsGiven d.employerReference ∧ Dossier.IsGiven d.supervisorName := by
  rw [← Dossier.isMissing_eq_false, ← Dossier.isMissing_eq_false]
  cases hemployer : Text.isMissing d.employerReference <;>
    cases hsupervisor : Text.isMissing d.supervisorName <;>
      simp [missingTutorFields, hemployer, hsupervisor]

theorem checkTutor_eq_none :
    checkTutor input = none ↔ input.target.isActive = true → input.dossier.HasTutor := by
  unfold checkTutor
  simp only [ite_eq_left_iff, reduceCtorEq, imp_false, not_not, Bool.or_eq_true, bne_iff_ne,
    Bool.not_eq_true', List.isEmpty_iff, missingTutorFields_eq_nil, Dossier.HasTutor]
  cases input.target.isActive <;> simp

/-- Whatever a check complains of is a blocking violation under its own name. -/
theorem eq_blocking_of_check {c : Check} (hc : c ∈ checks) {v : Violation}
    (hv : c.violation? input = some v) :
    ∃ message details, v = blocking c.ruleId message details := by
  simp only [checks, List.mem_cons, List.not_mem_nil, or_false] at hc
  rcases hc with rfl | rfl | rfl
  · simp only [checkNda, Option.ite_none_left_eq_some, Option.map_eq_some_iff] at hv
    obtain ⟨_, message, _, rfl⟩ := hv
    exact ⟨message, _, rfl⟩
  · simp only [checkQualiopi, Option.ite_none_left_eq_some, Option.some.injEq] at hv
    obtain ⟨_, rfl⟩ := hv
    exact ⟨_, _, rfl⟩
  · simp only [checkTutor, Option.ite_none_left_eq_some, Option.some.injEq] at hv
    obtain ⟨_, rfl⟩ := hv
    exact ⟨_, _, rfl⟩

/-- Whatever a check complains of blocks. -/
theorem isBlocking_of_check {c : Check} (hc : c ∈ checks) {v : Violation}
    (hv : c.violation? input = some v) : v.isBlocking = true := by
  obtain ⟨message, details, rfl⟩ := eq_blocking_of_check hc hv
  rfl

theorem findings_eq_nil_iff :
    findings input = [] ↔
      checkNda input = none ∧ checkQualiopi input = none ∧ checkTutor input = none := by
  simp [findings, checks]

/-- The checks find nothing that blocks only if they find nothing. -/
theorem findings_unblocking_iff :
    (∀ f ∈ findings input, f.isBlocking = false) ↔ findings input = [] := by
  constructor
  · intro h
    rw [List.eq_nil_iff_forall_not_mem]
    intro f hf
    obtain ⟨c, hc, hfound⟩ := List.mem_filterMap.mp hf
    obtain ⟨v, hv, rfl⟩ := Option.map_eq_some_iff.mp hfound
    have hopen : v.isBlocking = false := h _ hf
    rw [isBlocking_of_check hc hv] at hopen
    cases hopen
  · intro h
    simp [h]

end Regulation

/-! ### Rules -/

/-- A rule finds nothing that blocks unless it is a blocking one and its
condition holds. -/
theorem Rule.finding_unblocking_iff (r : Rule) (snapshot : Value) :
    (∀ f ∈ r.finding? snapshot, f.isBlocking = false) ↔
      (r.severity = .blocking → r.condition.evaluate snapshot ≠ .ok true) := by
  unfold Rule.finding?
  cases r.condition.evaluate snapshot with
  | error why => simp [Finding.isBlocking]
  | ok holds =>
    cases holds with
    | false => simp
    | true => simp [Finding.isBlocking, Violation.isBlocking, Rule.violation]

/-- A condition of well-formed paths is evaluated. -/
theorem Condition.evaluate_of_wellFormed {c : Condition} (hc : c.malformed? = none)
    (snapshot : Value) :
    c.evaluate snapshot = .ok (c.comparisons.all (·.holds snapshot)) := by
  rw [evaluate, hc]

/-! ### Verdicts -/

theorem Assessment.isSuccess_iff (a : Assessment) :
    a.verdict.isSuccess = true ↔ ∀ f ∈ a.findings, f.isBlocking = false := by
  simp [verdict, Verdict.isSuccess]

/-- A change is allowed when none of the violations blocks: a rule that could not
be evaluated does not. -/
theorem Assessment.isSuccess_eq_isEmpty (a : Assessment) :
    a.verdict.isSuccess =
      ((a.findings.filterMap (·.violation?)).filter fun v => v.severity = .blocking).isEmpty := by
  rw [Bool.eq_iff_iff, isSuccess_iff, List.isEmpty_iff, List.filter_eq_nil_iff]
  simp only [← Violation.isBlocking_eq, List.mem_filterMap, Bool.not_eq_true]
  constructor
  · rintro h v ⟨f, hf, hv⟩
    have hopen := h f hf
    cases f with
    | violation w =>
      cases hv
      exact hopen
    | failed ruleId why => cases hv
  · intro h f hf
    cases f with
    | violation v => exact h v ⟨_, hf, rfl⟩
    | failed ruleId why => rfl

/-- A change is allowed when the checks find nothing and no blocking rule for
the status has a condition that holds. -/
theorem isSuccess_assess_iff (rules : RuleDocument) (input : CheckInput) :
    (assess rules input).verdict.isSuccess = true ↔
      Regulation.findings input = [] ∧
        ∀ r ∈ rules.rulesFor input.target, r.severity = .blocking →
          r.condition.evaluate input.dossier.snapshot ≠ .ok true := by
  have hrules : (∀ f ∈ rules.findings input.target input.dossier.snapshot,
        f.isBlocking = false) ↔
      ∀ r ∈ rules.rulesFor input.target, r.severity = .blocking →
        r.condition.evaluate input.dossier.snapshot ≠ .ok true := by
    simp only [← Rule.finding_unblocking_iff, RuleDocument.findings, List.mem_filterMap]
    constructor
    · intro h r hr f hf
      exact h f ⟨r, hr, hf⟩
    · rintro h f ⟨r, hr, hf⟩
      exact h r hr f hf
  rw [Assessment.isSuccess_iff, assess, List.forall_mem_append, Regulation.findings_unblocking_iff,
    hrules]

/-- What a rule finds is a violation when its condition holds. -/
theorem Rule.violation_finding?_iff (r : Rule) (snapshot : Value) (v : Violation) :
    (r.finding? snapshot).bind (·.violation?) = some v ↔
      r.condition.evaluate snapshot = .ok true ∧ r.violation snapshot = v := by
  unfold Rule.finding?
  cases r.condition.evaluate snapshot with
  | error why => simp [Finding.violation?]
  | ok holds => cases holds <;> simp [Finding.violation?]

/-- A violation is what a check complains of, or that of a rule whose condition
holds. -/
theorem mem_violations_assess {rules : RuleDocument} {input : CheckInput} {v : Violation} :
    v ∈ (assess rules input).violations ↔
      (∃ c ∈ Regulation.checks, c.violation? input = some v) ∨
        ∃ r ∈ rules.rulesFor input.target,
          r.condition.evaluate input.dossier.snapshot = .ok true ∧
            r.violation input.dossier.snapshot = v := by
  rw [Assessment.violations, assess, List.filterMap_append, List.mem_append, Regulation.findings,
    RuleDocument.findings, List.filterMap_filterMap, List.filterMap_filterMap, List.mem_filterMap,
    List.mem_filterMap]
  simp only [Rule.violation_finding?_iff]
  refine or_congr (exists_congr fun c => and_congr_right fun _ => ?_) Iff.rfl
  cases c.violation? input <;> rfl

/-- No rule fails whose condition has well-formed paths only. -/
theorem not_failed_of_wellFormed {rules : RuleDocument}
    (hrules : ∀ r ∈ rules.rules, r.condition.malformed? = none) (input : CheckInput)
    (ruleId : String) (why : MalformedPath) :
    Finding.failed ruleId why ∉ (assess rules input).findings := by
  intro hf
  rcases List.mem_append.mp hf with hcheck | hrule
  · obtain ⟨c, _, hfound⟩ := List.mem_filterMap.mp hcheck
    obtain ⟨v, _, heq⟩ := Option.map_eq_some_iff.mp hfound
    cases heq
  · obtain ⟨r, hr, hfound⟩ := List.mem_filterMap.mp hrule
    have hwell := hrules r (List.mem_of_mem_filter hr)
    rw [Rule.finding?, Condition.evaluate_of_wellFormed hwell] at hfound
    cases hholds : r.condition.comparisons.all (·.holds input.dossier.snapshot) <;>
      simp [hholds] at hfound

end DossierCompliance
