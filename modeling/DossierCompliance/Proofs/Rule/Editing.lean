import DossierCompliance.Proofs.Assessment
import DossierCompliance.Proofs.Rule.Explanations

/-!
Editing a rule document. The findings of the regulatory checks come first and
do not depend on the document; behind them each rule for the target status has
its say, decided by the rule and the snapshot alone. So an edit shows where it
was made and nowhere else: rules change their places without changing what is
found, rules for other statuses do not matter, and a rule that is added can
only add a complaint.
-/

namespace DossierCompliance

open Value (Malformed)

/-! ### Verdicts of related assessments -/

namespace Verdict

/-- The same verdict with the same texts, perhaps in another order. -/
structure SameUpToOrder (v w : Verdict) : Prop where
  isSuccess : v.isSuccess = w.isSuccess
  errors : v.errors.Perm w.errors
  warnings : v.warnings.Perm w.warnings

/-- All errors and warnings of the one are found in the other, in their order;
so what the one blocks the other does not allow. -/
structure Within (v w : Verdict) : Prop where
  errors : v.errors.Sublist w.errors
  warnings : v.warnings.Sublist w.warnings
  isSuccess : w.isSuccess = true → v.isSuccess = true

theorem Within.of_sublists {v w : Verdict} (herrors : v.errors.Sublist w.errors)
    (hwarnings : v.warnings.Sublist w.warnings) : v.Within w where
  errors := herrors
  warnings := hwarnings
  isSuccess hsuccess := by
    rw [Verdict.isSuccess, List.isEmpty_iff] at hsuccess ⊢
    rw [hsuccess] at herrors
    exact List.sublist_nil.mp herrors

end Verdict

/-- The text that names a rule with a malformed path. -/
theorem Finding.message_failed (ruleId path : String) :
    (Finding.failed ruleId ⟨path⟩).message =
      "Rule " ++ ruleId ++ " could not be evaluated: " ++
        ("malformed field path " ++ Text.quoted path) := rfl

namespace Assessment

variable {a b : Assessment}

theorem sameUpToOrder (h : a.findings.Perm b.findings) : a.verdict.SameUpToOrder b.verdict := by
  have herrors : a.verdict.errors.Perm b.verdict.errors := (h.filter _).map _
  refine ⟨?_, herrors, (h.filter _).map _⟩
  rw [Verdict.isSuccess, Verdict.isSuccess, herrors.isEmpty_eq]

theorem within (h : a.findings.Sublist b.findings) : a.verdict.Within b.verdict :=
  .of_sublists ((h.filter _).map _) ((h.filter _).map _)

/-- A change is allowed when no violation found is a blocking one. -/
theorem isSuccess_iff_severity (a : Assessment) :
    a.verdict.isSuccess = true ↔ ∀ v, .violation v ∈ a.findings → v.severity ≠ .blocking := by
  rw [isSuccess_iff]
  constructor
  · intro h v hv
    simpa [Finding.isBlocking, Violation.isBlocking] using h _ hv
  · intro h f hf
    cases f with
    | violation v => simpa [Finding.isBlocking, Violation.isBlocking] using h v hf
    | failed ruleId why => rfl

/-- Each finding is told once, as an error or as a warning. -/
theorem length_verdict (a : Assessment) :
    a.verdict.errors.length + a.verdict.warnings.length = a.findings.length := by
  have hsplit := List.length_eq_countP_add_countP (·.isBlocking) (l := a.findings)
  simpa [verdict, ← List.countP_eq_length_filter] using hsplit.symm

/-- The second assessment finds one thing more: that a rule has a malformed
path, of which it warns. -/
structure AddsFailure (a b : Assessment) (ruleId path : String) : Prop where
  findings : ∃ earlier later, a.findings = earlier ++ later ∧
    b.findings = earlier ++ .failed ruleId ⟨path⟩ :: later
  errors : b.verdict.errors = a.verdict.errors
  warnings : ∃ earlier later, a.verdict.warnings = earlier ++ later ∧
    b.verdict.warnings = earlier ++
      ("Rule " ++ ruleId ++ " could not be evaluated: " ++
        ("malformed field path " ++ Text.quoted path)) :: later

theorem addsFailure {ruleId path : String} {earlier later : List Finding}
    (ha : a.findings = earlier ++ later)
    (hb : b.findings = earlier ++ .failed ruleId ⟨path⟩ :: later) :
    a.AddsFailure b ruleId path := by
  refine ⟨⟨earlier, later, ha, hb⟩, ?_, ?_⟩
  · simp [verdict, ha, hb, Finding.isBlocking]
  · refine ⟨(earlier.filter (!·.isBlocking)).map (·.message),
      (later.filter (!·.isBlocking)).map (·.message), ?_, ?_⟩
    · simp [verdict, ha]
    · simp [verdict, hb, Finding.isBlocking, Finding.message_failed]

end Assessment

/-! ### Regulatory findings -/

namespace Regulation

variable {input : CheckInput}

/-- The checks are made in one order: for the declaration, the certification and
the tutor. -/
theorem findings_eq (input : CheckInput) :
    findings input =
      ([checkNda input, checkQualiopi input, checkTutor input].filterMap id).map .violation := by
  rw [List.map_filterMap]
  rfl

/-- What the checks find blocks and is marked as theirs. -/
theorem blocking_of_mem_findings {f : Finding} (hf : f ∈ findings input) :
    ∃ v, f = .violation v ∧ v.severity = .blocking ∧ v.context = .tenantCompliance := by
  obtain ⟨c, hc, hfound⟩ := List.mem_filterMap.mp hf
  obtain ⟨v, hv, rfl⟩ := Option.map_eq_some_iff.mp hfound
  obtain ⟨message, details, rfl⟩ := eq_blocking_of_check hc hv
  exact ⟨_, rfl, rfl, rfl⟩

/-- The checks complain in their order, each at most once and under its own name. -/
theorem ruleIds_findings (input : CheckInput) :
    ((findings input).map (·.ruleId)).Sublist (checks.map (·.ruleId)) := by
  have hnamed : ∀ cs ⊆ checks,
      ((cs.filterMap fun c => (c.violation? input).map Finding.violation).map (·.ruleId)).Sublist
        (cs.map (·.ruleId)) := by
    intro cs hcs
    induction cs with
    | nil => exact List.Sublist.slnil
    | cons c cs ih =>
      obtain ⟨hc, hrest⟩ := List.cons_subset.mp hcs
      cases hv : c.violation? input with
      | none =>
        simpa [hv] using (ih hrest).cons c.ruleId
      | some v =>
        obtain ⟨message, details, rfl⟩ := eq_blocking_of_check hc hv
        simpa [hv, Finding.ruleId, blocking] using ih hrest
  exact hnamed checks (List.Subset.refl _)

end Regulation

/-! ### Rules -/

namespace Rule

/-- What a rule has to say of a snapshot. -/
inductive Decided (r : Rule) (snapshot : Value) : Option Finding → Prop where
  | failed (path : String) (h : r.condition.FirstMalformed path) :
      Decided r snapshot (some (.failed r.id ⟨path⟩))
  | violated (hpaths : ∀ path ∈ r.condition.fields, ¬ Malformed path)
      (h : ∀ t ∈ r.condition.comparisons, t.holds snapshot = true) :
      Decided r snapshot (some (.violation (r.violation snapshot)))
  | silent (hpaths : ∀ path ∈ r.condition.fields, ¬ Malformed path)
      (h : ∃ t ∈ r.condition.comparisons, t.holds snapshot = false) :
      Decided r snapshot none

theorem decided_finding? (r : Rule) (snapshot : Value) :
    r.Decided snapshot (r.finding? snapshot) := by
  rw [finding?]
  cases hevaluate : r.condition.evaluate snapshot with
  | error why => exact .failed why.path (Condition.evaluate_eq_error_iff.mp hevaluate)
  | ok holds =>
    obtain ⟨hpaths, hholds⟩ := Condition.evaluate_eq_ok_iff.mp hevaluate
    cases holds with
    | true => exact .violated hpaths (hholds.mp rfl)
    | false =>
      refine .silent hpaths ?_
      simpa using hholds

end Rule

/-! ### Documents -/

namespace RuleDocument

variable {rules other : RuleDocument} {input : CheckInput}

/-- One list of rules is made from another by putting in and leaving out rules
that are not bound to a status. To change such a rule is to do both. -/
inductive EditedElsewhere (target : Status) : List Rule → List Rule → Prop where
  | nil : EditedElsewhere target [] []
  | keep (r : Rule) {xs ys : List Rule} (rest : EditedElsewhere target xs ys) :
      EditedElsewhere target (r :: xs) (r :: ys)
  | leaveOut (r : Rule) {xs ys : List Rule} (hr : r.trigger.target ≠ target)
      (rest : EditedElsewhere target xs ys) : EditedElsewhere target (r :: xs) ys
  | putIn (r : Rule) {xs ys : List Rule} (hr : r.trigger.target ≠ target)
      (rest : EditedElsewhere target xs ys) : EditedElsewhere target xs (r :: ys)

/-- The rules of a list that are bound to a status, in their order. -/
def boundTo (target : Status) (rs : List Rule) : List Rule :=
  rs.filter fun r => r.trigger.target = target

theorem boundTo_append (target : Status) (xs ys : List Rule) :
    boundTo target (xs ++ ys) = boundTo target xs ++ boundTo target ys :=
  List.filter_append xs ys

theorem findings_assess (rules : RuleDocument) (input : CheckInput) :
    (assess rules input).findings =
      Regulation.findings input ++
        (boundTo input.target rules.rules).filterMap (·.finding? input.dossier.snapshot) := rfl

theorem boundTo_editedElsewhere {target : Status} {xs ys : List Rule}
    (h : EditedElsewhere target xs ys) : boundTo target ys = boundTo target xs := by
  induction h with
  | nil => rfl
  | keep r _ ih =>
    rw [boundTo, boundTo, List.filter_cons, List.filter_cons, ← boundTo, ← boundTo, ih]
  | leaveOut r hr _ ih =>
    rw [ih, boundTo, boundTo, List.filter_cons_of_neg (by simpa using hr)]
  | putIn r hr _ ih =>
    rw [← ih, boundTo, boundTo, List.filter_cons_of_neg (by simpa using hr)]

/-- Rules for other statuses do not matter. -/
theorem assess_editedElsewhere (h : EditedElsewhere input.target rules.rules other.rules) :
    assess other input = assess rules input := by
  have hfindings : (assess other input).findings = (assess rules input).findings := by
    rw [findings_assess, findings_assess, boundTo_editedElsewhere h]
  exact congrArg (Assessment.mk input.target) hfindings

theorem findings_perm (h : rules.rules.Perm other.rules) :
    (assess rules input).findings.Perm (assess other input).findings := by
  rw [findings_assess, findings_assess]
  exact ((h.filter _).filterMap _).append_left _

theorem findings_sublist (h : rules.rules.Sublist other.rules) :
    (assess rules input).findings.Sublist (assess other input).findings := by
  rw [findings_assess, findings_assess]
  exact ((h.filter _).filterMap _).append_left _

/-- A rule with a malformed path adds its failure and nothing else. -/
theorem addsFailure_of_malformed {before after : List Rule} {r : Rule} {path : String}
    (hrules : rules.rules = before ++ after) (hother : other.rules = before ++ r :: after)
    (htarget : r.trigger.target = input.target) (hpath : r.condition.FirstMalformed path) :
    (assess rules input).AddsFailure (assess other input) r.id path := by
  have hfound : r.finding? input.dossier.snapshot = some (.failed r.id ⟨path⟩) := by
    have hfailed : r.condition.evaluate input.dossier.snapshot = .error ⟨path⟩ :=
      Condition.evaluate_eq_error_iff.mpr hpath
    rw [Rule.finding?, hfailed]
  have hcons : (boundTo input.target (r :: after)).filterMap (·.finding? input.dossier.snapshot) =
      .failed r.id ⟨path⟩ ::
        (boundTo input.target after).filterMap (·.finding? input.dossier.snapshot) := by
    rw [boundTo, List.filter_cons_of_pos (by simpa using htarget), ← boundTo]
    exact List.filterMap_cons_some hfound
  have hwithout := findings_assess rules input
  have hwith := findings_assess other input
  rw [hrules, boundTo_append, List.filterMap_append, ← List.append_assoc] at hwithout
  rw [hother, boundTo_append, List.filterMap_append, hcons, ← List.append_assoc] at hwith
  exact Assessment.addsFailure hwithout hwith

/-- A check that complains blocks the change, whatever the document. -/
theorem isSuccess_eq_false_of_check (rules : RuleDocument)
    (h : ∃ c ∈ Regulation.checks, c.violation? input ≠ none) :
    (assess rules input).verdict.isSuccess = false := by
  obtain ⟨c, hc, hcomplains⟩ := h
  obtain ⟨v, hv⟩ := Option.ne_none_iff_exists'.mp hcomplains
  have hfound : Finding.violation v ∈ Regulation.findings input := by
    refine List.mem_filterMap.mpr ⟨c, hc, ?_⟩
    rw [hv, Option.map_some]
  rw [Bool.eq_false_iff]
  intro hsuccess
  rw [((isSuccess_assess_iff rules input).mp hsuccess).1] at hfound
  exact List.not_mem_nil hfound

/-- What edits of a document do to an assessment. The findings are those of the
checks, the same for every document, and behind them those of the rules for the
target status, each decided by itself. So a rule with a malformed path adds one
warning; rules may change places; rules for other statuses do not matter; more
rules never allow what fewer block; and what a check blocks stays blocked. -/
theorem editing_is_local (rules : RuleDocument) (input : CheckInput) :
    (assess rules input).findings =
      Regulation.findings input ++
        (boundTo input.target rules.rules).filterMap (·.finding? input.dossier.snapshot) ∧
    Regulation.findings input =
      ([Regulation.checkNda input, Regulation.checkQualiopi input,
        Regulation.checkTutor input].filterMap id).map .violation ∧
    (∀ f ∈ Regulation.findings input,
      ∃ v, f = .violation v ∧ v.severity = .blocking ∧ v.context = .tenantCompliance) ∧
    ((Regulation.findings input).map (·.ruleId)).Sublist
      [Regulation.ndaRequired, Regulation.qualiopiRequired, Regulation.tutorRequired] ∧
    (∀ r : Rule, r.Decided input.dossier.snapshot (r.finding? input.dossier.snapshot)) ∧
    (∀ (other : RuleDocument) (before after : List Rule) (r : Rule) (path : String),
      rules.rules = before ++ after → other.rules = before ++ r :: after →
      r.trigger.target = input.target → r.condition.FirstMalformed path →
      (assess rules input).AddsFailure (assess other input) r.id path) ∧
    (∀ other : RuleDocument, rules.rules.Perm other.rules →
      (assess rules input).verdict.SameUpToOrder (assess other input).verdict) ∧
    (∀ other : RuleDocument, EditedElsewhere input.target rules.rules other.rules →
      assess other input = assess rules input) ∧
    (∀ other : RuleDocument, rules.rules.Sublist other.rules →
      (assess rules input).verdict.Within (assess other input).verdict) ∧
    ((∃ c ∈ Regulation.checks, c.violation? input ≠ none) →
      (assess rules input).verdict.isSuccess = false) ∧
    ((assess rules input).verdict.isSuccess = true ↔
      ∀ v, .violation v ∈ (assess rules input).findings → v.severity ≠ .blocking) ∧
    (assess rules input).verdict.errors.length + (assess rules input).verdict.warnings.length =
      (assess rules input).findings.length := by
  refine ⟨findings_assess rules input, Regulation.findings_eq input,
    fun f hf => Regulation.blocking_of_mem_findings hf, Regulation.ruleIds_findings input,
    fun r => r.decided_finding? _, ?_, ?_, ?_, ?_, isSuccess_eq_false_of_check rules,
    Assessment.isSuccess_iff_severity _, Assessment.length_verdict _⟩
  · intro other before after r path hrules hother htarget hpath
    exact addsFailure_of_malformed hrules hother htarget hpath
  · intro other hperm
    exact Assessment.sameUpToOrder (findings_perm hperm)
  · intro other hedited
    exact assess_editedElsewhere hedited
  · intro other hsublist
    exact Assessment.within (findings_sublist hsublist)

end RuleDocument

end DossierCompliance
