import DossierCompliance.Engine.Transition
import DossierCompliance.Proofs.Engine.Traces

/-!
What a validation writes. Each alert that is due is tried once, in order, and
the audit entry once behind them if one is due, whatever became of the writes
before. The report is read off the exchanges: an identifier for each write
that succeeded, a failure for each that did not, and the verdict in any case.
-/

namespace DossierCompliance

/-! ### Exchanges -/

namespace Exchange

/-- The identifier of an alert that was written. -/
def alertId? : Exchange → Option Uuid
  | ⟨.recordAlert alert, .ok _⟩ => some alert.id
  | _ => none

/-- The identifier of an audit entry that was stored. -/
def auditId? : Exchange → Option Uuid
  | ⟨.recordAudit _ _, .ok entry⟩ => some entry.id
  | _ => none

/-- What is reported of a write that failed. -/
def failure? : Exchange → Option PersistenceFailure
  | ⟨.recordAlert alert, .error why⟩ => some ⟨.alert alert.ruleId, why.message⟩
  | ⟨.recordAudit _ _, .error why⟩ => some ⟨.audit, why.message⟩
  | _ => none

end Exchange

namespace Engine

variable {σ : Type} (h : StoreHandler σ) (supply : Supply)

/-! ### Alerts -/

/-- The alerts of violations, with identifiers from a number of readings on. -/
def raised (dossierId : String) (trigger : Trigger) (createdAt : Instant) (n : Nat)
    (vs : List Violation) : List Alert :=
  vs.mapIdx fun i v => .raise (supply.id (n + i)) dossierId trigger v createdAt

/-- What comes of the alert when the store replies to it. -/
def alertOutcome (alert : Alert) : Except StoreError Unit → Except PersistenceFailure Uuid
  | .ok _ => .ok alert.id
  | .error why => .error ⟨.alert alert.ruleId, why.message⟩

theorem trace_recordAlert {dossierId : String} {trigger : Trigger} {createdAt : Instant}
    {v : Violation} {n : Nat} {alert : Alert} {s s' : σ} {reply : Except StoreError Unit}
    (halert : alert = .raise (supply.id n) dossierId trigger v createdAt)
    (hreply : h (.recordAlert alert) s = (reply, s')) :
    (recordAlert dossierId trigger createdAt v).trace h supply n s =
      ⟨alertOutcome alert reply, s', n + 1, [⟨.recordAlert alert, reply⟩]⟩ := by
  rw [recordAlert, Program.trace_bind, Program.trace_newId]
  dsimp only
  rw [Program.trace_bind, Program.trace_store, ← halert, hreply]
  subst halert
  cases reply with
  | ok answer => rfl
  | error why => rfl

/-- What a run does that tries some alerts, each once, and reports on each. -/
structure WritesAlerts (alerts : List Alert) (n : Nat)
    (t : Trace σ (List (Except PersistenceFailure Uuid))) : Prop where
  readings : t.readings = n + alerts.length
  calls : t.exchanges.map (·.call) = alerts.map .recordAlert
  ids : t.value.filterMap Except.toOption = t.exchanges.filterMap Exchange.alertId?
  failures : t.value.filterMap failure? = t.exchanges.filterMap Exchange.failure?
  noAuditId : t.exchanges.filterMap Exchange.auditId? = []

theorem raised_cons (dossierId : String) (trigger : Trigger) (createdAt : Instant) (n : Nat)
    (v : Violation) (vs : List Violation) :
    raised supply dossierId trigger createdAt n (v :: vs) =
      .raise (supply.id n) dossierId trigger v createdAt ::
        raised supply dossierId trigger createdAt (n + 1) vs := by
  simp only [raised, List.mapIdx_cons, Nat.add_zero]
  congr 2
  funext i w
  rw [Nat.add_assoc, Nat.add_comm 1 i]

theorem writesAlerts_recordAlerts (dossierId : String) (trigger : Trigger) (createdAt : Instant)
    (vs : List Violation) (n : Nat) (s : σ) :
    WritesAlerts (raised supply dossierId trigger createdAt n vs) n
      ((recordAlerts dossierId trigger createdAt vs).trace h supply n s) := by
  induction vs generalizing n s with
  | nil =>
    rw [recordAlerts, Program.trace_pure]
    exact ⟨rfl, rfl, rfl, rfl, rfl⟩
  | cons v vs ih =>
    rw [raised_cons]
    obtain ⟨alert, halert⟩ : ∃ alert, alert = Alert.raise (supply.id n) dossierId trigger v
      createdAt := ⟨_, rfl⟩
    rcases hreply : h (.recordAlert alert) s with ⟨reply, s'⟩
    have hfirst := trace_recordAlert h supply halert hreply
    obtain ⟨hreadings, hcalls, hids, hfailures, hnoAudit⟩ := ih (n + 1) s'
    rw [← halert, recordAlerts, Program.trace_bind, hfirst]
    dsimp only
    rw [Program.trace_bind, Program.trace_pure]
    simp only [Trace.behind, List.append_nil, List.singleton_append]
    constructor
    · simp only [hreadings, List.length_cons]
      omega
    · simp [hcalls]
    · cases reply with
      | ok answer => exact congrArg (alert.id :: ·) hids
      | error why => exact hids
    · cases reply with
      | ok answer => exact hfailures
      | error why => exact congrArg (⟨.alert alert.ruleId, why.message⟩ :: ·) hfailures
    · exact hnoAudit

/-! ### The audit entry -/

/-- Nothing was found exactly when there is neither an error nor a warning. -/
theorem isClean_verdict (a : Assessment) : a.verdict.isClean = a.findings.isEmpty := by
  unfold Verdict.isClean Assessment.verdict
  cases a.findings with
  | nil => rfl
  | cons f rest =>
    cases hblocking : f.isBlocking <;> simp [hblocking]

/-- The actor on whose behalf an entry is due: the one who asked, if anything
was found. -/
def audited (a : Assessment) (actor : Option Actor) : Option Actor :=
  if a.findings.isEmpty then none else actor

/-- What a run does that tries the audit entry of an actor, if there is one. -/
structure WritesAudit (calls : List StoreCall)
    (t : Trace σ (Option (Except PersistenceFailure Uuid))) : Prop where
  calls : t.exchanges.map (·.call) = calls
  id : t.value.bind Except.toOption = (t.exchanges.filterMap Exchange.auditId?).head?
  failures : t.value.toList.filterMap failure? = t.exchanges.filterMap Exchange.failure?
  noAlertId : t.exchanges.filterMap Exchange.alertId? = []

theorem writesAudit_recordAudit (d : Dossier) (a : Assessment) (actor : Option Actor)
    (timestamp : Instant) (n : Nat) (s : σ) :
    WritesAudit ((audited a actor).toList.map fun actor =>
        .recordAudit (supply.id n) (a.auditDraft d actor timestamp))
      ((recordAudit d a actor timestamp).trace h supply n s) := by
  cases actor with
  | none =>
    have hnone : audited a none = none := by simp [audited]
    rw [hnone]
    exact ⟨rfl, rfl, rfl, rfl⟩
  | some actor =>
    simp only [recordAudit, isClean_verdict, audited]
    cases hempty : a.findings.isEmpty with
    | true => exact ⟨rfl, rfl, rfl, rfl⟩
    | false =>
      rcases hanswered : h (.recordAudit (supply.id n) (a.auditDraft d actor timestamp)) s with
        ⟨reply, s'⟩
      simp only [Bool.false_eq_true, if_false]
      rw [Program.trace_bind, Program.trace_newId]
      dsimp only
      rw [Program.trace_bind, Program.trace_store, hanswered]
      cases reply with
      | ok entry => exact ⟨rfl, rfl, rfl, rfl⟩
      | error why => exact ⟨rfl, rfl, rfl, rfl⟩

/-! ### The report -/

/-- The violations that alerts are due for: those among the findings that block,
and with warnings all of them. -/
def due (e : Engine) (a : Assessment) : List Violation :=
  let found := a.findings.filterMap (·.violation?)
  if e.recordsWarnings then found else found.filter fun v => v.severity = .blocking

theorem alerting_eq_due (e : Engine) (a : Assessment) : e.alerting a = e.due a := by
  cases hwarnings : e.recordsWarnings <;>
    simp [alerting, due, Assessment.violations, Violation.isBlocking_eq, hwarnings]

/-- The audit entry is written behind the alerts, and the report is made from
what came of both. -/
theorem trace_apply {e : Engine} {d : Dossier} {a : Assessment} {actor : Option Actor} {n : Nat}
    {s : σ} {first : Trace σ (List (Except PersistenceFailure Uuid))}
    {second : Trace σ (Option (Except PersistenceFailure Uuid))}
    (hfirst : (recordAlerts d.id ⟨a.target⟩ (supply.instant n) (e.alerting a)).trace h supply
      (n + 1) s = first)
    (hsecond : (recordAudit d a actor (supply.instant n)).trace h supply first.readings
      first.store = second) :
    (e.apply d a actor).trace h supply n s =
      ⟨{ verdict := a.verdict
         alertIds := first.value.filterMap Except.toOption
         auditEntryId := second.value.bind Except.toOption
         failures := first.value.filterMap failure? ++ second.value.toList.filterMap failure? },
        second.store, second.readings, first.exchanges ++ second.exchanges⟩ := by
  rw [apply, Program.trace_bind, Program.trace_now]
  dsimp only
  rw [Program.trace_bind, hfirst, Program.trace_bind, hsecond, Program.trace_pure]
  simp [Trace.behind]

/-- What is written of an assessment, and what is reported of it, whatever the
store replies. The log holds all calls in their order, each with its reply. -/
theorem apply_writes (e : Engine) (d : Dossier) (a : Assessment) (actor : Option Actor) (n : Nat)
    (s : σ) :
    let found := a.findings.filterMap (·.violation?)
    let due := if e.recordsWarnings then found else found.filter fun v => v.severity = .blocking
    let time := supply.instant n
    let alerts := due.mapIdx fun i v => Alert.raise (supply.id (n + 1 + i)) d.id ⟨a.target⟩ v time
    let auditor := if a.findings.isEmpty then none else actor
    ∃ (report : TransitionReport) (final : σ) (log : List Exchange),
      (e.apply d a actor).runFrom h supply n s = (report, final) ∧
      (e.apply d a actor).runFrom (recording h) supply n (s, []) = (report, final, log) ∧
      log.map (·.call) = alerts.map .recordAlert ++ auditor.toList.map (fun actor =>
        .recordAudit (supply.id (n + 1 + due.length)) (a.auditDraft d actor time)) ∧
      report.alertIds = log.filterMap Exchange.alertId? ∧
      report.auditEntryId = (log.filterMap Exchange.auditId?).head? ∧
      report.failures = log.filterMap Exchange.failure? ∧
      report.verdict = a.verdict := by
  intro found due time alerts auditor
  have hdue : e.alerting a = due := alerting_eq_due e a
  have hraised : raised supply d.id ⟨a.target⟩ time (n + 1) due = alerts := rfl
  have hlength : alerts.length = due.length := List.length_mapIdx
  have halerts := writesAlerts_recordAlerts h supply d.id ⟨a.target⟩ time due (n + 1) s
  obtain ⟨first, hfirst⟩ :
      ∃ t, (recordAlerts d.id ⟨a.target⟩ time due).trace h supply (n + 1) s = t := ⟨_, rfl⟩
  have haudit := writesAudit_recordAudit h supply d a actor time first.readings first.store
  obtain ⟨second, hsecond⟩ :
      ∃ t, (recordAudit d a actor time).trace h supply first.readings first.store = t := ⟨_, rfl⟩
  rw [hfirst, hraised] at halerts
  rw [hsecond, halerts.readings, hlength] at haudit
  have htrace := trace_apply h supply (hdue ▸ hfirst) hsecond
  refine ⟨_, second.store, first.exchanges ++ second.exchanges,
    by rw [Program.runFrom_eq_trace, htrace], ?_, ?_, ?_, ?_, ?_, rfl⟩
  · rw [Program.runFrom_recording, htrace, List.nil_append]
  · rw [List.map_append, halerts.calls, haudit.calls]
    rfl
  · rw [List.filterMap_append, haudit.noAlertId, List.append_nil, halerts.ids]
  · rw [List.filterMap_append, halerts.noAuditId, List.nil_append, haudit.id]
  · rw [List.filterMap_append, halerts.failures, haudit.failures]

end Engine

end DossierCompliance
