import DossierCompliance.Engine.Records
import DossierCompliance.Proofs.Engine.Writes
import DossierCompliance.Proofs.Store.Lifecycle

/-!
What a program on a store in memory is sure to have done when it ends, whatever
others do to the store between its calls. A promise speaks of the end of the
program and of its own operations on the store. That the rest of a program
keeps a promise is told call by call: of a call the program knows the reply
that a store in some state gives, and nothing more.
-/

namespace DossierCompliance

namespace MemoryStore

/-- The store after some operations on it. -/
def perform (s : MemoryStore) (ops : List StoreOperation) : MemoryStore :=
  ops.foldl (fun s op => op.step s) s

theorem perform_cons (s : MemoryStore) (op : StoreOperation) (ops : List StoreOperation) :
    s.perform (op :: ops) = (op.step s).perform ops := rfl

theorem perform_append (s : MemoryStore) (ops later : List StoreOperation) :
    s.perform (ops ++ later) = (s.perform ops).perform later :=
  List.foldl_append

theorem perform_after (ops later : List StoreOperation) :
    (StoreOperation.after ops).perform later = StoreOperation.after (ops ++ later) :=
  List.foldl_append.symm

end MemoryStore

namespace Program

variable {α β : Type} (supply : Supply)

/-- From here on a program keeps a promise, having done some operations so far. -/
def Keeps (promise : α → List StoreOperation → Prop) : Program α → List StoreOperation → Prop
  | done a, own => promise a own
  | call .now next, own => ∀ k, (next (supply.instant k)).Keeps promise own
  | call .newId next, own => ∀ k, (next (supply.id k)).Keeps promise own
  | call (.store c) next, own =>
    ∀ s, (next (MemoryStore.handle c s).1).Keeps promise (own ++ [.call c])

variable {supply} {promise : α → List StoreOperation → Prop}

theorem Keeps.mono {weaker : α → List StoreOperation → Prop}
    (hweaker : ∀ a own, promise a own → weaker a own) {p : Program α}
    {own : List StoreOperation} (h : p.Keeps supply promise own) : p.Keeps supply weaker own := by
  induction p generalizing own with
  | done a => exact hweaker a own h
  | call c next ih =>
    cases c with
    | now => exact fun k => ih _ (h k)
    | newId => exact fun k => ih _ (h k)
    | store c => exact fun s => ih _ (h s)

theorem Keeps.bind {p : Program β} {f : β → Program α} {own : List StoreOperation}
    (h : p.Keeps supply (fun b own => (f b).Keeps supply promise own) own) :
    (p >>= f).Keeps supply promise own := by
  induction p generalizing own with
  | done b => exact h
  | call c next ih =>
    cases c with
    | now => exact fun k => ih _ (h k)
    | newId => exact fun k => ih _ (h k)
    | store c => exact fun s => ih _ (h s)

/-- A run by itself keeps the promise, and its operations lead from the store at
the start to the store at the end. -/
theorem Keeps.runFrom {p : Program α} {own : List StoreOperation}
    (h : p.Keeps supply promise own) (n : Nat) (s : MemoryStore) :
    ∃ ops : List StoreOperation,
      promise (p.runFrom MemoryStore.handle supply n s).1 (own ++ ops) ∧
        (p.runFrom MemoryStore.handle supply n s).2 = s.perform ops := by
  induction p generalizing own n s with
  | done a => exact ⟨[], by rw [List.append_nil]; exact h, rfl⟩
  | call c next ih =>
    cases c with
    | now => exact ih _ (h n) (n + 1) s
    | newId => exact ih _ (h n) (n + 1) s
    | store c =>
      obtain ⟨ops, hpromise, hstore⟩ := ih _ (h s) n (MemoryStore.handle c s).2
      refine ⟨.call c :: ops, ?_, hstore⟩
      rwa [List.append_assoc] at hpromise

end Program

namespace Engine

variable {supply : Supply}

/-! ### Alerts -/

theorem keeps_recordAlert (dossierId : String) (trigger : Trigger) (createdAt : Instant)
    (v : Violation) (own : List StoreOperation) :
    (recordAlert dossierId trigger createdAt v).Keeps supply
      (fun outcome done => ∃ id, outcome = .ok id ∧
        done = own ++ [.call (.recordAlert (.raise id dossierId trigger v createdAt))]) own := by
  intro k s
  exact ⟨supply.id k, rfl, rfl⟩

/-- The alerts of violations under some ids. -/
def raisedUnder (ids : List Uuid) (dossierId : String) (trigger : Trigger) (createdAt : Instant)
    (vs : List Violation) : List Alert :=
  List.zipWith (fun id v => .raise id dossierId trigger v createdAt) ids vs

theorem keeps_recordAlerts (dossierId : String) (trigger : Trigger) (createdAt : Instant)
    (vs : List Violation) (own : List StoreOperation) :
    (recordAlerts dossierId trigger createdAt vs).Keeps supply
      (fun outcomes done => ∃ ids : List Uuid, ids.length = vs.length ∧
        outcomes = ids.map .ok ∧
        done = own ++ (raisedUnder ids dossierId trigger createdAt vs).map
          fun a => .call (.recordAlert a)) own := by
  induction vs generalizing own with
  | nil => exact ⟨[], rfl, rfl, (List.append_nil own).symm⟩
  | cons v vs ih =>
    refine Program.Keeps.bind ((keeps_recordAlert dossierId trigger createdAt v own).mono ?_)
    rintro outcome done ⟨id, rfl, rfl⟩
    refine Program.Keeps.bind ((ih _).mono ?_)
    rintro outcomes done ⟨ids, hlength, rfl, rfl⟩
    refine ⟨id :: ids, congrArg (· + 1) hlength, rfl, ?_⟩
    rw [List.append_assoc]
    rfl

/-! ### The audit entry -/

/-- The record of an audit entry under an id, if there are both. -/
def auditedUnder (id : Option Uuid) (d : Dossier) (a : Assessment) (actor : Option Actor)
    (timestamp : Instant) : List (Uuid × AuditDraft) :=
  List.zipWith (fun id actor => (id, a.auditDraft d actor timestamp)) id.toList actor.toList

theorem keeps_recordAudit (d : Dossier) (a : Assessment) (actor : Option Actor)
    (timestamp : Instant) (own : List StoreOperation) :
    (recordAudit d a actor timestamp).Keeps supply
      (fun outcome done => ∃ id : Option Uuid, id.isSome = (audited a actor).isSome ∧
        outcome = id.map .ok ∧
        done = own ++ (auditedUnder id d a (audited a actor) timestamp).map
          fun record => .call (.recordAudit record.1 record.2)) own := by
  cases actor with
  | none =>
    have hnone : audited a none = none := by simp [audited]
    rw [hnone]
    exact ⟨none, rfl, rfl, (List.append_nil own).symm⟩
  | some actor =>
    simp only [recordAudit, isClean_verdict, audited]
    cases hempty : a.findings.isEmpty with
    | true => exact ⟨none, rfl, rfl, (List.append_nil own).symm⟩
    | false =>
      intro k s
      exact ⟨some (supply.id k), rfl, rfl, rfl⟩

/-! ### The whole validation -/

/-- What a validation owes when it ends. The verdict is that of the assessment;
one alert is recorded for each violation that one is due for, in their order and
under the ids of the report; and one audit entry if anything was found and the
actor is known, under the id of the report. -/
structure Accounts (e : Engine) (d : Dossier) (a : Assessment) (actor : Option Actor)
    (time : Instant) (report : TransitionReport) (alerts : List Alert)
    (entries : List (Uuid × AuditDraft)) : Prop where
  verdict : report.verdict = a.verdict
  failures : report.failures = []
  alertIds : report.alertIds.length = (e.due a).length
  alerts : alerts = raisedUnder report.alertIds d.id ⟨a.target⟩ time (e.due a)
  auditEntryId : report.auditEntryId.isSome = (audited a actor).isSome
  entries : entries = auditedUnder report.auditEntryId d a (audited a actor) time

/-- The operations that record some alerts and then some audit entries. -/
def writes (alerts : List Alert) (entries : List (Uuid × AuditDraft)) : List StoreOperation :=
  alerts.map (fun a => .call (.recordAlert a)) ++
    entries.map fun record => .call (.recordAudit record.1 record.2)

theorem ids_of_written (ids : List Uuid) :
    (ids.map (.ok : Uuid → Except PersistenceFailure Uuid)).filterMap Except.toOption = ids := by
  simp [List.filterMap_map, Function.comp_def, Except.toOption]

theorem failures_of_written (ids : List Uuid) :
    (ids.map (.ok : Uuid → Except PersistenceFailure Uuid)).filterMap failure? = [] := by
  simp [List.filterMap_map, Function.comp_def, failure?]

theorem keeps_apply (e : Engine) (d : Dossier) (a : Assessment) (actor : Option Actor)
    (own : List StoreOperation) :
    (e.apply d a actor).Keeps supply
      (fun report done => ∃ (k : Nat) (alerts : List Alert) (entries : List (Uuid × AuditDraft)),
        e.Accounts d a actor (supply.instant k) report alerts entries ∧
          done = own ++ writes alerts entries) own := by
  refine Program.Keeps.bind fun k => ?_
  rw [alerting_eq_due e a]
  refine Program.Keeps.bind ((keeps_recordAlerts d.id ⟨a.target⟩ (supply.instant k) _ own).mono ?_)
  rintro outcomes done ⟨ids, hids, rfl, rfl⟩
  refine Program.Keeps.bind ((keeps_recordAudit d a actor (supply.instant k) _).mono ?_)
  rintro outcome done ⟨id, hid, rfl, rfl⟩
  rw [ids_of_written, failures_of_written]
  cases id with
  | none => exact ⟨k, _, _, ⟨rfl, rfl, hids, rfl, hid, rfl⟩, List.append_assoc _ _ _⟩
  | some id => exact ⟨k, _, _, ⟨rfl, rfl, hids, rfl, hid, rfl⟩, List.append_assoc _ _ _⟩

/-- A validation from the reply to its reading of the dossier on. -/
def validateFound (e : Engine) (dossierId : String) (target : Status) (actor : Option Actor) :
    Except StoreError (Option Dossier) → Program (Except EngineError TransitionReport)
  | .error why => return .error (.store why)
  | .ok none => return .error (.noDossier dossierId)
  | .ok (some d) => do
    let today := (← Program.now).date
    return .ok (← e.apply d (assess e.rules ⟨d, target, today⟩) actor)

theorem validate_eq (e : Engine) (dossierId : String) (target : Status) (actor : Option Actor) :
    e.validate dossierId target actor =
      .call (.store (.findDossier dossierId)) (e.validateFound dossierId target actor) := by
  refine congrArg (Program.call (.store (.findDossier dossierId))) (funext fun reply => ?_)
  rcases reply with why | none | d
  · rfl
  · rfl
  · rfl

/-- What a validation has done when it ends, by the dossier that it found. -/
def Accounted (supply : Supply) (e : Engine) (dossierId : String) (target : Status)
    (actor : Option Actor) (result : Except EngineError TransitionReport) (alerts : List Alert)
    (entries : List (Uuid × AuditDraft)) : Option Dossier → Prop
  | none => result = .error (.noDossier dossierId) ∧ alerts = [] ∧ entries = []
  | some d => ∃ (day time : Nat) (report : TransitionReport), result = .ok report ∧
    e.Accounts d (assess e.rules ⟨d, target, (supply.instant day).date⟩) actor
      (supply.instant time) report alerts entries

theorem keeps_validateFound (e : Engine) (dossierId : String) (target : Status)
    (actor : Option Actor) (found : Option Dossier) (own : List StoreOperation) :
    (e.validateFound dossierId target actor (.ok found)).Keeps supply
      (fun result done => ∃ (alerts : List Alert) (entries : List (Uuid × AuditDraft)),
        Accounted supply e dossierId target actor result alerts entries found ∧
          done = own ++ writes alerts entries) own := by
  cases found with
  | none => exact ⟨[], [], ⟨rfl, rfl, rfl⟩, (List.append_nil own).symm⟩
  | some d =>
    refine Program.Keeps.bind fun day => ?_
    refine Program.Keeps.bind ((keeps_apply e d _ actor own).mono ?_)
    rintro report done ⟨time, alerts, entries, haccounts, rfl⟩
    exact ⟨alerts, entries, ⟨day, time, report, rfl, haccounts⟩, rfl⟩

/-! ### What was written -/

theorem recordedAlerts_writes (alerts : List Alert) (entries : List (Uuid × AuditDraft)) :
    StoreOperation.recordedAlerts (writes alerts entries) = alerts := by
  simp [writes, StoreOperation.recordedAlerts, StoreOperation.alert?, List.filterMap_map,
    Function.comp_def]

theorem recorded_writes (alerts : List Alert) (entries : List (Uuid × AuditDraft)) :
    StoreOperation.recorded (writes alerts entries) = entries := by
  simp [writes, StoreOperation.recorded, StoreOperation.recorded?, List.filterMap_map,
    Function.comp_def]

theorem ids_raisedUnder {ids : List Uuid} {vs : List Violation} (h : ids.length = vs.length)
    (dossierId : String) (trigger : Trigger) (createdAt : Instant) :
    (raisedUnder ids dossierId trigger createdAt vs).map (·.id) = ids := by
  induction ids generalizing vs with
  | nil => rfl
  | cons id ids ih =>
    cases vs with
    | nil => cases h
    | cons v vs => exact congrArg (id :: ·) (ih (Nat.succ.inj h))

theorem mem_raisedUnder {ids : List Uuid} {vs : List Violation} {dossierId : String}
    {trigger : Trigger} {createdAt : Instant} {a : Alert}
    (h : a ∈ raisedUnder ids dossierId trigger createdAt vs) :
    a.dossierId = dossierId ∧ a.trigger = trigger.text := by
  induction ids generalizing vs with
  | nil => cases h
  | cons id ids ih =>
    cases vs with
    | nil => cases h
    | cons v vs =>
      rcases List.mem_cons.mp h with rfl | hlater
      · exact ⟨rfl, rfl⟩
      · exact ih hlater

theorem ids_auditedUnder {id : Option Uuid} {actor : Option Actor} (h : id.isSome = actor.isSome)
    (d : Dossier) (a : Assessment) (timestamp : Instant) :
    (auditedUnder id d a actor timestamp).map (·.1) = id.toList := by
  cases id with
  | none => rfl
  | some id =>
    cases actor with
    | none => cases h
    | some actor => rfl

/-! ### What the writes do to a store -/

theorem perform_recordAlert (alerts : List Alert) (s : MemoryStore) :
    s.perform (alerts.map fun a => .call (.recordAlert a)) =
      { s with alerts := s.alerts ++ alerts } := by
  induction alerts generalizing s with
  | nil =>
    rw [List.append_nil]
    rfl
  | cons a alerts ih =>
    rw [List.map_cons, MemoryStore.perform_cons, ih]
    simp [StoreOperation.step, MemoryStore.handle, MemoryStore.recordAlert]

theorem perform_recordAudit (entries : List (Uuid × AuditDraft)) (s : MemoryStore) :
    ∃ added : List AuditEntry, added.map AuditEntry.record = entries ∧
      s.perform (entries.map fun record => .call (.recordAudit record.1 record.2)) =
        { s with audit := s.audit ++ added } := by
  induction entries generalizing s with
  | nil =>
    refine ⟨[], rfl, ?_⟩
    rw [List.append_nil]
    rfl
  | cons record entries ih =>
    obtain ⟨added, hrecords, hstore⟩ := ih (s.recordAudit record.1 record.2)
    refine ⟨s.nextEntry record.1 record.2 :: added, ?_, ?_⟩
    · rw [List.map_cons, hrecords]
      rfl
    · rw [List.map_cons, MemoryStore.perform_cons]
      refine hstore.trans ?_
      simp [MemoryStore.recordAudit]

theorem perform_writes (alerts : List Alert) (entries : List (Uuid × AuditDraft))
    (s : MemoryStore) :
    ∃ added : List AuditEntry, added.map AuditEntry.record = entries ∧
      s.perform (writes alerts entries) =
        { s with alerts := s.alerts ++ alerts, audit := s.audit ++ added } := by
  rw [writes, MemoryStore.perform_append, perform_recordAlert]
  exact perform_recordAudit entries { s with alerts := s.alerts ++ alerts }

/-- A validation that runs by itself finds the dossier that is stored, and it
records what it owes for it. -/
theorem runFrom_validate (supply : Supply) (e : Engine) (dossierId : String) (target : Status)
    (actor : Option Actor) (n : Nat) (s : MemoryStore) :
    let outcome := (e.validate dossierId target actor).runFrom MemoryStore.handle supply n s
    ∃ (alerts : List Alert) (entries : List (Uuid × AuditDraft)),
      Accounted supply e dossierId target actor outcome.1 alerts entries
          (s.dossiers.get? dossierId) ∧
        outcome.2 = s.perform (writes alerts entries) := by
  rw [validate_eq]
  obtain ⟨ops, ⟨alerts, entries, haccounted, hops⟩, hstore⟩ :=
    (keeps_validateFound e dossierId target actor (s.dossiers.get? dossierId) []).runFrom n s
  refine ⟨alerts, entries, haccounted, ?_⟩
  rw [List.nil_append, List.nil_append] at hops
  rw [← hops]
  exact hstore

end Engine

end DossierCompliance
