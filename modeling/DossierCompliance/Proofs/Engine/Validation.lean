import DossierCompliance.Proofs.Engine.Promises

/-!
The outcome of a validation that has a store in memory to itself. Nothing fails
there, so every alert that is due is added under the next id that is drawn, the
audit entry behind them, and the report lists just these records.
-/

namespace DossierCompliance

namespace Engine

variable (supply : Supply)

/-- The alerts of violations stand in the order of the violations. -/
theorem forall₂_raised (dossierId : String) (trigger : Trigger) (time : Instant) (n : Nat)
    (vs : List Violation) :
    List.Forall₂ (fun alert v => alert = .raise alert.id dossierId trigger v time)
      (raised supply dossierId trigger time n vs) vs := by
  induction vs generalizing n with
  | nil => exact .nil
  | cons v vs ih =>
    rw [raised_cons]
    exact .cons rfl (ih (n + 1))

theorem trace_recordAlerts_memory (dossierId : String) (trigger : Trigger) (createdAt : Instant)
    (vs : List Violation) (n : Nat) (s : MemoryStore) :
    let alerts := raised supply dossierId trigger createdAt n vs
    (recordAlerts dossierId trigger createdAt vs).trace MemoryStore.handle supply n s =
      ⟨alerts.map fun a => .ok a.id, { s with alerts := s.alerts ++ alerts }, n + alerts.length,
        alerts.map fun a => ⟨.recordAlert a, .ok ()⟩⟩ := by
  induction vs generalizing n s with
  | nil => simp [recordAlerts, Program.trace_pure, raised]
  | cons v vs ih =>
    have hfirst : (recordAlert dossierId trigger createdAt v).trace MemoryStore.handle supply n s =
        let a := Alert.raise (supply.id n) dossierId trigger v createdAt
        ⟨.ok a.id, s.recordAlert a, n + 1, [⟨.recordAlert a, .ok ()⟩]⟩ :=
      trace_recordAlert MemoryStore.handle supply rfl rfl
    rw [raised_cons, recordAlerts, Program.trace_bind, hfirst]
    dsimp only
    rw [Program.trace_bind, ih, Program.trace_pure]
    simp [Trace.behind, MemoryStore.recordAlert, Nat.add_assoc, Nat.add_comm 1]

/-- The entry of an assessment behind the entries of a store, if one is due. -/
def addedEntry (s : MemoryStore) (d : Dossier) (a : Assessment) (actor : Option Actor)
    (timestamp : Instant) (id : Uuid) : Option AuditEntry :=
  (audited a actor).map fun who => s.nextEntry id (a.auditDraft d who timestamp)

/-- An entry that is added to an empty store is the first of a chain. -/
theorem addedEntry_empty (d : Dossier) (actor : Option Actor) (a : Assessment) (time : Instant)
    (id : Uuid) :
    let entries := (addedEntry .empty d a actor time id).toList
    List.Forall₂ (fun entry who => entry =
        (a.auditDraft d who time).chain entry.id genesisHash)
      entries (if a.verdict.isClean then [] else actor.toList) ∧
    (AuditChain.verify entries).brokenLinks = 0 := by
  rw [isClean_verdict, addedEntry, audited]
  cases a.findings.isEmpty with
  | true => exact ⟨.nil, rfl⟩
  | false =>
    cases actor with
    | none => exact ⟨.nil, rfl⟩
    | some who =>
      refine ⟨.cons rfl .nil, ?_⟩
      rw [AuditChain.verify, AuditChain.brokenAfter_eq_zero_iff]
      exact ⟨AuditChain.isLinked_chain _ _ _, trivial⟩

theorem trace_recordAudit_memory (d : Dossier) (a : Assessment) (actor : Option Actor)
    (timestamp : Instant) (n : Nat) (s : MemoryStore) :
    let entry := addedEntry s d a actor timestamp (supply.id n)
    ((recordAudit d a actor timestamp).trace MemoryStore.handle supply n s).value =
        entry.map (fun e => .ok e.id) ∧
      ((recordAudit d a actor timestamp).trace MemoryStore.handle supply n s).store =
        { s with audit := s.audit ++ entry.toList } := by
  cases actor with
  | none =>
    have hnone : audited a none = none := by simp [audited]
    simp [recordAudit, Program.trace_pure, addedEntry, hnone]
  | some who =>
    simp only [recordAudit, isClean_verdict, addedEntry, audited]
    cases hempty : a.findings.isEmpty with
    | true => simp [Program.trace_pure]
    | false => exact ⟨rfl, rfl⟩

theorem runFrom_apply_memory (e : Engine) (d : Dossier) (a : Assessment) (actor : Option Actor)
    (n : Nat) (s : MemoryStore) :
    let time := supply.instant n
    let alerts := raised supply d.id ⟨a.target⟩ time (n + 1) (e.alerting a)
    let entry := addedEntry s d a actor time (supply.id (n + 1 + alerts.length))
    (e.apply d a actor).runFrom MemoryStore.handle supply n s =
      ({ verdict := a.verdict
         alertIds := alerts.map (·.id)
         auditEntryId := entry.map (·.id)
         failures := [] },
       { s with alerts := s.alerts ++ alerts, audit := s.audit ++ entry.toList }) := by
  intro time alerts entry
  have hfirst := trace_recordAlerts_memory supply d.id ⟨a.target⟩ time (e.alerting a) (n + 1) s
  obtain ⟨second, hsecond⟩ : ∃ t, (recordAudit d a actor time).trace MemoryStore.handle supply
    (n + 1 + alerts.length) { s with alerts := s.alerts ++ alerts } = t := ⟨_, rfl⟩
  obtain ⟨hvalue, hstore⟩ := trace_recordAudit_memory supply d a actor time
    (n + 1 + alerts.length) { s with alerts := s.alerts ++ alerts }
  rw [hsecond] at hvalue hstore
  have hentry : addedEntry { s with alerts := s.alerts ++ alerts } d a actor time
    (supply.id (n + 1 + alerts.length)) = entry := rfl
  rw [hentry] at hvalue hstore
  have hids : (alerts.map fun a => (.ok a.id : Except PersistenceFailure Uuid)) =
      (alerts.map (·.id)).map .ok := by
    rw [List.map_map]
    rfl
  rw [Program.runFrom_eq_trace, trace_apply MemoryStore.handle supply hfirst hsecond]
  dsimp only
  rw [hvalue, hstore, hids, ids_of_written, failures_of_written]
  cases entry with
  | none => rfl
  | some entry => rfl

/-- A validation of a stored dossier: what it reports, and the store behind it.
The clock is read for the day and then for the time of the records. -/
theorem runFrom_validate_memory (e : Engine) {dossierId : String} {d : Dossier} {s : MemoryStore}
    (hfound : s.dossiers.get? dossierId = some d) (target : Status) (actor : Option Actor)
    (n : Nat) :
    let a := assess e.rules ⟨d, target, (supply.instant n).date⟩
    let time := supply.instant (n + 1)
    let alerts := raised supply d.id ⟨target⟩ time (n + 2) (e.alerting a)
    let entry := addedEntry s d a actor time (supply.id (n + 2 + alerts.length))
    (e.validate dossierId target actor).runFrom MemoryStore.handle supply n s =
      (.ok
        { verdict := a.verdict
          alertIds := alerts.map (·.id)
          auditEntryId := entry.map (·.id)
          failures := [] },
       { s with alerts := s.alerts ++ alerts, audit := s.audit ++ entry.toList }) := by
  intro a time alerts entry
  have hfind : MemoryStore.handle (.findDossier dossierId) s = (.ok (some d), s) := by
    rw [MemoryStore.handle, hfound]
  have happly := runFrom_apply_memory supply e d a actor (n + 1) s
  have hrun : (e.validate dossierId target actor).runFrom MemoryStore.handle supply n s =
      (e.validateFound dossierId target actor (.ok (some d))).runFrom MemoryStore.handle supply n
        s := by
    rw [validate_eq]
    change (e.validateFound dossierId target actor
      (MemoryStore.handle (.findDossier dossierId) s).1).runFrom MemoryStore.handle supply n
        (MemoryStore.handle (.findDossier dossierId) s).2 = _
    rw [hfind]
    rfl
  refine hrun.trans ((Program.runFrom_map MemoryStore.handle supply (e.apply d a actor) Except.ok
    (n + 1) s).trans ?_)
  rw [happly]
  rfl

end Engine

end DossierCompliance
