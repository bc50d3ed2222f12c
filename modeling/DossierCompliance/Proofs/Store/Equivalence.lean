import DossierCompliance.Proofs.Audit.History
import DossierCompliance.Proofs.Engine.Traces
import DossierCompliance.Proofs.Store.Appends
import DossierCompliance.Proofs.Store.Lifecycle

/-!
A database that is up and a store in memory answer alike. The rows of the one
are made of the records of the other, call by call, and no time is lost between
them; so every query finds the rows of the records that the store finds, and
they give these records back. Only the database minds a hash that is taken; but
of entries with different ids none has the hash of another, or they collide.
-/

namespace DossierCompliance

/-! ### One call -/

/-- The rows of a database that is up are those of the records of a store, and
give the records back. -/
structure Mirrors (db : Database) (s : MemoryStore) : Prop where
  up : db.outage = none
  dossiers : db.dossiers = [] ∧ s.dossiers = []
  organizations : db.organizations = [] ∧ s.organizations = []
  alerts : db.alerts = s.alerts.map .ofAlert
  audit : db.audit = s.audit.map .ofEntry
  ids : (s.alerts.map (·.id)).Nodup
  keptAlerts : ∀ a ∈ s.alerts, a.cutToMicros = a
  keptEntries : ∀ e ∈ s.audit, e.cutToMicros = e

theorem mirrors_empty : Mirrors .empty .empty where
  up := rfl
  dossiers := ⟨rfl, rfl⟩
  organizations := ⟨rfl, rfl⟩
  alerts := rfl
  audit := rfl
  ids := List.nodup_nil
  keptAlerts := fun _ h => absurd h List.not_mem_nil
  keptEntries := fun _ h => absurd h List.not_mem_nil

/-- The replies to a call are the same, and the rows are those of the records again. -/
def AnswersAlike (c : StoreCall) (db : Database) (s : MemoryStore) : Prop :=
  (Database.handle c db).1 = (MemoryStore.handle c s).1 ∧
    Mirrors (Database.handle c db).2 (MemoryStore.handle c s).2

theorem map_cutToMicros_alerts {alerts : List Alert} (h : ∀ a ∈ alerts, a.cutToMicros = a) :
    alerts.map Alert.cutToMicros = alerts := by
  rw [List.map_congr_left h, List.map_id']

theorem map_cutToMicros_entries {entries : List AuditEntry}
    (h : ∀ e ∈ entries, e.cutToMicros = e) : entries.map AuditEntry.cutToMicros = entries := by
  rw [List.map_congr_left h, List.map_id']

namespace Mirrors

variable {db : Database} {s : MemoryStore}

theorem recordAlert (h : Mirrors db s) {a : Alert} (hkept : a.cutToMicros = a)
    (hfresh : a.id ∉ s.alerts.map (·.id)) : AnswersAlike (.recordAlert a) db s := by
  have hunknown : (db.alerts.any fun row => row.id = a.id) = false := by
    rw [h.alerts, List.any_map, List.any_eq_false]
    intro b hb hid
    exact hfresh (List.mem_map.mpr ⟨b, hb, of_decide_eq_true hid⟩)
  have hinserted : db.insertAlert a = .ok { db with alerts := db.alerts ++ [.ofAlert a] } := by
    rw [Database.insertAlert, Database.send_eq_ok h.up, hunknown]
    rfl
  rw [AnswersAlike, Database.handle, Database.recordAlert, hinserted, MemoryStore.handle,
    MemoryStore.recordAlert]
  refine ⟨rfl, { h with alerts := ?_, ids := ?_, keptAlerts := ?_ }⟩
  · rw [h.alerts, List.map_append, List.map_singleton]
  · rw [List.map_append, List.map_singleton, List.nodup_append]
    refine ⟨h.ids, List.nodup_singleton _, fun id hid id' hid' heq => hfresh ?_⟩
    rwa [← List.mem_singleton.mp hid', ← heq]
  · intro b hb
    rcases List.mem_append.mp hb with hb | hb
    · exact h.keptAlerts b hb
    · rw [List.mem_singleton.mp hb, hkept]

theorem resolveAlert (h : Mirrors db s) (id : Uuid) {r : Resolution}
    (hkept : r.resolvedAt.cutToMicros = r.resolvedAt) :
    AnswersAlike (.resolveAlert id r) db s := by
  have hresolved {a : Alert} (ha : a ∈ s.alerts) : (a.resolve r).cutToMicros = a.resolve r := by
    have hcreated := congrArg Alert.createdAt (h.keptAlerts a ha)
    simp only [Alert.cutToMicros] at hcreated
    simp only [Alert.cutToMicros, Alert.resolve, Option.map_some, hkept, hcreated]
  have hfound : (db.alerts.find? fun row => row.id = id) =
      (s.findAlert? id).map AlertRow.ofAlert := by
    rw [h.alerts, List.find?_map]
    rfl
  have hreply : ((s.findAlert? id).map AlertRow.ofAlert).mapM
      (fun row => (row.resolve r).alert) = .ok ((s.findAlert? id).map (·.resolve r)) := by
    cases hstored : s.findAlert? id with
    | none => rfl
    | some a =>
      have ha := hresolved (List.mem_of_find?_eq_some hstored)
      rw [Option.map_some, Option.mapM_some, AlertRow.resolve_ofAlert, AlertRow.alert_ofAlert, ha]
      rfl
  have hrows : (s.alerts.map AlertRow.ofAlert).map
      (fun row => if row.id = id then row.resolve r else row) =
        (MemoryStore.resolveFirst id r s.alerts).map AlertRow.ofAlert := by
    rw [MemoryStore.resolveFirst_eq_map h.ids, List.map_map, List.map_map]
    refine List.map_congr_left fun a _ => ?_
    rw [Function.comp_apply, Function.comp_apply, AlertRow.id_ofAlert]
    split
    · rw [AlertRow.resolve_ofAlert]
    · rfl
  rw [AnswersAlike, Database.handle, Database.resolveAlert, Database.send_eq_ok h.up, hfound]
  dsimp only
  rw [hreply, MemoryStore.handle, MemoryStore.resolveAlert]
  refine ⟨rfl, { h with alerts := ?_, ids := ?_, keptAlerts := ?_ }⟩
  · rw [h.alerts, hrows]
  · have hids : (MemoryStore.resolveFirst id r s.alerts).map (·.id) = s.alerts.map (·.id) := by
      have hopened := congrArg (List.map fun a : Alert => a.id)
        (MemoryStore.opened_resolveFirst id r s.alerts)
      rw [List.map_map, List.map_map] at hopened
      exact hopened
    rw [hids]
    exact h.ids
  · rw [MemoryStore.resolveFirst_eq_map h.ids]
    intro b hb
    obtain ⟨a, ha, rfl⟩ := List.mem_map.mp hb
    split
    · exact hresolved ha
    · exact h.keptAlerts a ha

/-- The rows by their times and numbers are those of the alerts by a stable sort. -/
theorem unresolvedAlerts (h : Mirrors db s) (dossierId : String) :
    AnswersAlike (.unresolvedAlerts dossierId) db s := by
  have hrows : (db.alerts.filter fun row => row.dossierId == dossierId && !row.isResolved) =
      (s.alerts.filter fun a => a.dossierId == dossierId && !a.isResolved).map .ofAlert := by
    rw [h.alerts, List.filter_map]
    rfl
  have hkept : ∀ a ∈ s.alerts.filter fun a => a.dossierId == dossierId && !a.isResolved,
      a.cutToMicros = a := fun a ha => h.keptAlerts a (List.mem_of_mem_filter ha)
  have hsorted : Instant.newestRows AlertRow.createdAt
      ((s.alerts.filter fun a => a.dossierId == dossierId && !a.isResolved).map .ofAlert) =
        (Alert.unresolvedOf dossierId s.alerts).map .ofAlert := by
    rw [Instant.newestRows_eq]
    exact Instant.newestFirst_map fun a ha => congrArg Alert.createdAt (hkept a ha)
  have hgiven : (Alert.unresolvedOf dossierId s.alerts).map Alert.cutToMicros =
      Alert.unresolvedOf dossierId s.alerts :=
    map_cutToMicros_alerts fun a ha => hkept a ((Instant.newestFirst_perm _ _).mem_iff.mp ha)
  have hanswer : db.unresolvedAlerts dossierId = .ok (Alert.unresolvedOf dossierId s.alerts) := by
    rw [Database.unresolvedAlerts, Database.send_eq_ok h.up, hrows]
    refine (congrArg (List.mapM AlertRow.alert) hsorted).trans ?_
    rw [AlertRow.mapM_alert]
    exact congrArg Except.ok hgiven
  exact ⟨hanswer, h⟩

theorem recordAudit (h : Mirrors db s) {id : Uuid} {d : AuditDraft}
    (hkept : d.timestamp.cutToMicros = d.timestamp)
    (hkeyed : AuditRow.Keyed ((s.recordAudit id d).audit.map .ofEntry)) :
    AnswersAlike (.recordAudit id d) db s := by
  have hentry : d.chain id (AppendStage.lastHash db.audit) = s.nextEntry id d := by
    rw [h.audit, AppendStage.lastHash_map]
    rfl
  have hlet : (AppendStage.inserting (s.nextEntry id d)).broken? db.audit = none := by
    rw [MemoryStore.recordAudit, List.map_append, List.map_singleton, ← h.audit] at hkeyed
    exact (AuditRow.keyed_concat_iff.mp hkeyed).2
  rw [AnswersAlike, Database.handle, Database.recordAudit_eq h.up hentry, hlet,
    MemoryStore.handle, MemoryStore.recordAudit]
  refine ⟨rfl, { h with audit := ?_, keptEntries := ?_ }⟩
  · rw [h.audit, List.map_append, List.map_singleton]
  · intro e he
    rcases List.mem_append.mp he with he | he
    · exact h.keptEntries e he
    · rw [List.mem_singleton.mp he]
      exact congrArg (fun t => { d.chain id _ with timestamp := t }) hkept

theorem auditEntries (h : Mirrors db s) (entityType entityId : String) :
    AnswersAlike (.auditEntries entityType entityId) db s := by
  have hrows : (db.audit.filter fun row =>
      row.entityType == entityType && row.entityId == entityId) =
        (s.auditEntries entityType entityId).map .ofEntry := by
    rw [h.audit, List.filter_map]
    rfl
  have hgiven : (s.auditEntries entityType entityId).map AuditEntry.cutToMicros =
      s.auditEntries entityType entityId :=
    map_cutToMicros_entries fun e he => h.keptEntries e (List.mem_of_mem_filter he)
  have hanswer : db.auditEntries entityType entityId = .ok (s.auditEntries entityType entityId) := by
    rw [Database.auditEntries, Database.send_eq_ok h.up, hrows]
    refine (AuditRow.mapM_entry _).trans ?_
    rw [hgiven]
  exact ⟨hanswer, h⟩

theorem verifyAudit (h : Mirrors db s) (limit : Nat) : AnswersAlike (.verifyAudit limit) db s := by
  have hgiven : (s.audit.take limit).map AuditEntry.cutToMicros = s.audit.take limit :=
    map_cutToMicros_entries fun e he => h.keptEntries e (List.mem_of_mem_take he)
  have hanswer : db.verifyAudit limit = .ok (s.verifyAudit limit) := by
    rw [Database.verifyAudit, Database.send_eq_ok h.up, h.audit, ← List.map_take,
      AuditRow.mapM_entry, hgiven]
    rfl
  exact ⟨hanswer, h⟩

theorem findDossier (h : Mirrors db s) (id : String) : AnswersAlike (.findDossier id) db s := by
  have hanswer : db.findDossier id = .ok (s.dossiers.get? id) := by
    rw [Database.findDossier, Database.send_eq_ok h.up, h.dossiers.1, h.dossiers.2]
    rfl
  exact ⟨hanswer, h⟩

theorem findOrganization (h : Mirrors db s) (id : String) :
    AnswersAlike (.findOrganization id) db s := by
  have hanswer : db.findOrganization id = .ok (s.organizations.get? id) := by
    rw [Database.findOrganization, Database.send_eq_ok h.up, h.organizations.1, h.organizations.2]
    rfl
  exact ⟨hanswer, h⟩

end Mirrors

/-! ### All calls -/

open StoreOperation (recorded recordedAlerts)

namespace StoreCall

/-- The times that a call gives to what is stored. -/
def times : StoreCall → List Instant
  | recordAlert a => [a.createdAt]
  | resolveAlert _ r => [r.resolvedAt]
  | recordAudit _ d => [d.timestamp]
  | _ => []

/-- An alert that is added is a new one, and no time of the call is lost in a column. -/
structure Fits (c : StoreCall) : Prop where
  raised : ∀ a ∈ (StoreOperation.call c).alert?, a.IsRaised
  kept : ∀ t ∈ c.times, t.cutToMicros = t

end StoreCall

/-- The calls of a run in their order, each with the reply to it. -/
def exchanges {σ : Type} (h : StoreHandler σ) : List StoreCall → σ → List Exchange
  | [], _ => []
  | c :: rest, s => ⟨c, (h c s).1⟩ :: exchanges h rest (h c s).2

/-- A call leaves the ids of the alerts as they are, but for the one that it adds. -/
theorem MemoryStore.ids_handle (c : StoreCall) (s : MemoryStore) :
    (handle c s).2.alerts.map (·.id) =
      s.alerts.map (·.id) ++ ((StoreOperation.call c).alert?.map (·.id)).toList := by
  have hopened := congrArg (List.map fun a : Alert => a.id) (opened_step (.call c) s)
  rw [List.map_append, List.map_map, List.map_map, ← Option.toList_map, Option.map_map] at hopened
  exact hopened

/-- The store after some calls. -/
def MemoryStore.called (s : MemoryStore) (calls : List StoreCall) : MemoryStore :=
  calls.foldl (fun s c => (handle c s).2) s

theorem MemoryStore.audit_prefix_called (s : MemoryStore) (calls : List StoreCall) :
    s.audit <+: (s.called calls).audit := by
  induction calls generalizing s with
  | nil => exact List.prefix_rfl
  | cons c calls ih => exact (audit_prefix_step (.call c) s).trans (ih _)

/-- The entries that calls record with different ids have different hashes as well,
or some of them collide. -/
theorem MemoryStore.keyed_or_colliding {calls : List StoreCall}
    (hids : ((recorded (calls.map .call)).map (·.1)).Nodup) :
    AuditRow.Keyed ((empty.called calls).audit.map .ofEntry) ∨
      AuditChain.Colliding (empty.called calls).audit (empty.called calls).audit := by
  obtain ⟨entries, hentries⟩ : ∃ entries, (empty.called calls).audit = entries := ⟨_, rfl⟩
  have hafter : (StoreOperation.after (calls.map .call)).audit = entries := by
    rw [← hentries, StoreOperation.after, List.foldl_map]
    rfl
  have hlinked : AuditChain.LinkedAfter genesisHash entries := hafter ▸ linked_after _
  have hdistinct : (entries.map (·.id)).Nodup := by
    rw [← records_after, hafter, List.map_map] at hids
    exact hids
  rw [hentries]
  by_cases hcolliding : AuditChain.Colliding entries entries
  · exact .inr hcolliding
  · refine .inl ⟨by rwa [List.map_map], ?_⟩
    rw [List.map_map]
    refine hdistinct.of_map.map_on fun e he f hf hhash => ?_
    rcases AuditChain.id_eq_or_collision hlinked he hf hhash with hid | hcollision
    · exact List.inj_on_of_nodup_map hdistinct he hf hid
    · exact absurd ⟨e, he, f, hf, hcollision⟩ hcolliding

namespace Mirrors

variable {db : Database} {s : MemoryStore}

theorem answersAlike (h : Mirrors db s) {c : StoreCall} (hfits : c.Fits)
    (hfresh : ∀ a ∈ (StoreOperation.call c).alert?, a.id ∉ s.alerts.map (·.id))
    (hkeyed : AuditRow.Keyed ((MemoryStore.handle c s).2.audit.map .ofEntry)) :
    AnswersAlike c db s := by
  cases c with
  | findDossier id => exact h.findDossier id
  | findOrganization id => exact h.findOrganization id
  | recordAlert a =>
    have hcreated := hfits.kept a.createdAt (List.mem_singleton_self _)
    have hkept : a.cutToMicros = a := by
      obtain ⟨id, dossierId, trigger, v, createdAt, rfl⟩ := hfits.raised a rfl
      exact congrArg (Alert.raise id dossierId trigger v) hcreated
    exact h.recordAlert hkept (hfresh a rfl)
  | resolveAlert id r => exact h.resolveAlert id (hfits.kept _ (List.mem_singleton_self _))
  | unresolvedAlerts dossierId => exact h.unresolvedAlerts dossierId
  | recordAudit id d => exact h.recordAudit (hfits.kept _ (List.mem_singleton_self _)) hkeyed
  | auditEntries entityType entityId => exact h.auditEntries entityType entityId
  | verifyAudit limit => exact h.verifyAudit limit
  | ping => exact ⟨Database.send_eq_ok h.up .probe, h⟩

theorem exchanges_eq (h : Mirrors db s) {calls : List StoreCall} (hfits : ∀ c ∈ calls, c.Fits)
    (hdistinct : (s.alerts.map (·.id) ++
      (recordedAlerts (calls.map .call)).map (·.id)).Nodup)
    (hkeyed : AuditRow.Keyed ((s.called calls).audit.map .ofEntry)) :
    exchanges Database.handle calls db = exchanges MemoryStore.handle calls s := by
  induction calls generalizing db s with
  | nil => rfl
  | cons c calls ih =>
    obtain ⟨hc, hcalls⟩ := List.forall_mem_cons.mp hfits
    have hsplit : (recordedAlerts ((c :: calls).map .call)).map (·.id) =
        ((StoreOperation.call c).alert?.map (·.id)).toList ++
          (recordedAlerts (calls.map .call)).map (·.id) := by
      rw [recordedAlerts, List.map_cons, List.filterMap_cons]
      cases (StoreOperation.call c).alert? <;> rfl
    rw [hsplit, ← List.append_assoc] at hdistinct
    have hfresh : ∀ a ∈ (StoreOperation.call c).alert?, a.id ∉ s.alerts.map (·.id) := by
      intro a ha hmem
      rw [Option.mem_def.mp ha] at hdistinct
      have hids := (List.nodup_append.mp hdistinct).1
      exact (List.nodup_append.mp hids).2.2 a.id hmem a.id (List.mem_singleton_self _) rfl
    have hsofar : AuditRow.Keyed ((MemoryStore.handle c s).2.audit.map .ofEntry) :=
      hkeyed.mono (((MemoryStore.handle c s).2.audit_prefix_called calls).sublist.map _)
    obtain ⟨hreply, hnext⟩ := h.answersAlike hc hfresh hsofar
    rw [exchanges, exchanges, hreply, ih hnext hcalls _ hkeyed]
    rwa [MemoryStore.ids_handle]

end Mirrors

/-- A database that is up and a store in memory give the same replies to the same
calls, from empty tables and an empty store on, when the alerts that are added
are new ones with different ids, the entries that are added have different ids
too, and the times are whole microseconds and in no leap second. Otherwise two of
the entries are hashed from different bytes with the same digest. -/
theorem stores_alike {calls : List StoreCall}
    (hraised : ∀ a ∈ recordedAlerts (calls.map .call), a.IsRaised)
    (hdistinct : ((recordedAlerts (calls.map .call)).map (·.id)).Nodup)
    (hids : ((recorded (calls.map .call)).map (·.1)).Nodup)
    (htimes : ∀ c ∈ calls, ∀ t ∈ c.times, t.IsWhole ∧ ¬ t.IsLeap) :
    let trail := (MemoryStore.empty.called calls).audit
    exchanges Database.handle calls .empty = exchanges MemoryStore.handle calls .empty ∨
      AuditChain.Colliding trail trail := by
  refine (MemoryStore.keyed_or_colliding hids).imp_left fun hkeyed => ?_
  refine mirrors_empty.exchanges_eq (fun c hc => ⟨fun a ha => hraised a ?_, fun t ht => ?_⟩)
    hdistinct hkeyed
  · exact List.mem_filterMap.mpr ⟨.call c, List.mem_map_of_mem hc, ha⟩
  · obtain ⟨hwhole, hleap⟩ := htimes c hc t ht
    exact Instant.cutToMicros_of_whole hwhole hleap

/-- Two alerts of one time, one of which is resolved, and an entry of the audit log. -/
def aDay (first second : Uuid) (r : Resolution) (d : AuditDraft) : List StoreCall :=
  [.recordAlert (MemoryStore.alertOf first), .recordAlert (MemoryStore.alertOf second),
   .unresolvedAlerts "dos-1", .resolveAlert second r, .unresolvedAlerts "dos-1",
   .recordAudit second d, .auditEntries "DOSSIER" "dos-1", .verifyAudit 10]

theorem aDay_alike :
    let first : Uuid := ⟨List.replicate 32 '0', by decide⟩
    let second : Uuid := ⟨List.replicate 32 '1', by decide⟩
    let r : Resolution :=
      ⟨"alice", "NDA uploaded", ⟨⟨2026, 6, 2, by decide⟩, 36001, 0, by decide⟩⟩
    let d := { AuditLog.earlyDraft with timestamp := r.resolvedAt }
    let calls := aDay first second r d
    (∀ a ∈ recordedAlerts (calls.map .call), a.IsRaised) ∧
      ((recordedAlerts (calls.map .call)).map (·.id)).Nodup ∧
      ((recorded (calls.map .call)).map (·.1)).Nodup ∧
      (∀ c ∈ calls, ∀ t ∈ c.times, t.IsWhole ∧ ¬ t.IsLeap) ∧
      exchanges Database.handle calls .empty = exchanges MemoryStore.handle calls .empty := by
  intro first second r d calls
  have hraised : ∀ a ∈ recordedAlerts (calls.map .call), a.IsRaised := by
    intro a ha
    obtain rfl | rfl : a = MemoryStore.alertOf first ∨ a = MemoryStore.alertOf second := by
      simpa [calls, aDay, recordedAlerts, StoreOperation.alert?] using ha
    all_goals exact ⟨_, _, _, _, _, rfl⟩
  have hdistinct : ((recordedAlerts (calls.map .call)).map (·.id)).Nodup := by decide
  have hids : ((recorded (calls.map .call)).map (·.1)).Nodup := List.nodup_singleton second
  have htimes : ∀ c ∈ calls, ∀ t ∈ c.times, t.IsWhole ∧ ¬ t.IsLeap := by decide
  refine ⟨hraised, hdistinct, hids, htimes, ?_⟩
  rcases stores_alike hraised hdistinct hids htimes with hsame | ⟨e, he, f, hf, hother, _⟩
  · exact hsame
  · -- there is one entry, and it is hashed from its own bytes
    rw [List.mem_singleton.mp he, List.mem_singleton.mp hf] at hother
    exact absurd rfl hother

/-- A change that was blocked in the leap second at the end of a year. -/
def leapDraft : AuditDraft :=
  { AuditLog.earlyDraft with
    timestamp := ⟨⟨2016, 12, 31, by decide⟩, 86399, 1000000000, by decide⟩ }

theorem hash_leap :
    (leapDraft.chain AuditLog.earlyId genesisHash).cutToMicros.hash ≠
      (leapDraft.chain AuditLog.earlyId genesisHash).hash := by
  rw [AuditEntry.hash_eq, AuditEntry.hash_eq]
  decide +kernel

/-- Runs of two calls that look alike end with the same reply. -/
theorem reply_eq_of_exchanges {σ τ : Type} {h : StoreHandler σ} {k : StoreHandler τ}
    {first last : StoreCall} {s : σ} {t : τ}
    (hsame : exchanges h [first, last] s = exchanges k [first, last] t) :
    (h last (h first s).2).1 = (k last (k first t).2).1 := by
  obtain ⟨_, hrest⟩ := List.cons_eq_cons.mp hsame
  obtain ⟨hlast, _⟩ := List.cons_eq_cons.mp hrest
  exact eq_of_heq (Exchange.mk.inj hlast).2

/-- A leap second is a whole number of microseconds, and after an entry of such a
time the database finds a broken link where the store in memory finds none. -/
theorem leap_second_told_apart :
    let calls : List StoreCall := [.recordAudit AuditLog.earlyId leapDraft, .verifyAudit 10]
    recordedAlerts (calls.map .call) = [] ∧
      recorded (calls.map .call) = [(AuditLog.earlyId, leapDraft)] ∧
      (∀ c ∈ calls, ∀ t ∈ c.times, t.IsWhole) ∧
      exchanges Database.handle calls .empty ≠ exchanges MemoryStore.handle calls .empty := by
  intro calls
  refine ⟨rfl, rfl, by decide, fun hsame => ?_⟩
  let e := leapDraft.chain AuditLog.earlyId genesisHash
  have hrecorded : Database.empty.recordAudit AuditLog.earlyId leapDraft =
      (.ok e, { Database.empty with audit := [.ofEntry e] }) :=
    Database.recordAudit_eq rfl rfl
  have hfound : Database.verifyAudit { Database.empty with audit := [.ofEntry e] } 10 =
      .ok (AuditChain.verify [e.cutToMicros]) := by
    rw [Database.verifyAudit, Database.send_eq_ok rfl]
    exact congrArg (fun found : Except StoreError (List AuditEntry) => do
      return AuditChain.verify (← found)) (AuditRow.mapM_entry [e])
  have hmemory : AuditChain.verify [e] = ⟨1, 0⟩ := by
    have hlinked : AuditChain.isLinked genesisHash e = true :=
      AuditChain.isLinked_chain leapDraft AuditLog.earlyId genesisHash
    simp [AuditChain.verify, AuditChain.brokenAfter, hlinked]
  have hdatabase : AuditChain.verify [e.cutToMicros] = ⟨1, 1⟩ :=
    AuditChain.verify_cutToMicros (AuditChain.hash_chain _ _ _) hash_leap
  have hreplies := reply_eq_of_exchanges hsame
  rw [Database.handle, hrecorded] at hreplies
  have hverified : Except.ok (AuditChain.verify [e.cutToMicros]) =
      (Except.ok (AuditChain.verify [e]) : Except StoreError ChainIntegrity) :=
    hfound.symm.trans hreplies
  rw [hdatabase, hmemory] at hverified
  cases hverified

end DossierCompliance
