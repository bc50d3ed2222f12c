import DossierCompliance.Proofs.Json.Members
import DossierCompliance.Proofs.Store.AuditTrail

/-!
What a store in memory holds of one dossier. A store covers another one for a
dossier if both hold the same of it, whatever the first holds of others besides.
An operation that concerns the dossier, done on both, keeps this and is answered
alike; an operation that concerns others keeps it even if it is done on the first
store alone. Hashes of audit entries are left out, as each depends on all entries
before it.
-/

namespace DossierCompliance

open StoreOperation (after)

/-- Dossiers are stored under their ids. -/
theorem MemoryStore.id_of_get? {ops : List StoreOperation} {id : String} {d : Dossier}
    (h : (after ops).dossiers.get? id = some d) : d.id = id := by
  induction ops using List.reverseRecOn with
  | nil => cases h
  | append_singleton ops op ih =>
    rw [StoreOperation.after_append] at h
    cases op with
    | upsertDossier added =>
      rw [StoreOperation.step, upsertDossier] at h
      dsimp only at h
      rw [Members.get?_put] at h
      split at h
      case isTrue hid =>
        cases h
        exact hid
      case isFalse => exact ih h
    | upsertOrganization o => exact ih h
    | call c => cases c <;> exact ih h

/-! ### Alerts -/

/-- Two lists of alerts with the same alerts of a dossier. Of other dossiers the
second list has some of the alerts of the first, perhaps resolved otherwise. -/
inductive Alert.Covers (dossierId : String) : List Alert → List Alert → Prop
  | nil : Covers dossierId [] []
  | own {a : Alert} {all alone : List Alert} (ha : a.dossierId = dossierId)
    (rest : Covers dossierId all alone) : Covers dossierId (a :: all) (a :: alone)
  | foreign {a : Alert} {all alone : List Alert} (ha : a.dossierId ≠ dossierId)
    (rest : Covers dossierId all alone) : Covers dossierId (a :: all) alone
  | shared {a b : Alert} {all alone : List Alert} (ha : a.dossierId ≠ dossierId)
    (hb : b.dossierId ≠ dossierId) (hid : b.id = a.id) (rest : Covers dossierId all alone) :
    Covers dossierId (a :: all) (b :: alone)

namespace Alert.Covers

open MemoryStore (resolveFirst)

variable {dossierId : String} {all alone : List Alert}

theorem refl (dossierId : String) (alerts : List Alert) : Covers dossierId alerts alerts := by
  induction alerts with
  | nil => exact .nil
  | cons a rest ih =>
    by_cases ha : a.dossierId = dossierId
    · exact .own ha ih
    · exact .shared ha ha rfl ih

theorem append (h : Covers dossierId all alone) {more others : List Alert}
    (hmore : Covers dossierId more others) : Covers dossierId (all ++ more) (alone ++ others) := by
  induction h with
  | nil => exact hmore
  | own ha _ ih => exact .own ha ih
  | foreign ha _ ih => exact .foreign ha ih
  | shared ha hb hid _ ih => exact .shared ha hb hid ih

theorem unresolvedOf (h : Covers dossierId all alone) :
    Alert.unresolvedOf dossierId alone = Alert.unresolvedOf dossierId all := by
  refine congrArg (Instant.newestFirst _) ?_
  induction h with
  | nil => rfl
  | own ha _ ih => rw [List.filter_cons, List.filter_cons, ih]
  | foreign ha _ ih => simp [ih, ha]
  | shared ha hb _ _ ih => simp [ih, ha, hb]

/-- What holds of the first alert of an id, if there is one. -/
theorem forall_found_cons {p : Alert → Prop} {id : Uuid} {a : Alert} {rest : List Alert} :
    (∀ b ∈ (a :: rest).find? (fun b => b.id = id), p b) ↔
      if a.id = id then p a else ∀ b ∈ rest.find? (fun b => b.id = id), p b := by
  by_cases hfirst : a.id = id <;> simp [hfirst]

/-- An alert of the dossier, or none at all, is found in both lists. -/
theorem find? (h : Covers dossierId all alone) {id : Uuid}
    (hown : ∀ a ∈ all.find? (fun a => a.id = id), a.dossierId = dossierId) :
    alone.find? (fun a => a.id = id) = all.find? (fun a => a.id = id) := by
  induction h with
  | nil => rfl
  | @own a _ _ ha _ ih =>
    by_cases hfirst : a.id = id
    · simp [hfirst]
    · rw [forall_found_cons, if_neg hfirst] at hown
      simpa [hfirst] using ih hown
  | @foreign a _ _ ha _ ih =>
    by_cases hfirst : a.id = id
    · rw [forall_found_cons, if_pos hfirst] at hown
      exact absurd hown ha
    · rw [forall_found_cons, if_neg hfirst] at hown
      simpa [hfirst] using ih hown
  | @shared a _ _ _ ha _ hid _ ih =>
    by_cases hfirst : a.id = id
    · rw [forall_found_cons, if_pos hfirst] at hown
      exact absurd hown ha
    · rw [forall_found_cons, if_neg hfirst] at hown
      simpa [hid, hfirst] using ih hown

/-- Resolving an alert of the dossier, or none, is the same in both lists. -/
theorem resolveFirst_own (h : Covers dossierId all alone) {id : Uuid}
    (hown : ∀ a ∈ all.find? (fun a => a.id = id), a.dossierId = dossierId) (r : Resolution) :
    Covers dossierId (resolveFirst id r all) (resolveFirst id r alone) := by
  induction h with
  | nil => exact .nil
  | @own a _ _ ha rest ih =>
    rw [resolveFirst, resolveFirst]
    by_cases hfirst : a.id = id
    · rw [if_pos hfirst, if_pos hfirst]
      exact .own ha rest
    · rw [forall_found_cons, if_neg hfirst] at hown
      rw [if_neg hfirst, if_neg hfirst]
      exact .own ha (ih hown)
  | @foreign a _ _ ha _ ih =>
    by_cases hfirst : a.id = id
    · rw [forall_found_cons, if_pos hfirst] at hown
      exact absurd hown ha
    · rw [forall_found_cons, if_neg hfirst] at hown
      rw [resolveFirst, if_neg hfirst]
      exact .foreign ha (ih hown)
  | @shared a b _ _ ha hb hid _ ih =>
    by_cases hfirst : a.id = id
    · rw [forall_found_cons, if_pos hfirst] at hown
      exact absurd hown ha
    · rw [forall_found_cons, if_neg hfirst] at hown
      rw [resolveFirst, resolveFirst, if_neg hfirst, if_neg (hid ▸ hfirst)]
      exact .shared ha hb hid (ih hown)

/-- Resolving an alert of another dossier in the first list is not seen. -/
theorem resolveFirst_foreign (h : Covers dossierId all alone) {id : Uuid}
    (hforeign : ∀ a ∈ all.find? (fun a => a.id = id), a.dossierId ≠ dossierId) (r : Resolution) :
    Covers dossierId (resolveFirst id r all) alone := by
  induction h with
  | nil => exact .nil
  | @own a _ _ ha _ ih =>
    by_cases hfirst : a.id = id
    · rw [forall_found_cons, if_pos hfirst] at hforeign
      exact absurd ha hforeign
    · rw [forall_found_cons, if_neg hfirst] at hforeign
      rw [resolveFirst, if_neg hfirst]
      exact .own ha (ih hforeign)
  | @foreign a _ _ ha rest ih =>
    rw [resolveFirst]
    by_cases hfirst : a.id = id
    · rw [if_pos hfirst]
      exact .foreign ha rest
    · rw [forall_found_cons, if_neg hfirst] at hforeign
      rw [if_neg hfirst]
      exact .foreign ha (ih hforeign)
  | @shared a _ _ _ ha hb hid rest ih =>
    rw [resolveFirst]
    by_cases hfirst : a.id = id
    · rw [if_pos hfirst]
      exact .shared ha hb hid rest
    · rw [forall_found_cons, if_neg hfirst] at hforeign
      rw [if_neg hfirst]
      exact .shared ha hb hid (ih hforeign)

end Alert.Covers

/-! ### Stores -/

namespace MemoryStore

/-- What was recorded of an entity, without the hashes. -/
def recordsOf (s : MemoryStore) (entityId : String) : List (Uuid × AuditDraft) :=
  (s.audit.map AuditEntry.record).filter fun record => record.2.entityId == entityId

/-- The second store holds the same of a dossier as the first. -/
structure Covers (dossierId : String) (all alone : MemoryStore) : Prop where
  dossier : alone.dossiers.get? dossierId = all.dossiers.get? dossierId
  alerts : Alert.Covers dossierId all.alerts alone.alerts
  records : alone.recordsOf dossierId = all.recordsOf dossierId

theorem Covers.refl (dossierId : String) (s : MemoryStore) : Covers dossierId s s where
  dossier := rfl
  alerts := .refl dossierId s.alerts
  records := rfl

theorem Covers.auditEntries {dossierId : String} {all alone : MemoryStore}
    (h : Covers dossierId all alone) (entityType : String) :
    (alone.auditEntries entityType dossierId).map AuditEntry.record =
      (all.auditEntries entityType dossierId).map AuditEntry.record := by
  have hfiltered := congrArg (List.filter fun record => record.2.entityType == entityType) h.records
  rw [recordsOf, recordsOf, List.filter_filter, List.filter_filter] at hfiltered
  rw [records_auditEntries, records_auditEntries]
  exact hfiltered

theorem recordsOf_recordAudit (s : MemoryStore) (id : Uuid) (draft : AuditDraft)
    (entityId : String) :
    (s.recordAudit id draft).recordsOf entityId =
      s.recordsOf entityId ++ if draft.entityId = entityId then [(id, draft)] else [] := by
  have hrecord : (s.nextEntry id draft).record = (id, draft) := AuditDraft.record_chain draft id _
  rw [recordsOf, recordAudit, List.map_append, List.filter_append, List.map_singleton, hrecord,
    List.filter_singleton]
  simp [recordsOf]

end MemoryStore

/-! ### Operations -/

/-- An operation is one of those that tasks make, and it concerns only dossiers
with a property. Which dossier a resolution concerns depends on the alert that
has the id. -/
def StoreOperation.Concerns (p : String → Prop) (s : MemoryStore) : StoreOperation → Prop
  | upsertDossier d => p d.id
  | call (.findDossier id) => p id
  | call (.recordAlert a) => p a.dossierId
  | call (.resolveAlert id _) => ∀ a ∈ s.findAlert? id, p a.dossierId
  | call (.recordAudit _ draft) => p draft.entityId
  | _ => False

theorem StoreOperation.Concerns.mono {p q : String → Prop} (hpq : ∀ id, p id → q id)
    {s : MemoryStore} {op : StoreOperation} (h : op.Concerns p s) : op.Concerns q s := by
  cases op with
  | upsertDossier d => exact hpq _ h
  | upsertOrganization o => exact h
  | call c =>
    cases c with
    | findDossier id => exact hpq _ h
    | recordAlert a => exact hpq _ h
    | resolveAlert id r => exact fun a ha => hpq _ (h a ha)
    | recordAudit id draft => exact hpq _ h
    | _ => exact h

/-- Two replies to a call are the same but for the hashes of an audit entry. -/
def StoreCall.SameReply : (c : StoreCall) → c.Reply → c.Reply → Prop
  | recordAudit _ _, reply, other => reply.map AuditEntry.record = other.map AuditEntry.record
  | _, reply, other => reply = other

namespace MemoryStore.Covers

variable {dossierId : String} {all alone : MemoryStore} {op : StoreOperation}

/-- An operation that concerns the dossier does the same to both stores. -/
theorem own (h : Covers dossierId all alone) (hop : op.Concerns (· = dossierId) all) :
    Covers dossierId (op.step all) (op.step alone) := by
  cases op with
  | upsertDossier d =>
    have hid : d.id = dossierId := hop
    have hfound (s : MemoryStore) : (s.upsertDossier d).dossiers.get? dossierId = some d := by
      rw [upsertDossier, Members.get?_put, if_pos hid]
    exact { h with dossier := (hfound alone).trans (hfound all).symm }
  | upsertOrganization o => exact hop.elim
  | call c =>
    cases c with
    | recordAlert a => exact { h with alerts := h.alerts.append (.own hop .nil) }
    | resolveAlert id r => exact { h with alerts := h.alerts.resolveFirst_own hop r }
    | recordAudit id draft =>
      refine { h with records := ?_ }
      exact (recordsOf_recordAudit alone id draft dossierId).trans
        ((congrArg (· ++ _) h.records).trans (recordsOf_recordAudit all id draft dossierId).symm)
    | _ => exact h

/-- Such an operation is answered alike by both stores. -/
theorem sameReply (h : Covers dossierId all alone) {c : StoreCall}
    (hop : StoreOperation.Concerns (· = dossierId) all (.call c)) :
    c.SameReply (handle c all).1 (handle c alone).1 := by
  cases c with
  | findDossier id =>
    cases hop
    exact congrArg Except.ok h.dossier.symm
  | recordAlert a => rfl
  | resolveAlert id r =>
    have hfound : alone.findAlert? id = all.findAlert? id := h.alerts.find? hop
    rw [handle, handle, hfound]
    rfl
  | recordAudit id draft => rfl
  | _ => exact hop.elim

/-- An operation that concerns another dossier is not seen. -/
theorem foreign (h : Covers dossierId all alone) (hop : op.Concerns (· ≠ dossierId) all) :
    Covers dossierId (op.step all) alone := by
  cases op with
  | upsertDossier d =>
    refine { h with dossier := h.dossier.trans ?_ }
    rw [StoreOperation.step, upsertDossier, Members.get?_put, if_neg hop]
  | upsertOrganization o => exact hop.elim
  | call c =>
    cases c with
    | recordAlert a =>
      have halerts := h.alerts.append (.foreign hop .nil)
      rw [List.append_nil] at halerts
      exact { h with alerts := halerts }
    | resolveAlert id r => exact { h with alerts := h.alerts.resolveFirst_foreign hop r }
    | recordAudit id draft =>
      refine { h with records := h.records.trans ?_ }
      have hadded := recordsOf_recordAudit all id draft dossierId
      rw [if_neg hop, List.append_nil] at hadded
      exact hadded.symm
    | _ => exact h

end MemoryStore.Covers

end DossierCompliance
