import DossierCompliance.Store.Memory
import DossierCompliance.Proofs.Audit.Chain
import Mathlib.Data.List.Induction

/-!
The audit trail of a store in memory. Whatever is done to the store, entries
are only added, one for each that is recorded, and each is linked behind the
one before it. The invariant that carries this is that the whole list is
linked behind the hash of zeros; the hash of its last entry is the one that
the next entry names.
-/

namespace DossierCompliance

/-- One thing done to a store in memory. -/
inductive StoreOperation where
  | upsertDossier (d : Dossier)
  | upsertOrganization (o : Organization)
  | call (c : StoreCall)

namespace StoreOperation

def step : StoreOperation → MemoryStore → MemoryStore
  | upsertDossier d, s => s.upsertDossier d
  | upsertOrganization o, s => s.upsertOrganization o
  | call c, s => (MemoryStore.handle c s).2

/-- The identifier and the draft of an entry that is recorded. -/
def recorded? : StoreOperation → Option (Uuid × AuditDraft)
  | call (.recordAudit id draft) => some (id, draft)
  | _ => none

/-- The store after some operations on a new one. -/
def after (ops : List StoreOperation) : MemoryStore :=
  ops.foldl (fun s op => op.step s) MemoryStore.empty

/-- What the operations record, in their order. -/
def recorded (ops : List StoreOperation) : List (Uuid × AuditDraft) :=
  ops.filterMap recorded?

theorem after_append (ops : List StoreOperation) (op : StoreOperation) :
    after (ops ++ [op]) = op.step (after ops) := by
  simp [after]

end StoreOperation

/-- The draft that an entry was made from. -/
def AuditEntry.draft (e : AuditEntry) : AuditDraft where
  tenantId := e.tenantId
  actor := ⟨e.actorId, e.actorRole⟩
  action := e.action
  entityType := e.entityType
  entityId := e.entityId
  phase := e.phase
  isForced := e.isForced
  previousState := e.previousState
  newState := e.newState
  details := e.details
  timestamp := e.timestamp

/-- What an entry carries of the call that recorded it. -/
def AuditEntry.record (e : AuditEntry) : Uuid × AuditDraft :=
  (e.id, e.draft)

theorem AuditDraft.record_chain (d : AuditDraft) (id : Uuid) (previousHash : String) :
    (d.chain id previousHash).record = (id, d) := rfl

namespace MemoryStore

open StoreOperation (after recorded)

/-! ### One operation -/

/-- An operation leaves the audit list alone or adds the entry that it records,
behind the last one. -/
theorem audit_step (op : StoreOperation) (s : MemoryStore) :
    (op.step s).audit =
      s.audit ++ (op.recorded?.map fun record => s.nextEntry record.1 record.2).toList := by
  cases op with
  | upsertDossier d => simp [StoreOperation.step, StoreOperation.recorded?, upsertDossier,
      upsertOrganization]
  | upsertOrganization o => simp [StoreOperation.step, StoreOperation.recorded?,
      upsertOrganization]
  | call c =>
    cases c <;>
      simp [StoreOperation.step, StoreOperation.recorded?, handle, recordAlert, resolveAlert,
        recordAudit]

theorem audit_prefix_step (op : StoreOperation) (s : MemoryStore) :
    s.audit <+: (op.step s).audit := by
  rw [audit_step]
  exact List.prefix_append _ _

/-- The next entry is linked behind a linked list. -/
theorem linked_step (op : StoreOperation) {s : MemoryStore}
    (h : AuditChain.LinkedAfter genesisHash s.audit) :
    AuditChain.LinkedAfter genesisHash (op.step s).audit := by
  rw [audit_step, AuditChain.linkedAfter_append]
  refine ⟨h, ?_⟩
  cases op.recorded? with
  | none => trivial
  | some record =>
    have hlinked := AuditChain.isLinked_chain record.2 record.1 (AuditChain.lastHash s.audit)
    rw [AuditChain.lastHash_eq] at hlinked
    refine ⟨?_, trivial⟩
    simpa [nextEntry, AuditChain.lastHash_eq] using hlinked

theorem records_step (op : StoreOperation) (s : MemoryStore) :
    (op.step s).audit.map AuditEntry.record =
      s.audit.map AuditEntry.record ++ op.recorded?.toList := by
  rw [audit_step, List.map_append]
  cases op.recorded? with
  | none => rfl
  | some record =>
    have hrecord := AuditDraft.record_chain record.2 record.1 (AuditChain.lastHash s.audit)
    simp [nextEntry, hrecord]

/-! ### All operations -/

theorem linked_after (ops : List StoreOperation) :
    AuditChain.LinkedAfter genesisHash (after ops).audit := by
  induction ops using List.reverseRecOn with
  | nil => trivial
  | append_singleton ops op ih =>
    rw [StoreOperation.after_append]
    exact linked_step op ih

theorem records_after (ops : List StoreOperation) :
    (after ops).audit.map AuditEntry.record = recorded ops := by
  induction ops using List.reverseRecOn with
  | nil => rfl
  | append_singleton ops op ih =>
    rw [StoreOperation.after_append, records_step, ih, recorded, recorded, List.filterMap_append]
    cases hop : op.recorded? <;> simp [hop]

/-- The first entries of a linked list are checked without a fault. -/
theorem verifyAudit_after (ops : List StoreOperation) (limit : Nat) :
    (after ops).verifyAudit limit = ⟨min limit (after ops).audit.length, 0⟩ := by
  have hlinked := AuditChain.linkedAfter_take (linked_after ops) limit
  have hunbroken := (AuditChain.brokenAfter_eq_zero_iff _ _).mpr hlinked
  rw [verifyAudit, AuditChain.verify, hunbroken, List.length_take]

/-- The entries of an entity come from what was recorded of it, in order. -/
theorem records_auditEntries (s : MemoryStore) (entityType entityId : String) :
    (s.auditEntries entityType entityId).map AuditEntry.record =
      (s.audit.map AuditEntry.record).filter fun record =>
        record.2.entityType == entityType && record.2.entityId == entityId := by
  rw [List.filter_map, auditEntries]
  rfl

/-- Entries are never changed by what is done later. -/
theorem audit_prefix_after (ops later : List StoreOperation) :
    (after ops).audit <+: (after (ops ++ later)).audit := by
  induction later using List.reverseRecOn with
  | nil => simp
  | append_singleton later op ih =>
    rw [← List.append_assoc, StoreOperation.after_append]
    exact ih.trans (audit_prefix_step op _)

/-- The audit trail of every state of a store: it holds what was recorded, in
order; nothing done later changes it; it is a chain without a broken link,
checked as a whole or in part; and it is read entity by entity. -/
theorem audit_trail (ops : List StoreOperation) :
    (after ops).audit.map AuditEntry.record = recorded ops ∧
    (∀ op : StoreOperation, (after ops).audit <+: (op.step (after ops)).audit) ∧
    (∀ later, (after ops).audit <+: (after (ops ++ later)).audit) ∧
    (∀ e ∈ (after ops).audit.head?, e.previousHash = genesisHash) ∧
    (after ops).audit.IsChain (fun e f => f.previousHash = e.entryHash) ∧
    (AuditChain.verify (after ops).audit).brokenLinks = 0 ∧
    (∀ limit, handle (.verifyAudit limit) (after ops) =
      (.ok ⟨min limit (after ops).audit.length, 0⟩, after ops)) ∧
    (∀ entityType entityId, ∃ entries : List AuditEntry,
      handle (.auditEntries entityType entityId) (after ops) = (.ok entries, after ops) ∧
        entries.Sublist (after ops).audit ∧
        (∀ e, e ∈ entries ↔
          e ∈ (after ops).audit ∧ e.entityType = entityType ∧ e.entityId = entityId) ∧
        entries.map AuditEntry.record = (recorded ops).filter fun record =>
          record.2.entityType == entityType && record.2.entityId == entityId) := by
  obtain ⟨hfirst, hchain⟩ := AuditChain.names_of_linkedAfter (linked_after ops)
  have hunbroken := (AuditChain.brokenAfter_eq_zero_iff _ _).mpr (linked_after ops)
  refine ⟨records_after ops, fun op => audit_prefix_step op _, audit_prefix_after ops, hfirst,
    hchain, hunbroken, ?_, ?_⟩
  · intro limit
    rw [handle, verifyAudit_after]
  · intro entityType entityId
    refine ⟨(after ops).auditEntries entityType entityId, rfl, List.filter_sublist, ?_, ?_⟩
    · intro e
      simp [auditEntries]
    · rw [records_auditEntries, records_after]

end MemoryStore

end DossierCompliance
