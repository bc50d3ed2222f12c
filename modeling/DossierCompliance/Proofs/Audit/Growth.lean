import DossierCompliance.Proofs.Audit.Selection
import DossierCompliance.Proofs.Store.AuditTrail

/-!
Growing chains, intact or not. Whatever is broken in a list of entries, an entry
that is chained behind the last one adds no fault, and faults that are found in
the first entries are found however many more are checked: each entry is judged
by the hash before it alone, and adds one fault at most.
-/

namespace DossierCompliance

namespace AuditChain

/-! ### Longer parts of a list -/

/-- An entry has one fault at most. -/
theorem brokenAfter_le_length (previousHash : String) (entries : List AuditEntry) :
    brokenAfter previousHash entries ≤ entries.length := by
  induction entries generalizing previousHash with
  | nil => exact Nat.le_refl 0
  | cons e rest ih =>
    have hrest := ih e.entryHash
    rw [brokenAfter, List.length_cons]
    split <;> omega

/-- More entries have the faults of the first ones, and one more for each entry at most. -/
theorem brokenAfter_take_between (previousHash : String) (entries : List AuditEntry) {n m : Nat}
    (h : n ≤ m) :
    brokenAfter previousHash (entries.take n) ≤ brokenAfter previousHash (entries.take m) ∧
      brokenAfter previousHash (entries.take m) ≤
        brokenAfter previousHash (entries.take n) + (m - n) := by
  have hsplit : entries.take m = entries.take n ++ (entries.drop n).take (m - n) := by
    rw [← List.take_add, Nat.add_sub_cancel' h]
  have hmore := brokenAfter_le_length (hashAfter previousHash (entries.take n))
    ((entries.drop n).take (m - n))
  have hlength : ((entries.drop n).take (m - n)).length ≤ m - n := List.length_take_le _ _
  rw [hsplit, brokenAfter_append]
  omega

/-! ### Chained entries -/

/-- The list with the entry of a record chained behind its last one. -/
def extended (entries : List AuditEntry) (record : Uuid × AuditDraft) : List AuditEntry :=
  entries ++ [record.2.chain record.1 (lastHash entries)]

theorem verify_extended (entries : List AuditEntry) (record : Uuid × AuditDraft) :
    verify (extended entries record) =
      ⟨(verify entries).totalEntries + 1, (verify entries).brokenLinks⟩ := by
  have hlinked := isLinked_chain record.2 record.1 (lastHash entries)
  rw [lastHash_eq] at hlinked
  have hlast : brokenAfter (hashAfter genesisHash entries)
      [record.2.chain record.1 (hashAfter genesisHash entries)] = 0 :=
    (brokenAfter_eq_zero_iff _ _).mpr ⟨hlinked, trivial⟩
  simp only [verify, extended, lastHash_eq, List.length_append, List.length_singleton,
    brokenAfter_append, hlast, Nat.add_zero]

/-- However many records are chained, the faults are those there were before. -/
theorem verify_foldl_extended (records : List (Uuid × AuditDraft)) (entries : List AuditEntry) :
    verify (records.foldl extended entries) =
      ⟨(verify entries).totalEntries + records.length, (verify entries).brokenLinks⟩ := by
  induction records generalizing entries with
  | nil => rfl
  | cons record records ih =>
    rw [List.foldl_cons, ih, verify_extended, List.length_cons, Nat.add_assoc, Nat.add_comm 1]

end AuditChain

namespace MemoryStore

/-- The store after some records, in their order. -/
def recordAll (s : MemoryStore) (records : List (Uuid × AuditDraft)) : MemoryStore :=
  records.foldl (fun s record => (handle (.recordAudit record.1 record.2) s).2) s

theorem audit_recordAll (records : List (Uuid × AuditDraft)) (s : MemoryStore) :
    (s.recordAll records).audit = records.foldl AuditChain.extended s.audit := by
  induction records generalizing s with
  | nil => rfl
  | cons record records ih => exact ih (s.recordAudit record.1 record.2)

end MemoryStore

open AuditChain (verify lastHash)

/-- Checking goes along with the growth of a list, be it a chain or not. An entry
chained behind the last one, or behind the hash of zeros in an empty list, is
counted and adds no fault. The first entries have no more faults than more of
them have, and fewer by one for each further entry at most. So it is with a store
in any state, whatever is recorded in it. -/
theorem verification_incremental :
    (∀ (entries : List AuditEntry) (id : Uuid) (draft : AuditDraft),
      verify (entries ++ [draft.chain id (lastHash entries)]) =
        ⟨(verify entries).totalEntries + 1, (verify entries).brokenLinks⟩) ∧
    (∀ (entries : List AuditEntry) (n m : Nat), n ≤ m →
      (verify (entries.take n)).brokenLinks ≤ (verify (entries.take m)).brokenLinks ∧
      (verify (entries.take m)).brokenLinks ≤
        (verify (entries.take n)).brokenLinks + (m - n)) ∧
    (∀ (s : MemoryStore) (records : List (Uuid × AuditDraft)),
      verify (s.recordAll records).audit =
        ⟨(verify s.audit).totalEntries + records.length, (verify s.audit).brokenLinks⟩) ∧
    ∀ (s : MemoryStore) (n m : Nat), n ≤ m →
      (s.verifyAudit n).brokenLinks ≤ (s.verifyAudit m).brokenLinks ∧
      (s.verifyAudit m).brokenLinks ≤ (s.verifyAudit n).brokenLinks + (m - n) := by
  refine ⟨?_, ?_, ?_, ?_⟩
  · exact fun entries id draft => AuditChain.verify_extended entries (id, draft)
  · exact fun entries n m h => AuditChain.brokenAfter_take_between genesisHash entries h
  · intro s records
    rw [MemoryStore.audit_recordAll, AuditChain.verify_foldl_extended]
  · exact fun s n m h => AuditChain.brokenAfter_take_between genesisHash s.audit h

/-- A store whose one entry names the hash of no other. -/
def strayStore : MemoryStore :=
  { MemoryStore.empty with audit := [AuditChain.secondEntry "ab"] }

/-- That entry is a fault, the only one when the same is recorded behind it, and
is found again when both are checked. -/
theorem growth_of_stray :
    let s := strayStore.recordAll [(AuditChain.secondEntry "ab").record]
    1 ≤ 2 ∧ verify strayStore.audit = ⟨1, 1⟩ ∧ verify s.audit = ⟨2, 1⟩ ∧
      (s.verifyAudit 1).brokenLinks ≤ (s.verifyAudit 2).brokenLinks ∧
      (s.verifyAudit 2).brokenLinks ≤ (s.verifyAudit 1).brokenLinks + 1 := by
  intro s
  obtain ⟨_, _, hgrowth, hbetween⟩ := verification_incremental
  have hname : (AuditChain.secondEntry "ab").previousHash ≠ genesisHash := by decide
  have hstray : verify strayStore.audit = ⟨1, 1⟩ := by
    rw [strayStore, verify, AuditChain.brokenAfter, AuditChain.isLinked, beq_false_of_ne hname]
    rfl
  have hgrown := hgrowth strayStore [(AuditChain.secondEntry "ab").record]
  rw [hstray] at hgrown
  exact ⟨by decide, hstray, hgrown, hbetween s 1 2 (by decide)⟩

end DossierCompliance
