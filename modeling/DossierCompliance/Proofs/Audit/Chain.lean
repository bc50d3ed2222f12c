import DossierCompliance.Audit.Chain
import Mathlib.Data.List.Basic

/-!
Linked entries. A chain is checked entry by entry, with the hash of the entry
before in hand, so what is found in a chain is found in its parts: nothing is
broken exactly when each part is linked behind what stands before it.
-/

namespace DossierCompliance.AuditChain

/-- The hash that the entry behind the given ones has to name. -/
def hashAfter (previousHash : String) (entries : List AuditEntry) : String :=
  (entries.getLast?.map (·.entryHash)).getD previousHash

@[simp]
theorem hashAfter_nil (previousHash : String) : hashAfter previousHash [] = previousHash := rfl

@[simp]
theorem hashAfter_cons (previousHash : String) (e : AuditEntry) (rest : List AuditEntry) :
    hashAfter previousHash (e :: rest) = hashAfter e.entryHash rest := by
  unfold hashAfter
  rw [List.getLast?_cons]
  cases rest.getLast? <;> rfl

@[simp]
theorem hashAfter_concat (previousHash : String) (xs : List AuditEntry) (e : AuditEntry) :
    hashAfter previousHash (xs ++ [e]) = e.entryHash := by
  rw [hashAfter, List.getLast?_concat]
  rfl

theorem lastHash_eq (entries : List AuditEntry) :
    lastHash entries = hashAfter genesisHash entries := by
  unfold lastHash hashAfter
  cases entries.getLast? <;> rfl

theorem brokenAfter_append (previousHash : String) (xs ys : List AuditEntry) :
    brokenAfter previousHash (xs ++ ys) =
      brokenAfter previousHash xs + brokenAfter (hashAfter previousHash xs) ys := by
  induction xs generalizing previousHash with
  | nil => simp [brokenAfter]
  | cons e xs ih =>
    simp only [List.cons_append, brokenAfter, hashAfter_cons, ih]
    omega

theorem isLinked_iff {previousHash : String} {e : AuditEntry} :
    isLinked previousHash e = true ↔ e.previousHash = previousHash ∧ e.hash = e.entryHash := by
  simp [isLinked]

/-- Every entry is linked behind the one before it. -/
def LinkedAfter (previousHash : String) : List AuditEntry → Prop
  | [] => True
  | e :: rest => isLinked previousHash e = true ∧ LinkedAfter e.entryHash rest

theorem brokenAfter_eq_zero_iff (previousHash : String) (entries : List AuditEntry) :
    brokenAfter previousHash entries = 0 ↔ LinkedAfter previousHash entries := by
  induction entries generalizing previousHash with
  | nil => simp [brokenAfter, LinkedAfter]
  | cons e rest ih =>
    rw [brokenAfter, LinkedAfter, Nat.add_eq_zero_iff, ih]
    by_cases hlinked : isLinked previousHash e = true <;> simp [hlinked]

theorem linkedAfter_append (previousHash : String) (xs ys : List AuditEntry) :
    LinkedAfter previousHash (xs ++ ys) ↔
      LinkedAfter previousHash xs ∧ LinkedAfter (hashAfter previousHash xs) ys := by
  simp only [← brokenAfter_eq_zero_iff, brokenAfter_append, Nat.add_eq_zero_iff]

theorem linkedAfter_take {previousHash : String} {entries : List AuditEntry}
    (h : LinkedAfter previousHash entries) (limit : Nat) :
    LinkedAfter previousHash (entries.take limit) := by
  rw [← List.take_append_drop limit entries, linkedAfter_append] at h
  exact h.1

/-- Linked entries name each the hash of the one before. -/
theorem names_of_linkedAfter {previousHash : String} {entries : List AuditEntry}
    (h : LinkedAfter previousHash entries) :
    (∀ e ∈ entries.head?, e.previousHash = previousHash) ∧
      entries.IsChain (fun e f => f.previousHash = e.entryHash) := by
  induction entries generalizing previousHash with
  | nil => simp
  | cons e rest ih =>
    obtain ⟨hlinked, hrest⟩ := h
    obtain ⟨hhead, hchain⟩ := ih hrest
    refine ⟨by simpa using (isLinked_iff.mp hlinked).1, ?_⟩
    cases rest with
    | nil => exact List.IsChain.singleton e
    | cons f rest =>
      exact List.isChain_cons_cons.mpr ⟨hhead f rfl, hchain⟩

theorem isValid_verify_iff (entries : List AuditEntry) :
    (verify entries).isValid = true ↔ LinkedAfter genesisHash entries := by
  rw [← brokenAfter_eq_zero_iff]
  simp [ChainIntegrity.isValid, verify]

/-- A chained entry has the hash of its content, which leaves the hash itself out. -/
theorem hash_chain (d : AuditDraft) (id : Uuid) (previousHash : String) :
    (d.chain id previousHash).hash = (d.chain id previousHash).entryHash := by
  simp only [AuditDraft.chain, AuditEntry.hash, AuditEntry.preimage, AuditEntry.parts]

/-- An entry that is chained behind a hash is linked behind it. -/
theorem isLinked_chain (d : AuditDraft) (id : Uuid) (previousHash : String) :
    isLinked previousHash (d.chain id previousHash) = true :=
  isLinked_iff.mpr ⟨rfl, hash_chain d id previousHash⟩

end DossierCompliance.AuditChain
