import DossierCompliance.Proofs.Audit.Selection

/-!
An entry of a chain that is exchanged for any other. The check goes on with the
hash that stands in the new entry, whether that fits its content or not. So the
damage shows in two places at most: at the new entry itself, and at the entry
behind it, which still names the hash of the old one.
-/

namespace DossierCompliance.AuditChain

/-- Linked entries behind another hash: the first of them breaks and no other. -/
theorem brokenAfter_of_linkedAfter {previousHash : String} {entries : List AuditEntry}
    (h : LinkedAfter previousHash entries) (other : String) :
    brokenAfter other entries = if entries ≠ [] ∧ other ≠ previousHash then 1 else 0 := by
  cases entries with
  | nil => simp [brokenAfter]
  | cons e rest =>
    obtain ⟨hlinked, hrest⟩ := h
    obtain ⟨hnamed, hhash⟩ := isLinked_iff.mp hlinked
    have hfirst : isLinked other e = true ↔ other = previousHash := by
      rw [isLinked_iff, hnamed]
      exact ⟨fun h => h.1.symm, fun h => ⟨h.symm, hhash⟩⟩
    rw [brokenAfter, (brokenAfter_eq_zero_iff _ _).mpr hrest]
    by_cases hsame : other = previousHash
    · rw [if_pos (hfirst.mpr hsame), if_neg (fun h => h.2 hsame)]
    · rw [if_neg (mt hfirst.mp hsame), if_pos ⟨List.cons_ne_nil _ _, hsame⟩]

/-- What stands before the exchanged entry stays linked, and what stands behind
it is linked behind the hash of the old entry. -/
theorem brokenAfter_exchanged {previousHash : String} {before after : List AuditEntry}
    {old : AuditEntry} (h : LinkedAfter previousHash (before ++ old :: after)) (e : AuditEntry) :
    brokenAfter previousHash (before ++ e :: after) =
      (if isLinked (hashAfter previousHash before) e then 0 else 1) +
        if after ≠ [] ∧ e.entryHash ≠ old.entryHash then 1 else 0 := by
  obtain ⟨hbefore, _, hafter⟩ := (linkedAfter_append _ _ _).mp h
  rw [brokenAfter_append, (brokenAfter_eq_zero_iff _ _).mpr hbefore, brokenAfter,
    brokenAfter_of_linkedAfter hafter, Nat.zero_add]

theorem isLinked_eq_false_iff {previousHash : String} {e : AuditEntry} :
    isLinked previousHash e = false ↔ e.previousHash ≠ previousHash ∨ e.hash ≠ e.entryHash := by
  rw [← Bool.not_eq_true, isLinked_iff, not_and_or]

/-- How often one exchanged entry is counted, whatever the new one holds: once
if it is not linked itself, and once if another stands behind it and its hash is
not that of the old one. So content that is changed under the old hash counts
once, and an entry that is hashed anew is found out only by the one behind it. -/
theorem verify_exchanged {entries : List AuditEntry} (hvalid : (verify entries).brokenLinks = 0)
    {place : Nat} (hplace : place < entries.length) (e : AuditEntry) :
    let old := entries[place]
    let exchanged := verify (entries.set place e)
    exchanged.totalEntries = (verify entries).totalEntries ∧
    exchanged.brokenLinks =
      (if e.previousHash ≠ linkAt entries place ∨ e.hash ≠ e.entryHash then 1 else 0) +
        (if place + 1 ≠ entries.length ∧ e.entryHash ≠ old.entryHash then 1 else 0) ∧
    (e.entryHash = old.entryHash → e.hash ≠ e.entryHash → exchanged.brokenLinks = 1) ∧
    (e.previousHash = linkAt entries place → e.hash = e.entryHash → exchanged.brokenLinks =
      if place + 1 ≠ entries.length ∧ e.entryHash ≠ old.entryHash then 1 else 0) ∧
    exchanged.brokenLinks ≤ 2 := by
  intro old exchanged
  have hsplit : entries = entries.take place ++ old :: entries.drop (place + 1) := by simp [old]
  have hset : entries.set place e = entries.take place ++ e :: entries.drop (place + 1) :=
    List.set_eq_take_append_cons_drop.trans (if_pos hplace)
  have hlinked : LinkedAfter genesisHash (entries.take place ++ old :: entries.drop (place + 1)) :=
    hsplit ▸ (brokenAfter_eq_zero_iff _ _).mp hvalid
  have hbehind : entries.drop (place + 1) ≠ [] ↔ place + 1 ≠ entries.length := by
    rw [ne_eq, List.drop_eq_nil_iff]
    omega
  have hitself : (if isLinked (linkAt entries place) e then 0 else 1) =
      if e.previousHash ≠ linkAt entries place ∨ e.hash ≠ e.entryHash then 1 else 0 := by
    simp only [← isLinked_eq_false_iff]
    cases isLinked (linkAt entries place) e <;> rfl
  have hcount : exchanged.brokenLinks =
      (if e.previousHash ≠ linkAt entries place ∨ e.hash ≠ e.entryHash then 1 else 0) +
        if place + 1 ≠ entries.length ∧ e.entryHash ≠ old.entryHash then 1 else 0 := by
    have hexchanged := brokenAfter_exchanged hlinked e
    rw [← hset, ← linkAt, hitself] at hexchanged
    simp only [hbehind] at hexchanged
    exact hexchanged
  refine ⟨by simp [exchanged, verify], hcount, ?_, ?_, ?_⟩
  · intro hkept hchanged
    rw [hcount, if_pos (Or.inr hchanged), if_neg (fun h => h.2 hkept)]
  · intro hnamed hhash
    rw [hcount, if_neg (by simp [hnamed, hhash]), Nat.zero_add]
  · rw [hcount]
    split <;> split <;> omega

/-- Of two entries, the first with its content changed under the old hash counts
once, and with other hashes twice; a single entry that is hashed anew does not
show. -/
theorem exchanges_of_two :
    let first := firstEntry "org-1" "user-7"
    (verify twoEntries).brokenLinks = 0 ∧ (verify [first]).brokenLinks = 0 ∧
      (verify (twoEntries.set 0 { first with entityId := "dos-9" })).brokenLinks = 1 ∧
      (verify (twoEntries.set 0 { first with previousHash := "", entryHash := "" })).brokenLinks
        = 2 ∧
      (verify ([first].set 0 (firstEntry "org-2" "user-8"))).brokenLinks = 0 := by
  intro first
  have htwo : (verify twoEntries).brokenLinks = 0 :=
    (brokenAfter_eq_zero_iff _ _).mpr linkedAfter_twoEntries
  have hone : (verify [first]).brokenLinks = 0 :=
    (brokenAfter_eq_zero_iff _ _).mpr ⟨isLinked_chain _ _ _, trivial⟩
  have hfirst : 0 < twoEntries.length := by decide
  refine ⟨htwo, hone, ?_, ?_, ?_⟩
  · have hchanged : { first with entityId := "dos-9" : AuditEntry }.hash ≠ first.entryHash := by
      rw [entryHash_firstEntry, AuditEntry.hash_eq]
      decide +kernel
    exact (verify_exchanged htwo hfirst _).2.2.1 rfl hchanged
  · have hold : "" ≠ first.entryHash := by
      rw [entryHash_firstEntry]
      decide
    have hnamed : "" ≠ linkAt twoEntries 0 := by
      rw [linkAt_zero]
      decide
    refine (verify_exchanged htwo hfirst _).2.1.trans ?_
    rw [if_pos (Or.inl hnamed), if_pos ⟨by decide, hold⟩]
  · refine ((verify_exchanged hone Nat.zero_lt_one _).2.2.2.1 rfl ?_).trans (if_neg ?_)
    · exact hash_chain _ _ _
    · simp

end DossierCompliance.AuditChain
