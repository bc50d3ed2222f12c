import DossierCompliance.Proofs.Audit.Coverage
import Mathlib.Tactic

/-!
Selections of a chain. Somebody who cannot make new entries may still leave
some out, repeat some or change their order. Where the hashes of a chain are
all different, the hash that an entry names gives away its place, so that a
selection is a chain of its own only if it takes the first entries, each once
and in order.
-/

namespace DossierCompliance.AuditChain

variable {entries : List AuditEntry}

/-- The hash that the entry at a place of a chain has to name. -/
def linkAt (entries : List AuditEntry) (place : Nat) : String :=
  hashAfter genesisHash (entries.take place)

theorem linkAt_zero (entries : List AuditEntry) : linkAt entries 0 = genesisHash := rfl

theorem linkAt_succ {place : Nat} (hplace : place < entries.length) :
    linkAt entries (place + 1) = entries[place].entryHash := by
  rw [linkAt, List.take_succ_eq_append_getElem hplace, hashAfter_concat]

theorem isLinked_getElem (h : LinkedAfter genesisHash entries) {place : Nat}
    (hplace : place < entries.length) :
    isLinked (linkAt entries place) entries[place] = true := by
  have hsplit : entries.take place ++ entries[place] :: entries.drop (place + 1) = entries := by
    simp
  rw [← hsplit, linkedAfter_append] at h
  exact h.2.1

/-- All hashes of the list are different, also from the one of zeros. -/
structure Distinct (entries : List AuditEntry) : Prop where
  nodup : (entries.map (·.entryHash)).Nodup
  ne_genesis : ∀ e ∈ entries, e.entryHash ≠ genesisHash

/-- A place is told by the hash that is to be named there. -/
theorem linkAt_inj (hdistinct : Distinct entries) {m n : Nat} (hm : m ≤ entries.length)
    (hn : n ≤ entries.length) (h : linkAt entries m = linkAt entries n) : m = n := by
  have hgenesis {place : Nat} (hplace : place < entries.length) :
      linkAt entries (place + 1) ≠ genesisHash := by
    rw [linkAt_succ hplace]
    exact hdistinct.ne_genesis _ (List.getElem_mem hplace)
  cases m with
  | zero =>
    cases n with
    | zero => rfl
    | succ n => exact absurd h.symm (hgenesis hn)
  | succ m =>
    cases n with
    | zero => exact absurd h (hgenesis hm)
    | succ n =>
      rw [linkAt_succ hm, linkAt_succ hn] at h
      have hhashes : (entries.map (·.entryHash))[m]? = (entries.map (·.entryHash))[n]? := by
        rw [List.getElem?_map, List.getElem?_map, List.getElem?_eq_getElem hm,
          List.getElem?_eq_getElem hn, Option.map_some, Option.map_some, h]
      rw [(List.getElem?_inj (by simpa using hm) hdistinct.nodup).mp hhashes]

/-- The entries at some positions of a list, in the order of the positions. -/
def selected (entries : List AuditEntry) (positions : List (Fin entries.length)) :
    List AuditEntry :=
  positions.map entries.get

/-- Behind the entry before a place, a selection is linked when it goes on from
that place without a gap. -/
theorem linkedAfter_selected_iff (h : LinkedAfter genesisHash entries)
    (hdistinct : Distinct entries) (positions : List (Fin entries.length)) {place : Nat}
    (hplace : place ≤ entries.length) :
    LinkedAfter (linkAt entries place) (selected entries positions) ↔
      positions.map Fin.val = List.range' place positions.length := by
  induction positions generalizing place with
  | nil => simp [selected, LinkedAfter]
  | cons i positions ih =>
    obtain ⟨hnamed, hhash⟩ := isLinked_iff.mp (isLinked_getElem h i.isLt)
    have hhead : isLinked (linkAt entries place) entries[i] = true ↔ i.val = place := by
      rw [isLinked_iff]
      constructor
      · rintro ⟨hsame, _⟩
        exact linkAt_inj hdistinct i.isLt.le hplace (hnamed.symm.trans hsame)
      · rintro rfl
        exact ⟨hnamed, hhash⟩
    have hrest : LinkedAfter (linkAt entries (i.val + 1)) (selected entries positions) ↔
        positions.map Fin.val = List.range' (i.val + 1) positions.length := ih i.isLt
    rw [linkAt_succ i.isLt] at hrest
    simp only [selected, List.map_cons, LinkedAfter, List.length_cons, List.range'_succ,
      List.cons.injEq]
    constructor
    · rintro ⟨hfirst, hlater⟩
      have hi := hhead.mp hfirst
      exact ⟨hi, hi ▸ hrest.mp hlater⟩
    · rintro ⟨hi, hlater⟩
      exact ⟨hhead.mpr hi, hrest.mpr (hi ▸ hlater)⟩

/-- Nothing but a beginning passes for the chain: of a chain whose hashes are
all different, a selection is a chain exactly when it takes the first entries,
each once and in order. -/
theorem selection_unbroken_iff (hvalid : (verify entries).brokenLinks = 0)
    (hnodup : (entries.map (·.entryHash)).Nodup)
    (hgenesis : ∀ e ∈ entries, e.entryHash ≠ genesisHash)
    (positions : List (Fin entries.length)) :
    (verify (selected entries positions)).brokenLinks = 0 ↔
      ∃ k ≤ entries.length, positions.map Fin.val = List.range k := by
  have hlinked := (brokenAfter_eq_zero_iff _ _).mp hvalid
  have hselected := linkedAfter_selected_iff hlinked ⟨hnodup, hgenesis⟩ positions
    (Nat.zero_le entries.length)
  rw [linkAt_zero, ← List.range_eq_range'] at hselected
  rw [verify, brokenAfter_eq_zero_iff, hselected]
  constructor
  · intro hrange
    refine ⟨positions.length, ?_, hrange⟩
    cases hcount : positions.length with
    | zero => exact Nat.zero_le _
    | succ n =>
      have hlast : n ∈ positions.map Fin.val := by
        rw [hrange, hcount]
        exact List.self_mem_range_succ
      obtain ⟨i, _, rfl⟩ := List.mem_map.mp hlast
      exact i.isLt
  · rintro ⟨k, _, hrange⟩
    have hcount : positions.length = k := by
      simpa using congrArg List.length hrange
    rw [hrange, hcount]

/-! ### A chain of two entries -/

/-- The second entry of a chain, behind a given hash. -/
def secondEntry (previousHash : String) : AuditEntry :=
  AuditDraft.chain
    { tenantId := "org-1"
      actor := ⟨"user-8", none⟩
      action := .transitionBlocked
      entityType := "DOSSIER"
      entityId := "dos-2"
      phase := .billing
      isForced := false
      previousState := .completed
      newState := .invoiced
      details := .null
      timestamp := ⟨⟨2026, 6, 2, by decide⟩, 36060, 0, by decide⟩ }
    ⟨List.replicate 32 '1', by decide⟩ previousHash

def twoEntries : List AuditEntry :=
  [firstEntry "org-1" "user-7", secondEntry (firstEntry "org-1" "user-7").entryHash]

theorem linkedAfter_twoEntries : LinkedAfter genesisHash twoEntries :=
  ⟨isLinked_chain _ _ _, isLinked_chain _ _ _, trivial⟩

theorem entryHash_firstEntry :
    (firstEntry "org-1" "user-7").entryHash =
      "07e3ad53e96091ba6edbe89e8632f66990d8fb0b996b2505f1ffce87125abbc6" := by
  rw [firstEntry, ← hash_chain, AuditEntry.hash_eq]
  decide +kernel

theorem entryHash_secondEntry :
    (secondEntry (firstEntry "org-1" "user-7").entryHash).entryHash =
      "447906ec5d3aede63075b06d2f3f2aa6ed5593f0bfdb15b10753c6403adfdb38" := by
  rw [entryHash_firstEntry, secondEntry, ← hash_chain, AuditEntry.hash_eq]
  decide +kernel

theorem map_entryHash_twoEntries :
    twoEntries.map (·.entryHash) =
      ["07e3ad53e96091ba6edbe89e8632f66990d8fb0b996b2505f1ffce87125abbc6",
       "447906ec5d3aede63075b06d2f3f2aa6ed5593f0bfdb15b10753c6403adfdb38"] := by
  rw [twoEntries, List.map_cons, List.map_cons, List.map_nil, entryHash_secondEntry,
    entryHash_firstEntry]

/-- Of two entries, the first alone is a chain; turned round, or with the second
one twice, they are none. -/
theorem selection_of_two :
    (verify twoEntries).brokenLinks = 0 ∧ (twoEntries.map (·.entryHash)).Nodup ∧
      (∀ e ∈ twoEntries, e.entryHash ≠ genesisHash) ∧
      (verify (selected twoEntries [⟨0, by decide⟩])).brokenLinks = 0 ∧
      (verify (selected twoEntries [⟨1, by decide⟩, ⟨0, by decide⟩])).brokenLinks ≠ 0 ∧
      (verify (selected twoEntries
        [⟨0, by decide⟩, ⟨1, by decide⟩, ⟨1, by decide⟩])).brokenLinks ≠ 0 := by
  have hvalid : (verify twoEntries).brokenLinks = 0 :=
    (brokenAfter_eq_zero_iff _ _).mpr linkedAfter_twoEntries
  have hnodup : (twoEntries.map (·.entryHash)).Nodup := by
    rw [map_entryHash_twoEntries]
    decide
  have hgenesis : ∀ e ∈ twoEntries, e.entryHash ≠ genesisHash := by
    rw [← List.forall_mem_map (P := (· ≠ genesisHash)), map_entryHash_twoEntries]
    decide
  have hselection := selection_unbroken_iff hvalid hnodup hgenesis
  refine ⟨hvalid, hnodup, hgenesis, ?_, ?_, ?_⟩
  · exact (hselection _).mpr ⟨1, by decide, by decide⟩
  · rw [ne_eq, hselection]
    decide
  · rw [ne_eq, hselection]
    decide

end DossierCompliance.AuditChain
