import DossierCompliance.Proofs.Audit.Coverage
import DossierCompliance.Proofs.Calendar.Micros
import DossierCompliance.Store.Database.Basic

/-!
Rows that were made of records. A row gives the record back, for the names in
its columns are those of members of their sets; only the times are cut to what a
column keeps of them. An entry that is appended alone is chained behind the last
row, unless its id or its hash is taken.
-/

namespace DossierCompliance

instance : LawfulNamed AlertContext where
  ofName?_name a := by cases a <;> rfl
  derivedName_eq a := by cases a <;> decide

theorem Named.ofColumn_name {α : Type} [Named α] [LawfulNamed α] (a : α) :
    Named.ofColumn (Named.name a) = .ok a := by
  rw [ofColumn, Named.variantNamed_eq_ok_iff.mpr rfl]
  rfl

/-! ### Alerts -/

/-- An alert as its row gives it back. -/
def Alert.cutToMicros (a : Alert) : Alert :=
  { a with
    resolvedAt := a.resolvedAt.map Instant.cutToMicros
    createdAt := a.createdAt.cutToMicros }

namespace AlertRow

@[simp]
theorem id_ofAlert (a : Alert) : (ofAlert a).id = a.id := rfl

theorem alert_ofAlert (a : Alert) : (ofAlert a).alert = .ok a.cutToMicros := by
  simp only [alert, ofAlert, Named.ofColumn_name]
  rfl

theorem resolve_ofAlert (a : Alert) (r : Resolution) :
    (ofAlert a).resolve r = ofAlert (a.resolve r) := rfl

theorem mapM_alert (alerts : List Alert) :
    (alerts.map ofAlert).mapM alert = .ok (alerts.map Alert.cutToMicros) := by
  have hrows : (fun a => (ofAlert a).alert) = fun a => pure a.cutToMicros :=
    funext alert_ofAlert
  rw [List.mapM_map, Function.comp_def, hrows, List.mapM_pure]
  rfl

end AlertRow

/-! ### Audit entries -/

/-- An entry as its row gives it back. -/
def AuditEntry.cutToMicros (e : AuditEntry) : AuditEntry :=
  { e with timestamp := e.timestamp.cutToMicros }

namespace AuditRow

theorem entry_ofEntry (e : AuditEntry) : (ofEntry e).entry = .ok e.cutToMicros := by
  simp only [entry, ofEntry, Named.ofColumn_name]
  rfl

theorem mapM_entry (entries : List AuditEntry) :
    (entries.map ofEntry).mapM entry = .ok (entries.map AuditEntry.cutToMicros) := by
  have hrows : (fun e => (ofEntry e).entry) = fun e => pure e.cutToMicros :=
    funext entry_ofEntry
  rw [List.mapM_map, Function.comp_def, hrows, List.mapM_pure]
  rfl

end AuditRow

/-! ### Hashes -/

namespace AuditEntry

/-- An entry whose six digits are kept is hashed as before. -/
theorem hash_cutToMicros {e : AuditEntry} (h : e.timestamp.KeepsMicros) :
    e.cutToMicros.hash = e.hash := by
  have hmicros : e.cutToMicros.timestamp.microsText = e.timestamp.microsText := h
  rw [hash, hash, preimage, preimage, hmicros]
  rfl

/-- The hash tells when they are not kept, unless two runs of bytes collide. -/
theorem keepsMicros_or_collision {e : AuditEntry} (h : e.cutToMicros.hash = e.hash) :
    e.timestamp.KeepsMicros ∨ Digest.Collision e.cutToMicros.hashedBytes e.hashedBytes := by
  rcases Digest.eq_or_collision h with hbytes | hcollision
  · exact .inl (outcomeParts_eq (hashedBytes_eq_iff.mp hbytes)).2.2
  · exact .inr hcollision

end AuditEntry

/-- Linked entries are linked as their rows give them back exactly when the
hash of each is still that of its content. -/
theorem AuditChain.linkedAfter_cutToMicros_iff {previousHash : String}
    {entries : List AuditEntry} (h : LinkedAfter previousHash entries) :
    LinkedAfter previousHash (entries.map AuditEntry.cutToMicros) ↔
      ∀ e ∈ entries, e.cutToMicros.hash = e.hash := by
  induction entries generalizing previousHash with
  | nil => simp [LinkedAfter]
  | cons e rest ih =>
    obtain ⟨hlinked, hrest⟩ := h
    obtain ⟨hprevious, hhash⟩ := isLinked_iff.mp hlinked
    have hfirst : isLinked previousHash e.cutToMicros = true ↔ e.cutToMicros.hash = e.hash := by
      rw [isLinked_iff, hhash]
      exact and_iff_right hprevious
    rw [List.map_cons, LinkedAfter, hfirst, List.forall_mem_cons]
    exact and_congr_right fun _ => ih hrest

/-- A hashed entry whose row gives back another hash is a broken link. -/
theorem AuditChain.verify_cutToMicros {e : AuditEntry} (hhashed : e.hash = e.entryHash)
    (h : e.cutToMicros.hash ≠ e.hash) : verify [e.cutToMicros] = ⟨1, 1⟩ := by
  have hbroken : isLinked genesisHash e.cutToMicros = false := by
    rw [Bool.eq_false_iff, Ne, isLinked_iff]
    rintro ⟨_, hkept⟩
    exact h (hkept.trans hhashed.symm)
  simp [verify, brokenAfter, hbroken]

/-! ### Appending -/

namespace AppendStage

/-- The last row names the hash of the last entry. -/
theorem lastHash_map (entries : List AuditEntry) :
    lastHash (entries.map .ofEntry) = AuditChain.lastHash entries := by
  rw [lastHash, AuditChain.lastHash, List.getLast?_map]
  cases entries.getLast? <;> rfl

/-- An entry is let in when no row has its id or its hash. -/
theorem broken?_eq_none_iff {rows : List AuditRow} {e : AuditEntry} :
    (inserting e).broken? rows = none ↔
      e.id ∉ rows.map (·.id) ∧ e.entryHash ∉ rows.map (·.entryHash) := by
  simp only [broken?, List.any_eq_true, decide_eq_true_eq, List.mem_map]
  by_cases hid : ∃ row ∈ rows, row.id = e.id
  · simp [hid]
  · by_cases hhash : ∃ row ∈ rows, row.entryHash = e.entryHash
    · simp [hid, hhash]
    · simp [hid, hhash]

end AppendStage

/-- Neither an id nor a hash stands in two rows. -/
def AuditRow.Keyed (rows : List AuditRow) : Prop :=
  (rows.map (·.id)).Nodup ∧ (rows.map (·.entryHash)).Nodup

theorem AuditRow.Keyed.mono {rows more : List AuditRow} (h : Keyed more) (hle : rows.Sublist more) :
    Keyed rows :=
  ⟨h.1.sublist (hle.map _), h.2.sublist (hle.map _)⟩

/-- One more entry is let in just when the rows stay apart by their keys. -/
theorem AuditRow.keyed_concat_iff {rows : List AuditRow} {e : AuditEntry} :
    Keyed (rows ++ [.ofEntry e]) ↔
      Keyed rows ∧ (AppendStage.inserting e).broken? rows = none := by
  rw [AppendStage.broken?_eq_none_iff, Keyed, Keyed, List.map_append, List.map_append,
    List.map_singleton, List.map_singleton, ← List.concat_eq_append, ← List.concat_eq_append,
    List.nodup_concat, List.nodup_concat]
  exact ⟨fun ⟨⟨hid, hids⟩, hhash, hhashes⟩ => ⟨⟨hids, hhashes⟩, hid, hhash⟩,
    fun ⟨⟨hids, hhashes⟩, hid, hhash⟩ => ⟨⟨hid, hids⟩, hhash, hhashes⟩⟩

namespace Database

variable {db : Database}

theorem send_eq_ok (hup : db.outage = none) (s : Statement) : db.send s = .ok () := by
  rw [send, complaint?, hup]
  rfl

theorem finishAppend_next (hup : db.outage = none) (id : Uuid) (d : AuditDraft)
    {stage : AppendStage} {s : Statement} (hpending : stage.pending = .inl s) :
    db.finishAppend id d stage =
      match stage.broken? db.audit with
      | some constraint => .error (duplicateKey constraint)
      | none => db.finishAppend id d (stage.next id d db.audit) := by
  rw [finishAppend]
  split
  · next hdone =>
    rw [hpending] at hdone
    cases hdone
  · rw [send_eq_ok hup]
    rfl

theorem finishAppend_committed (id : Uuid) (d : AuditDraft) (e : AuditEntry) :
    db.finishAppend id d (.committed e) = .ok e := by
  rw [finishAppend]
  rfl

/-- Nothing is refused but a key that is taken, so the five statements lead to the
entry behind the last row or to the constraint that it breaks. -/
theorem recordAudit_eq (hup : db.outage = none) {id : Uuid} {d : AuditDraft} {e : AuditEntry}
    (he : d.chain id (AppendStage.lastHash db.audit) = e) :
    db.recordAudit id d =
      match (AppendStage.inserting e).broken? db.audit with
      | some constraint => (.error (duplicateKey constraint), db)
      | none => (.ok e, { db with audit := db.audit ++ [.ofEntry e] }) := by
  have hread : db.finishAppend id d .opening = db.finishAppend id d (.inserting e) := by
    rw [finishAppend_next hup id d rfl, finishAppend_next hup id d rfl,
      finishAppend_next hup id d rfl, ← he]
    rfl
  have hinserted : db.finishAppend id d (.inserting e) =
      match (AppendStage.inserting e).broken? db.audit with
      | some constraint => .error (duplicateKey constraint)
      | none => .ok e := by
    rw [finishAppend_next hup id d rfl]
    cases (AppendStage.inserting e).broken? db.audit with
    | some constraint => rfl
    | none => exact (finishAppend_next hup id d rfl).trans (finishAppend_committed id d e)
  rw [recordAudit, hread, hinserted]
  cases (AppendStage.inserting e).broken? db.audit <;> rfl

end Database

end DossierCompliance
