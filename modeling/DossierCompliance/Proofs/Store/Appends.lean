import DossierCompliance.Proofs.Store.AuditTrail
import DossierCompliance.Proofs.Store.Rows
import Mathlib.Data.List.Sort

/-!
Appends to the audit log of a database, many at a time. Each is a transaction
that sends its statements in order; the statements of different ones mix in any
way, and each may be aborted before it is committed. Of the database it is taken
that the lock of the log has one holder until its transaction ends, that a
query sees the rows that are committed, and that rows are given growing numbers.
A row whose key is taken aborts the append that inserts it.

The invariant is about the holder of the lock alone: nobody else has read the
last hash, so the entry that it inserts is still chained behind the last
committed row when it commits, its number is the largest, and its keys are free.
-/

namespace DossierCompliance

/-- An append, and how far its transaction has come. -/
structure Append where
  id : Uuid
  draft : AuditDraft
  /-- None once the transaction is aborted. -/
  stage : Option AppendStage
  /-- The number that its row was given. -/
  number : Nat

/-- A committed row, its number, and the place of its append among the appends. -/
structure LogRow where
  number : Nat
  append : Nat
  row : AuditRow

/-- The audit log and the appends to it. -/
structure AuditLog where
  appends : List Append
  /-- The append that holds the lock. -/
  holder : Option Nat
  lastNumber : Nat
  /-- The rows in the order in which they were committed. -/
  committed : List LogRow

/-- What happens to the log next: an append sends its next statement, or is
aborted. Some numbers may be lost before the one that a row is given. -/
inductive LogEvent where
  | proceed (append lostNumbers : Nat)
  | abort (append : Nat)

/-- The entry that an append has returned. -/
def Append.returned? (a : Append) : Option AuditEntry :=
  match a.stage with
  | some (.committed e) => some e
  | _ => none

/-- The row of an append that has returned an entry. -/
def Append.row? (a : Append) (place : Nat) : Option LogRow :=
  a.returned?.map fun e => ⟨a.number, place, .ofEntry e⟩

namespace AuditLog

/-- An empty log, and appends that have not begun. -/
def opening (records : List (Uuid × AuditDraft)) : AuditLog where
  appends := records.map fun (id, draft) => ⟨id, draft, some .opening, 0⟩
  holder := none
  lastNumber := 0
  committed := []

/-- The committed rows in the order of their numbers. -/
def rows (log : AuditLog) : List LogRow :=
  log.committed.mergeSort fun a b => a.number ≤ b.number

/-- Who holds the lock when the transaction of an append has ended. -/
def holderWithout (log : AuditLog) (place : Nat) : Option Nat :=
  if log.holder = some place then none else log.holder

/-- The log after the transaction of an append has ended without a commit. -/
def abandon (log : AuditLog) (place : Nat) (a : Append) : AuditLog :=
  { log with
    appends := log.appends.set place { a with stage := none }
    holder := log.holderWithout place }

/-- The log after a statement of an append. The lock is waited for while another
append holds it. A number is used up also by a row that is refused. -/
def execute (log : AuditLog) (place lostNumbers : Nat) (a : Append) (stage : AppendStage)
    (s : Statement) : AuditLog :=
  let found := log.rows.map (·.row)
  let moved : Append := { a with stage := some (stage.next a.id a.draft found) }
  match s with
  | .lockAudit =>
    if log.holder.isNone then
      { log with appends := log.appends.set place moved, holder := some place }
    else log
  | .insertEntry =>
    let number := log.lastNumber + lostNumbers + 1
    if (stage.broken? found).isSome then { log.abandon place a with lastNumber := number }
    else
      { log with
        appends := log.appends.set place { moved with number := number }
        lastNumber := number }
  | .commit =>
    { log with
      appends := log.appends.set place moved
      holder := log.holderWithout place
      committed := log.committed ++ (moved.row? place).toList }
  | _ => { log with appends := log.appends.set place moved }

def step (log : AuditLog) : LogEvent → AuditLog
  | .proceed place lostNumbers =>
    match log.appends[place]? with
    | some a =>
      match a.stage with
      | some stage =>
        match stage.pending with
        | .inl s => log.execute place lostNumbers a stage s
        | .inr _ => log
      | none => log
    | none => log
  | .abort place =>
    match log.appends[place]? with
    | some a =>
      if a.returned?.isSome then log else log.abandon place a
    | none => log

def run (log : AuditLog) (events : List LogEvent) : AuditLog :=
  events.foldl step log

/-! ### What is known of an append -/

/-- The lock of the log is held from the statement that takes it to the end. -/
def isLocked : AppendStage → Bool
  | .reading | .inserting _ | .committing _ => true
  | _ => false

/-- What is known of an append that holds the lock, by the rows that are
committed and the last number that was given. -/
def Stands (committed : List LogRow) (lastNumber : Nat) (a : Append) : AppendStage → Prop
  | .inserting e => e = a.draft.chain a.id (AppendStage.lastHash (committed.map (·.row)))
  | .committing e =>
    e = a.draft.chain a.id (AppendStage.lastHash (committed.map (·.row))) ∧
      (AppendStage.inserting e).broken? (committed.map (·.row)) = none ∧
      a.number ≤ lastNumber ∧ ∀ r ∈ committed, r.number < a.number
  | _ => True

/-- An append has returned an entry, and the row is the one that it committed. -/
def Wrote (appends : List Append) (r : LogRow) (e : AuditEntry) : Prop :=
  ∃ a : Append, appends[r.append]? = some a ∧ a.returned? = some e ∧ r.number = a.number ∧
    r.row = .ofEntry e

/-- The invariant of a log with appends for some records. -/
structure Inv (records : List (Uuid × AuditDraft)) (log : AuditLog) : Prop where
  same : log.appends.map (fun a => (a.id, a.draft)) = records
  linked : ∃ entries : List AuditEntry, List.Forall₂ (Wrote log.appends) log.committed entries ∧
    AuditChain.LinkedAfter genesisHash entries
  keyed : AuditRow.Keyed (log.committed.map (·.row))
  ascending : log.committed.Pairwise fun a b => a.number < b.number
  numbered : ∀ r ∈ log.committed, r.number ≤ log.lastNumber
  own : ∀ (i : Nat) (a : Append), log.appends[i]? = some a →
    log.committed.filter (·.append == i) = (a.row? i).toList
  returned : ∀ (i : Nat) (a : Append) (e : AuditEntry), log.appends[i]? = some a →
    a.returned? = some e → e.record = (a.id, a.draft)
  held : ∀ (i : Nat) (a : Append) (stage : AppendStage), log.appends[i]? = some a →
    a.stage = some stage → isLocked stage = true →
      log.holder = some i ∧ Stands log.committed log.lastNumber a stage

theorem inv_opening (records : List (Uuid × AuditDraft)) : Inv records (opening records) := by
  have hstage {i : Nat} {a : Append} (ha : (opening records).appends[i]? = some a) :
      a.stage = some .opening := by
    obtain ⟨record, _, rfl⟩ := List.mem_map.mp (List.mem_of_getElem? ha)
    rfl
  have hnone {a : Append} (ha : a.stage = some .opening) : a.returned? = none := by
    rw [Append.returned?, ha]
  constructor
  · rw [opening, List.map_map]
    exact List.map_id' records
  · exact ⟨[], List.Forall₂.nil, trivial⟩
  · exact ⟨List.nodup_nil, List.nodup_nil⟩
  · exact List.Pairwise.nil
  · exact fun r hr => absurd hr List.not_mem_nil
  · intro i a ha
    rw [Append.row?, hnone (hstage ha)]
    rfl
  · intro i a e ha he
    rw [hnone (hstage ha)] at he
    cases he
  · intro i a stage ha hs hlocked
    rw [hstage ha, Option.some.injEq] at hs
    rw [← hs] at hlocked
    cases hlocked

theorem Stands.mono {committed : List LogRow} {m n : Nat} (hmn : m ≤ n) {a : Append}
    {stage : AppendStage} (h : Stands committed m a stage) : Stands committed n a stage := by
  cases stage with
  | committing e => exact ⟨h.1, h.2.1, h.2.2.1.trans hmn, h.2.2.2⟩
  | inserting e => exact h
  | _ => trivial

/-- After one append is replaced, the others are as they were. -/
theorem of_getElem?_set {appends : List Append} {place i : Nat} {a b : Append}
    (h : (appends.set place a)[i]? = some b) :
    i = place ∧ b = a ∨ i ≠ place ∧ appends[i]? = some b := by
  rw [List.getElem?_set] at h
  split at h
  · next heq =>
    split at h
    · cases h
      exact .inl ⟨heq.symm, rfl⟩
    · cases h
  · next hne => exact .inr ⟨Ne.symm hne, h⟩

theorem records_set {appends : List Append} {place : Nat} {a moved : Append}
    (ha : appends[place]? = some a) (hrecord : (moved.id, moved.draft) = (a.id, a.draft)) :
    (appends.set place moved).map (fun a => (a.id, a.draft)) =
      appends.map fun a => (a.id, a.draft) := by
  obtain ⟨hplace, rfl⟩ := List.getElem?_eq_some_iff.mp ha
  rw [List.map_set, hrecord]
  have hlength : place < (appends.map fun a => (a.id, a.draft)).length := by
    rwa [List.length_map]
  have hsame := List.set_getElem_self hlength
  rwa [List.getElem_map] at hsame

/-- What an append has written stays when another one is replaced. -/
theorem Wrote.set {appends : List Append} {r : LogRow} {e : AuditEntry} (h : Wrote appends r e)
    {place : Nat} {a : Append} (ha : appends[place]? = some a) (hopen : a.returned? = none)
    (moved : Append) : Wrote (appends.set place moved) r e := by
  obtain ⟨b, hb, hreturned, hrow⟩ := h
  have hne : place ≠ r.append := by
    rintro rfl
    rw [ha, Option.some.injEq] at hb
    rw [← hb, hopen] at hreturned
    cases hreturned
  exact ⟨b, by rwa [List.getElem?_set_ne hne], hreturned, hrow⟩

theorem map_row_of_wrote {appends : List Append} {rows : List LogRow} {entries : List AuditEntry}
    (h : List.Forall₂ (Wrote appends) rows entries) :
    rows.map (·.row) = entries.map .ofEntry := by
  induction h with
  | nil => rfl
  | cons hwrote _ ih =>
    obtain ⟨_, _, _, _, hrow⟩ := hwrote
    rw [List.map_cons, List.map_cons, hrow, ih]

variable {records : List (Uuid × AuditDraft)} {log : AuditLog}

/-- An append moves on, and no row is committed by that. The lock stays with
its holder, unless that is the append that moves. -/
theorem Inv.move (h : Inv records log) {place : Nat} {a moved : Append}
    (ha : log.appends[place]? = some a) (hrecord : (moved.id, moved.draft) = (a.id, a.draft))
    (hopen : a.returned? = none) (hmoved : moved.returned? = none) {holder : Option Nat}
    {lastNumber : Nat} (hnumber : log.lastNumber ≤ lastNumber)
    (hothers : ∀ i, i ≠ place → log.holder = some i → holder = some i)
    (hstands : ∀ stage, moved.stage = some stage → isLocked stage = true →
      holder = some place ∧ Stands log.committed lastNumber moved stage) :
    Inv records ⟨log.appends.set place moved, holder, lastNumber, log.committed⟩ := by
  constructor
  · exact (records_set ha hrecord).trans h.same
  · obtain ⟨entries, hwrote, hlinked⟩ := h.linked
    exact ⟨entries, hwrote.imp fun r e hre => hre.set ha hopen moved, hlinked⟩
  · exact h.keyed
  · exact h.ascending
  · exact fun r hr => (h.numbered r hr).trans hnumber
  · intro i b hb
    rcases of_getElem?_set hb with ⟨rfl, rfl⟩ | ⟨_, hsame⟩
    · rw [h.own i a ha, Append.row?, Append.row?, hopen, hmoved]
      rfl
    · exact h.own i b hsame
  · intro i b e hb he
    rcases of_getElem?_set hb with ⟨rfl, rfl⟩ | ⟨_, hsame⟩
    · rw [hmoved] at he
      cases he
    · exact h.returned i b e hsame he
  · intro i b stage hb hstage hlocked
    rcases of_getElem?_set hb with ⟨rfl, rfl⟩ | ⟨hne, hsame⟩
    · exact hstands stage hstage hlocked
    · obtain ⟨hholder, hstanding⟩ := h.held i b stage hsame hstage hlocked
      exact ⟨hothers i hne hholder, hstanding.mono hnumber⟩

/-- The rows in the order of their numbers are those in the order of the commits. -/
theorem Inv.rows_eq (h : Inv records log) : log.rows = log.committed := by
  rw [rows]
  apply List.mergeSort_of_pairwise
  exact h.ascending.imp fun hlt => by simpa using Nat.le_of_lt hlt

/-- The holder of the lock commits. Its row is the last one by its number, and
its entry is chained behind what was the last row. -/
theorem Inv.commit (h : Inv records log) {place : Nat} {a : Append} {e : AuditEntry}
    (ha : log.appends[place]? = some a) (hstage : a.stage = some (.committing e)) :
    Inv records
      ⟨log.appends.set place { a with stage := some (.committed e) }, log.holderWithout place,
        log.lastNumber, log.committed ++ [⟨a.number, place, .ofEntry e⟩]⟩ := by
  obtain ⟨hholder, hentry, hfits, hnumber, habove⟩ := h.held place a _ ha hstage rfl
  obtain ⟨hplace, _⟩ := List.getElem?_eq_some_iff.mp ha
  have hopen : a.returned? = none := by rw [Append.returned?, hstage]
  constructor
  · exact Eq.trans (records_set ha (by rfl)) h.same
  · obtain ⟨entries, hwrote, hlinked⟩ := h.linked
    rw [map_row_of_wrote hwrote, AppendStage.lastHash_map, AuditChain.lastHash_eq] at hentry
    refine ⟨entries ++ [e], ?_, ?_⟩
    · refine List.rel_append (hwrote.imp fun r e hre => hre.set ha hopen _) (.cons ?_ .nil)
      exact ⟨_, List.getElem?_set_self hplace, rfl, rfl, rfl⟩
    · rw [AuditChain.linkedAfter_append, hentry]
      exact ⟨hlinked, AuditChain.isLinked_chain a.draft a.id _, trivial⟩
  · rw [List.map_append]
    exact AuditRow.keyed_concat_iff.mpr ⟨h.keyed, hfits⟩
  · rw [List.pairwise_append]
    refine ⟨h.ascending, List.pairwise_singleton _ _, ?_⟩
    intro r hr s hs
    rw [List.mem_singleton.mp hs]
    exact habove r hr
  · intro r hr
    rcases List.mem_append.mp hr with hr | hr
    · exact h.numbered r hr
    · rw [List.mem_singleton.mp hr]
      exact hnumber
  · intro i b hb
    rw [List.filter_append]
    rcases of_getElem?_set hb with ⟨rfl, rfl⟩ | ⟨hne, hsame⟩
    · have hnone : a.row? i = none := by rw [Append.row?, hopen]; rfl
      rw [h.own i a ha, hnone]
      simp [Append.row?, Append.returned?]
    · have hother : (place == i) = false := by simpa using Ne.symm hne
      rw [h.own i b hsame]
      simp [hother]
  · intro i b f hb hf
    rcases of_getElem?_set hb with ⟨rfl, rfl⟩ | ⟨_, hsame⟩
    · cases hf
      rw [hentry]
      rfl
    · exact h.returned i b f hsame hf
  · intro i b stage hb hs hlocked
    rcases of_getElem?_set hb with ⟨rfl, rfl⟩ | ⟨hne, hsame⟩
    · cases hs
      cases hlocked
    · -- no other append holds the lock
      obtain ⟨hother, _⟩ := h.held i b stage hsame hs hlocked
      rw [hholder] at hother
      exact absurd (Option.some.inj hother).symm hne

/-! ### One event -/

/-- Only the append that ends lets go of the lock. -/
theorem holderWithout_of_ne {place i : Nat} (hne : i ≠ place) (h : log.holder = some i) :
    log.holderWithout place = some i := by
  rw [holderWithout, h, if_neg]
  exact fun heq => hne (Option.some.inj heq)

/-- An append that is abandoned leaves no row, whatever numbers it has used up. -/
theorem inv_abandon (h : Inv records log) {place : Nat} {a : Append}
    (ha : log.appends[place]? = some a) (hopen : a.returned? = none) {lastNumber : Nat}
    (hnumber : log.lastNumber ≤ lastNumber) :
    Inv records { log.abandon place a with lastNumber := lastNumber } := by
  refine h.move ha (by rfl) hopen (by rfl) hnumber (fun i => holderWithout_of_ne) ?_
  intro stage hstage
  cases hstage

theorem inv_abort (h : Inv records log) (place : Nat) : Inv records (log.step (.abort place)) := by
  rw [step]
  cases ha : log.appends[place]? with
  | none => exact h
  | some a =>
    dsimp only
    cases hreturned : a.returned? with
    | some e => exact h
    | none => exact inv_abandon h ha hreturned (Nat.le_refl _)

theorem inv_proceed (h : Inv records log) (place lostNumbers : Nat) :
    Inv records (log.step (.proceed place lostNumbers)) := by
  rw [step]
  cases ha : log.appends[place]? with
  | none => exact h
  | some a =>
    dsimp only
    cases hstage : a.stage with
    | none => exact h
    | some stage =>
      have hlast : (log.rows.map (·.row)) = log.committed.map (·.row) := by rw [h.rows_eq]
      have hheld := fun hlocked => h.held place a stage ha hstage hlocked
      cases stage with
      | opening =>
        refine h.move ha (by rfl) (by rw [Append.returned?, hstage]) (by rfl) (Nat.le_refl _)
          (fun _ _ hholder => hholder) ?_
        intro next hnext hlocked
        cases hnext
        cases hlocked
      | locking =>
        dsimp only [AppendStage.pending, execute]
        split
        · next hfree =>
          refine h.move ha (by rfl) (by rw [Append.returned?, hstage]) (by rfl) (Nat.le_refl _)
            (fun i _ hholder => ?_) ?_
          · rw [hholder] at hfree
            cases hfree
          · intro next hnext _
            cases hnext
            exact ⟨rfl, trivial⟩
        · exact h
      | reading =>
        refine h.move ha (by rfl) (by rw [Append.returned?, hstage]) (by rfl) (Nat.le_refl _)
          (fun _ _ hholder => hholder) ?_
        intro next hnext _
        cases hnext
        refine ⟨(hheld rfl).1, ?_⟩
        exact congrArg (fun rows => a.draft.chain a.id (AppendStage.lastHash rows)) hlast
      | inserting e =>
        have hnumber : log.lastNumber < log.lastNumber + lostNumbers + 1 := by omega
        have hopen : a.returned? = none := by rw [Append.returned?, hstage]
        dsimp only [AppendStage.pending, execute]
        cases hfits : (AppendStage.inserting e).broken? (log.rows.map (·.row)) with
        | some constraint => exact inv_abandon h ha hopen hnumber.le
        | none =>
          refine h.move ha (by rfl) hopen (by rfl) hnumber.le (fun _ _ hholder => hholder) ?_
          intro next hnext _
          cases hnext
          obtain ⟨hholder, hentry⟩ := hheld rfl
          rw [hlast] at hfits
          refine ⟨hholder, hentry, hfits, Nat.le_refl _, fun r hr => ?_⟩
          exact Nat.lt_of_le_of_lt (h.numbered r hr) hnumber
      | committing e => exact h.commit ha hstage
      | committed e => exact h

/-! ### All events -/

theorem inv_run (h : Inv records log) (events : List LogEvent) : Inv records (log.run events) := by
  induction events generalizing log with
  | nil => exact h
  | cons event events ih =>
    apply ih
    cases event with
    | proceed place lostNumbers => exact inv_proceed h place lostNumbers
    | abort place => exact inv_abort h place

/-! ### One append alone -/

theorem step_proceed {place lostNumbers : Nat} {a : Append} {stage : AppendStage} {s : Statement}
    (ha : log.appends[place]? = some a) (hstage : a.stage = some stage)
    (hpending : stage.pending = .inl s) :
    log.step (.proceed place lostNumbers) = log.execute place lostNumbers a stage s := by
  simp only [step, ha, hstage, hpending]

/-- The log with an append at a stage, before anything is committed. -/
def withStage (log : AuditLog) (place : Nat) (a : Append) (holder : Option Nat)
    (stage : AppendStage) (number lastNumber : Nat) : AuditLog :=
  ⟨log.appends.set place ⟨a.id, a.draft, some stage, number⟩, holder, lastNumber, log.committed⟩

theorem step_withStage {place : Nat} (hplace : place < log.appends.length) (a : Append)
    (holder : Option Nat) {stage : AppendStage} {s : Statement} (hpending : stage.pending = .inl s)
    (number lastNumber : Nat) :
    let held := log.withStage place a holder stage number lastNumber
    held.step (.proceed place 0) =
      held.execute place 0 ⟨a.id, a.draft, some stage, number⟩ stage s :=
  step_proceed (List.getElem?_set_self hplace) rfl hpending

/-- The first three statements of an append that nothing comes between. -/
theorem run_reading {place : Nat} {a : Append} (ha : log.appends[place]? = some a)
    (hstage : a.stage = some .opening) (hfree : log.holder = none) {e : AuditEntry}
    (he : a.draft.chain a.id (AppendStage.lastHash (log.rows.map (·.row))) = e) :
    log.run (List.replicate 3 (.proceed place 0)) =
      log.withStage place a (some place) (.inserting e) a.number log.lastNumber := by
  obtain ⟨hplace, _⟩ := List.getElem?_eq_some_iff.mp ha
  have hopened : log.step (.proceed place 0) =
      log.withStage place a none .locking a.number log.lastNumber := by
    rw [step_proceed ha hstage rfl, withStage, ← hfree]
    rfl
  have hlocked : (log.withStage place a none .locking a.number log.lastNumber).step
      (.proceed place 0) =
        log.withStage place a (some place) .reading a.number log.lastNumber := by
    rw [step_withStage hplace a none rfl]
    exact congrArg (fun appends => (⟨appends, _, _, _⟩ : AuditLog)) (List.set_set _)
  have hread : (log.withStage place a (some place) .reading a.number log.lastNumber).step
      (.proceed place 0) =
        log.withStage place a (some place) (.inserting e) a.number log.lastNumber := by
    rw [step_withStage hplace a (some place) rfl, ← he]
    exact congrArg (fun appends => (⟨appends, _, _, _⟩ : AuditLog)) (List.set_set _)
  rw [run, List.replicate, List.foldl_cons, hopened, List.replicate, List.foldl_cons, hlocked,
    List.replicate, List.foldl_cons, hread]
  rfl

theorem holderWithout_withStage (place : Nat) (a : Append) (stage : AppendStage)
    (number lastNumber : Nat) :
    (log.withStage place a (some place) stage number lastNumber).holderWithout place = none :=
  if_pos rfl

/-- The five statements of an append that nothing comes between, and that no row
has the keys of. -/
theorem run_alone {place : Nat} {a : Append} (ha : log.appends[place]? = some a)
    (hstage : a.stage = some .opening) (hfree : log.holder = none) {e : AuditEntry}
    (he : a.draft.chain a.id (AppendStage.lastHash (log.rows.map (·.row))) = e)
    (hfits : (AppendStage.inserting e).broken? (log.rows.map (·.row)) = none) :
    log.run (List.replicate 5 (.proceed place 0)) =
      ⟨log.appends.set place ⟨a.id, a.draft, some (.committed e), log.lastNumber + 1⟩, none,
        log.lastNumber + 1, log.committed ++ [⟨log.lastNumber + 1, place, .ofEntry e⟩]⟩ := by
  obtain ⟨hplace, _⟩ := List.getElem?_eq_some_iff.mp ha
  have hlet : ¬ ((AppendStage.inserting e).broken? (log.rows.map (·.row))).isSome = true := by
    rw [hfits]
    exact Bool.false_ne_true
  have hinserted : (log.withStage place a (some place) (.inserting e) a.number
      log.lastNumber).step (.proceed place 0) =
        log.withStage place a (some place) (.committing e) (log.lastNumber + 1)
          (log.lastNumber + 1) := by
    rw [step_withStage hplace a (some place) rfl]
    refine (if_neg hlet).trans ?_
    exact congrArg (fun appends => (⟨appends, _, _, _⟩ : AuditLog)) (List.set_set _)
  have hcommitted : (log.withStage place a (some place) (.committing e) (log.lastNumber + 1)
      (log.lastNumber + 1)).step (.proceed place 0) =
        ⟨log.appends.set place ⟨a.id, a.draft, some (.committed e), log.lastNumber + 1⟩, none,
          log.lastNumber + 1, log.committed ++ [⟨log.lastNumber + 1, place, .ofEntry e⟩]⟩ := by
    rw [step_withStage hplace a (some place) rfl, ← holderWithout_withStage place a
      (.committing e) (log.lastNumber + 1) (log.lastNumber + 1)]
    exact congrArg (fun appends => (⟨appends, _, _, _⟩ : AuditLog)) (List.set_set _)
  calc log.run (List.replicate 5 (.proceed place 0))
    _ = ((log.run (List.replicate 3 (.proceed place 0))).step (.proceed place 0)).step
          (.proceed place 0) := rfl
    _ = _ := by rw [run_reading ha hstage hfree he, hinserted, hcommitted]

/-- Such an append of a key that is taken ends without a row. -/
theorem run_refused {place : Nat} {a : Append} (ha : log.appends[place]? = some a)
    (hstage : a.stage = some .opening) (hfree : log.holder = none) {e : AuditEntry}
    (he : a.draft.chain a.id (AppendStage.lastHash (log.rows.map (·.row))) = e)
    (htaken : ((AppendStage.inserting e).broken? (log.rows.map (·.row))).isSome) :
    log.run (List.replicate 5 (.proceed place 0)) =
      ⟨log.appends.set place ⟨a.id, a.draft, none, a.number⟩, none, log.lastNumber + 1,
        log.committed⟩ := by
  obtain ⟨hplace, _⟩ := List.getElem?_eq_some_iff.mp ha
  obtain ⟨ended, hended⟩ : ∃ ended : AuditLog, ended =
      ⟨log.appends.set place ⟨a.id, a.draft, none, a.number⟩, none, log.lastNumber + 1,
        log.committed⟩ := ⟨_, rfl⟩
  have hinserted : (log.withStage place a (some place) (.inserting e) a.number
      log.lastNumber).step (.proceed place 0) = ended := by
    rw [step_withStage hplace a (some place) rfl, hended,
      ← holderWithout_withStage place a (.inserting e) a.number log.lastNumber]
    refine (if_pos htaken).trans ?_
    exact congrArg (fun appends => (⟨appends, _, _, _⟩ : AuditLog)) (List.set_set _)
  have hstays : ended.step (.proceed place 0) = ended := by
    have hnone : ended.appends[place]? = some ⟨a.id, a.draft, none, a.number⟩ := by
      rw [hended]
      exact List.getElem?_set_self hplace
    simp only [step, hnone]
  calc log.run (List.replicate 5 (.proceed place 0))
    _ = ((log.run (List.replicate 3 (.proceed place 0))).step (.proceed place 0)).step
          (.proceed place 0) := rfl
    _ = _ := by rw [run_reading ha hstage hfree he, hinserted, hstays, hended]

/-- Such an append does what a database does that appends by itself. -/
theorem recordAudit_alone (h : Inv records log) (place : Nat) (a : Append) (db : Database)
    (ha : log.appends[place]? = some a) (hstage : a.stage = some .opening)
    (hfree : log.holder = none) (hup : db.outage = none)
    (hrows : db.audit = log.rows.map (·.row)) :
    let final := log.run (List.replicate 5 (.proceed place 0))
    final.appends[place]?.bind Append.returned? =
        (db.recordAudit a.id a.draft).1.toOption ∧
      final.rows.map (·.row) = (db.recordAudit a.id a.draft).2.audit := by
  intro final
  obtain ⟨hplace, _⟩ := List.getElem?_eq_some_iff.mp ha
  obtain ⟨e, he⟩ : ∃ e, a.draft.chain a.id (AppendStage.lastHash (log.rows.map (·.row))) = e :=
    ⟨_, rfl⟩
  have hfinal : final.rows = final.committed :=
    (inv_run h (List.replicate 5 (.proceed place 0))).rows_eq
  rw [Database.recordAudit_eq hup (hrows ▸ he), hrows, hfinal]
  cases hfits : (AppendStage.inserting e).broken? (log.rows.map (·.row)) with
  | some constraint =>
    have hended := run_refused ha hstage hfree he (by rw [hfits]; rfl)
    dsimp only [final]
    rw [hended]
    exact ⟨by rw [List.getElem?_set_self hplace]; rfl, by rw [hrows, h.rows_eq]⟩
  | none =>
    have hended := run_alone ha hstage hfree he hfits
    dsimp only [final]
    rw [hended]
    refine ⟨by rw [List.getElem?_set_self hplace]; rfl, ?_⟩
    rw [h.rows_eq, List.map_append]
    rfl

/-- The log after any run of appends that are sent their statements in turn, in
whatever order, and any of which may be aborted. The entries that appends have
returned are a chain without a broken link, in the order of the numbers of
their rows; each of them has one row, which holds what was to be recorded, and
an append that has returned none has no row. No two rows have one id or one hash,
and an append that nothing comes between is refused or returns its entry as it
would if it were the only one. What the rows give back is a chain without a broken
link when the six digits of every time are kept, and otherwise only if two runs of
bytes collide. They are kept of every time since the year from which microseconds
are counted, and of whole microseconds before it, but of leap seconds they are
not, save the last one. -/
theorem concurrent_appends (records : List (Uuid × AuditDraft)) (events : List LogEvent) :
    let log := (opening records).run events
    ∃ entries : List AuditEntry,
      List.Forall₂ (Wrote log.appends) log.rows entries ∧
      (AuditChain.verify entries).brokenLinks = 0 ∧
      (log.rows.Pairwise fun a b => a.number < b.number) ∧
      AuditRow.Keyed (log.rows.map (·.row)) ∧
      log.appends.map (fun a => (a.id, a.draft)) = records ∧
      (∀ (i : Nat) (a : Append), log.appends[i]? = some a →
        log.rows.filter (·.append == i) =
          (a.returned?.map fun e => ⟨a.number, i, .ofEntry e⟩).toList ∧
        ∀ e, a.returned? = some e → e.record = (a.id, a.draft)) ∧
      (∀ (place : Nat) (a : Append) (db : Database), log.appends[place]? = some a →
        a.stage = some .opening → log.holder = none → db.outage = none →
        db.audit = log.rows.map (·.row) →
          let final := log.run (List.replicate 5 (.proceed place 0))
          final.appends[place]?.bind Append.returned? =
              (db.recordAudit a.id a.draft).1.toOption ∧
            final.rows.map (·.row) = (db.recordAudit a.id a.draft).2.audit) ∧
      (∀ e ∈ entries, e.timestamp.KeepsMicros ↔
        e.timestamp.IsLeap ∧ e.timestamp.IsLast ∨
          ¬ e.timestamp.IsLeap ∧
            (Instant.countingYear ≤ e.timestamp.date.year ∨ e.timestamp.IsWhole)) ∧
      ∃ found : List AuditEntry, (log.rows.map (·.row)).mapM AuditRow.entry = .ok found ∧
        ((∀ e ∈ entries, e.timestamp.KeepsMicros) → (AuditChain.verify found).brokenLinks = 0) ∧
        ((AuditChain.verify found).brokenLinks = 0 → ∀ e ∈ entries, e.timestamp.KeepsMicros ∨
          Digest.Collision e.cutToMicros.hashedBytes e.hashedBytes) := by
  intro log
  have hinv : Inv records log := inv_run (inv_opening records) events
  obtain ⟨entries, hwrote, hlinked⟩ := hinv.linked
  have halone := recordAudit_alone hinv
  rw [hinv.rows_eq] at halone ⊢
  refine ⟨entries, hwrote, (AuditChain.brokenAfter_eq_zero_iff _ _).mpr hlinked, hinv.ascending,
    hinv.keyed, hinv.same, fun i a ha => ⟨hinv.own i a ha, fun e => hinv.returned i a e ha⟩,
    halone, fun e _ => e.timestamp.keepsMicros_iff, entries.map AuditEntry.cutToMicros, ?_, ?_, ?_⟩
  · rw [map_row_of_wrote hwrote]
    exact AuditRow.mapM_entry entries
  · intro hkept
    rw [AuditChain.verify, AuditChain.brokenAfter_eq_zero_iff,
      AuditChain.linkedAfter_cutToMicros_iff hlinked]
    exact fun e he => AuditEntry.hash_cutToMicros (hkept e he)
  · intro hunbroken e he
    rw [AuditChain.verify, AuditChain.brokenAfter_eq_zero_iff,
      AuditChain.linkedAfter_cutToMicros_iff hlinked] at hunbroken
    exact AuditEntry.keepsMicros_or_collision (hunbroken e he)

/-- A change that was blocked before the year from which microseconds are
counted, at a time that is finer than a microsecond. -/
def earlyDraft : AuditDraft where
  tenantId := "org-1"
  actor := ⟨"user-7", none⟩
  action := .transitionBlocked
  entityType := "DOSSIER"
  entityId := "dos-1"
  phase := .billing
  isForced := false
  previousState := .completed
  newState := .invoiced
  details := .object []
  timestamp := ⟨⟨1999, 1, 1, by decide⟩, 0, 123456789, by decide⟩

def earlyId : Uuid :=
  ⟨List.replicate 32 '1', rfl⟩

theorem hash_early :
    (earlyDraft.chain earlyId genesisHash).cutToMicros.hash ≠
      (earlyDraft.chain earlyId genesisHash).hash := by
  rw [AuditEntry.hash_eq, AuditEntry.hash_eq]
  decide +kernel

/-- A single append of such a time is committed, and its row gives back an entry
that is a broken link. -/
theorem early_time_breaks_chain :
    let log := (opening [(earlyId, earlyDraft)]).run (List.replicate 5 (.proceed 0 0))
    ∃ e found : AuditEntry, log.appends.map Append.returned? = [some e] ∧
      log.rows = [⟨1, 0, .ofEntry e⟩] ∧
      (log.rows.map (·.row)).mapM AuditRow.entry = .ok [found] ∧
      (AuditChain.verify [found]).brokenLinks = 1 := by
  intro log
  have hinv : Inv [(earlyId, earlyDraft)] log := inv_run (inv_opening _) _
  have hempty : (opening [(earlyId, earlyDraft)]).rows = [] := (inv_opening _).rows_eq
  obtain ⟨e, he⟩ : ∃ e, earlyDraft.chain earlyId genesisHash = e := ⟨_, rfl⟩
  have hchained : earlyDraft.chain earlyId (AppendStage.lastHash
      ((opening [(earlyId, earlyDraft)]).rows.map (·.row))) = e := by
    rw [hempty]
    exact he
  have hlog : log = ⟨[⟨earlyId, earlyDraft, some (.committed e), 1⟩], none, 1,
      [⟨1, 0, .ofEntry e⟩]⟩ :=
    run_alone (a := ⟨earlyId, earlyDraft, some .opening, 0⟩) rfl rfl rfl hchained
      (by rw [hempty]; rfl)
  have hrows : log.rows = [⟨1, 0, .ofEntry e⟩] := by rw [hinv.rows_eq, hlog]
  refine ⟨e, e.cutToMicros, by rw [hlog]; rfl, hrows, ?_, ?_⟩
  · rw [hrows]
    exact AuditRow.mapM_entry [e]
  · rw [← he, AuditChain.verify_cutToMicros (AuditChain.hash_chain _ _ _) hash_early]

end AuditLog

end DossierCompliance
