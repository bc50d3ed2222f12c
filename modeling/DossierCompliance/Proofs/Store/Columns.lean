import DossierCompliance.Proofs.Audit.Details
import DossierCompliance.Proofs.Store.Newest
import DossierCompliance.Proofs.Store.Rows

/-!
Columns and the records that are read from them. A record is bound to columns
that hold all of it, its enumerations by the names that were given by hand; they
are read by the derived names. A record is read only from its own columns: any
other row, such as one with a text that names nothing, is corrupt, and so is
every answer that such a row has a part in. What storage may change, the time
below the microsecond and the order of members, does not show in the hash of an
entry, and a changed name does.
-/

namespace DossierCompliance

/-! ### Reading columns -/

def StoreError.IsCorrupt (why : StoreError) : Prop :=
  ∃ fault, why = .corrupt fault

/-- What is told of something that is not read is that it is corrupt. -/
def FailsAsCorrupt {α : Type} (x : Except StoreError α) : Prop :=
  ∀ why, x = .error why → why.IsCorrupt

section Reading

variable {α β ρ : Type}

theorem failsAsCorrupt_ok (a : α) : FailsAsCorrupt (.ok a) := by
  intro why h
  cases h

theorem FailsAsCorrupt.bind {x : Except StoreError α} {f : α → Except StoreError β}
    (hx : FailsAsCorrupt x) (hf : ∀ a, FailsAsCorrupt (f a)) : FailsAsCorrupt (x >>= f) := by
  intro why h
  cases x with
  | error other =>
    cases h
    exact hx _ rfl
  | ok a => exact hf a why h

namespace Named

variable [Named α]

theorem ofColumn_eq_ok_iff [LawfulNamed α] {text : String} {a : α} :
    ofColumn text = .ok a ↔ text = name a := by
  rw [← variantNamed_eq_ok_iff, ofColumn]
  cases Json.Decoder.variantNamed (variants α) text <;> simp [Except.mapError]

theorem failsAsCorrupt_ofColumn (text : String) :
    FailsAsCorrupt (ofColumn text : Except StoreError α) := by
  intro why h
  rw [ofColumn] at h
  cases hread : Json.Decoder.variantNamed (variants α) text with
  | ok a =>
    rw [hread] at h
    cases h
  | error fault =>
    rw [hread] at h
    cases h
    exact ⟨fault, rfl⟩

end Named

/-- A row is read as a record only if it holds the columns of that record, and
otherwise it is corrupt. -/
structure ReadsColumns (bound : α → ρ) (read : ρ → Except StoreError α) : Prop where
  eq_ok_iff : ∀ row a, read row = .ok a ↔ row = bound a
  corrupt : ∀ row, FailsAsCorrupt (read row)

/-- An answer that is made of the records of some rows, unless one of the rows
holds the columns of no record: then something stored is corrupt. -/
def AnswersFrom (bound : α → ρ) (rows : List ρ) (make : List α → β)
    (answer : Except StoreError β) : Prop :=
  (∃ records, rows = records.map bound ∧ answer = .ok (make records)) ∨
    (∃ row ∈ rows, ∀ a, row ≠ bound a) ∧ ∃ fault, answer = .error (.corrupt fault)

namespace ReadsColumns

variable {bound : α → ρ} {read : ρ → Except StoreError α}

theorem mapM_eq_ok_iff (h : ReadsColumns bound read) (rows : List ρ) (records : List α) :
    rows.mapM read = .ok records ↔ rows = records.map bound := by
  induction rows generalizing records with
  | nil =>
    rw [List.mapM_nil]
    cases records <;> simp [pure, Except.pure]
  | cons row rows ih =>
    rw [List.mapM_cons]
    constructor
    · intro hread
      obtain ⟨a, ha, hread⟩ := Json.bind_eq_ok hread
      obtain ⟨others, hothers, hread⟩ := Json.bind_eq_ok hread
      cases hread
      rw [List.map_cons, (h.eq_ok_iff row a).mp ha, (ih others).mp hothers]
    · intro hrows
      cases records with
      | nil => cases hrows
      | cons a others =>
        obtain ⟨hrow, hothers⟩ := List.cons.inj hrows
        rw [(h.eq_ok_iff row a).mpr hrow, (ih others).mpr hothers]
        rfl

theorem failsAsCorrupt_mapM (h : ReadsColumns bound read) (rows : List ρ) :
    FailsAsCorrupt (rows.mapM read) := by
  induction rows with
  | nil => exact failsAsCorrupt_ok []
  | cons row rows ih =>
    rw [List.mapM_cons]
    exact (h.corrupt row).bind fun a => ih.bind fun others => failsAsCorrupt_ok (a :: others)

theorem answersFrom (h : ReadsColumns bound read) (make : List α → β) (rows : List ρ) :
    AnswersFrom bound rows make (make <$> rows.mapM read) := by
  cases hread : rows.mapM read with
  | ok records => exact .inl ⟨records, (h.mapM_eq_ok_iff rows records).mp hread, rfl⟩
  | error why =>
    obtain ⟨fault, rfl⟩ := h.failsAsCorrupt_mapM rows why hread
    refine .inr ⟨?_, fault, rfl⟩
    -- if all rows held records, the records would be read
    by_contra hall
    push Not at hall
    have hrecords : ∃ records : List α, rows = records.map bound := by
      clear hread
      induction rows with
      | nil => exact ⟨[], rfl⟩
      | cons row rows ih =>
        obtain ⟨hrow, hrows⟩ := List.forall_mem_cons.mp hall
        obtain ⟨a, rfl⟩ := hrow
        obtain ⟨others, rfl⟩ := ih hrows
        exact ⟨a :: others, rfl⟩
    obtain ⟨records, hrecords⟩ := hrecords
    rw [(h.mapM_eq_ok_iff rows records).mpr hrecords] at hread
    cases hread

end ReadsColumns

end Reading

/-! ### Columns of records -/

namespace AlertRow

/-- The columns that an alert is bound to. -/
def bound (a : Alert) : AlertRow where
  id := a.id
  dossierId := a.dossierId
  ruleId := a.ruleId
  severity := Named.name a.severity
  context := Named.name a.context
  trigger := a.trigger
  message := a.message
  details := a.details
  isResolved := a.isResolved
  resolvedBy := a.resolvedBy
  resolvedAt := a.resolvedAt
  resolution := a.resolution
  createdAt := a.createdAt

/-- What is kept of these columns are those of the alert with its times cut. -/
theorem ofAlert_eq_bound (a : Alert) : ofAlert a = bound a.cutToMicros := rfl

theorem readsColumns : ReadsColumns bound alert where
  eq_ok_iff row a := by
    constructor
    · intro h
      obtain ⟨severity, hseverity, h⟩ := Json.bind_eq_ok h
      obtain ⟨context, hcontext, h⟩ := Json.bind_eq_ok h
      cases h
      rw [Named.ofColumn_eq_ok_iff] at hseverity hcontext
      rw [bound, ← hseverity, ← hcontext]
    · rintro rfl
      simp only [alert, bound, Named.ofColumn_name]
      rfl
  corrupt row :=
    (Named.failsAsCorrupt_ofColumn _).bind fun _ =>
      (Named.failsAsCorrupt_ofColumn _).bind fun _ => failsAsCorrupt_ok _

end AlertRow

namespace AuditRow

/-- The columns that an entry is bound to. -/
def bound (e : AuditEntry) : AuditRow where
  id := e.id
  tenantId := e.tenantId
  actorId := e.actorId
  actorRole := e.actorRole
  action := Named.name e.action
  entityType := e.entityType
  entityId := e.entityId
  phase := Named.name e.phase
  isForced := e.isForced
  previousState := Named.name e.previousState
  newState := Named.name e.newState
  details := e.details
  timestamp := e.timestamp
  previousHash := e.previousHash
  entryHash := e.entryHash

theorem ofEntry_eq_bound (e : AuditEntry) : ofEntry e = bound e.cutToMicros := rfl

theorem readsColumns : ReadsColumns bound entry where
  eq_ok_iff row e := by
    constructor
    · intro h
      obtain ⟨action, haction, h⟩ := Json.bind_eq_ok h
      obtain ⟨phase, hphase, h⟩ := Json.bind_eq_ok h
      obtain ⟨previousState, hprevious, h⟩ := Json.bind_eq_ok h
      obtain ⟨newState, hnew, h⟩ := Json.bind_eq_ok h
      cases h
      rw [Named.ofColumn_eq_ok_iff] at haction hphase hprevious hnew
      rw [bound, ← haction, ← hphase, ← hprevious, ← hnew]
    · rintro rfl
      simp only [entry, bound, Named.ofColumn_name]
      rfl
  corrupt row :=
    (Named.failsAsCorrupt_ofColumn _).bind fun _ =>
      (Named.failsAsCorrupt_ofColumn _).bind fun _ =>
        (Named.failsAsCorrupt_ofColumn _).bind fun _ =>
          (Named.failsAsCorrupt_ofColumn _).bind fun _ => failsAsCorrupt_ok _

end AuditRow

/-! ### Answers of a database -/

/-- What a database answers about alerts and entries is made of the records in
its rows, or tells that something stored is corrupt. -/
structure Database.ReadsBack (db : Database) : Prop where
  auditEntries : ∀ entityType entityId, AnswersFrom AuditRow.bound
    (db.audit.filter fun row => row.entityType == entityType && row.entityId == entityId) id
    (db.auditEntries entityType entityId)
  verifyAudit : ∀ limit, AnswersFrom AuditRow.bound (db.audit.take limit) AuditChain.verify
    (db.verifyAudit limit)
  unresolvedAlerts : ∀ dossierId, AnswersFrom AlertRow.bound
    (Instant.newestFirst (·.createdAt)
      (db.alerts.filter fun row => row.dossierId == dossierId && !row.isResolved)) id
    (db.unresolvedAlerts dossierId)
  resolveAlert : ∀ id r, AnswersFrom AlertRow.bound
    ((db.alerts.find? fun row => row.id = id).map fun row => row.resolve r).toList List.head?
    (db.resolveAlert id r).1

theorem Database.readsBack {db : Database} (hup : db.outage = none) : db.ReadsBack where
  auditEntries entityType entityId := by
    rw [Database.auditEntries, send_eq_ok hup]
    have hanswer := AuditRow.readsColumns.answersFrom id
      (db.audit.filter fun row => row.entityType == entityType && row.entityId == entityId)
    rwa [id_map] at hanswer
  verifyAudit limit := by
    rw [Database.verifyAudit, send_eq_ok hup]
    exact AuditRow.readsColumns.answersFrom AuditChain.verify (db.audit.take limit)
  unresolvedAlerts dossierId := by
    have hanswer := AlertRow.readsColumns.answersFrom id (Instant.newestFirst (·.createdAt)
      (db.alerts.filter fun row => row.dossierId == dossierId && !row.isResolved))
    rw [id_map, ← Instant.newestRows_eq] at hanswer
    rw [Database.unresolvedAlerts, send_eq_ok hup, ← Instant.newestRows_eq]
    exact hanswer
  resolveAlert id r := by
    have hanswer := AlertRow.readsColumns.answersFrom List.head?
      ((db.alerts.find? fun row => row.id = id).map fun row => row.resolve r).toList
    rw [Database.resolveAlert, send_eq_ok hup]
    cases hfound : db.alerts.find? fun row => row.id = id with
    | none =>
      rw [hfound] at hanswer
      exact hanswer
    | some row =>
      rw [hfound] at hanswer
      have hone : (some row).mapM (fun row => (row.resolve r).alert) =
          List.head? <$> [row.resolve r].mapM AlertRow.alert := by
        rw [List.mapM_cons, List.mapM_nil]
        cases hread : (row.resolve r).alert <;> simp [Option.mapM, hread]
      show AnswersFrom _ _ _ ((some row).mapM fun row => (row.resolve r).alert)
      rw [hone]
      exact hanswer

/-! ### Changed columns -/

theorem Instant.sameMicros_cut (t : Instant) : SameMicros (t.cut 6) t := by
  refine ⟨rfl, rfl, ?_⟩
  simp only [cut, keptNanos]
  omega

namespace AuditEntry

variable {e f : AuditEntry}

/-- The members of enumerations are read back from the bytes of entries with the
same free texts, whatever their details and times are. -/
theorem members_eq_of_hashedBytes (hseparators : SameSeparators e f)
    (h : e.hashedBytes = f.hashedBytes) :
    e.action = f.action ∧ e.phase = f.phase ∧ e.previousState = f.previousState ∧
      e.newState = f.newState := by
  have hpreimage := hashedBytes_eq_iff.mp h
  have hsubject := subjectParts_eq hseparators hpreimage
  obtain ⟨_, houtcome, _⟩ := outcomeParts_eq hpreimage
  simp only [subjectParts, outcomeParts, List.cons.injEq] at hsubject houtcome
  obtain ⟨_, _, _, _, _, _, haction, _⟩ := hsubject
  obtain ⟨hphase, _, hprevious, hnew, _⟩ := houtcome
  exact ⟨Named.name_inj.mp haction, Named.name_inj.mp hphase, Named.name_inj.mp hprevious,
    Named.name_inj.mp hnew⟩

end AuditEntry

/-- An entry that is read from columns whose names were exchanged, and whose time
and details may be any, has another hash unless all names are the old ones or
two runs of bytes collide. -/
theorem AuditRow.names_of_hash {e found : AuditEntry}
    {action phase previousState newState : String} {time : Instant} {details : Json}
    (hread : { bound e with
      action := action, phase := phase, previousState := previousState, newState := newState,
      timestamp := time, details := details }.entry = .ok found)
    (hhash : found.hash = e.hash) :
    (action = Named.name e.action ∧ phase = Named.name e.phase ∧
      previousState = Named.name e.previousState ∧ newState = Named.name e.newState) ∨
      Digest.Collision found.hashedBytes e.hashedBytes := by
  rcases Digest.eq_or_collision hhash with hbytes | hcollision
  · left
    have hcolumns := (readsColumns.eq_ok_iff _ _).mp hread
    simp only [bound, AuditRow.mk.injEq] at hcolumns
    obtain ⟨_, htenant, hactor, hrole, rfl, htype, hentity, rfl, _, rfl, rfl, _, _, hprevious, _⟩ :=
      hcolumns
    have hseparators : AuditEntry.SameSeparators found e := by
      constructor <;> simp only [htenant, hactor, hrole, htype, hentity, hprevious]
    obtain ⟨haction, hphase, hbefore, hafter⟩ :=
      AuditEntry.members_eq_of_hashedBytes hseparators hbytes
    rw [haction, hphase, hbefore, hafter]
    exact ⟨rfl, rfl, rfl, rfl⟩
  · exact .inr hcollision

/-- Records survive their columns. An entry is read back from its columns, with
any time of the same microsecond, such as the one that is cut to it, and with
its details rearranged; then it differs from what was bound in nothing else and
has the same hash. An alert is read back as it was bound. Nothing else is read:
a row that does not hold the columns of a record, each enumeration by its name,
is corrupt, and so are the answers of a database that are made of it. No name
can be exchanged for another under one hash, unless two runs of bytes collide. -/
theorem records_survive_columns :
    (∀ (e : AuditEntry) (time : Instant) (details : Json), e.details.UniqueKeys →
      Instant.SameMicros time e.timestamp → Json.Rearranged e.details details →
      let restored : AuditEntry := { e with timestamp := time, details := details }
      { AuditRow.bound e with timestamp := time, details := details }.entry = .ok restored ∧
        restored.hash = e.hash) ∧
    (∀ t : Instant, Instant.SameMicros (t.cut 6) t) ∧
    (∀ a : Alert, (AlertRow.bound a).alert = .ok a) ∧
    (ReadsColumns AuditRow.bound AuditRow.entry ∧ ReadsColumns AlertRow.bound AlertRow.alert) ∧
    (∀ e a, AuditRow.ofEntry e = AuditRow.bound e.cutToMicros ∧
      AlertRow.ofAlert a = AlertRow.bound a.cutToMicros) ∧
    (∀ db : Database, db.outage = none → db.ReadsBack) ∧
    ∀ (e found : AuditEntry) (action phase previousState newState : String) (time : Instant)
      (details : Json), { AuditRow.bound e with
        action := action, phase := phase, previousState := previousState, newState := newState,
        timestamp := time, details := details }.entry = .ok found →
      found.hash = e.hash →
      (action = Named.name e.action ∧ phase = Named.name e.phase ∧
        previousState = Named.name e.previousState ∧ newState = Named.name e.newState) ∨
        Digest.Collision found.hashedBytes e.hashedBytes := by
  refine ⟨?_, Instant.sameMicros_cut, ?_, ⟨AuditRow.readsColumns, AlertRow.readsColumns⟩,
    fun e a => ⟨AuditRow.ofEntry_eq_bound e, AlertRow.ofAlert_eq_bound a⟩,
    fun db hup => Database.readsBack hup, ?_⟩
  · intro e time details hkeys htime hdetails restored
    exact ⟨(AuditRow.readsColumns.eq_ok_iff _ restored).mpr rfl,
      AuditEntry.hash_restored hkeys htime hdetails⟩
  · intro a
    exact (AlertRow.readsColumns.eq_ok_iff _ a).mpr rfl
  · intro e found action phase previousState newState time details
    exact AuditRow.names_of_hash

/-- An entry with a time to the nanosecond and two members in its details: it
keeps its hash when the time is cut and the members change places, and with the
name of its phase in small letters the chain that it begins is corrupt. -/
theorem columns_of_first :
    let e : AuditEntry := { AuditChain.firstEntry "org-1" "user-7" with
      timestamp := ⟨⟨2026, 6, 1, by decide⟩, 36001, 123456789, by decide⟩ }
    let restored : AuditEntry := { e with
      timestamp := ⟨⟨2026, 6, 1, by decide⟩, 36001, 123456000, by decide⟩
      details := .object [("errors", .texts ["no NDA"]), ("blocked", .bool true)] }
    let db : Database := { Database.empty with audit := [{ AuditRow.bound e with
      phase := "billing" }] }
    e.details.UniqueKeys ∧ Instant.SameMicros restored.timestamp e.timestamp ∧
      Json.Rearranged e.details restored.details ∧
      (AuditRow.bound restored).entry = .ok restored ∧ restored.hash = e.hash ∧
      db.outage = none ∧ ∃ fault, db.verifyAudit 1 = .error (.corrupt fault) := by
  intro e restored db
  obtain ⟨hentries, _, _, _, _, hdatabase, _⟩ := records_survive_columns
  have hkeys : e.details.UniqueKeys := AuditChain.uniqueKeys_firstEntry "org-1" "user-7"
  have htime : Instant.SameMicros restored.timestamp e.timestamp := ⟨rfl, rfl, by decide⟩
  have hdetails : Json.Rearranged e.details restored.details :=
    .members (List.Perm.swap _ _ [])
  obtain ⟨hread, hhash⟩ := hentries e restored.timestamp restored.details hkeys htime hdetails
  refine ⟨hkeys, htime, hdetails, hread, hhash, rfl, ?_⟩
  rcases (hdatabase db rfl).verifyAudit 1 with ⟨records, hrows, _⟩ | ⟨_, hcorrupt⟩
  · -- no phase has this name
    exfalso
    have hphases : ["billing"] = records.map fun e => (AuditRow.bound e).phase := by
      simpa [db, Function.comp_def] using congrArg (List.map AuditRow.phase) hrows
    obtain ⟨found, _, hname⟩ := List.mem_map.mp (hphases ▸ List.mem_singleton_self "billing")
    have hnone : ∀ phase : Phase, Named.name phase ≠ "billing" := by
      intro phase
      cases phase <;> decide
    exact hnone found.phase hname
  · exact hcorrupt

end DossierCompliance
