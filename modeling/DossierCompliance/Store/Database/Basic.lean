import DossierCompliance.Dossier.Stored
import DossierCompliance.Store.Database.Statement

/-!
A database of four tables as a store. Rows of a table stand in the order in
which they were added. A call sends one statement, but an entry of the audit log
is appended by a transaction: it takes the lock of the log, reads the last hash,
and adds the entry that is chained to it. A row is refused whose key is taken:
the id of an alert, and the id or the hash of an entry. A call whose statement is
refused changes nothing.
-/

namespace DossierCompliance

/-- A step of the making of the database, as it was taken. -/
structure AppliedMigration where
  version : Int
  description : String
  success : Bool

def AppliedMigration.decode : Json.Decoder AppliedMigration :=
  Json.Decoder.record ["version", "description", "success"] false fun fs =>
    AppliedMigration.mk <$> fs.required "version" Json.Decoder.int64
      <*> fs.required "description" Json.Decoder.text
      <*> fs.required "success" Json.Decoder.boolean

structure Database where
  organizations : List DocumentRow
  dossiers : List DocumentRow
  alerts : List AlertRow
  audit : List AuditRow
  migrations : List AppliedMigration
  outage : Option Outage

/-- What the database says against a row with a key that is taken. -/
def duplicateKey (constraint : String) : StoreError :=
  .backend (Outage.answer
    ("duplicate key value violates unique constraint \"" ++ constraint ++ "\""))

/-- How far a transaction has come that appends an entry to the audit log. -/
inductive AppendStage where
  | opening
  | locking
  | reading
  | inserting (entry : AuditEntry)
  | committing (entry : AuditEntry)
  | committed (entry : AuditEntry)

namespace AppendStage

/-- The statement to be sent next, or the entry that is appended. -/
def pending : AppendStage → Statement ⊕ AuditEntry
  | opening => .inl .openTransaction
  | locking => .inl .lockAudit
  | reading => .inl .lastHash
  | inserting _ => .inl .insertEntry
  | committing _ => .inl .commit
  | committed e => .inr e

/-- The hash that an entry behind some rows names. -/
def lastHash (rows : List AuditRow) : String :=
  match rows.getLast? with
  | some row => row.entryHash
  | none => genesisHash

/-- The stage after the next statement, which finds some rows in the log. -/
def next (id : Uuid) (d : AuditDraft) (rows : List AuditRow) : AppendStage → AppendStage
  | opening => locking
  | locking => reading
  | reading => inserting (d.chain id (lastHash rows))
  | inserting e => committing e
  | committing e | committed e => committed e

/-- The constraint that the next statement breaks by the rows that it finds in the
log: no two of them have the same id, or the same hash. -/
def broken? (rows : List AuditRow) : AppendStage → Option String
  | inserting e =>
    if rows.any fun row => row.id = e.id then some "compliance_audit_log_id_key"
    else if rows.any fun row => row.entryHash = e.entryHash then
      some "compliance_audit_log_entry_hash_key"
    else none
  | _ => none

def remaining : AppendStage → Nat
  | opening => 5
  | locking => 4
  | reading => 3
  | inserting _ => 2
  | committing _ => 1
  | committed _ => 0

theorem remaining_next_lt {stage : AppendStage} {s : Statement} (h : stage.pending = .inl s)
    (id : Uuid) (d : AuditDraft) (rows : List AuditRow) :
    (stage.next id d rows).remaining < stage.remaining := by
  cases stage <;> simp_all [pending, next, remaining]

end AppendStage

namespace Database

def empty : Database where
  organizations := []
  dossiers := []
  alerts := []
  audit := []
  migrations := []
  outage := none

/-- What the database says against a statement of a text, if it refuses it. -/
def complaint? (db : Database) (text : String) : Option String :=
  (db.outage.filter fun o => o.strikes text).map fun o => Outage.answer o.why

def send (db : Database) (s : Statement) : Except StoreError Unit :=
  match db.complaint? s.text with
  | some why => .error (.backend why)
  | none => .ok ()

/-- The record of the first row with a key. -/
def findRecord {α : Type} (decode : Json.Decoder α) (rows : List DocumentRow) (id : String) :
    Except StoreError (Option α) :=
  (rows.find? fun row => row.id == id).mapM (DocumentRow.record decode)

/-! ### Alerts -/

def insertAlert (db : Database) (a : Alert) : Except StoreError Database := do
  db.send .insertAlert
  if db.alerts.any fun row => row.id = a.id then
    throw (duplicateKey "compliance_alerts_pkey")
  return { db with alerts := db.alerts ++ [.ofAlert a] }

/-- Resolves all alerts with an id and gives the first one of them, if it is a
record. They are resolved even if it is not. -/
def resolveAlert (db : Database) (id : Uuid) (r : Resolution) :
    Except StoreError (Option Alert) × Database :=
  match db.send .resolveAlert with
  | .error why => (.error why, db)
  | .ok () =>
    let found := db.alerts.find? fun row => row.id = id
    let alerts := db.alerts.map fun row => if row.id = id then row.resolve r else row
    (found.mapM fun row => (row.resolve r).alert, { db with alerts := alerts })

def unresolvedAlerts (db : Database) (dossierId : String) : Except StoreError (List Alert) := do
  db.send .unresolvedAlerts
  let rows := db.alerts.filter fun row => row.dossierId == dossierId && !row.isResolved
  (Instant.newestRows (·.createdAt) rows).mapM AlertRow.alert

/-! ### Audit log -/

/-- Sends the statements of an append that are left, until one is refused. -/
def finishAppend (db : Database) (id : Uuid) (d : AuditDraft) (stage : AppendStage) :
    Except StoreError AuditEntry :=
  match h : stage.pending with
  | .inr e => .ok e
  | .inl s =>
    have := AppendStage.remaining_next_lt h id d db.audit
    do
      db.send s
      match stage.broken? db.audit with
      | some constraint => throw (duplicateKey constraint)
      | none => finishAppend db id d (stage.next id d db.audit)
termination_by stage.remaining

def recordAudit (db : Database) (id : Uuid) (d : AuditDraft) :
    Except StoreError AuditEntry × Database :=
  match db.finishAppend id d .opening with
  | .error why => (.error why, db)
  | .ok e => (.ok e, { db with audit := db.audit ++ [.ofEntry e] })

def auditEntries (db : Database) (entityType entityId : String) :
    Except StoreError (List AuditEntry) := do
  db.send .entriesOfEntity
  (db.audit.filter fun row => row.entityType == entityType && row.entityId == entityId).mapM
    AuditRow.entry

/-- Checks the chain of the first rows; only these have to be records. -/
def verifyAudit (db : Database) (limit : Nat) : Except StoreError ChainIntegrity := do
  db.send .firstEntries
  return AuditChain.verify (← (db.audit.take limit).mapM AuditRow.entry)

/-! ### Calls -/

/-- A reply that leaves the database as it is. -/
def unchanged {α : Type} (db : Database) (reply : Except StoreError α) :
    Except StoreError α × Database :=
  (reply, db)

def findDossier (db : Database) (id : String) : Except StoreError (Option Dossier) := do
  db.send .findDossier
  findRecord Dossier.decode db.dossiers id

def findOrganization (db : Database) (id : String) : Except StoreError (Option Organization) := do
  db.send .findOrganization
  findRecord Organization.decode db.organizations id

def recordAlert (db : Database) (a : Alert) : Except StoreError Unit × Database :=
  match db.insertAlert a with
  | .error why => (.error why, db)
  | .ok db => (.ok (), db)

def handle : StoreHandler Database
  | .findDossier id, db => db.unchanged (db.findDossier id)
  | .findOrganization id, db => db.unchanged (db.findOrganization id)
  | .recordAlert a, db => db.recordAlert a
  | .resolveAlert id r, db => db.resolveAlert id r
  | .unresolvedAlerts dossierId, db => db.unchanged (db.unresolvedAlerts dossierId)
  | .recordAudit id d, db => db.recordAudit id d
  | .auditEntries entityType entityId, db => db.unchanged (db.auditEntries entityType entityId)
  | .verifyAudit limit, db => db.unchanged (db.verifyAudit limit)
  | .ping, db => db.unchanged (db.send .probe)

end Database

end DossierCompliance
