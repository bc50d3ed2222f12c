import DossierCompliance.Calendar.Micros
import DossierCompliance.Store.Call

/-!
Rows of the database. A row holds enumerations as texts, whatever they are, and
times to the microsecond; it becomes a record again only if each of those texts
is a name of its enumeration. By the names of their columns rows are written as
JSON and read from it.
-/

namespace DossierCompliance

open Json (Decoder)

/-- A document of the read model under its key. -/
structure DocumentRow where
  id : String
  document : Json

structure AlertRow where
  id : Uuid
  dossierId : String
  ruleId : String
  severity : String
  context : String
  trigger : String
  message : String
  details : Json
  isResolved : Bool
  resolvedBy : Option String
  resolvedAt : Option Instant
  resolution : Option String
  createdAt : Instant

structure AuditRow where
  id : Uuid
  tenantId : String
  actorId : String
  actorRole : Option String
  action : String
  entityType : String
  entityId : String
  phase : String
  isForced : Bool
  previousState : String
  newState : String
  details : Json
  timestamp : Instant
  previousHash : String
  entryHash : String

def Named.ofColumn {α : Type} [Named α] (text : String) : Except StoreError α :=
  (Decoder.variantNamed (Named.variants α) text).mapError .corrupt

/-- A time as a column gives it back. -/
def Instant.decodeColumn : Decoder Instant := fun r =>
  return (← Instant.decode r).cutToMicros

def Instant.columnJson (t : Instant) : Json :=
  .string t.microsText

namespace DocumentRow

def record {α : Type} (decode : Decoder α) (row : DocumentRow) : Except StoreError α :=
  (Json.decodeValue decode row.document).mapError .corrupt

def decode : Decoder DocumentRow :=
  Decoder.record ["id", "document"] false fun fs =>
    DocumentRow.mk <$> fs.required "id" Decoder.text <*> fs.required "document" Decoder.value

def toJson (row : DocumentRow) : Json :=
  .ofMembers [("id", .string row.id), ("document", row.document)]

end DocumentRow

namespace AlertRow

def ofAlert (a : Alert) : AlertRow where
  id := a.id
  dossierId := a.dossierId
  ruleId := a.ruleId
  severity := Named.name a.severity
  context := Named.name a.context
  trigger := a.trigger
  message := a.message
  details := a.details
  isResolved := a.isResolved
  resolvedBy := a.resolvedBy
  resolvedAt := a.resolvedAt.map Instant.cutToMicros
  resolution := a.resolution
  createdAt := a.createdAt.cutToMicros

def alert (row : AlertRow) : Except StoreError Alert := do
  let severity ← Named.ofColumn row.severity
  let context ← Named.ofColumn row.context
  return {
    id := row.id
    dossierId := row.dossierId
    ruleId := row.ruleId
    severity, context
    trigger := row.trigger
    message := row.message
    details := row.details
    isResolved := row.isResolved
    resolvedBy := row.resolvedBy
    resolvedAt := row.resolvedAt
    resolution := row.resolution
    createdAt := row.createdAt }

def resolve (row : AlertRow) (r : Resolution) : AlertRow :=
  { row with
    isResolved := true
    resolvedBy := some r.resolvedBy
    resolvedAt := some r.resolvedAt.cutToMicros
    resolution := some r.text }

def columns : List String :=
  ["id", "dossier_id", "rule_id", "severity", "context", "rule_trigger", "message", "details",
   "is_resolved", "resolved_by", "resolved_at", "resolution", "created_at"]

def decode : Decoder AlertRow :=
  Decoder.record columns false fun fs =>
    AlertRow.mk <$> fs.required "id" Uuid.decode
      <*> fs.required "dossier_id" Decoder.text
      <*> fs.required "rule_id" Decoder.text
      <*> fs.required "severity" Decoder.text
      <*> fs.required "context" Decoder.text
      <*> fs.required "rule_trigger" Decoder.text
      <*> fs.required "message" Decoder.text
      <*> fs.defaulted "details" (.object []) Decoder.value
      <*> fs.defaulted "is_resolved" false Decoder.boolean
      <*> fs.optional "resolved_by" Decoder.text
      <*> fs.optional "resolved_at" Instant.decodeColumn
      <*> fs.optional "resolution" Decoder.text
      <*> fs.required "created_at" Instant.decodeColumn

def toJson (row : AlertRow) : Json :=
  .ofMembers
    [("id", row.id.toJson), ("dossier_id", .string row.dossierId),
     ("rule_id", .string row.ruleId), ("severity", .string row.severity),
     ("context", .string row.context), ("rule_trigger", .string row.trigger),
     ("message", .string row.message), ("details", row.details),
     ("is_resolved", .bool row.isResolved), ("resolved_by", .ofText? row.resolvedBy),
     ("resolved_at", .ofOption Instant.columnJson row.resolvedAt),
     ("resolution", .ofText? row.resolution), ("created_at", row.createdAt.columnJson)]

end AlertRow

namespace AuditRow

def ofEntry (e : AuditEntry) : AuditRow where
  id := e.id
  tenantId := e.tenantId
  actorId := e.actorId
  actorRole := e.actorRole
  action := Named.name e.action
  entityType := e.entityType
  entityId := e.entityId
  phase := Named.name e.phase
  isForced := e.isForced
  previousState := Named.name e.previousState
  newState := Named.name e.newState
  details := e.details
  timestamp := e.timestamp.cutToMicros
  previousHash := e.previousHash
  entryHash := e.entryHash

def entry (row : AuditRow) : Except StoreError AuditEntry := do
  let action ← Named.ofColumn row.action
  let phase ← Named.ofColumn row.phase
  let previousState ← Named.ofColumn row.previousState
  let newState ← Named.ofColumn row.newState
  return {
    id := row.id
    tenantId := row.tenantId
    actorId := row.actorId
    actorRole := row.actorRole
    entityType := row.entityType
    entityId := row.entityId
    isForced := row.isForced
    action, phase, previousState, newState
    details := row.details
    timestamp := row.timestamp
    previousHash := row.previousHash
    entryHash := row.entryHash }

def columns : List String :=
  ["id", "tenant_id", "actor_id", "actor_role", "action", "entity_type", "entity_id", "phase",
   "is_forced", "previous_state", "new_state", "details", "timestamp", "previous_hash",
   "entry_hash"]

def decode : Decoder AuditRow :=
  Decoder.record columns false fun fs =>
    AuditRow.mk <$> fs.required "id" Uuid.decode
      <*> fs.required "tenant_id" Decoder.text
      <*> fs.required "actor_id" Decoder.text
      <*> fs.optional "actor_role" Decoder.text
      <*> fs.required "action" Decoder.text
      <*> fs.required "entity_type" Decoder.text
      <*> fs.required "entity_id" Decoder.text
      <*> fs.required "phase" Decoder.text
      <*> fs.defaulted "is_forced" false Decoder.boolean
      <*> fs.required "previous_state" Decoder.text
      <*> fs.required "new_state" Decoder.text
      <*> fs.defaulted "details" (.object []) Decoder.value
      <*> fs.required "timestamp" Instant.decodeColumn
      <*> fs.required "previous_hash" Decoder.text
      <*> fs.required "entry_hash" Decoder.text

def toJson (row : AuditRow) : Json :=
  .ofMembers
    [("id", row.id.toJson), ("tenant_id", .string row.tenantId),
     ("actor_id", .string row.actorId), ("actor_role", .ofText? row.actorRole),
     ("action", .string row.action), ("entity_type", .string row.entityType),
     ("entity_id", .string row.entityId), ("phase", .string row.phase),
     ("is_forced", .bool row.isForced), ("previous_state", .string row.previousState),
     ("new_state", .string row.newState), ("details", row.details),
     ("timestamp", row.timestamp.columnJson), ("previous_hash", .string row.previousHash),
     ("entry_hash", .string row.entryHash)]

end AuditRow

end DossierCompliance
