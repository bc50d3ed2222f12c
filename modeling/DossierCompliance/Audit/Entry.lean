import DossierCompliance.Digest.Sha256
import DossierCompliance.Uuid
import DossierCompliance.Calendar.Instant
import DossierCompliance.Dossier.Status
import DossierCompliance.Json.Printer

/-!
Entries of the audit trail: who attempted which change, and what it met. The
hash of an entry covers the hash of the entry before it and all its fields
but the hash itself. The details go into it in a form that does not depend on
the order of members, and the time with six digits.
-/

namespace DossierCompliance

open Json (Decoder)

/-- Who asked for a change. -/
structure Actor where
  id : String
  role : Option String

def Actor.decode : Decoder Actor :=
  Decoder.record ["id", "role"] false fun fs =>
    Actor.mk <$> fs.required "id" Decoder.text <*> fs.optional "role" Decoder.text

inductive AuditAction where
  | transitionBlocked
  | transitionAllowedWithWarnings
  deriving DecidableEq

instance : Named AuditAction where
  all := [.transitionBlocked, .transitionAllowedWithWarnings]
  identifier
    | .transitionBlocked => "TransitionBlocked"
    | .transitionAllowedWithWarnings => "TransitionAllowedWithWarnings"
  name
    | .transitionBlocked => "TRANSITION_BLOCKED"
    | .transitionAllowedWithWarnings => "TRANSITION_ALLOWED_WITH_WARNINGS"

namespace AuditAction

def unknownMessage (text : String) : String :=
  "unknown audit action: " ++ text

def parse (text : String) : Except String AuditAction :=
  match Named.ofName? text with
  | some a => .ok a
  | none => .error (unknownMessage text)

end AuditAction

/-- An entry before it is given an id and a place in the chain. -/
structure AuditDraft where
  tenantId : String
  actor : Actor
  action : AuditAction
  entityType : String
  entityId : String
  phase : Phase
  isForced : Bool
  previousState : Status
  newState : Status
  details : Json
  timestamp : Instant

structure AuditEntry where
  id : Uuid
  tenantId : String
  actorId : String
  actorRole : Option String
  action : AuditAction
  entityType : String
  entityId : String
  phase : Phase
  isForced : Bool
  previousState : Status
  newState : Status
  details : Json
  timestamp : Instant
  previousHash : String
  entryHash : String

namespace AuditEntry

/-! ### Hash -/

def separator : Char := Char.ofNat 0x1F

def flag (b : Bool) : String :=
  if b then "1" else "0"

/-- A value with the members of its objects in ascending order. -/
def canonical (details : Json) : String :=
  details.sorted.render

/-- The texts that are hashed, each followed by a separator. -/
def parts (e : AuditEntry) : List String :=
  [e.previousHash, e.id.text, e.tenantId, e.actorId, flag e.actorRole.isSome,
   e.actorRole.getD "", Named.name e.action, e.entityType, e.entityId, Named.name e.phase,
   flag e.isForced, e.previousState.name, e.newState.name, canonical e.details]

/-- The text that is hashed; the time stands last. -/
def preimage (e : AuditEntry) : String :=
  String.ofList (e.parts.flatMap fun part => part.toList ++ [separator]) ++ e.timestamp.microsText

def hexText (bytes : List UInt8) : String :=
  String.ofList (bytes.flatMap fun b =>
    [Text.lowerHexDigit (b.toNat / 16), Text.lowerHexDigit (b.toNat % 16)])

def hash (e : AuditEntry) : String :=
  hexText (Digest.sha256 e.preimage.toUTF8.toList)

/-! ### Stored form -/

def names : List String :=
  ["id", "tenant_id", "actor_id", "actor_role", "action", "entity_type", "entity_id", "phase",
   "is_forced", "previous_state", "new_state", "details", "timestamp", "previous_hash",
   "entry_hash"]

def decode : Decoder AuditEntry :=
  Decoder.record names false fun fs =>
    AuditEntry.mk <$> fs.required "id" Uuid.decode
      <*> fs.required "tenant_id" Decoder.text
      <*> fs.required "actor_id" Decoder.text
      <*> fs.nullable "actor_role" Decoder.text
      <*> fs.required "action" Named.decode
      <*> fs.required "entity_type" Decoder.text
      <*> fs.required "entity_id" Decoder.text
      <*> fs.required "phase" Named.decode
      <*> fs.required "is_forced" Decoder.boolean
      <*> fs.required "previous_state" Named.decode
      <*> fs.required "new_state" Named.decode
      <*> fs.required "details" Decoder.value
      <*> fs.required "timestamp" Instant.decode
      <*> fs.required "previous_hash" Decoder.text
      <*> fs.required "entry_hash" Decoder.text

def toJson (e : AuditEntry) : Json :=
  .ofMembers
    [("id", e.id.toJson), ("tenant_id", .string e.tenantId), ("actor_id", .string e.actorId),
     ("actor_role", .ofText? e.actorRole), ("action", Named.toJson e.action),
     ("entity_type", .string e.entityType), ("entity_id", .string e.entityId),
     ("phase", Named.toJson e.phase), ("is_forced", .bool e.isForced),
     ("previous_state", Named.toJson e.previousState), ("new_state", Named.toJson e.newState),
     ("details", e.details), ("timestamp", e.timestamp.toJson),
     ("previous_hash", .string e.previousHash), ("entry_hash", .string e.entryHash)]

end AuditEntry

end DossierCompliance
