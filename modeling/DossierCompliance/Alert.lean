import DossierCompliance.Violation
import DossierCompliance.Uuid
import DossierCompliance.Calendar.Instant
import DossierCompliance.Dossier.Status

/-!
Alerts: the stored record of one violation by one dossier. Alerts are only
added, and nothing of one changes but its resolution, which a later resolution
overwrites.
-/

namespace DossierCompliance

open Json (Decoder)

structure Alert where
  id : Uuid
  dossierId : String
  ruleId : String
  severity : Severity
  context : AlertContext
  /-- The trigger of the change that raised the alert, as it is written. -/
  trigger : String
  message : String
  details : Json
  isResolved : Bool
  resolvedBy : Option String
  resolvedAt : Option Instant
  resolution : Option String
  createdAt : Instant

/-- Who resolved an alert, how, and when. -/
structure Resolution where
  resolvedBy : String
  text : String
  resolvedAt : Instant

namespace Alert

def raise (id : Uuid) (dossierId : String) (trigger : Trigger) (v : Violation)
    (createdAt : Instant) : Alert where
  id := id
  dossierId := dossierId
  ruleId := v.ruleId
  severity := v.severity
  context := v.context
  trigger := trigger.text
  message := v.message
  details := v.details
  isResolved := false
  resolvedBy := none
  resolvedAt := none
  resolution := none
  createdAt := createdAt

def resolve (a : Alert) (r : Resolution) : Alert :=
  { a with
    isResolved := true
    resolvedBy := some r.resolvedBy
    resolvedAt := some r.resolvedAt
    resolution := some r.text }

def names : List String :=
  ["id", "dossier_id", "rule_id", "severity", "context", "trigger", "message", "details",
   "is_resolved", "resolved_by", "resolved_at", "resolution", "created_at"]

def decode : Decoder Alert :=
  Decoder.record names false fun fs =>
    Alert.mk <$> fs.required "id" Uuid.decode
      <*> fs.required "dossier_id" Decoder.text
      <*> fs.required "rule_id" Decoder.text
      <*> fs.required "severity" Named.decode
      <*> fs.required "context" Named.decode
      <*> fs.required "trigger" Decoder.text
      <*> fs.required "message" Decoder.text
      <*> fs.required "details" Decoder.value
      <*> fs.required "is_resolved" Decoder.boolean
      <*> fs.nullable "resolved_by" Decoder.text
      <*> fs.nullable "resolved_at" Instant.decode
      <*> fs.nullable "resolution" Decoder.text
      <*> fs.required "created_at" Instant.decode

def toJson (a : Alert) : Json :=
  .ofMembers
    [("id", a.id.toJson), ("dossier_id", .string a.dossierId), ("rule_id", .string a.ruleId),
     ("severity", Named.toJson a.severity), ("context", Named.toJson a.context),
     ("trigger", .string a.trigger), ("message", .string a.message), ("details", a.details),
     ("is_resolved", .bool a.isResolved), ("resolved_by", .ofText? a.resolvedBy),
     ("resolved_at", .ofOption Instant.toJson a.resolvedAt),
     ("resolution", .ofText? a.resolution), ("created_at", a.createdAt.toJson)]

/-- The unresolved alerts of a dossier, newest first; of alerts of one time the
one that was added last comes first. -/
def unresolvedOf (dossierId : String) (alerts : List Alert) : List Alert :=
  Instant.newestFirst (·.createdAt)
    (alerts.filter fun a => a.dossierId == dossierId && !a.isResolved)

end Alert

end DossierCompliance
