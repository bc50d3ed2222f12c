import DossierCompliance.Assessment
import DossierCompliance.Engine.Program

/-!
Validating a change of status. The verdict is settled by the assessment before
anything is written; then one alert is recorded for each violation that calls
for one, and one audit entry if the actor is known and anything was found. A
write that fails is reported beside the verdict and changes nothing else.
-/

namespace DossierCompliance

/-- The rules of an engine, and whether it records alerts for violations that
only warn. -/
structure Engine where
  rules : RuleDocument
  recordsWarnings : Bool

inductive EngineError where
  | noDossier (id : String)
  | noAlert (id : Uuid)
  | noOrganization (id : String)
  | store (why : StoreError)

def EngineError.message : EngineError → String
  | .noDossier id => "dossier " ++ id ++ " not found"
  | .noAlert id => "alert " ++ id.text ++ " not found"
  | .noOrganization id => "organization " ++ id ++ " not found"
  | .store why => why.message

/-- A record that could not be written: the alert of a rule, or the audit entry. -/
inductive UnwrittenRecord where
  | alert (ruleId : String)
  | audit

structure PersistenceFailure where
  record : UnwrittenRecord
  message : String

/-- The verdict and what was written for it. -/
structure TransitionReport where
  verdict : Verdict
  /-- The alerts that were written, in the order of their violations. -/
  alertIds : List Uuid
  auditEntryId : Option Uuid
  failures : List PersistenceFailure

namespace PersistenceFailure

def toJson (f : PersistenceFailure) : Json :=
  match f.record with
  | .alert ruleId => .ofMembers
      [("record", .string "ALERT"), ("rule_id", .string ruleId), ("message", .string f.message)]
  | .audit => .ofMembers
      [("record", .string "AUDIT"), ("rule_id", .null), ("message", .string f.message)]

end PersistenceFailure

namespace TransitionReport

def isFullyPersisted (r : TransitionReport) : Bool :=
  r.failures.isEmpty

def toJson (r : TransitionReport) : Json :=
  .ofMembers
    [("result", r.verdict.toJson), ("alert_ids", .ofList Uuid.toJson r.alertIds),
     ("audit_entry_id", .ofOption Uuid.toJson r.auditEntryId),
     ("persistence_failures", .ofList PersistenceFailure.toJson r.failures)]

end TransitionReport

/-- The type of entity under which changes of dossiers are audited. -/
def dossierEntity : String := "DOSSIER"

def Assessment.auditDraft (a : Assessment) (d : Dossier) (actor : Actor) (timestamp : Instant) :
    AuditDraft where
  tenantId := d.tenantId
  actor := actor
  action := if a.verdict.isSuccess then .transitionAllowedWithWarnings else .transitionBlocked
  entityType := dossierEntity
  entityId := d.id
  phase := a.target.phase
  isForced := false
  previousState := d.status
  newState := a.target
  details := .ofMembers
    [("blocked", .bool !a.verdict.isSuccess), ("errors", .texts a.verdict.errors),
     ("warnings", .texts a.verdict.warnings), ("rule_ids", .texts (a.findings.map (·.ruleId)))]
  timestamp := timestamp

namespace Engine

/-- The violations for which alerts are recorded. -/
def alerting (e : Engine) (a : Assessment) : List Violation :=
  a.violations.filter fun v => v.isBlocking || e.recordsWarnings

/-- Records the alert of a violation: its id, or what went wrong. -/
def recordAlert (dossierId : String) (trigger : Trigger) (createdAt : Instant) (v : Violation) :
    Program (Except PersistenceFailure Uuid) := do
  let id ← Program.newId
  match ← Program.store (.recordAlert (.raise id dossierId trigger v createdAt)) with
  | .ok () => return .ok id
  | .error why => return .error ⟨.alert v.ruleId, why.message⟩

/-- Records the alerts of violations one by one, whatever becomes of each. -/
def recordAlerts (dossierId : String) (trigger : Trigger) (createdAt : Instant) :
    List Violation → Program (List (Except PersistenceFailure Uuid))
  | [] => return []
  | v :: rest => do
    let outcome ← recordAlert dossierId trigger createdAt v
    let outcomes ← recordAlerts dossierId trigger createdAt rest
    return outcome :: outcomes

/-- Records the audit entry of an assessment in which anything was found. -/
def recordAudit (d : Dossier) (a : Assessment) (actor : Option Actor) (timestamp : Instant) :
    Program (Option (Except PersistenceFailure Uuid)) := do
  let some actor := actor | return none
  if a.verdict.isClean then return none
  let id ← Program.newId
  match ← Program.store (.recordAudit id (a.auditDraft d actor timestamp)) with
  | .ok entry => return some (.ok entry.id)
  | .error why => return some (.error ⟨.audit, why.message⟩)

def failure? {α : Type} : Except PersistenceFailure α → Option PersistenceFailure
  | .ok _ => none
  | .error f => some f

def apply (e : Engine) (d : Dossier) (a : Assessment) (actor : Option Actor) :
    Program TransitionReport := do
  let time ← Program.now
  let alerts ← recordAlerts d.id ⟨a.target⟩ time (e.alerting a)
  let audit ← recordAudit d a actor time
  return {
    verdict := a.verdict
    alertIds := alerts.filterMap Except.toOption
    auditEntryId := audit.bind Except.toOption
    failures := alerts.filterMap failure? ++ audit.toList.filterMap failure? }

def validate (e : Engine) (dossierId : String) (target : Status) (actor : Option Actor) :
    Program (Except EngineError TransitionReport) := do
  match ← Program.store (.findDossier dossierId) with
  | .error why => return .error (.store why)
  | .ok none => return .error (.noDossier dossierId)
  | .ok (some d) =>
    let today := (← Program.now).date
    return .ok (← e.apply d (assess e.rules ⟨d, target, today⟩) actor)

end Engine

end DossierCompliance
