import DossierCompliance.Decimal.Unsigned
import DossierCompliance.Engine.Records
import DossierCompliance.Service.Response

/-!
What the service answers at each of its places. An answer is worked out in
steps: read the request, check that it makes sense, ask the engine, and write
the outcome as JSON. The first step that fails is the refusal.
-/

namespace DossierCompliance

open Json (Decoder)

/-- Work that ends in JSON or in a refusal. -/
abbrev Serving := Program (Except Refusal Json)

namespace Serving

/-- Goes on with what was read and checked. -/
def after {α : Type} (outcome : Except Refusal α) (f : α → Serving) : Serving :=
  match outcome with
  | .ok a => f a
  | .error why => return .error why

/-- Goes on with what the engine answers. -/
def asking {α : Type} (p : Program (Except EngineError α)) (f : α → Json) : Serving :=
  return ((← p).map f).mapError .engine

end Serving

def requireText (field text : String) : Except InvalidRequest Unit :=
  if Text.isBlank text then .error (.blank field) else .ok ()

/-! ### Changes of status -/

structure TransitionRequest where
  targetStatus : String
  actorId : Option String
  actorRole : Option String

namespace TransitionRequest

def decode : Decoder TransitionRequest :=
  Decoder.record ["target_status", "actor_id", "actor_role"] false fun fs =>
    TransitionRequest.mk <$> fs.required "target_status" Decoder.text
      <*> fs.optional "actor_id" Decoder.text
      <*> fs.optional "actor_role" Decoder.text

/-- The actor, if there is an id. A blank role counts as none. -/
def actor (r : TransitionRequest) : Option Actor :=
  r.actorId.map fun id =>
    { id := Text.trim id
      role := (r.actorRole.map Text.trim).filter fun role => !role.isEmpty }

def check (r : TransitionRequest) : Except InvalidRequest (Status × Option Actor) := do
  let target ← (Status.parse (Text.trim r.targetStatus)).mapError .name
  if let some id := r.actorId then requireText "actor_id" id
  if r.actorRole.isSome && r.actorId.isNone then throw .roleWithoutActor
  return (target, r.actor)

end TransitionRequest

def Request.checkedBody {α β : Type} (r : Request) (decode : Decoder α)
    (check : α → Except InvalidRequest β) : Except Refusal β := do
  let a ← (r.decodeBody decode).mapError .unreadable
  (check a).mapError .invalid

namespace Serving

def transitionJson (dossierId : String) (target : Status) (r : TransitionReport) : Json :=
  .ofMembers
    [("dossier_id", .string dossierId), ("target_status", Named.toJson target),
     ("success", .bool r.verdict.isSuccess), ("errors", .texts r.verdict.errors),
     ("warnings", .texts r.verdict.warnings), ("alert_ids", .ofList Uuid.toJson r.alertIds),
     ("audit_entry_id", .ofOption Uuid.toJson r.auditEntryId),
     ("fully_persisted", .bool r.isFullyPersisted)]

def validateTransition (e : Engine) (dossierId : String) (r : Request) : Serving :=
  .after (r.checkedBody TransitionRequest.decode TransitionRequest.check) fun (target, actor) =>
    .asking (e.validate dossierId target actor) (transitionJson dossierId target)

end Serving

/-! ### Alerts -/

structure ResolveRequest where
  resolvedBy : String
  resolution : String

namespace ResolveRequest

def decode : Decoder ResolveRequest :=
  Decoder.record ["resolved_by", "resolution"] false fun fs =>
    ResolveRequest.mk <$> fs.required "resolved_by" Decoder.text
      <*> fs.required "resolution" Decoder.text

def check (r : ResolveRequest) : Except InvalidRequest ResolveRequest := do
  requireText "resolved_by" r.resolvedBy
  requireText "resolution" r.resolution
  return ⟨Text.trim r.resolvedBy, Text.trim r.resolution⟩

end ResolveRequest

namespace Serving

def pathUuid (parameter : Option String) : Except Refusal Uuid :=
  match parameter.bind Uuid.ofText? with
  | some id => .ok id
  | none => .error (.unreadable .path)

def resolveAlert (parameter : Option String) (r : Request) : Serving :=
  .after (pathUuid parameter) fun id =>
    .after (r.checkedBody ResolveRequest.decode ResolveRequest.check) fun body =>
      .asking (Engine.resolveAlert id body.resolvedBy body.resolution) Alert.toJson

def unresolvedAlerts (dossierId : String) : Serving :=
  .asking (Engine.unresolvedAlerts dossierId) fun alerts =>
    .ofMembers
      [("dossier_id", .string dossierId), ("count", .ofNat alerts.length),
       ("alerts", .ofList Alert.toJson alerts)]

/-! ### Audit -/

/-- An entry as it is served; the type and the id of the entity are known. -/
def auditEntryJson (e : AuditEntry) : Json :=
  .ofMembers
    [("id", e.id.toJson), ("tenant_id", .string e.tenantId), ("actor_id", .string e.actorId),
     ("actor_role", .ofText? e.actorRole), ("action", Named.toJson e.action),
     ("phase", Named.toJson e.phase), ("is_forced", .bool e.isForced),
     ("previous_state", Named.toJson e.previousState), ("new_state", Named.toJson e.newState),
     ("details", e.details), ("timestamp", e.timestamp.toJson),
     ("previous_hash", .string e.previousHash), ("entry_hash", .string e.entryHash)]

def auditTrail (dossierId : String) : Serving :=
  .asking (Engine.auditTrail dossierId) fun entries =>
    .ofMembers
      [("dossier_id", .string dossierId), ("count", .ofNat entries.length),
       ("entries", .ofList auditEntryJson entries)]

/-- Entries that are checked when no number is given. -/
def defaultVerifyLimit : Nat := 10000

def verifyLimit (r : Request) : Except Refusal Nat := do
  let limit ← match ← (r.queryValue "limit").mapError .unreadable with
    | none => pure defaultVerifyLimit
    | some text => match Decimal.wholeBelow? (Nat.pow 2 64) text with
      | some n => pure n
      | none => throw (.unreadable .query)
  if limit == 0 then throw (.invalid .zeroLimit)
  return limit

def verifyAudit (r : Request) : Serving :=
  .after (verifyLimit r) fun limit =>
    .asking (Engine.verifyAudit limit) fun integrity =>
      .ofMembers
        [("valid", .bool integrity.isValid), ("total_entries", .ofNat integrity.totalEntries),
         ("broken_links", .ofNat integrity.brokenLinks)]

end Serving

/-! ### Onboarding -/

def SiteDraft.check (s : SiteDraft) : Except InvalidRequest SiteDraft := do
  requireText "name" s.name
  return s

namespace Serving

def validateSite (tenantId : String) (r : Request) : Serving :=
  .after (r.checkedBody SiteDraft.decode SiteDraft.check) fun site =>
    .asking (Engine.checkSite tenantId site) Verdict.toJson

def validateOrganization (r : Request) : Serving :=
  .after (r.checkedBody OrganizationDraft.decode .ok) fun draft => return .ok draft.verdict.toJson

/-! ### Rules -/

/-- The rules that a request asks for: all, or those bound to a trigger. -/
def selectedRules (rules : RuleDocument) (r : Request) : Except Refusal (List Rule) := do
  match ← (r.queryValue "trigger").mapError .unreadable with
  | none => return rules.rules
  | some text =>
    let trigger ← (Trigger.parse (Text.trim text)).mapError fun m => .invalid (.name m)
    return rules.rulesFor trigger.target

def listRules (rules : RuleDocument) (r : Request) : Serving :=
  .after (selectedRules rules r) fun selected =>
    return .ok (.ofMembers
      [("version", .ofText? rules.version), ("count", .ofNat selected.length),
       ("rules", .ofList Rule.toJson selected)])

end Serving

end DossierCompliance
