import DossierCompliance.Json.Basic

/-!
The description that the service gives of itself: its operations with the
statuses they answer, and the shapes of what is sent and answered, in the form
of an OpenAPI document.
-/

namespace DossierCompliance

structure OperationDescription where
  method : String
  path : String
  tag : String
  /-- Each status with what it means. -/
  responses : List (Nat × String)

structure FieldDescription where
  name : String
  isRequired : Bool

structure SchemaDescription where
  name : String
  fields : List FieldDescription

structure ServiceDescription where
  title : String
  version : String
  summary : String
  operations : List OperationDescription
  schemas : List SchemaDescription
  tags : List (String × String)

namespace FieldDescription

def required (name : String) : FieldDescription :=
  ⟨name, true⟩

def optional (name : String) : FieldDescription :=
  ⟨name, false⟩

end FieldDescription

namespace OperationDescription

def responsesJson (o : OperationDescription) : Json :=
  .ofMembers (o.responses.map fun (status, meaning) =>
    (toString status, .ofMembers [("description", .string meaning)]))

def toJson (o : OperationDescription) : Json :=
  .ofMembers [("tags", .texts [o.tag]), ("responses", o.responsesJson)]

end OperationDescription

namespace SchemaDescription

def requiredNames (s : SchemaDescription) : List String :=
  (s.fields.filter (·.isRequired)).map (·.name)

def toJson (s : SchemaDescription) : Json :=
  .ofMembers
    ([("type", .string "object"),
      ("properties", .ofMembers (s.fields.map fun f => (f.name, .ofMembers [])))]
      ++ if s.requiredNames.isEmpty then [] else [("required", .texts s.requiredNames)])

end SchemaDescription

namespace ServiceDescription

/-- The paths in order, each with its operations by method. -/
def pathsJson (operations : List OperationDescription) : Json :=
  .ofMembers ((operations.map (·.path)).map fun path =>
    (path, .ofMembers ((operations.filter (·.path == path)).map fun o => (o.method, o.toJson))))

def toJson (d : ServiceDescription) : Json :=
  .ofMembers
    [("openapi", .string "3.1.0"),
     ("info", .ofMembers
       [("title", .string d.title), ("version", .string d.version),
        ("description", .string d.summary)]),
     ("paths", pathsJson d.operations),
     ("components", .ofMembers
       [("schemas", .ofMembers (d.schemas.map fun s => (s.name, s.toJson)))]),
     ("tags", .ofList (fun (name, meaning) =>
       .ofMembers [("name", .string name), ("description", .string meaning)]) d.tags)]

open FieldDescription

def standardOperations : List OperationDescription :=
  [⟨"post", "/v1/dossiers/\x7bid\x7d/transitions/validate", "transitions",
     [(200, "Verdict (blocked transitions are still 200)"), (404, "Dossier not found"),
      (422, "Unknown target status")]⟩,
   ⟨"get", "/v1/dossiers/\x7bid\x7d/alerts", "alerts", [(200, "Unresolved alerts")]⟩,
   ⟨"post", "/v1/alerts/\x7bid\x7d/resolve", "alerts",
     [(200, "Alert resolved"), (400, "Alert ID is not a UUID or body is malformed"),
      (404, "Alert not found"), (422, "Blank resolver or resolution")]⟩,
   ⟨"get", "/v1/dossiers/\x7bid\x7d/audit", "audit", [(200, "Audit trail")]⟩,
   ⟨"get", "/v1/audit/verify", "audit",
     [(200, "Integrity report"), (400, "Limit is not a number"), (422, "Zero limit")]⟩,
   ⟨"post", "/v1/tenants/\x7bid\x7d/sites/validate", "onboarding",
     [(200, "Verdict"), (404, "Tenant not found")]⟩,
   ⟨"post", "/v1/organizations/validate", "onboarding", [(200, "Verdict")]⟩,
   ⟨"get", "/v1/rules", "rules", [(200, "Loaded rules"), (422, "Malformed trigger filter")]⟩]

def standardSchemas : List SchemaDescription :=
  [⟨"ErrorBody", [required "error"]⟩,
   ⟨"ErrorDetail", [required "code", required "message"]⟩,
   ⟨"ValidationResponse", [required "success", required "errors", required "warnings"]⟩,
   ⟨"ValidateTransitionRequest",
     [required "target_status", optional "actor_id", optional "actor_role"]⟩,
   ⟨"TransitionResponse",
     [required "dossier_id", required "target_status", required "success", required "errors",
      required "warnings", required "alert_ids", optional "audit_entry_id",
      required "fully_persisted"]⟩,
   ⟨"AlertResponse",
     [required "id", required "dossier_id", required "rule_id", required "severity",
      required "context", required "trigger", required "message", required "details",
      required "is_resolved", optional "resolved_by", optional "resolved_at",
      optional "resolution", required "created_at"]⟩,
   ⟨"AlertListResponse", [required "dossier_id", required "count", required "alerts"]⟩,
   ⟨"ResolveAlertRequest", [required "resolved_by", required "resolution"]⟩,
   ⟨"AuditEntryResponse",
     [required "id", required "tenant_id", required "actor_id", optional "actor_role",
      required "action", required "phase", required "is_forced", required "previous_state",
      required "new_state", required "details", required "timestamp", required "previous_hash",
      required "entry_hash"]⟩,
   ⟨"AuditTrailResponse", [required "dossier_id", required "count", required "entries"]⟩,
   ⟨"ChainIntegrityResponse",
     [required "valid", required "total_entries", required "broken_links"]⟩,
   ⟨"ValidateSiteRequest", [required "name", required "kind", optional "uai_code"]⟩,
   ⟨"ValidateOrganizationRequest",
     [required "name", required "kind", optional "siret", optional "nda_number",
      optional "qualiopi_certified"]⟩,
   ⟨"RuleSummary",
     [required "id", required "description", required "trigger", required "severity",
      required "message", required "logic"]⟩,
   ⟨"RuleListResponse", [optional "version", required "count", required "rules"]⟩]

def standardTags : List (String × String) :=
  [("transitions", "Dossier status transition validation"), ("alerts", "Compliance alerts"),
   ("audit", "Hash-chained audit trail"), ("onboarding", "Tenant and site pre-creation checks"),
   ("rules", "Loaded declarative rules")]

def standard : ServiceDescription where
  title := "Training Compliance Engine API"
  version := "0.1.0"
  summary := "Transition validation, compliance alerts and onboarding checks for "
    ++ "vocational-training dossiers."
  operations := standardOperations
  schemas := standardSchemas
  tags := standardTags

end ServiceDescription

end DossierCompliance
