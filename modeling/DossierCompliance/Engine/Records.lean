import DossierCompliance.Engine.Transition
import DossierCompliance.Onboarding

/-!
The other requests to an engine: resolving and listing alerts, the audit trail
of a dossier, checking the chain, and the checks of sites.
-/

namespace DossierCompliance

namespace Engine

def resolveAlert (id : Uuid) (resolvedBy text : String) : Program (Except EngineError Alert) := do
  let time ← Program.now
  match ← Program.store (.resolveAlert id ⟨resolvedBy, text, time⟩) with
  | .error why => return .error (.store why)
  | .ok none => return .error (.noAlert id)
  | .ok (some alert) => return .ok alert

/-- The unresolved alerts of a dossier, newest first. -/
def unresolvedAlerts (dossierId : String) : Program (Except EngineError (List Alert)) :=
  return (← Program.store (.unresolvedAlerts dossierId)).mapError .store

/-- The audit entries of a dossier, oldest first. -/
def auditTrail (dossierId : String) : Program (Except EngineError (List AuditEntry)) :=
  return (← Program.store (.auditEntries dossierEntity dossierId)).mapError .store

def verifyAudit (limit : Nat) : Program (Except EngineError ChainIntegrity) :=
  return (← Program.store (.verifyAudit limit)).mapError .store

def checkSite (tenantId : String) (site : SiteDraft) : Program (Except EngineError Verdict) := do
  match ← Program.store (.findOrganization tenantId) with
  | .error why => return .error (.store why)
  | .ok none => return .error (.noOrganization tenantId)
  | .ok (some tenant) => return .ok (site.verdict tenant)

/-- How an engine shows itself: the sizes of its parts and its switch. -/
def summary (e : Engine) : String :=
  let opening := " \x7b "
  "ComplianceEngine" ++ opening ++ "rules: " ++ toString e.rules.size
    ++ ", tenant_checks: " ++ toString Regulation.checks.length
    ++ ", options: ValidatorOptions" ++ opening ++ "record_warning_alerts: "
    ++ (if e.recordsWarnings then "true" else "false") ++ " \x7d, .. \x7d"

end Engine

end DossierCompliance
