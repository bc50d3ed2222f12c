import DossierCompliance.Rule.Operator

/-!
Violations: what a check or a rule has to say about a dossier, before anything
is stored.
-/

namespace DossierCompliance

/-- Where a violation comes from: a check fixed by regulation, or a rule bound
to the change of status. -/
inductive AlertContext where
  | tenantCompliance
  | stateChange
  deriving DecidableEq

instance : Named AlertContext where
  all := [.tenantCompliance, .stateChange]
  identifier
    | .tenantCompliance => "TenantCompliance"
    | .stateChange => "StateChange"
  name
    | .tenantCompliance => "TENANT_COMPLIANCE"
    | .stateChange => "STATE_CHANGE"

namespace AlertContext

def unknownMessage (text : String) : String :=
  "unknown alert context: " ++ text

def parse (text : String) : Except String AlertContext :=
  match Named.ofName? text with
  | some c => .ok c
  | none => .error (unknownMessage text)

end AlertContext

structure Violation where
  ruleId : String
  severity : Severity
  context : AlertContext
  message : String
  details : Json

namespace Violation

def isBlocking (v : Violation) : Bool :=
  v.severity == .blocking

theorem isBlocking_eq (v : Violation) : v.isBlocking = decide (v.severity = .blocking) := by
  rw [isBlocking]
  cases v.severity <;> rfl

def toJson (v : Violation) : Json :=
  .ofMembers
    [("rule_id", .string v.ruleId), ("severity", Named.toJson v.severity),
     ("context", Named.toJson v.context), ("message", .string v.message), ("details", v.details)]

end Violation

end DossierCompliance
