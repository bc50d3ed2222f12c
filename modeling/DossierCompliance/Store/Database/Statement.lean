import DossierCompliance.Store.Database.Row
import DossierCompliance.Text.Occurrence

/-!
The statements that the database is sent, each with its text. A database may
refuse statements, for want of rights or of space; which ones is told by a text
that they contain.
-/

namespace DossierCompliance

inductive Statement where
  | openTransaction
  | commit
  | probe
  | findDossier
  | findOrganization
  | insertAlert
  | resolveAlert
  | unresolvedAlerts
  /-- Keeps other transactions from appending to the audit log until this one ends. -/
  | lockAudit
  | lastHash
  | insertEntry
  | entriesOfEntity
  | firstEntries
  deriving DecidableEq

namespace Statement

def listed (columns : List String) : String :=
  String.intercalate ", " columns

/-- The parameters of a statement by their numbers. -/
def parameters (count : Nat) : List String :=
  (List.range count).map fun n => "$" ++ toString (n + 1)

def insertText (table : String) (columns : List String) : String :=
  "INSERT INTO " ++ table ++ " (" ++ listed columns ++ ") VALUES ("
    ++ listed (parameters columns.length) ++ ")"

def text : Statement → String
  | openTransaction => "BEGIN"
  | commit => "COMMIT"
  | probe => "SELECT 1"
  | findDossier => "SELECT document FROM dossier_read_model WHERE id = $1"
  | findOrganization => "SELECT document FROM organizations WHERE id = $1"
  | insertAlert => insertText "compliance_alerts" AlertRow.columns
  | resolveAlert =>
    "UPDATE compliance_alerts SET is_resolved = TRUE, resolved_by = $2, resolution = $3, "
      ++ "resolved_at = $4 WHERE id = $1 RETURNING " ++ listed AlertRow.columns
  | unresolvedAlerts =>
    "SELECT " ++ listed AlertRow.columns ++ " FROM compliance_alerts "
      ++ "WHERE dossier_id = $1 AND NOT is_resolved ORDER BY created_at DESC, seq DESC"
  | lockAudit => "SELECT pg_advisory_xact_lock($1)"
  | lastHash => "SELECT entry_hash FROM compliance_audit_log ORDER BY seq DESC LIMIT 1"
  | insertEntry => insertText "compliance_audit_log" AuditRow.columns
  | entriesOfEntity =>
    "SELECT " ++ listed AuditRow.columns ++ " FROM compliance_audit_log "
      ++ "WHERE entity_type = $1 AND entity_id = $2 ORDER BY seq ASC"
  | firstEntries =>
    "SELECT " ++ listed AuditRow.columns ++ " FROM compliance_audit_log ORDER BY seq ASC LIMIT $1"

end Statement

/-- An outage: the statements in which a text occurs are refused. -/
structure Outage where
  pattern : String
  why : String

namespace Outage

def strikes (o : Outage) (text : String) : Bool :=
  Text.occursIn o.pattern text

def answer (why : String) : String :=
  "error returned from database: " ++ why

end Outage

end DossierCompliance
