import DossierCompliance.Store.Database.Setup

/-!
The tables of a database by their names, as lists of rows: what is taken out of
them, and putting other rows in their place.
-/

namespace DossierCompliance.Database

open Json (Decoder)

def checksumLength : Nat := 48

def migrationJson (m : AppliedMigration) : Json :=
  .ofMembers
    [("version", .ofInt m.version), ("description", .string m.description),
     ("success", .bool m.success), ("checksum", .ofNat checksumLength)]

/-- The rows of a table, if there is one of the name. -/
def rows? (db : Database) : String → Option (List Json)
  | "organizations" => some (db.organizations.map DocumentRow.toJson)
  | "dossier_read_model" => some (db.dossiers.map DocumentRow.toJson)
  | "compliance_alerts" => some (db.alerts.map AlertRow.toJson)
  | "compliance_audit_log" => some (db.audit.map AuditRow.toJson)
  | table =>
    if table == Schema.migrationTable then some (db.migrations.map migrationJson) else none

def decodeRows {α : Type} (decode : Decoder α) (rows : List Json) : Except Json.Mismatch (List α) :=
  rows.mapM (Json.decodeValue decode)

/-- The database with other rows in a table, if there is one of the name. -/
def withRows? (db : Database) (table : String) (rows : List Json) :
    Option (Except Json.Mismatch Database) :=
  match table with
  | "organizations" => some do
    return { db with organizations := ← decodeRows DocumentRow.decode rows }
  | "dossier_read_model" => some do
    return { db with dossiers := ← decodeRows DocumentRow.decode rows }
  | "compliance_alerts" => some do
    return { db with alerts := ← decodeRows AlertRow.decode rows }
  | "compliance_audit_log" => some do
    return { db with audit := ← decodeRows AuditRow.decode rows }
  | table =>
    if table == Schema.migrationTable then some do
      return { db with migrations := ← decodeRows AppliedMigration.decode rows }
    else none

end DossierCompliance.Database
