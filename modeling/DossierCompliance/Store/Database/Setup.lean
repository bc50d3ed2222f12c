import DossierCompliance.Store.Database.Basic

/-!
Making the tables of a database. A script is run once, in a transaction that
also notes that it was run; a database in which it was run is left as it is.
-/

namespace DossierCompliance

/-- The table of the migrations that were applied. -/
def Schema.migrationTable : String := "_sqlx_migrations"

inductive SetupError where
  | unreachable
  /-- The script of a version is refused. -/
  | script (version : Int) (why : String)
  /-- A statement around the script is refused. -/
  | statement (why : String)
  | unfinished (version : Int)
  | unknown (version : Int)

def SetupError.message : SetupError → String
  | .unreachable => "the database cannot be reached"
  | .script version why => "while executing migration " ++ toString version ++ ": " ++ why
  | .statement why => "while executing migrations: " ++ why
  | .unfinished version =>
    "migration " ++ toString version ++ " is partially applied; fix and remove row from "
      ++ Json.backquoted Schema.migrationTable ++ " table"
  | .unknown version =>
    "migration " ++ toString version
      ++ " was previously applied but is missing in the resolved migrations"

namespace Schema

def version : Int := 1

def description : String := "compliance"

/-- An object without members, as a default value. -/
def noMembers : String := "'\x7b\x7d'::jsonb"

/-- The script that makes the tables, with single blanks. -/
def script : String :=
  String.intercalate " "
    ["-- Compliance engine storage. --",
     "-- organizations / dossier_read_model: projection of CRM data the engine",
     "-- reads. Written by the CRM, never by the engine.",
     "-- compliance_alerts: append-only; only the resolution columns are updated.",
     "-- compliance_audit_log: append-only, SHA-256 hash chain ordered by seq.",
     "CREATE TABLE IF NOT EXISTS organizations ( id TEXT PRIMARY KEY,",
     "document JSONB NOT NULL, updated_at TIMESTAMPTZ NOT NULL DEFAULT NOW() );",
     "CREATE TABLE IF NOT EXISTS dossier_read_model ( id TEXT PRIMARY KEY,",
     "tenant_id TEXT NOT NULL, document JSONB NOT NULL,",
     "updated_at TIMESTAMPTZ NOT NULL DEFAULT NOW() );",
     "CREATE INDEX IF NOT EXISTS idx_dossier_read_model_tenant",
     "ON dossier_read_model (tenant_id);",
     "CREATE TABLE IF NOT EXISTS compliance_alerts ( seq BIGSERIAL, id UUID PRIMARY KEY,",
     "dossier_id TEXT NOT NULL, rule_id TEXT NOT NULL,",
     "severity TEXT NOT NULL CHECK (severity IN ('BLOCKING', 'WARNING')),",
     "context TEXT NOT NULL CHECK (context IN ('TENANT_COMPLIANCE', 'STATE_CHANGE')),",
     "rule_trigger TEXT NOT NULL, message TEXT NOT NULL,",
     "details JSONB NOT NULL DEFAULT " ++ noMembers ++ ",",
     "is_resolved BOOLEAN NOT NULL DEFAULT FALSE, resolved_by TEXT,",
     "resolved_at TIMESTAMPTZ, resolution TEXT, created_at TIMESTAMPTZ NOT NULL );",
     "CREATE INDEX IF NOT EXISTS idx_compliance_alerts_open",
     "ON compliance_alerts (dossier_id, created_at DESC, seq DESC) WHERE NOT is_resolved;",
     "CREATE TABLE IF NOT EXISTS compliance_audit_log ( seq BIGSERIAL PRIMARY KEY,",
     "id UUID NOT NULL UNIQUE, tenant_id TEXT NOT NULL, actor_id TEXT NOT NULL,",
     "actor_role TEXT, action TEXT NOT NULL, entity_type TEXT NOT NULL,",
     "entity_id TEXT NOT NULL, phase TEXT NOT NULL,",
     "is_forced BOOLEAN NOT NULL DEFAULT FALSE, previous_state TEXT NOT NULL,",
     "new_state TEXT NOT NULL, details JSONB NOT NULL DEFAULT " ++ noMembers ++ ",",
     "timestamp TIMESTAMPTZ NOT NULL, previous_hash TEXT NOT NULL,",
     "entry_hash TEXT NOT NULL UNIQUE );",
     "CREATE INDEX IF NOT EXISTS idx_compliance_audit_log_entity",
     "ON compliance_audit_log (entity_type, entity_id);"]

/-- What is sent before it is known whether the script has to be run: the lock
is taken, and the table of what was run is made and read. -/
def opening : List String :=
  ["SELECT current_database()", "SELECT pg_advisory_lock($1)",
   "CREATE TABLE IF NOT EXISTS " ++ migrationTable ++ " ( version BIGINT PRIMARY KEY, "
     ++ "description TEXT NOT NULL, installed_on TIMESTAMPTZ NOT NULL DEFAULT now(), "
     ++ "success BOOLEAN NOT NULL, checksum BYTEA NOT NULL, execution_time BIGINT NOT NULL );",
   "SELECT version FROM " ++ migrationTable
     ++ " WHERE success = false ORDER BY version LIMIT 1",
   "SELECT version, checksum FROM " ++ migrationTable ++ " ORDER BY version"]

/-- What is sent behind the script, to note that it was run. -/
def noting : List String :=
  ["INSERT INTO " ++ migrationTable ++ " ( version, description, success, checksum, "
     ++ "execution_time ) VALUES ( $1, $2, TRUE, $3, -1 )",
   Statement.commit.text,
   "UPDATE " ++ migrationTable ++ " SET execution_time = $1 WHERE version = $2"]

def closing : List String :=
  ["SELECT pg_advisory_unlock($1)"]

def applied : AppliedMigration where
  version := version
  description := description
  success := true

end Schema

namespace Database

def sendAll (db : Database) (texts : List String) : Except SetupError Unit :=
  match texts.findSome? db.complaint? with
  | some why => .error (.statement why)
  | none => .ok ()

def migrate (db : Database) : Except SetupError Database := do
  db.sendAll [Statement.openTransaction.text]
  if let some why := db.complaint? Schema.script then throw (.script Schema.version why)
  db.sendAll Schema.noting
  return { db with migrations := db.migrations ++ [Schema.applied] }

def prepare (db : Database) : Except SetupError Database := do
  db.sendAll Schema.opening
  if let some m := db.migrations.find? fun m => !m.success then throw (.unfinished m.version)
  if let some m := db.migrations.find? fun m => m.version != Schema.version then
    throw (.unknown m.version)
  let made ← if db.migrations.isEmpty then db.migrate else pure db
  made.sendAll Schema.closing
  return made

end Database

end DossierCompliance
