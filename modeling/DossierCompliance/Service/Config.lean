import DossierCompliance.Decimal.Unsigned
import DossierCompliance.Text.Blank
import DossierCompliance.Text.Quoted

/-!
Configuration of the service, from named variables. A variable that is blank
counts as unset, and an unset one has its default; the first variable that
cannot be read is the error.
-/

namespace DossierCompliance

structure ServiceConfig where
  port : Nat
  /-- The rule document to load; the standard one if there is none. -/
  rulesPath : Option String
  /-- The database to connect to; records are kept in memory if there is none. -/
  databaseUrl : Option String
  recordsWarnings : Bool
  logsJson : Bool

inductive ConfigError where
  | port (text : String)
  | flag (name text : String)

def ConfigError.message : ConfigError → String
  | .port text =>
    "invalid PORT " ++ Text.quoted text ++ ": expected an integer between 0 and 65535"
  | .flag name text =>
    "invalid boolean " ++ Text.quoted text ++ " for " ++ name
      ++ ": expected true/false, 1/0 or yes/no"

namespace ServiceConfig

def defaultPort : Nat := 8080

/-- The value of a variable that is set and not blank. -/
def setting? (lookup : String → Option String) (name : String) : Option String :=
  (lookup name).filter fun text => !Text.isBlank text

def readPort (lookup : String → Option String) : Except ConfigError Nat :=
  match setting? lookup "PORT" with
  | none => .ok defaultPort
  | some text =>
    match Decimal.wholeBelow? 65536 (Text.trim text) with
    | some port => .ok port
    | none => .error (.port text)

def switch? (text : String) : Option Bool :=
  let lower := String.ofList ((Text.trim text).toList.map Char.toLower)
  if ["true", "1", "yes"].contains lower then some true
  else if ["false", "0", "no"].contains lower then some false
  else none

def readFlag (lookup : String → Option String) (name : String) : Except ConfigError Bool :=
  match setting? lookup name with
  | none => .ok false
  | some text =>
    match switch? text with
    | some b => .ok b
    | none => .error (.flag name text)

def read (lookup : String → Option String) : Except ConfigError ServiceConfig := do
  let port ← readPort lookup
  let recordsWarnings ← readFlag lookup "TCE_RECORD_WARNING_ALERTS"
  let logsJson ← readFlag lookup "TCE_LOG_JSON"
  return {
    port
    rulesPath := setting? lookup "TCE_RULES_PATH"
    databaseUrl := setting? lookup "DATABASE_URL"
    recordsWarnings
    logsJson }

def shownFlag (b : Bool) : String :=
  if b then "true" else "false"

def shownOption : Option String → String
  | none => "None"
  | some shown => "Some(" ++ shown ++ ")"

/-- How a configuration shows itself. The address of the database may hold
credentials, so only its presence is shown. -/
def summary (c : ServiceConfig) : String :=
  "ApiConfig \x7b port: " ++ toString c.port
    ++ ", rules_path: " ++ shownOption (c.rulesPath.map Text.quotedPath)
    ++ ", database_url: " ++ shownOption (c.databaseUrl.map fun _ => Text.quoted "[REDACTED]")
    ++ ", record_warning_alerts: " ++ shownFlag c.recordsWarnings
    ++ ", log_json: " ++ shownFlag c.logsJson ++ " \x7d"

end ServiceConfig

end DossierCompliance
