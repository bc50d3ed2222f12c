import DossierCompliance.Command.Arguments
import DossierCompliance.Dossier.Stored
import DossierCompliance.Engine.Transition
import DossierCompliance.Rule.File
import DossierCompliance.Store.Memory

/-!
Running commands. Checking a rule document tells whether it loads and which of
its conditions never match; listing shows rules one to a line; a dry run takes a
dossier through the whole change of status on a store of its own and tells what
was decided and what would have been stored. A command that cannot be carried
out tells why, from the outermost cause to the innermost.
-/

namespace DossierCompliance

structure DryRun where
  dossierId : String
  status : Status
  target : Status
  report : TransitionReport
  alerts : List Alert
  audit : List AuditEntry

inductive CommandError where
  | standardRules (why : LoadError)
  | unreadableRules (path : String) (why : RuleFileError)
  | refusedRules (path : String) (why : RuleFileError)
  | trigger (complaint : String)
  | target (complaint : String)
  | unreadableDossier (path : String) (why : FileFailure)
  | refusedDossier (path : String) (why : Json.Mismatch)
  | engine (why : EngineError)

namespace CommandError

/-- What a reader of a notation says of a text that it does not take. -/
def parserMessage? : CommandError → Option String
  | .standardRules why => why.parserMessage?
  | .unreadableRules _ why | .refusedRules _ why => why.parserMessage?
  | .refusedDossier _ why => some why.message
  | _ => none

/-- What went wrong, the outermost cause first. -/
def causes : CommandError → List String
  | .standardRules why => "bundled standard rules failed to load" :: why.causes
  | .unreadableRules path why => ("cannot read " ++ path) :: why.causes
  | .refusedRules path why => ("failed to load rule document " ++ path) :: why.causes
  | .trigger complaint => ["invalid --trigger", complaint]
  | .target complaint => ["invalid --target", complaint]
  | .unreadableDossier path why => ["cannot read dossier " ++ path, why.message]
  | .refusedDossier path why => [path ++ " is not a valid dossier read model", why.message]
  | .engine why => [why.message]

end CommandError

/-- How a command ends: with lines, with a report, or not carried out. -/
inductive Outcome where
  | printed (exit : Nat) (lines : List String)
  | reported (exit : Nat) (report : Json)
  | failed (why : CommandError)

/-- Zero for success, one for a refusal, two for a command that was not carried out. -/
def Outcome.exitCode : Outcome → Nat
  | .printed exit _ => exit
  | .reported exit _ => exit
  | .failed _ => 2

namespace Command

/-! ### Rules -/

def inertLine (entry : Rule × Comparison) : String :=
  let (rule, test) := entry
  "  WARN: rule " ++ rule.id ++ ": " ++ test.field ++ " " ++ Named.name test.operator
    ++ " compared with a " ++ (test.operand.getD .null).kind ++ " never matches"

def loadedLines (path : String) (d : RuleDocument) : List String :=
  ("OK: " ++ path ++ " (" ++ toString d.size ++ " rule(s), version "
    ++ d.version.getD "unversioned" ++ ")") :: d.inert.map inertLine

def check (files : Files) (path : String) : Outcome :=
  match RuleDocument.load files path with
  | .ok d => .printed 0 (loadedLines path d)
  | .error (.notFound p) => .failed (.unreadableRules path (.notFound p))
  | .error (.unreadable why) => .failed (.unreadableRules path (.unreadable why))
  | .error why => .printed 1 ["FAIL: " ++ path, "  " ++ why.message]

def loadRules (files : Files) : Option String → Except CommandError RuleDocument
  | none => RuleDocument.loadStandard.mapError .standardRules
  | some path => (RuleDocument.load files path).mapError (.refusedRules path)

/-- A text with blanks behind it up to a number of characters. -/
def filled (width : Nat) (text : String) : String :=
  String.ofList (text.toList ++ List.replicate (width - text.length) ' ')

def ruleLine (r : Rule) : String :=
  filled 40 r.id ++ " " ++ filled 14 r.trigger.text ++ " " ++ filled 8 (Named.name r.severity)
    ++ " " ++ r.message

/-- The rules of a document, or those with the trigger that a text names. -/
def selectRules (d : RuleDocument) : Option String → Except CommandError (List Rule)
  | none => .ok d.rules
  | some text => do
    let trigger ← (Trigger.parse (Text.trim text)).mapError .trigger
    return d.rules.filter fun r => r.trigger.target == trigger.target

def list (files : Files) (rules trigger : Option String) : Except CommandError Outcome := do
  let d ← loadRules files rules
  let selected ← selectRules d trigger
  return .printed 0 (selected.map ruleLine ++ ["", toString selected.length ++ " rule(s)"])

/-! ### Dry run -/

/-- Takes a dossier through the change to a status, on a store that holds nothing else. -/
def simulate (rules : RuleDocument) (supply : Supply) (d : Dossier) (target : Status)
    (actor : Option Actor) : Except CommandError DryRun :=
  let engine : Engine := { rules := rules, recordsWarnings := false }
  let store := MemoryStore.empty.upsertDossier d
  match (engine.validate d.id target actor).run MemoryStore.handle supply store with
  | (.error why, _) => .error (.engine why)
  | (.ok report, store) =>
    .ok
      { dossierId := d.id
        status := d.status
        target := target
        report := report
        alerts := store.alerts
        audit := store.audit }

def dryRunJson (r : DryRun) : Json :=
  .ofMembers
    [("dossier_id", .string r.dossierId), ("from", Named.toJson r.status),
     ("target", Named.toJson r.target), ("report", r.report.toJson),
     ("alerts", .ofList Alert.toJson r.alerts), ("audit", .ofList AuditEntry.toJson r.audit)]

def alertLine (a : Alert) : String :=
  "  alert " ++ a.id.text ++ " [" ++ Named.name a.context ++ " " ++ Named.name a.severity ++ "] "
    ++ a.ruleId

def shownHashLength : Nat := 12

def auditLine (e : AuditEntry) : String :=
  "  audit " ++ e.id.text ++ " " ++ Named.name e.action ++ " by " ++ e.actorId ++ " ("
    ++ String.ofList (e.entryHash.toList.take shownHashLength) ++ ")"

def dryRunLines (r : DryRun) : List String :=
  let verdict := r.report.verdict
  [(if verdict.isSuccess then "ALLOWED: " else "BLOCKED: ") ++ r.dossierId ++ " " ++ r.status.name
      ++ " -> " ++ r.target.name]
    ++ verdict.errors.map (fun m => "  ERROR: " ++ m)
    ++ verdict.warnings.map (fun m => "  WARN:  " ++ m)
    ++ r.alerts.map alertLine ++ r.audit.map auditLine

def readDossier (files : Files) (path : String) : Except CommandError Dossier := do
  let text ← (files path).text.mapError (.unreadableDossier path)
  (Json.decodeText Dossier.decode text).mapError (.refusedDossier path)

def performDryRun (files : Files) (supply : Supply) (a : DryRunArguments) :
    Except CommandError Outcome := do
  let target ← (Status.parse (Text.trim a.target)).mapError .target
  let d ← readDossier files a.dossier
  let rules ← loadRules files a.rules
  let r ← simulate rules supply d target (a.actor.map fun id => ⟨id, a.role⟩)
  let exit := if r.report.verdict.isSuccess then 0 else 1
  return if a.json then .reported exit (dryRunJson r) else .printed exit (dryRunLines r)

def run (files : Files) (supply : Supply) : Command → Outcome
  | .checkRules path => check files path
  | .listRules rules trigger => concluded (list files rules trigger)
  | .dryRun a => concluded (performDryRun files supply a)
where
  concluded : Except CommandError Outcome → Outcome
    | .ok outcome => outcome
    | .error why => .failed why

end Command

end DossierCompliance
