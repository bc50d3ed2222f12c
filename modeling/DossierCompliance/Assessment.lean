import DossierCompliance.Regulation
import DossierCompliance.Dossier.Snapshot
import DossierCompliance.Rule.Document
import DossierCompliance.Rule.Evaluation

/-!
Assessing a change of status: the regulatory checks in their order, then the
rules bound to the target status in document order. Assessing changes nothing;
what is found decides the verdict before anything is stored.
-/

namespace DossierCompliance

/-- What callers are told: a change is allowed when there is no error. -/
structure Verdict where
  errors : List String
  warnings : List String
  deriving DecidableEq

namespace Verdict

def isSuccess (v : Verdict) : Bool :=
  v.errors.isEmpty

def isClean (v : Verdict) : Bool :=
  v.errors.isEmpty && v.warnings.isEmpty

def toJson (v : Verdict) : Json :=
  .ofMembers
    [("success", .bool v.isSuccess), ("errors", .texts v.errors), ("warnings", .texts v.warnings)]

end Verdict

inductive Finding where
  | violation (v : Violation)
  /-- The condition of a rule could not be evaluated. -/
  | failed (ruleId : String) (why : MalformedPath)

namespace Finding

def ruleId : Finding → String
  | .violation v => v.ruleId
  | .failed ruleId _ => ruleId

def isBlocking : Finding → Bool
  | .violation v => v.isBlocking
  | .failed _ _ => false

def message : Finding → String
  | .violation v => v.message
  | .failed ruleId why => "Rule " ++ ruleId ++ " could not be evaluated: " ++ why.message

def violation? : Finding → Option Violation
  | .violation v => some v
  | .failed _ _ => none

end Finding

structure Assessment where
  target : Status
  findings : List Finding

namespace Assessment

/-- Blocking findings are errors, all others warnings. -/
def verdict (a : Assessment) : Verdict where
  errors := (a.findings.filter (·.isBlocking)).map (·.message)
  warnings := (a.findings.filter (!·.isBlocking)).map (·.message)

def violations (a : Assessment) : List Violation :=
  a.findings.filterMap (·.violation?)

end Assessment

def Rule.violation (r : Rule) (snapshot : Value) : Violation where
  ruleId := r.id
  severity := r.severity
  context := .stateChange
  message := r.message
  details := .ofMembers
    [("description", .string r.description),
     ("conditions", .ofList Explanation.toJson (r.condition.explain snapshot))]

def Rule.finding? (r : Rule) (snapshot : Value) : Option Finding :=
  match r.condition.evaluate snapshot with
  | .ok true => some (.violation (r.violation snapshot))
  | .ok false => none
  | .error why => some (.failed r.id why)

def Regulation.findings (input : CheckInput) : List Finding :=
  Regulation.checks.filterMap fun c => (c.violation? input).map .violation

def RuleDocument.findings (rules : RuleDocument) (target : Status) (snapshot : Value) :
    List Finding :=
  (rules.rulesFor target).filterMap fun r => r.finding? snapshot

/-- Assesses the change of a dossier to a status on a day. -/
def assess (rules : RuleDocument) (input : CheckInput) : Assessment where
  target := input.target
  findings := Regulation.findings input ++ rules.findings input.target input.dossier.snapshot

end DossierCompliance
