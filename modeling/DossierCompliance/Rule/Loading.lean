import DossierCompliance.Rule.Standard
import DossierCompliance.Yaml.Document

/-!
Loading a rule document. Either the whole document is accepted or none of it:
first its shape is read, then its rules are checked in order. A rule needs an
id, a message and field paths that are not blank, and an id of its own.
-/

namespace DossierCompliance

/-- A part of a rule that may not be blank. -/
inductive RequiredText where
  | id
  | message
  | field
  deriving DecidableEq

def RequiredText.name : RequiredText → String
  | .id => "id"
  | .message => "message"
  | .field => "logic.field"

/-- What is wrong with a document of the right shape. -/
inductive RuleFlaw where
  | blank (rule : String) (part : RequiredText)
  | duplicateId (rule : String)
  deriving DecidableEq

def RuleFlaw.message : RuleFlaw → String
  | .blank rule part => "rule " ++ Text.quoted rule ++ ": " ++ part.name ++ " must not be empty"
  | .duplicateId rule => "duplicate rule id: " ++ rule

namespace Rule

/-- The first part of a rule that is blank, if one is. -/
def blankPart? (r : Rule) : Option RequiredText :=
  if Text.isBlank r.id then some .id
  else if Text.isBlank r.message then some .message
  else if r.condition.fields.any Text.isBlank then some .field
  else none

/-- Checks rules in order; `seen` holds the ids of those before. -/
def firstFlaw? (seen : List String) : List Rule → Option RuleFlaw
  | [] => none
  | r :: rest =>
    match r.blankPart? with
    | some part => some (.blank r.id part)
    | none =>
      if seen.contains r.id then some (.duplicateId r.id)
      else firstFlaw? (r.id :: seen) rest

end Rule

inductive LoadError where
  | json (why : Json.Mismatch)
  | yaml
  | flaw (why : RuleFlaw)

namespace LoadError

/-- What a reader of a notation says of a text that it does not take. -/
def parserMessage? : LoadError → Option String
  | .json why => some why.message
  | .yaml => some "the text is not YAML of the expected form"
  | .flaw _ => none

/-- The message, and that of what lies under it. -/
def causes : LoadError → List String
  | .flaw why => [why.message]
  | why =>
    let parserText := why.parserMessage?.getD ""
    ["malformed rule document: " ++ parserText, parserText]

end LoadError

namespace RuleDocument

/-- A document whose rules pass their checks. -/
def checked (d : RuleDocument) : Except LoadError RuleDocument :=
  match Rule.firstFlaw? [] d.rules with
  | some why => .error (.flaw why)
  | none => .ok d

def ofJson (j : Json) : Except LoadError RuleDocument := do
  let d ← (Json.decodeValue decode j).mapError .json
  d.checked

def ofJsonText (text : String) : Except LoadError RuleDocument := do
  let d ← (Json.decodeText decode text).mapError .json
  d.checked

def ofYamlText (text : String) : Except LoadError RuleDocument :=
  match (Yaml.read? text).bind fun r => (decode r).toOption with
  | some d => d.checked
  | none => .error .yaml

def loadStandard : Except LoadError RuleDocument :=
  ofJsonText standardText

end RuleDocument

end DossierCompliance
