import DossierCompliance.Rule.Condition
import DossierCompliance.Dossier.Status

/-!
Rules and rule documents. A rule is bound to the change to one status and is
violated when its condition holds. A document is a list of rules whose order
is kept by everything that selects from it.
-/

namespace DossierCompliance

structure Rule where
  id : String
  description : String
  trigger : Trigger
  severity : Severity
  message : String
  condition : Condition

structure RuleDocument where
  version : Option String
  rules : List Rule

namespace Rule

def names : List String :=
  ["id", "description", "trigger", "severity", "message", "logic"]

def decode : Json.Decoder Rule :=
  Json.Decoder.record names true fun fs =>
    Rule.mk <$> fs.required "id" Json.Decoder.text
      <*> fs.required "description" Json.Decoder.text
      <*> fs.required "trigger" Trigger.decode
      <*> fs.required "severity" Named.decode
      <*> fs.required "message" Json.Decoder.text
      <*> fs.required "logic" Condition.decode

def written (r : Rule) : Json :=
  .object
    [("id", .string r.id), ("description", .string r.description), ("trigger", r.trigger.toJson),
     ("severity", Named.toJson r.severity), ("message", .string r.message),
     ("logic", r.condition.written)]

def toJson (r : Rule) : Json :=
  r.written.sorted

end Rule

namespace RuleDocument

def names : List String :=
  ["version", "rules"]

/-- The shape of a document, before its rules are checked. -/
def decode : Json.Decoder RuleDocument :=
  Json.Decoder.record names true fun fs =>
    RuleDocument.mk <$> fs.optional "version" Json.Decoder.text
      <*> fs.required "rules" (Json.Decoder.list Rule.decode)

/-- The document as it is written, without a version if it has none. -/
def written (d : RuleDocument) : Json :=
  .object
    ((d.version.map fun v => ("version", Json.string v)).toList
      ++ [("rules", Json.ofList Rule.written d.rules)])

def toJson (d : RuleDocument) : Json :=
  d.written.sorted

def size (d : RuleDocument) : Nat :=
  d.rules.length

def rulesFor (d : RuleDocument) (status : Status) : List Rule :=
  d.rules.filter fun r => r.trigger.fires status

def get? (d : RuleDocument) (id : String) : Option Rule :=
  d.rules.find? fun r => r.id == id

/-- The comparisons that can never match, each with its rule, in document order. -/
def inert (d : RuleDocument) : List (Rule × Comparison) :=
  d.rules.flatMap fun r => r.condition.inert.map fun c => (r, c)

end RuleDocument

end DossierCompliance
