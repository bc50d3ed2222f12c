import DossierCompliance.File.Basic
import DossierCompliance.Rule.Loading

/-!
Rule documents in files. The ending of the name, in either case, tells the
notation of the document.
-/

namespace DossierCompliance

inductive RuleFileError where
  | notFound (path : String)
  | unsupported (path : String)
  | unreadable (why : FileFailure)
  | json (path : String) (why : Json.Mismatch)
  | yaml (path : String)
  | flaw (why : RuleFlaw)

namespace RuleFileError

/-- What a reader of the notation says of a text that it does not take. -/
def parserMessage? : RuleFileError → Option String
  | .json _ why => (LoadError.json why).parserMessage?
  | .yaml _ => LoadError.yaml.parserMessage?
  | _ => none

def message (e : RuleFileError) : String :=
  let parserText := e.parserMessage?.getD ""
  match e with
  | .notFound path => "rule document not found: " ++ path
  | .unsupported path =>
    "unsupported rule document format: " ++ path ++ " (expected .json, .yaml or .yml)"
  | .unreadable why => "I/O error reading rule document: " ++ why.message
  | .json path _ | .yaml path => "failed to parse rule document " ++ path ++ ": " ++ parserText
  | .flaw why => why.message

/-- The message, and that of what lies under it. -/
def causes (e : RuleFileError) : List String :=
  match e with
  | .unreadable why => [e.message, why.message]
  | _ => e.message :: e.parserMessage?.toList

end RuleFileError

inductive RuleNotation where
  | json
  | yaml
  deriving DecidableEq

def RuleNotation.ofPath? (path : String) : Option RuleNotation :=
  match (File.extension? path).map fun ending => String.ofList (ending.toList.map Char.toLower) with
  | some "json" => some .json
  | some "yaml" | some "yml" => some .yaml
  | _ => none

namespace RuleDocument

def ofNotation : RuleNotation → String → Except LoadError RuleDocument
  | .json => ofJsonText
  | .yaml => ofYamlText

def load (files : Files) (path : String) : Except RuleFileError RuleDocument := do
  let content := files path
  if !content.isFound then throw (.notFound path)
  let some kind := RuleNotation.ofPath? path | throw (.unsupported path)
  let text ← content.text.mapError .unreadable
  (ofNotation kind text).mapError fun
    | .json why => .json path why
    | .yaml => .yaml path
    | .flaw why => .flaw why

end RuleDocument

end DossierCompliance
