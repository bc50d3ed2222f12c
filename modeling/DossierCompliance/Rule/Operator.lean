import DossierCompliance.Text.Occurrence
import DossierCompliance.Value

/-!
Severities, and the closed set of comparisons between a field and an operand.
A comparison between kinds it is not made for does not match; it is no error.
-/

namespace DossierCompliance

/-- Whether a violated rule blocks or only warns. -/
inductive Severity where
  | blocking
  | warning
  deriving DecidableEq

instance : Named Severity where
  all := [.blocking, .warning]
  identifier
    | .blocking => "Blocking"
    | .warning => "Warning"
  name
    | .blocking => "BLOCKING"
    | .warning => "WARNING"

inductive Operator where
  | equals
  | notEquals
  | less
  | greater
  | atLeast
  | atMost
  | isTrue
  | isFalse
  | contains
  | notContains
  deriving DecidableEq

instance : Named Operator where
  all := [.equals, .notEquals, .less, .greater, .atLeast, .atMost, .isTrue, .isFalse,
    .contains, .notContains]
  identifier
    | .equals => "Equals"
    | .notEquals => "NotEquals"
    | .less => "Lt"
    | .greater => "Gt"
    | .atLeast => "Gte"
    | .atMost => "Lte"
    | .isTrue => "IsTrue"
    | .isFalse => "IsFalse"
    | .contains => "Contains"
    | .notContains => "NotContains"
  name
    | .equals => "EQUALS"
    | .notEquals => "NOT_EQUALS"
    | .less => "LT"
    | .greater => "GT"
    | .atLeast => "GTE"
    | .atMost => "LTE"
    | .isTrue => "IS_TRUE"
    | .isFalse => "IS_FALSE"
    | .contains => "CONTAINS"
    | .notContains => "NOT_CONTAINS"

namespace Operator

def isNumeric : Operator → Bool
  | .less | .greater | .atLeast | .atMost => true
  | _ => false

def isTextual : Operator → Bool
  | .contains | .notContains => true
  | _ => false

def compareNumbers (holds : Float → Float → Bool) (actual operand : Value) : Bool :=
  match actual.number?, operand.number? with
  | some a, some b => holds a b
  | _, _ => false

/-- Whether one text contains another, if both are texts. -/
def textContains? (actual operand : Value) : Option Bool :=
  match actual.text?, operand.text? with
  | some a, some b => some (Text.occursIn b a)
  | _, _ => none

def matchesValue (op : Operator) (actual operand : Value) : Bool :=
  match op with
  | .equals => actual == operand
  | .notEquals => !(actual == operand)
  | .less => compareNumbers (fun a b => decide (a < b)) actual operand
  | .greater => compareNumbers (fun a b => decide (b < a)) actual operand
  | .atLeast => compareNumbers (fun a b => decide (b ≤ a)) actual operand
  | .atMost => compareNumbers (fun a b => decide (a ≤ b)) actual operand
  | .isTrue => actual.bool? == some true
  | .isFalse => actual.bool? == some false
  | .contains => textContains? actual operand == some true
  | .notContains => textContains? actual operand == some false

end Operator

end DossierCompliance
