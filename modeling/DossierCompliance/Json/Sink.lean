import DossierCompliance.Json.Printer

/-!
What values are written into. A sink says what becomes of a value of each kind
once its items or members are written, so one description of how a value is
written serves for a tree as well as for the characters of a text.
-/

namespace DossierCompliance.Json

structure Sink (σ : Type) where
  null : σ
  bool : Bool → σ
  whole : Int → σ
  real : Float → σ
  string : String → σ
  array : List σ → σ
  object : Members σ → σ

namespace Sink

/-- Builds the value that is written, in normal form. -/
def tree : Sink Json where
  null := .null
  bool := .bool
  whole := .ofInt
  real := .ofReal
  string := .string
  array := .array
  object := .ofMembers

/-- Parts of a container between its brackets, with commas between them. -/
def bracketed (opening closing : Char) (parts : List (List Char)) : List Char :=
  opening :: [','].intercalate parts ++ [closing]

def nullWord : List Char := ['n', 'u', 'l', 'l']

def boolWord : Bool → List Char
  | true => ['t', 'r', 'u', 'e']
  | false => ['f', 'a', 'l', 's', 'e']

/-- Writes the characters on one line, without building the value before. -/
def text : Sink (List Char) where
  null := nullWord
  bool := boolWord
  whole n := (toString n).toList
  real x := if x.isFinite then (realLayout.render x).toList else nullWord
  string := stringChars
  array := bracketed '[' ']'
  object members :=
    bracketed openBrace closeBrace (members.map fun m => stringChars m.1 ++ ':' :: m.2)

end Sink

end DossierCompliance.Json
