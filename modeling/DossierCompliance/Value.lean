import DossierCompliance.Named
import DossierCompliance.Json.Sink
import DossierCompliance.Decimal.Integral

/-!
Snapshot values: what the conditions of a rule see of a dossier, and what they
compare it with. All numbers are binary64. A value is read as the first of its
kinds that can be taken from what is read, and it is written in one walk, as a
JSON value or as the text of one. Whole numbers up to `2 ^ 53` are written
without a fraction, and numbers that are not finite as null.
-/

namespace DossierCompliance

inductive Value where
  | null
  | bool (value : Bool)
  | number (value : Float)
  | text (value : String)
  | list (items : List Value)
  | map (entries : List (String × Value))

namespace Value

def ofEntries (entries : List (String × Value)) : Value :=
  .map (Members.sorted entries)

def ofOption {α : Type} (f : α → Value) : Option α → Value
  | none => .null
  | some a => f a

def ofText? : Option String → Value :=
  ofOption .text

def ofInt (n : Int) : Value :=
  .number (Float.ofInt n)

def kind : Value → String
  | .null => "null"
  | .bool _ => "bool"
  | .number _ => "number"
  | .text _ => "string"
  | .list _ => "list"
  | .map _ => "map"

def isNull : Value → Bool
  | .null => true
  | _ => false

def number? : Value → Option Float
  | .number x => some x
  | _ => none

def text? : Value → Option String
  | .text s => some s
  | _ => none

def bool? : Value → Option Bool
  | .bool b => some b
  | _ => none

mutual

/-- Equality by content. Numbers compare as binary64, so no value that holds
the number that is none equals itself. -/
def beq : Value → Value → Bool
  | .null, .null => true
  | .bool a, .bool b => a == b
  | .number x, .number y => x == y
  | .text s, .text t => s == t
  | .list xs, .list ys => beqItems xs ys
  | .map xs, .map ys => beqEntries xs ys
  | _, _ => false

def beqItems : List Value → List Value → Bool
  | [], [] => true
  | x :: xs, y :: ys => beq x y && beqItems xs ys
  | _, _ => false

def beqEntries : List (String × Value) → List (String × Value) → Bool
  | [], [] => true
  | (k, x) :: xs, (l, y) :: ys => k == l && beq x y && beqEntries xs ys
  | _, _ => false

end

instance : BEq Value := ⟨beq⟩

/-- The value under a key of a map, null for any other value or key. -/
def get (v : Value) (key : String) : Value :=
  match v with
  | .map entries => (Members.get? entries key).getD .null
  | _ => .null

/-- The largest magnitude up to which every whole number is a binary64 number. -/
def largestExact : Nat := Nat.pow 2 53

def numberJson (x : Float) : Json :=
  match Decimal.whole? x with
  | some n => if n.natAbs ≤ largestExact then .number (.whole n) else .number (.real x)
  | none => Json.ofReal x

mutual

def toJson : Value → Json
  | .null => .null
  | .bool b => .bool b
  | .number x => numberJson x
  | .text s => .string s
  | .list items => .array (itemsJson items)
  | .map entries => .object (entriesJson entries)

def itemsJson : List Value → List Json
  | [] => []
  | item :: rest => item.toJson :: itemsJson rest

def entriesJson : List (String × Value) → List (String × Json)
  | [] => []
  | (key, value) :: rest => (key, value.toJson) :: entriesJson rest

end

mutual

/-- The snapshot value of a JSON value; its maps have ascending keys. -/
def ofJson : Json → Value
  | .null => .null
  | .bool b => .bool b
  | .number n => .number n.toFloat
  | .string s => .text s
  | .array items => .list (ofItems items)
  | .object members => .map (Members.sorted (ofMembers members))

def ofItems : List Json → List Value
  | [] => []
  | item :: rest => ofJson item :: ofItems rest

def ofMembers : List (String × Json) → List (String × Value)
  | [] => []
  | (key, value) :: rest => (key, ofJson value) :: ofMembers rest

end

/-! ### Reading

A value is read without a mark of its kind. The kinds are tried in one order, each
on the whole value, and the first that takes it counts.
-/

def null? : Json → Option Value
  | .null => some .null
  | _ => none

def boolOf? : Json → Option Value
  | .bool b => some (.bool b)
  | _ => none

def numberOf? : Json → Option Value
  | .number n => some (.number n.toFloat)
  | _ => none

def textOf? : Json → Option Value
  | .string s => some (.text s)
  | _ => none

/-- The first kind that takes a value, given what it is as a list and as a map. -/
def firstKind? (j : Json) (asList asMap : Option Value) : Option Value :=
  null? j <|> boolOf? j <|> numberOf? j <|> textOf? j <|> asList <|> asMap

mutual

def listOf? : Json → Option Value
  | .array items => (itemsOf? items).map .list
  | _ => none

def mapOf? : Json → Option Value
  | .object members => (entriesOf? members).map ofEntries
  | _ => none

def itemsOf? : List Json → Option (List Value)
  | [] => some []
  | item :: rest => do
    let value ← firstKind? item (listOf? item) (mapOf? item)
    return value :: (← itemsOf? rest)

def entriesOf? : List (String × Json) → Option (List (String × Value))
  | [] => some []
  | (key, item) :: rest => do
    let value ← firstKind? item (listOf? item) (mapOf? item)
    return (key, value) :: (← entriesOf? rest)

end

def ofAnyKind? (j : Json) : Option Value :=
  firstKind? j (listOf? j) (mapOf? j)

def decode : Json.Decoder Value := fun r => do
  match ofAnyKind? (← Json.Decoder.value r) with
  | some v => return v
  | none => throw .wrongKind

/-! ### Writing -/

/-- The whole number that a number is written as, if it is one that is exact. -/
def exactWhole? (x : Float) : Option Int :=
  (Decimal.whole? x).filter fun n => n.natAbs ≤ largestExact

section

variable {σ : Type} (sink : Json.Sink σ)

def writeNumber (x : Float) : σ :=
  match exactWhole? x with
  | some n => sink.whole n
  | none => if x.isFinite then sink.real x else sink.null

mutual

def writeTo : Value → σ
  | .null => sink.null
  | .bool b => sink.bool b
  | .number x => writeNumber sink x
  | .text s => sink.string s
  | .list items => sink.array (writeItems items)
  | .map entries => sink.object (writeEntries entries)

def writeItems : List Value → List σ
  | [] => []
  | item :: rest => writeTo item :: writeItems rest

def writeEntries : List (String × Value) → List (String × σ)
  | [] => []
  | (key, value) :: rest => (key, writeTo value) :: writeEntries rest

end

end

def render (v : Value) : String :=
  String.ofList (v.writeTo .text)

end Value

end DossierCompliance
