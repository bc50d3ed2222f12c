import DossierCompliance.Json.Reading
import DossierCompliance.Yaml.Node

/-!
What a YAML scalar spells. A plain scalar is null, a boolean, a whole number
or a number with a fraction when it is written like one, and a text otherwise.
A run of digits that begins with zero is a text. A whole number beyond 64 bits
has no value; one beyond 128 bits is read as a number with a fraction.
-/

namespace DossierCompliance.Yaml

open Json (Reading)

def spellsNull (text : String) : Bool :=
  text == "null" || text == "Null" || text == "NULL" || text == "~"

def boolean? (text : String) : Option Bool :=
  if text == "true" || text == "True" || text == "TRUE" then some true
  else if text == "false" || text == "False" || text == "FALSE" then some false
  else none

/-- Whether all of a text is digits behind a zero that stands first. -/
def paddedDigits (cs : List Char) : Bool :=
  match (Decimal.splitSign cs).2 with
  | '0' :: rest => !rest.isEmpty && rest.all Char.isDigit
  | _ => false

def digitIn? (base : Nat) (c : Char) : Option Nat :=
  let value := if c.isDigit then some (c.toNat - 48)
    else if 'a' ≤ c && c ≤ 'z' then some (c.toNat - 87)
    else if 'A' ≤ c && c ≤ 'Z' then some (c.toNat - 55)
    else none
  value.filter (· < base)

/-- The number that one or more digits write in a base. -/
def natural? (base : Nat) (cs : List Char) : Option Nat :=
  if cs.isEmpty then none
  else cs.foldlM (fun n c => return base * n + (← digitIn? base c)) 0

/-- The base that the first characters of a numeral announce. -/
def base? : List Char → Option (Nat × List Char)
  | '0' :: 'x' :: rest => some (16, rest)
  | '0' :: 'o' :: rest => some (8, rest)
  | '0' :: 'b' :: rest => some (2, rest)
  | _ => none

/-- The size of a whole number behind its sign. -/
def size? (cs : List Char) : Option Nat :=
  match base? cs with
  | some (base, digits) => natural? base digits
  | none => natural? 10 cs

/-- The whole number a scalar writes, of any size. -/
def whole? (cs : List Char) : Option Int :=
  if paddedDigits cs then none
  else match cs with
    | '-' :: rest => (size? rest).map fun n => -(n : Int)
    | '+' :: rest => (size? rest).map Int.ofNat
    | rest => (size? rest).map Int.ofNat

/-- The reading of a whole number; nothing for one that is too large for 128 bits. -/
def wholeReading? (n : Int) : Option Reading :=
  if -(Nat.pow 2 63 : Int) ≤ n && n < Nat.pow 2 64 then some (.number (.whole n))
  else if -(Nat.pow 2 127 : Int) ≤ n && n < Nat.pow 2 128 then some (.broken .malformed)
  else none

/-- The number with a fraction that a scalar writes. Infinity and the number
that is none have names with a point. -/
def real? (text : String) : Option Float :=
  match text with
  | ".inf" | ".Inf" | ".INF" | "+.inf" | "+.Inf" | "+.INF" => some Decimal.infinity
  | "-.inf" | "-.Inf" | "-.INF" => some (-Decimal.infinity)
  | ".nan" | ".NaN" | ".NAN" => some Decimal.notANumber
  | _ => (Decimal.literal? text).filter Float.isFinite

def realReading? (text : String) : Option Reading :=
  (real? text).map fun x => .number (.real x)

/-- What a plain scalar without a tag spells. -/
def spelled (text : String) : Reading :=
  if text.isEmpty || spellsNull text then .null
  else match boolean? text with
    | some b => .bool b
    | none =>
      match (whole? text.toList).bind wholeReading? with
      | some r => r
      | none =>
        if paddedDigits text.toList then .string text
        else (realReading? text).getD (.string text)

def standardTag (name : String) : TagBytes :=
  standardLead ++ asciiBytes name.toList

/-- Whether a tag belongs to the application of the document. -/
def isOwn (tag : TagBytes) : Bool :=
  tag.head? == some 0x21

/-- What a scalar with a tag spells: a text, but for four standard tags, and
for plain scalars under a tag of the application. -/
def spelledAs (tag : TagBytes) (text : String) (isPlain : Bool) : Reading :=
  if tag == standardTag "bool" then
    ((boolean? text).map Reading.bool).getD (.broken .malformed)
  else if tag == standardTag "int" then
    ((whole? text.toList).bind wholeReading?).getD (.broken .malformed)
  else if tag == standardTag "float" then (realReading? text).getD (.broken .malformed)
  else if tag == standardTag "null" then
    if spellsNull text then .null else .flawed .malformed .null
  else if isOwn tag && isPlain then .scalar text false (spelled text)
  else .string text

end DossierCompliance.Yaml
