import DossierCompliance.Text.Quoted
import DossierCompliance.Json.Shape

/-!
Universally unique identifiers: 32 hexadecimal digits, written in five groups
with hyphens between them. They are read in that form, without the hyphens,
between braces or behind `urn:uuid:`, with digits of either case.
-/

namespace DossierCompliance

def isLowerHex (c : Char) : Bool :=
  c.isDigit || ('a' ≤ c && c ≤ 'f')

structure Uuid where
  digits : List Char
  valid : (digits.length == 32 && digits.all isLowerHex) = true
  deriving DecidableEq

namespace Uuid

def ofDigits? (digits : List Char) : Option Uuid :=
  if h : (digits.length == 32 && digits.all isLowerHex) = true then some ⟨digits, h⟩ else none

def grouped (digits : List Char) : List Char :=
  digits.take 8 ++ '-' :: ((digits.drop 8).take 4 ++ '-' :: ((digits.drop 12).take 4
    ++ '-' :: ((digits.drop 16).take 4 ++ '-' :: digits.drop 20)))

def text (u : Uuid) : String :=
  String.ofList (grouped u.digits)

def toJson (u : Uuid) : Json :=
  .string u.text

/-- The characters of a grouped identifier without its hyphens. -/
def ungrouped? (cs : List Char) : Option (List Char) :=
  let digits := cs.filter (· != '-')
  if cs.length == 36 && grouped digits == cs then some digits else none

def urn : List Char :=
  ['u', 'r', 'n', ':', 'u', 'u', 'i', 'd', ':']

def ofChars? (cs : List Char) : Option Uuid :=
  let lower := cs.map Char.toLower
  if cs.length == 32 then ofDigits? lower
  else if cs.length == 36 then (ungrouped? lower).bind ofDigits?
  else if cs.length == 38 && cs.head? == some (Char.ofNat 0x7B)
      && cs.getLast? == some (Char.ofNat 0x7D) then
    (ungrouped? (lower.drop 1).dropLast).bind ofDigits?
  else if cs.length == 45 && urn.isPrefixOf cs then (ungrouped? (lower.drop 9)).bind ofDigits?
  else none

def ofText? (text : String) : Option Uuid :=
  ofChars? text.toList

def decode : Json.Decoder Uuid :=
  Json.Decoder.parsed ofText?

/-- The last hexadecimal digits of a number, as many as are asked for. -/
def lastDigits : Nat → Nat → List Char
  | 0, _ => []
  | count + 1, n => lastDigits count (n / 16) ++ [Text.lowerHexDigit (n % 16)]

/-- The identifier with the last digits of a number. -/
def ofNat? (n : Nat) : Option Uuid :=
  ofDigits? (lastDigits 32 n)

end Uuid

end DossierCompliance
