import DossierCompliance.Text.Blank
import DossierCompliance.Json.Shape

/-!
The identifiers that regulation attaches to organizations and sites: the
activity declaration number (NDA, eleven digits), the site registration code
(UAI, seven digits and a letter) and the establishment number (SIRET, fourteen
digits). Blanks inside the two numbers are dropped; the code takes none.
-/

namespace DossierCompliance

/-- Whether a text takes `count` bytes and is made of ASCII digits alone. -/
def isDigits (count : Nat) (s : String) : Bool :=
  s.utf8ByteSize == count && s.toList.all Char.isDigit

/-- Whether a text is seven ASCII digits and an ASCII capital. -/
def isSiteCode (s : String) : Bool :=
  s.toList.length == 8 && (s.toList.take 7).all Char.isDigit && (s.toList.drop 7).all Char.isUpper

/-- Why a text is no identifier, with that text as it was given. -/
inductive InvalidIdentifier where
  | nda (text : String)
  | uai (text : String)
  | siret (text : String)
  deriving DecidableEq

def InvalidIdentifier.message : InvalidIdentifier → String
  | .nda text => "invalid NDA number: \"" ++ text ++ "\" (expected 11 digits)"
  | .uai text =>
    "invalid UAI code: \"" ++ text ++
      "\" (expected 7 digits followed by an uppercase letter, e.g. 0751234A)"
  | .siret text => "invalid SIRET: \"" ++ text ++ "\" (expected 14 digits)"

/-- An activity declaration number. -/
structure Nda where
  text : String
  deriving DecidableEq

/-- A site registration code. -/
structure Uai where
  text : String
  deriving DecidableEq

/-- An establishment number. -/
structure Siret where
  text : String
  deriving DecidableEq

namespace Nda

def ofText (raw : String) : Except InvalidIdentifier Nda :=
  let digits := Text.compact raw
  if isDigits 11 digits then .ok ⟨digits⟩ else .error (.nda raw)

/-- A stored number is taken as it stands. -/
def decode : Json.Decoder Nda := fun r =>
  return ⟨← Json.Decoder.text r⟩

end Nda

namespace Uai

def ofText (raw : String) : Except InvalidIdentifier Uai :=
  if isSiteCode raw then .ok ⟨raw⟩ else .error (.uai raw)

/-- A stored code is taken as it stands. -/
def decode : Json.Decoder Uai := fun r =>
  return ⟨← Json.Decoder.text r⟩

end Uai

namespace Siret

def ofText (raw : String) : Except InvalidIdentifier Siret :=
  let digits := Text.compact raw
  if isDigits 14 digits then .ok ⟨digits⟩ else .error (.siret raw)

/-- A stored number is taken as it stands. -/
def decode : Json.Decoder Siret := fun r =>
  return ⟨← Json.Decoder.text r⟩

/-- The leading characters that take exactly `bytes` bytes, if there are such. -/
def leading? : Nat → List Char → Option (List Char)
  | 0, _ => some []
  | _, [] => none
  | bytes, c :: rest =>
    if c.utf8Size ≤ bytes then (leading? (bytes - c.utf8Size) rest).map (c :: ·) else none

/-- The number of the legal unit: the first nine bytes of the establishment
number. A number that was taken as stored may have no such part. -/
def siren? (s : Siret) : Option String :=
  (leading? 9 s.text.toList).map String.ofList

end Siret

end DossierCompliance
