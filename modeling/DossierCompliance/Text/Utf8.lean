/-!
Reading UTF-8. Bytes are read one at a time into characters; where they stop
being UTF-8, each longest run that could have begun a character counts as one
damaged place. A strict reader refuses damaged places, a lenient one puts the
replacement character there.
-/

namespace DossierCompliance.Text.Utf8

/-- A character that still lacks bytes: how many, the range of the next one,
and the bits read so far. -/
structure Unfinished where
  owed : Nat
  low : Nat
  high : Nat
  bits : Nat

/-- What is between two bytes: nothing, or an unfinished character. -/
abbrev State := Option Unfinished

def begin (b : Nat) : List (Option Char) × State :=
  if b < 0x80 then ([some (Char.ofNat b)], none)
  else if b < 0xC2 then ([none], none)
  else if b < 0xE0 then ([], some ⟨1, 0x80, 0xBF, b - 0xC0⟩)
  else if b < 0xF0 then
    let low := if b == 0xE0 then 0xA0 else 0x80
    let high := if b == 0xED then 0x9F else 0xBF
    ([], some ⟨2, low, high, b - 0xE0⟩)
  else if b < 0xF5 then
    let low := if b == 0xF0 then 0x90 else 0x80
    let high := if b == 0xF4 then 0x8F else 0xBF
    ([], some ⟨3, low, high, b - 0xF0⟩)
  else ([none], none)

/-- Reads one byte: the characters and damaged places that it ends. -/
def step (state : State) (b : Nat) : List (Option Char) × State :=
  match state with
  | none => begin b
  | some u =>
    if u.low ≤ b && b ≤ u.high then
      let bits := u.bits * 64 + (b - 0x80)
      if u.owed ≤ 1 then ([some (Char.ofNat bits)], none)
      else ([], some ⟨u.owed - 1, 0x80, 0xBF, bits⟩)
    else
      let (ended, next) := begin b
      (none :: ended, next)

/-- The characters of bytes from a state on, `none` for each damaged place. -/
def readFrom : State → List UInt8 → List (Option Char)
  | none, [] => []
  | some _, [] => [none]
  | state, b :: rest =>
    let (ended, next) := step state b.toNat
    ended ++ readFrom next rest

def read (bytes : List UInt8) : List (Option Char) :=
  readFrom none bytes

def decode? (bytes : List UInt8) : Option String :=
  ((read bytes).mapM id).map String.ofList

/-- The text of bytes with a replacement character for each damaged place. -/
def decodeLenient (bytes : List UInt8) : String :=
  String.ofList ((read bytes).map fun c => c.getD '\uFFFD')

def encode (s : String) : List UInt8 :=
  s.toUTF8.toList

end DossierCompliance.Text.Utf8
