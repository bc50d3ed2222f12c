/-!
Blank characters. Identifiers are compared without them, and a required text
made of them alone counts as missing. Blank means the Unicode property
White_Space, so a no-break space is blank and a zero-width space is not.
-/

namespace DossierCompliance.Text

/-- Closed ranges of code points with the property White_Space, ascending. -/
def blankRanges : List (Nat × Nat) :=
  [(0x09, 0x0D), (0x20, 0x20), (0x85, 0x85), (0xA0, 0xA0), (0x1680, 0x1680),
   (0x2000, 0x200A), (0x2028, 0x2029), (0x202F, 0x202F), (0x205F, 0x205F),
   (0x3000, 0x3000)]

/-- Whether a code point lies in one of the closed ranges. -/
def inRanges (ranges : List (Nat × Nat)) (code : Nat) : Bool :=
  ranges.any fun range => range.1 ≤ code && code ≤ range.2

def blankChar (c : Char) : Bool :=
  inRanges blankRanges c.toNat

def skipBlanks (cs : List Char) : List Char :=
  cs.dropWhile blankChar

def trimChars (cs : List Char) : List Char :=
  (skipBlanks (skipBlanks cs).reverse).reverse

def trim (s : String) : String :=
  String.ofList (trimChars s.toList)

def isBlank (s : String) : Bool :=
  s.toList.all blankChar

/-- A text without any of its blanks. -/
def compact (s : String) : String :=
  String.ofList (s.toList.filter fun c => !blankChar c)

def isMissing : Option String → Bool
  | none => true
  | some s => isBlank s

end DossierCompliance.Text
