import DossierCompliance.Text.Blank

/-!
A place in a YAML text. Indentation decides about structure, so the place is
known by line and column, and a line may end with any of five line breaks.
-/

namespace DossierCompliance.Yaml

/-- The code points that may stand in a YAML text at all. -/
def allowedRanges : List (Nat × Nat) :=
  [(0x09, 0x0A), (0x0D, 0x0D), (0x20, 0x7E), (0x85, 0x85), (0xA0, 0xD7FF), (0xE000, 0xFFFD),
   (0x10000, 0x10FFFF)]

def allowedChar (c : Char) : Bool :=
  Text.inRanges allowedRanges c.toNat

def isBreak (c : Char) : Bool :=
  c == '\n' || c == '\r' || c == '\u0085' || c == '\u2028' || c == '\u2029'

/-- A blank inside a line. -/
def isBlank (c : Char) : Bool :=
  c == ' ' || c == '\t'

/-- Characters of anchors, handles and directive names. -/
def isWordChar (c : Char) : Bool :=
  c.isAlphanum || c == '_' || c == '-'

def byteCount (cs : List Char) : Nat :=
  cs.foldl (fun count c => count + c.utf8Size) 0

/-- What is left of a text and how many characters that is, how many bytes are
before it, and the line and column at which it begins. -/
structure Cursor where
  rest : List Char
  left : Nat
  offset : Nat
  line : Nat
  column : Nat
  length_rest : rest.length = left

namespace Cursor

def start (text : String) : Cursor :=
  ⟨text.toList, text.toList.length, 0, 0, 0, rfl⟩

def skip (c : Cursor) (count : Nat) : Cursor :=
  ⟨c.rest.drop count, c.left - count, c.offset + byteCount (c.rest.take count), c.line,
    c.column + count, by rw [List.length_drop, c.length_rest]⟩

/-- The leading characters with a property that no line break has, and the place behind them. -/
def span (c : Cursor) (p : Char → Bool) : List Char × Cursor :=
  let run := c.rest.takeWhile p
  (run, c.skip run.length)

def skipBlanks (c : Cursor) : Cursor :=
  (c.span isBlank).2

def skipLine (c : Cursor) : Cursor :=
  (c.span fun ch => !isBreak ch).2

/-- Goes past the characters of a line break. -/
def nextLine (c : Cursor) (count : Nat) : Cursor :=
  ⟨c.rest.drop count, c.left - count, c.offset + byteCount (c.rest.take count), c.line + 1, 0,
    by rw [List.length_drop, c.length_rest]⟩

/-- The line break at this place as the character it stands for: a line feed,
except for the line and paragraph separators, which stand for themselves. -/
def readBreak? (c : Cursor) : Option (Char × Cursor) :=
  match c.rest with
  | '\r' :: '\n' :: _ => some ('\n', c.nextLine 2)
  | ch :: _ =>
    if ch == '\u2028' || ch == '\u2029' then some (ch, c.nextLine 1)
    else if isBreak ch then some ('\n', c.nextLine 1)
    else none
  | [] => none

/-- Goes past the mark of byte order that a line may begin with. It counts as a column. -/
def skipMark (c : Cursor) : Cursor :=
  if c.column == 0 && c.rest.head? == some '\ufeff' then c.skip 1 else c

def skipBreak (c : Cursor) : Cursor :=
  match c.readBreak? with
  | some (_, next) => next
  | none => c

def sees (c : Cursor) (ahead : Nat) (ch : Char) : Bool :=
  c.rest[ahead]? == some ch

/-- Whether a blank, a line break or the end of the text stands a number of places ahead. -/
def gapAt (c : Cursor) (ahead : Nat) : Bool :=
  match c.rest[ahead]? with
  | none => true
  | some ch => isBlank ch || isBreak ch

def atLineEnd (c : Cursor) : Bool :=
  match c.rest with
  | [] => true
  | ch :: _ => isBreak ch

/-- Whether the line begins with three times a character and a gap. -/
def atMark (c : Cursor) (ch : Char) : Bool :=
  c.column == 0 && c.sees 0 ch && c.sees 1 ch && c.sees 2 ch && c.gapAt 3

/-- Whether the line begins or ends a document. -/
def atDocumentMark (c : Cursor) : Bool :=
  c.atMark '-' || c.atMark '.'

end Cursor

end DossierCompliance.Yaml
