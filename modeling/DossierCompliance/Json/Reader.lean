import DossierCompliance.Json.Numeral

/-!
Reading JSON from a text. The reader never fails: it returns the tree up to
the first fault. Containers nested more than 127 deep, numerals out of range
and strings with half a surrogate pair can be read over but not taken. An early
end inside a numeral counts as a misplaced character where it is read over.
-/

namespace DossierCompliance.Json

/-- A reading, and what follows it unless reading stopped. -/
structure Step where
  reading : Reading
  rest : Option (List Char)

def Step.stop (fault : Fault) : Step :=
  ⟨.broken fault, none⟩

def spaceChar (c : Char) : Bool :=
  c == ' ' || c == '\n' || c == '\t' || c == '\r'

def skipSpaces (cs : List Char) : List Char :=
  cs.dropWhile spaceChar

def readWord (value : Reading) : List Char → List Char → Step
  | [], cs => ⟨value, some cs⟩
  | _ :: _, [] => ⟨.flawed .truncated (.broken .truncated), none⟩
  | expected :: word, c :: cs =>
    if c == expected then readWord value word cs else .stop .malformed

/-- The end of a string: its characters and what follows the quote, or a fault.
`flawed` when half a surrogate pair was met before. -/
inductive StringEnd where
  | closed (chars : List Char) (flawed : Bool) (rest : List Char)
  | stopped (fault : Fault) (flawed : Bool)

def hexValue? (c : Char) : Option Nat :=
  if c.isDigit then some (c.toNat - 48)
  else if 'a' ≤ c && c ≤ 'f' then some (c.toNat - 87)
  else if 'A' ≤ c && c ≤ 'F' then some (c.toNat - 55)
  else none

/-- The number written by four hexadecimal digits, and what follows them. -/
def readHex (cs : List Char) : Except Fault (Nat × List Char) :=
  match cs.take 4 |>.mapM hexValue? with
  | some [a, b, c, d] => .ok (((a * 16 + b) * 16 + c) * 16 + d, cs.drop 4)
  | _ =>
    if (String.ofList (cs.take 4)).utf8ByteSize < 4 then .error .truncated else .error .malformed

def isHighSurrogate (n : Nat) : Bool := 0xD800 ≤ n && n < 0xDC00

def isLowSurrogate (n : Nat) : Bool := 0xDC00 ≤ n && n < 0xE000

/-- One escaped character. Nothing stands for half a surrogate pair. -/
structure Escaped where
  char : Option Char
  rest : List Char

/-- The second half of a surrogate pair whose first half is `high`. -/
def readLowSurrogate (high : Nat) : List Char → Except Fault Escaped
  | [] | ['\\'] => .error .truncated
  | '\\' :: 'u' :: rest => do
    let (low, rest) ← readHex rest
    if isLowSurrogate low then
      return ⟨some (Char.ofNat ((high - 0xD800) * 0x400 + (low - 0xDC00) + 0x10000)), rest⟩
    else return ⟨none, rest⟩
  | cs => .ok ⟨none, cs⟩

def readUnicodeEscape (cs : List Char) : Except Fault Escaped := do
  let (n, rest) ← readHex cs
  if isHighSurrogate n then readLowSurrogate n rest
  else if isLowSurrogate n then return ⟨none, rest⟩
  else return ⟨some (Char.ofNat n), rest⟩

def readEscape : List Char → Except Fault Escaped
  | [] => .error .truncated
  | 'u' :: rest => readUnicodeEscape rest
  | '"' :: rest => .ok ⟨some '"', rest⟩
  | '\\' :: rest => .ok ⟨some '\\', rest⟩
  | '/' :: rest => .ok ⟨some '/', rest⟩
  | 'b' :: rest => .ok ⟨some '\x08', rest⟩
  | 'f' :: rest => .ok ⟨some '\x0c', rest⟩
  | 'n' :: rest => .ok ⟨some '\n', rest⟩
  | 'r' :: rest => .ok ⟨some '\r', rest⟩
  | 't' :: rest => .ok ⟨some '\t', rest⟩
  | _ => .error .malformed

/-- Reads a string behind its first quote; `taken` holds its characters so far in reverse. The
fuel has to exceed the number of characters that follow. -/
def readString : Nat → List Char → Bool → List Char → StringEnd
  | 0, _, flawed, _ => .stopped .truncated flawed
  | _ + 1, _, flawed, [] => .stopped .truncated flawed
  | _ + 1, taken, flawed, '"' :: rest => .closed taken.reverse flawed rest
  | fuel + 1, taken, flawed, '\\' :: rest =>
    match readEscape rest with
    | .error fault => .stopped fault flawed
    | .ok ⟨some c, rest⟩ => readString fuel (c :: taken) flawed rest
    | .ok ⟨none, rest⟩ => readString fuel taken true rest
  | fuel + 1, taken, flawed, c :: rest =>
    if c.toNat < 0x20 then .stopped .malformed flawed
    else readString fuel (c :: taken) flawed rest

/-- The string behind a quote as a value. -/
def StringEnd.toStep : StringEnd → Step
  | .closed chars false rest => ⟨.string (String.ofList chars), some rest⟩
  | .closed chars true rest => ⟨.flawed .malformed (.string (String.ofList chars)), some rest⟩
  | .stopped fault false => .stop fault
  | .stopped fault true => ⟨.flawed .malformed (.broken fault), none⟩

def readNumber (cs : List Char) : Step :=
  match readNumeral cs with
  | .error .malformed => .stop .malformed
  | .error .truncated => ⟨.flawed .truncated (.broken .malformed), none⟩
  | .ok (numeral, rest) =>
    match numeral.value? with
    | some n => ⟨.number n, some rest⟩
    | none => ⟨.flawed .malformed .null, some rest⟩

/-- Reads the value at the start of a text, which is no container. -/
def readScalar (fuel : Nat) : List Char → Step
  | [] => .stop .truncated
  | c :: rest =>
    if c == 'n' then readWord .null ['u', 'l', 'l'] rest
    else if c == 't' then readWord (.bool true) ['r', 'u', 'e'] rest
    else if c == 'f' then readWord (.bool false) ['a', 'l', 's', 'e'] rest
    else if c == '"' then (readString fuel [] false rest).toStep
    else if c == '-' || c.isDigit then readNumber (c :: rest)
    else .stop .malformed

/-- The fault of the text that should start here; none if another value does. -/
def faultAsText? (fuel : Nat) (cs : List Char) : Option Fault :=
  match cs.head? with
  | some '[' => none
  | some c =>
    if c == Char.ofNat 0x7B then none
    else match (readScalar fuel cs).reading with
      | .flawed fault _ | .broken fault => some fault
      | _ => none
  | none => some .truncated

/-- The deepest level at which a container can be taken. -/
def deepestLevel : Nat := 127

/-- A container that stands at a level, counted from one. -/
def atLevel (level : Nat) (r : Reading) : Reading :=
  if level ≤ deepestLevel then r else .flawed .malformed r

/-- The parts read inside a container, the fault that ended them, and what
follows the container unless reading stopped. -/
structure Parts (α : Type) where
  parts : List α
  ending : Ending
  rest : Option (List Char)

def Parts.cons {α : Type} (part : α) (more : Parts α) : Parts α :=
  { more with parts := part :: more.parts }

def Parts.stop {α : Type} (ending : Ending) : Parts α :=
  ⟨[], ending, none⟩

/-- A last part in which reading stopped. -/
def Parts.last {α : Type} (part : α) : Parts α :=
  ⟨[part], .closed, none⟩

mutual

/-- Reads the value at the start of a text, inside `level` containers. -/
def readValue : Nat → Nat → List Char → Step
  | 0, _, _ => .stop .truncated
  | fuel + 1, level, cs =>
    match skipSpaces cs with
    | [] => .stop .truncated
    | c :: rest =>
      if c == '[' then
        let items := readItems fuel (level + 1) true rest
        ⟨atLevel (level + 1) (.array items.parts items.ending.fault?), items.rest⟩
      else if c == Char.ofNat 0x7B then
        let members := readMembers fuel (level + 1) true rest
        ⟨atLevel (level + 1) (.object members.parts members.ending), members.rest⟩
      else readScalar fuel (c :: rest)

/-- Reads the items of an array up to its bracket, the next one being the `first` or not. -/
def readItems : Nat → Nat → Bool → List Char → Parts Reading
  | 0, _, _, _ => .stop (.atComma .truncated)
  | fuel + 1, level, first, cs =>
    match skipSpaces cs with
    | [] => .stop (.atComma .truncated)
    | ']' :: rest => ⟨[], .closed, some rest⟩
    | c :: rest =>
      if first then readItem fuel level (c :: rest)
      else if c == ',' then
        match skipSpaces rest with
        | [] => .last (.broken .truncated)
        | ']' :: _ => .last (.broken .malformed)
        | rest => readItem fuel level rest
      else .stop (.atComma .malformed)

def readItem : Nat → Nat → List Char → Parts Reading
  | 0, _, _ => .stop (.atComma .truncated)
  | fuel + 1, level, cs =>
    let item := readValue fuel level cs
    match item.rest with
    | none => .last item.reading
    | some rest => (readItems fuel level false rest).cons item.reading

/-- Reads the members of an object up to its brace, the next one being the `first` or not. -/
def readMembers : Nat → Nat → Bool → List Char → Parts (String × Reading)
  | 0, _, _, _ => .stop (.atComma .truncated)
  | fuel + 1, level, first, cs =>
    match skipSpaces cs with
    | [] => .stop (.atComma .truncated)
    | c :: rest =>
      if c == Char.ofNat 0x7D then ⟨[], .closed, some rest⟩
      else if first then readMember fuel level (c :: rest)
      else if c == ',' then readMember fuel level (skipSpaces rest)
      else .stop (.atComma .malformed)

def readMember : Nat → Nat → List Char → Parts (String × Reading)
  | 0, _, _ => .stop (.atComma .truncated)
  | fuel + 1, level, cs =>
    match cs with
    | '"' :: rest =>
      match readString fuel [] false rest with
      | .stopped fault false => .stop (.atMember fault (some fault))
      | .stopped fault true => .stop (.atKey (some fault))
      | .closed chars flawed rest =>
        let members := readValueOf fuel level (String.ofList chars) (skipSpaces rest)
        if flawed then
          ⟨[], .atKey (Reading.skipMembers? members.parts <|> members.ending.skipFault?),
            members.rest⟩
        else members
    | [] => .stop (.atMember .truncated (some .truncated))
    | cs => .stop (.atMember .malformed (faultAsText? fuel cs))

/-- Reads the value behind a key and its colon, and the members behind it. -/
def readValueOf : Nat → Nat → String → List Char → Parts (String × Reading)
  | 0, _, _, _ => .stop (.atComma .truncated)
  | fuel + 1, level, key, cs =>
    match cs with
    | [] => .last (key, .broken .truncated)
    | ':' :: rest =>
      let value := readValue fuel level rest
      match value.rest with
      | none => .last (key, value.reading)
      | some rest => (readMembers fuel level false rest).cons (key, value.reading)
    | _ => .last (key, .broken .malformed)

end

/-- A whole text: the value at its start, and whether anything but blanks follows it. -/
structure Document where
  root : Reading
  trailing : Bool

def Document.read (text : String) : Document :=
  let cs := text.toList
  let step := readValue (4 * cs.length + 4) 0 cs
  ⟨step.reading, match step.rest with
    | none => false
    | some rest => !(skipSpaces rest).isEmpty⟩

/-- The value a text holds, in normal form. -/
def parse (text : String) : Except Fault Json :=
  let document := Document.read text
  document.root.toJson.bind fun j => if document.trailing then .error .malformed else .ok j

end DossierCompliance.Json
