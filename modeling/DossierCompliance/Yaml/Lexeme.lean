import DossierCompliance.Yaml.Cursor
import DossierCompliance.Decimal.Literal

/-!
The lexemes of YAML that carry text: plain, quoted and block scalars, names of
anchors, tags and directives. Each reader takes the place of its first
character and gives the text with the place behind it, or nothing when the
text is not YAML.
-/

namespace DossierCompliance.Yaml

/-! ### Gaps inside flow scalars -/

/-- The blanks and line breaks between two words. -/
structure Gap where
  /-- The blanks before the first line break, last one first. -/
  blanks : List Char
  isBroken : Bool
  /-- The first line break, unless it was escaped. -/
  first : Option Char
  /-- The line breaks after the first, last one first. -/
  more : List Char

namespace Gap

def empty : Gap := ⟨[], false, none, []⟩

/-- A gap that begins with an escaped line break. -/
def escaped : Gap := ⟨[], true, none, []⟩

def isEmpty (g : Gap) : Bool :=
  g.blanks.isEmpty && !g.isBroken

def addBlank (g : Gap) (ch : Char) : Gap :=
  if g.isBroken then g else { g with blanks := ch :: g.blanks }

def addBreak (g : Gap) (ch : Char) : Gap :=
  if g.isBroken then { g with more := ch :: g.more }
  else { g with isBroken := true, first := some ch }

/-- What a gap stands for, last character first: its blanks when it lies in
one line; otherwise a single line feed is a blank and further breaks stay. -/
def folded (g : Gap) : List Char :=
  if !g.isBroken then g.blanks
  else match g.first with
    | some '\n' => if g.more.isEmpty then [' '] else g.more
    | some ch => g.more ++ [ch]
    | none => g.more

/-- Reads on through blanks and breaks. A tab may not stand before the column `indent`. -/
def read (indent : Nat) : Nat → Gap → Cursor → Option (Gap × Cursor)
  | 0, g, c => some (g, c)
  | fuel + 1, g, c =>
    match c.rest with
    | [] => some (g, c)
    | ch :: _ =>
      if isBlank ch then
        if g.isBroken && c.column < indent && ch == '\t' then none
        else read indent fuel (g.addBlank ch) (c.skip 1)
      else match c.readBreak? with
        | some (b, next) => read indent fuel (g.addBreak b) next
        | none => some (g, c)

end Gap

def readGap (indent : Nat) (g : Gap) (c : Cursor) : Option (Gap × Cursor) :=
  Gap.read indent c.left g c

/-! ### Quoted scalars -/

def singleQuoted : Nat → List Char → Cursor → Option (List Char × Cursor)
  | 0, _, _ => none
  | fuel + 1, taken, c =>
    if c.atDocumentMark then none
    else match c.rest with
      | [] => none
      | '\'' :: '\'' :: _ => singleQuoted fuel ('\'' :: taken) (c.skip 2)
      | '\'' :: _ => some (taken.reverse, c.skip 1)
      | ch :: _ =>
        if isBlank ch || isBreak ch then do
          let (g, next) ← readGap 0 .empty c
          singleQuoted fuel (g.folded ++ taken) next
        else singleQuoted fuel (ch :: taken) (c.skip 1)

def namedEscape? : Char → Option Char
  | '0' => some '\x00'
  | 'a' => some '\x07'
  | 'b' => some '\x08'
  | 't' | '\t' => some '\t'
  | 'n' => some '\n'
  | 'v' => some '\x0b'
  | 'f' => some '\x0c'
  | 'r' => some '\r'
  | 'e' => some '\x1b'
  | ' ' => some ' '
  | '"' => some '"'
  | '/' => some '/'
  | '\\' => some '\\'
  | 'N' => some '\u0085'
  | '_' => some '\u00a0'
  | 'L' => some '\u2028'
  | 'P' => some '\u2029'
  | _ => none

/-- How many hexadecimal digits follow a letter behind a backslash. -/
def hexEscape? : Char → Option Nat
  | 'x' => some 2
  | 'u' => some 4
  | 'U' => some 8
  | _ => none

def hexDigit? (c : Char) : Option Nat :=
  if c.isDigit then some (c.toNat - 48)
  else if 'a' ≤ c && c ≤ 'f' then some (c.toNat - 87)
  else if 'A' ≤ c && c ≤ 'F' then some (c.toNat - 55)
  else none

def hexNumber? (cs : List Char) : Option Nat :=
  cs.foldlM (fun n ch => return 16 * n + (← hexDigit? ch)) 0

def charOfCode? (code : Nat) : Option Char :=
  if code.isValidChar then some (Char.ofNat code) else none

/-- The escape behind a backslash: its character and its length. -/
def escape? : List Char → Option (Char × Nat)
  | [] => none
  | ch :: rest =>
    match hexEscape? ch with
    | none => (namedEscape? ch).map fun escaped => (escaped, 1)
    | some count =>
      let digits := rest.take count
      if digits.length < count then none
      else do
        let escaped ← charOfCode? (← hexNumber? digits)
        return (escaped, count + 1)

def doubleQuoted : Nat → List Char → Cursor → Option (List Char × Cursor)
  | 0, _, _ => none
  | fuel + 1, taken, c =>
    if c.atDocumentMark then none
    else match c.rest with
      | [] => none
      | '"' :: _ => some (taken.reverse, c.skip 1)
      | '\\' :: rest =>
        match (c.skip 1).readBreak? with
        | some (_, next) => do
          let (g, next) ← readGap 0 .escaped next
          doubleQuoted fuel (g.folded ++ taken) next
        | none => do
          let (ch, length) ← escape? rest
          doubleQuoted fuel (ch :: taken) (c.skip (length + 1))
      | ch :: _ =>
        if isBlank ch || isBreak ch then do
          let (g, next) ← readGap 0 .empty c
          doubleQuoted fuel (g.folded ++ taken) next
        else doubleQuoted fuel (ch :: taken) (c.skip 1)

/-- The scalar between the quote at this place and the next one that closes it. -/
def readQuoted (single : Bool) (c : Cursor) : Option (List Char × Cursor) :=
  let inside := c.skip 1
  let fuel := inside.left + 1
  if single then singleQuoted fuel [] inside else doubleQuoted fuel [] inside

/-! ### Plain scalars -/

/-- A plain scalar, whether lines ended behind it, and the place where it ends. -/
structure Plain where
  text : List Char
  isBroken : Bool
  cursor : Cursor

def flowIndicator (c : Char) : Bool :=
  [',', '[', ']', Char.ofNat 0x7B, Char.ofNat 0x7D].contains c

/-- Whether a plain scalar ends before the character at this place. -/
def endsPlain (flow : Bool) (c : Cursor) (ch : Char) : Bool :=
  (ch == ':' && c.gapAt 1) || (flow && flowIndicator ch)

/-- Whether a colon stands before a character that flow collections do not allow there. -/
def misplacedColon (c : Cursor) (ch : Char) : Bool :=
  ch == ':' && match c.rest[1]? with
    | some next => next == '?' || flowIndicator next
    | none => false

/-- Reads on in a plain scalar; `taken` holds its characters so far in reverse,
as does the result. -/
def plainFrom (flow : Bool) (indent : Nat) : Nat → Gap → List Char → Cursor → Option Plain
  | 0, g, taken, c => some ⟨taken, g.isBroken, c⟩
  | fuel + 1, g, taken, c =>
    match c.rest with
    | [] => some ⟨taken, g.isBroken, c⟩
    | ch :: _ =>
      if c.atDocumentMark || (ch == '#' && !g.isEmpty) then some ⟨taken, g.isBroken, c⟩
      else if isBlank ch || isBreak ch then do
        let (g, next) ← readGap indent .empty c
        if !flow && next.column < indent then some ⟨taken, g.isBroken, next⟩
        else plainFrom flow indent fuel g taken next
      else if flow && misplacedColon c ch then none
      else if endsPlain flow c ch then some ⟨taken, g.isBroken, c⟩
      else plainFrom flow indent fuel .empty (ch :: (g.folded ++ taken)) (c.skip 1)

/-- The plain scalar at this place; its further lines stand at least at the column `indent`. -/
def readPlain (flow : Bool) (indent : Nat) (c : Cursor) : Option Plain := do
  let plain ← plainFrom flow indent (2 * c.left + 1) .empty [] c
  return { plain with text := plain.text.reverse }

/-! ### Block scalars -/

/-- What becomes of the line breaks at the end of a block scalar. -/
inductive Chomping where
  | clip
  | strip
  | keep

structure BlockHeader where
  chomping : Chomping
  increment : Nat

def readChomping (c : Cursor) : Option (Chomping × Cursor) :=
  match c.rest with
  | '+' :: _ => some (.keep, c.skip 1)
  | '-' :: _ => some (.strip, c.skip 1)
  | _ => none

/-- A digit from one to nine; zero is no indentation. -/
def readIncrement (c : Cursor) : Option (Nat × Cursor) :=
  match c.rest with
  | '0' :: _ => none
  | ch :: _ => if ch.isDigit then some (Decimal.digitValue ch, c.skip 1) else some (0, c)
  | [] => some (0, c)

/-- The two indicators behind the mark of a block scalar, in either order. -/
def readIndicators (c : Cursor) : Option (BlockHeader × Cursor) :=
  match readChomping c with
  | some (chomping, c) => do
    let (increment, c) ← readIncrement c
    return (⟨chomping, increment⟩, c)
  | none => do
    let (increment, c) ← readIncrement c
    match readChomping c with
    | some (chomping, c) => return (⟨chomping, increment⟩, c)
    | none => return (⟨.clip, increment⟩, c)

/-- The rest of a line that may hold a comment, with its break. -/
def skipRestOfLine (c : Cursor) : Option Cursor :=
  let c := c.skipBlanks
  let c := if c.sees 0 '#' then c.skipLine else c
  if c.atLineEnd then some c.skipBreak else none

/-- Empty lines of a block scalar: the widest indentation met, the breaks with
the last one first, and the place at the next line that is not empty. An
`indent` of zero is one that is not known yet. -/
def blockBreaks (indent : Nat) : Nat → Nat → List Char → Cursor →
    Option (Nat × List Char × Cursor)
  | 0, widest, breaks, c => some (widest, breaks, c)
  | fuel + 1, widest, breaks, c =>
    let spaces := (c.rest.takeWhile (· == ' ')).length
    let c := c.skip (if indent == 0 then spaces else min spaces (indent - c.column))
    let widest := max widest c.column
    if (indent == 0 || c.column < indent) && c.sees 0 '\t' then none
    else match c.readBreak? with
      | some (b, next) => blockBreaks indent fuel widest (b :: breaks) next
      | none => some (widest, breaks, c)

def readBlockBreaks (indent : Nat) (c : Cursor) : Option (Nat × List Char × Cursor) :=
  blockBreaks indent (c.left + 1) 0 [] c

/-- A block scalar read so far, last character first. -/
structure BlockText where
  taken : List Char
  /-- The break of the last line. -/
  leading : List Char
  /-- The breaks of the empty lines after it. -/
  trailing : List Char
  startsBlank : Bool

/-- The breaks before the next line, folded when neither line begins with a blank. -/
def BlockText.separator (literal : Bool) (t : BlockText) (nextBlank : Bool) : List Char :=
  if !literal && t.leading == ['\n'] && !t.startsBlank && !nextBlank then
    if t.trailing.isEmpty then [' '] else t.trailing
  else t.trailing ++ t.leading

def BlockText.chomped (t : BlockText) : Chomping → List Char
  | .strip => t.taken
  | .clip => t.leading ++ t.taken
  | .keep => t.trailing ++ t.leading ++ t.taken

def blockLines (literal : Bool) (indent : Nat) : Nat → BlockText → Cursor →
    Option (BlockText × Cursor)
  | 0, t, c => some (t, c)
  | fuel + 1, t, c =>
    match c.rest with
    | [] => some (t, c)
    | ch :: _ =>
      if c.column != indent then some (t, c)
      else do
        let blank := isBlank ch
        let (line, c) := c.span fun ch => !isBreak ch
        let taken := line.reverse ++ (t.separator literal blank ++ t.taken)
        let (leading, c) := match c.readBreak? with
          | some (b, next) => ([b], next)
          | none => ([], c)
        let (_, trailing, c) ← readBlockBreaks indent c
        blockLines literal indent fuel ⟨taken, leading, trailing, blank⟩ c

/-- The block scalar at this place. `parent` is the least column that is
deeper than the collection around it. -/
def readBlock (literal : Bool) (parent : Nat) (c : Cursor) : Option (List Char × Cursor) := do
  let (header, c) ← readIndicators (c.skip 1)
  let c ← skipRestOfLine c
  let stated := if header.increment == 0 then 0 else parent - 1 + header.increment
  let (widest, breaks, c) ← readBlockBreaks stated c
  let indent := if stated == 0 then max (max widest parent) 1 else stated
  let (t, c) ← blockLines literal indent (c.left + 1) ⟨[], [], breaks, false⟩ c
  return ((t.chomped header.chomping).reverse, c)

/-! ### Anchors, tags and directives -/

/-- The name behind `&` or `*`. -/
def readAnchor (c : Cursor) : Option (String × Cursor) :=
  let (name, c) := (c.skip 1).span isWordChar
  let closed := c.gapAt 0 || match c.rest with
    | ch :: _ => ['?', ':', ',', ']', Char.ofNat 0x7D, '%', '@', Char.ofNat 0x60].contains ch
    | [] => true
  if name.isEmpty || !closed then none else some (String.ofList name, c)

def tagChar (verbatim : Bool) (c : Char) : Bool :=
  isWordChar c
    || [';', '/', '?', ':', '@', '&', '=', '+', '$', '.', '!', '~', '*', '\'', '(', ')'].contains c
    || (verbatim && [',', '[', ']'].contains c)

/-- A tag is known by its bytes, since escapes may write any. -/
abbrev TagBytes := List UInt8

def asciiBytes (cs : List Char) : TagBytes :=
  cs.map fun ch => ch.toNat.toUInt8

/-- How many bytes a character has whose first byte is given. -/
def octetCount? (first : UInt8) : Option Nat :=
  if first < 0x80 then some 1
  else if first / 0x20 == 6 then some 2
  else if first / 0x10 == 14 then some 3
  else if first / 0x08 == 30 then some 4
  else none

/-- The bytes of `count` escapes of a percent sign and two digits. -/
def tagOctets? : Nat → List Char → Option TagBytes
  | 0, _ => some []
  | count + 1, '%' :: a :: b :: rest => do
    let octet := 16 * (← hexDigit? a) + (← hexDigit? b)
    return octet.toUInt8 :: (← tagOctets? count rest)
  | _, _ => none

def tagEscape? (cs : List Char) : Option TagBytes := do
  let first ← tagOctets? 1 cs
  let octets ← tagOctets? (← octetCount? (first.headD 0)) cs
  if (octets.drop 1).any fun o => o / 0x40 != 2 then none else return octets

/-- Reads the characters of a tag; `taken` holds the bytes before them in reverse. -/
def tagBytes (verbatim : Bool) : Nat → TagBytes → Cursor → Option (TagBytes × Cursor)
  | 0, taken, c => some (taken.reverse, c)
  | fuel + 1, taken, c =>
    match c.rest with
    | [] => some (taken.reverse, c)
    | ch :: _ =>
      if ch == '%' then do
        let octets ← tagEscape? c.rest
        tagBytes verbatim fuel (octets.reverse ++ taken) (c.skip (3 * octets.length))
      else if tagChar verbatim ch then
        tagBytes verbatim fuel (ch.toNat.toUInt8 :: taken) (c.skip 1)
      else some (taken.reverse, c)

def readTagBytes (verbatim : Bool) (c : Cursor) : Option (TagBytes × Cursor) :=
  tagBytes verbatim (c.left + 1) [] c

/-- The bytes that count: those before the first zero. -/
def beforeZero (bytes : TagBytes) : TagBytes :=
  bytes.takeWhile (· != 0)

/-- A handle: an exclamation mark, or a word between two of them. The flag says
whether the second mark is there. -/
def readHandle (c : Cursor) : List Char × Bool × Cursor :=
  let (word, next) := (c.skip 1).span isWordChar
  if next.sees 0 '!' then ('!' :: word ++ ['!'], true, next.skip 1)
  else ('!' :: word, false, next)

/-- A tag as a handle, empty if it needs none, and what stands behind it. -/
structure Tag where
  handle : String
  suffix : TagBytes

def readTagParts (c : Cursor) : Option (Tag × Cursor) :=
  if c.sees 1 '<' then do
    let (suffix, c) ← readTagBytes true (c.skip 2)
    if suffix.isEmpty || !c.sees 0 '>' then none
    else return (⟨"", beforeZero suffix⟩, c.skip 1)
  else
    let (handle, closed, next) := readHandle c
    if closed then do
      let (suffix, next) ← readTagBytes false next
      if suffix.isEmpty then none
      else return (⟨String.ofList handle, beforeZero suffix⟩, next)
    else do
      let (more, next) ← readTagBytes false next
      match beforeZero (asciiBytes (handle.drop 1) ++ more) with
      | [] => return (⟨"", asciiBytes ['!']⟩, next)
      | suffix => return (⟨"!", suffix⟩, next)

def readTag (flow : Bool) (c : Cursor) : Option (Tag × Cursor) := do
  let (tag, c) ← readTagParts c
  if c.gapAt 0 || (flow && c.sees 0 ',') then return (tag, c) else none

inductive Directive where
  | version (major minor : Nat)
  | handle (name : String) (lead : TagBytes)

def readVersionPart (c : Cursor) : Option (Nat × Cursor) :=
  let (digits, c) := c.span Char.isDigit
  if digits.isEmpty || 9 < digits.length then none else some (Decimal.ofDigits digits, c)

def readVersion (c : Cursor) : Option (Directive × Cursor) := do
  let (major, c) ← readVersionPart c.skipBlanks
  if !c.sees 0 '.' then none
  else
    let (minor, c) ← readVersionPart (c.skip 1)
    return (.version major minor, c)

def readHandleDirective (c : Cursor) : Option (Directive × Cursor) := do
  let c := c.skipBlanks
  if !c.sees 0 '!' then none
  else
    let (handle, closed, c) := readHandle c
    if !closed && handle.length != 1 then none
    else if !(c.rest.head?.any isBlank) then none
    else
      let (lead, c) ← readTagBytes true c.skipBlanks
      if lead.isEmpty || !c.gapAt 0 then none
      else return (.handle (String.ofList handle) (beforeZero lead), c)

def readDirective (c : Cursor) : Option (Directive × Cursor) := do
  let (name, c) := (c.skip 1).span isWordChar
  if !c.gapAt 0 then none
  else
    let (directive, c) ← match String.ofList name with
      | "YAML" => readVersion c
      | "TAG" => readHandleDirective c
      | _ => none
    return (directive, ← skipRestOfLine c)

end DossierCompliance.Yaml
