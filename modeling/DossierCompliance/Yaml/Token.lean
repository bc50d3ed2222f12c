import DossierCompliance.Yaml.Lexeme

/-!
The tokens of a YAML text. Indentation becomes tokens of its own: a collection
in block style starts where a line is indented deeper than the collection
around it and ends where a line is indented less. Whether a scalar is the key
of a mapping shows only at the colon behind it, so the place of a scalar that
may become a key is remembered until then.
-/

namespace DossierCompliance.Yaml

inductive Token where
  | directive (content : Directive)
  | documentStart
  | documentEnd
  | blockSequence
  | blockMapping
  | blockEnd
  | openSequence
  | closeSequence
  | openMapping
  | closeMapping
  | blockEntry
  | flowEntry
  | key
  | value
  | alias (name : String)
  | anchor (name : String)
  | tag (content : Tag)
  | scalar (text : String) (isPlain : Bool)

/-- A token that becomes a key if a colon follows on its line. It must become
one when it begins a line of the block collection around it. -/
structure PendingKey where
  isRequired : Bool
  place : Nat
  offset : Nat
  line : Nat
  column : Nat

def longestKey : Nat := 1024

def PendingKey.isStale (k : PendingKey) (c : Cursor) : Bool :=
  k.line < c.line || k.offset + longestKey < c.offset

/-- The tokens of the text before a place, and what decides about the tokens behind it. -/
structure Scan where
  cursor : Cursor
  tokens : Array Token
  /-- The column of the innermost block collection, `-1` outside of all. -/
  indent : Int
  /-- The columns of the collections around that one, innermost first. -/
  outer : List Int
  keyAllowed : Bool
  pending : Option PendingKey
  /-- The pending keys around the open flow collections, innermost first. -/
  enclosing : List (Option PendingKey)

namespace Scan

def start (text : String) : Scan :=
  { cursor := Cursor.start text
    tokens := #[]
    indent := -1
    outer := []
    keyAllowed := true
    pending := none
    enclosing := [] }

def inFlow (s : Scan) : Bool :=
  !s.enclosing.isEmpty

def emit (s : Scan) (t : Token) : Scan :=
  { s with tokens := s.tokens.push t }

def emitSkipping (s : Scan) (count : Nat) (t : Token) : Scan :=
  { s with tokens := s.tokens.push t, cursor := s.cursor.skip count }

def allowKey (s : Scan) (allowed : Bool) : Scan :=
  { s with keyAllowed := allowed }

/-! ### Pending keys -/

/-- Gives up the pending key, unless it had to become a key. -/
def dropKey (s : Scan) : Option Scan :=
  match s.pending with
  | some k => if k.isRequired then none else some { s with pending := none }
  | none => some s

/-- Makes the next token a pending key if keys are allowed here. -/
def saveKey (s : Scan) : Option Scan := do
  if !s.keyAllowed then return s
  let s ← s.dropKey
  let key : PendingKey :=
    { isRequired := !s.inFlow && s.indent == s.cursor.column
      place := s.tokens.size
      offset := s.cursor.offset
      line := s.cursor.line
      column := s.cursor.column }
  return { s with pending := some key }

/-- A pending key that is still possible at a place. -/
def stillPending (c : Cursor) (key : Option PendingKey) : Option (Option PendingKey) :=
  match key with
  | none => some none
  | some k => if !k.isStale c then some (some k) else if k.isRequired then none else some none

def dropStaleKeys (s : Scan) : Option Scan := do
  let pending ← stillPending s.cursor s.pending
  let enclosing ← s.enclosing.mapM (stillPending s.cursor)
  return { s with pending, enclosing }

/-! ### Indentation -/

/-- Starts a block collection at a column if that is deeper; its token goes to a place. -/
def indentTo (s : Scan) (column : Nat) (place : Nat) (t : Token) : Scan :=
  if s.inFlow || (column : Int) ≤ s.indent then s
  else
    { s with
      indent := column
      outer := s.indent :: s.outer
      tokens := s.tokens.insertIdxIfInBounds place t }

/-- Ends the block collections that are deeper than a column. -/
def unindent (column : Int) : Int → List Int → Array Token → Int × List Int × Array Token
  | indent, [], tokens => (indent, [], tokens)
  | indent, next :: outer, tokens =>
    if indent ≤ column then (indent, next :: outer, tokens)
    else unindent column next outer (tokens.push .blockEnd)

def unindentTo (s : Scan) (column : Int) : Scan :=
  if s.inFlow then s
  else
    let (indent, outer, tokens) := unindent column s.indent s.outer s.tokens
    { s with indent, outer, tokens }

/-! ### Between tokens -/

/-- Whether a blank may be passed over here: a tab not where indentation counts. -/
def passable (s : Scan) (ch : Char) : Bool :=
  ch == ' ' || (ch == '\t' && (s.inFlow || !s.keyAllowed))

def skipFrom : Nat → Scan → Scan
  | 0, s => s
  | fuel + 1, s =>
    let (_, c) := s.cursor.skipMark.span s.passable
    let c := if c.sees 0 '#' then c.skipLine else c
    match c.readBreak? with
    | some (_, next) =>
      skipFrom fuel { s with cursor := next, keyAllowed := s.keyAllowed || !s.inFlow }
    | none => { s with cursor := c }

def skipToToken (s : Scan) : Scan :=
  skipFrom (s.cursor.left + 1) s

/-! ### One token each -/

/-- Ends all that is open before a line that belongs to no document. -/
def leaveDocument (s : Scan) : Option Scan := do
  let s ← (s.unindentTo (-1)).dropKey
  return s.allowKey false

def scanDirective (s : Scan) : Option Scan := do
  let s ← s.leaveDocument
  let (content, cursor) ← readDirective s.cursor
  return { s.emit (.directive content) with cursor }

def scanDocumentMark (s : Scan) (t : Token) : Option Scan := do
  return (← s.leaveDocument).emitSkipping 3 t

def scanOpening (s : Scan) (t : Token) : Option Scan := do
  let s ← s.saveKey
  let s := { s with pending := none, enclosing := s.pending :: s.enclosing, keyAllowed := true }
  return s.emitSkipping 1 t

def scanClosing (s : Scan) (t : Token) : Option Scan := do
  let s ← s.dropKey
  match s.enclosing with
  | [] => none
  | pending :: enclosing =>
    return { s with pending, enclosing, keyAllowed := false }.emitSkipping 1 t

def scanFlowEntry (s : Scan) : Option Scan := do
  return ((← s.dropKey).allowKey true).emitSkipping 1 .flowEntry

/-- Starts a block collection at this place, where keys must be allowed. -/
def indentHere (s : Scan) (t : Token) : Option Scan :=
  if s.inFlow then some s
  else if s.keyAllowed then some (s.indentTo s.cursor.column s.tokens.size t)
  else none

def scanBlockEntry (s : Scan) : Option Scan := do
  let s ← s.indentHere .blockSequence
  return ((← s.dropKey).allowKey true).emitSkipping 1 .blockEntry

def scanKey (s : Scan) : Option Scan := do
  let s ← s.indentHere .blockMapping
  return ((← s.dropKey).allowKey (!s.inFlow)).emitSkipping 1 .key

def scanValue (s : Scan) : Option Scan := do
  match s.pending with
  | some k =>
    let s := { s with tokens := s.tokens.insertIdxIfInBounds k.place .key }
    let s := s.indentTo k.column k.place .blockMapping
    return { s with pending := none, keyAllowed := false }.emitSkipping 1 .value
  | none =>
    let s ← s.indentHere .blockMapping
    return (s.allowKey (!s.inFlow)).emitSkipping 1 .value

def scanAlias (s : Scan) : Option Scan := do
  let s ← s.saveKey
  let (name, cursor) ← readAnchor s.cursor
  return { (s.allowKey false).emit (.alias name) with cursor }

def scanAnchor (s : Scan) : Option Scan := do
  let s ← s.saveKey
  let (name, cursor) ← readAnchor s.cursor
  return { (s.allowKey false).emit (.anchor name) with cursor }

def scanTag (s : Scan) : Option Scan := do
  let s ← s.saveKey
  let (content, cursor) ← readTag s.inFlow s.cursor
  return { (s.allowKey false).emit (.tag content) with cursor }

def scanQuoted (s : Scan) (single : Bool) : Option Scan := do
  let s ← s.saveKey
  let (text, cursor) ← readQuoted single s.cursor
  return { (s.allowKey false).emit (.scalar (String.ofList text) false) with cursor }

/-- The least column that is deeper than the innermost block collection. -/
def deeper (s : Scan) : Nat :=
  (s.indent + 1).toNat

def scanBlockScalar (s : Scan) (literal : Bool) : Option Scan := do
  let s ← s.dropKey
  let (text, cursor) ← readBlock literal s.deeper s.cursor
  return { (s.allowKey true).emit (.scalar (String.ofList text) false) with cursor }

def scanPlain (s : Scan) : Option Scan := do
  let s ← s.saveKey
  let plain ← readPlain s.inFlow s.deeper s.cursor
  let s := s.emit (.scalar (String.ofList plain.text) true)
  return { s with cursor := plain.cursor, keyAllowed := plain.isBroken }

/-- Characters that a plain scalar does not begin with. -/
def indicators : List Char :=
  ['-', '?', ':', ',', '[', ']', Char.ofNat 0x7B, Char.ofNat 0x7D, '#', '&', '*', '!', '|', '>',
   '\'', '"', '%', '@', Char.ofNat 0x60]

def beginsPlain (s : Scan) (ch : Char) : Bool :=
  !(isBlank ch || isBreak ch || indicators.contains ch)
    || (ch == '-' && !(s.cursor.rest[1]?.any isBlank))
    || (!s.inFlow && (ch == '?' || ch == ':') && !s.cursor.gapAt 1)

def scanAt (s : Scan) (ch : Char) : Option Scan :=
  let c := s.cursor
  if c.column == 0 && ch == '%' then s.scanDirective
  else if c.atMark '-' then s.scanDocumentMark .documentStart
  else if c.atMark '.' then s.scanDocumentMark .documentEnd
  else if ch == '[' then s.scanOpening .openSequence
  else if ch.toNat == 0x7B then s.scanOpening .openMapping
  else if ch == ']' then s.scanClosing .closeSequence
  else if ch.toNat == 0x7D then s.scanClosing .closeMapping
  else if ch == ',' then s.scanFlowEntry
  else if ch == '-' && c.gapAt 1 then s.scanBlockEntry
  else if ch == '?' && (s.inFlow || c.gapAt 1) then s.scanKey
  else if ch == ':' && (s.inFlow || c.gapAt 1) then s.scanValue
  else if ch == '*' then s.scanAlias
  else if ch == '&' then s.scanAnchor
  else if ch == '!' then s.scanTag
  else if ch == '|' && !s.inFlow then s.scanBlockScalar true
  else if ch == '>' && !s.inFlow then s.scanBlockScalar false
  else if ch == '\'' then s.scanQuoted true
  else if ch == '"' then s.scanQuoted false
  else if s.beginsPlain ch then s.scanPlain
  else none

def run : Nat → Scan → Option (Array Token)
  | 0, _ => none
  | fuel + 1, s => do
    let s ← s.skipToToken.dropStaleKeys
    let s := s.unindentTo s.cursor.column
    match s.cursor.rest with
    | [] => return (← (s.unindentTo (-1)).dropKey).tokens
    | ch :: _ => run fuel (← s.scanAt ch)

end Scan

def tokens? (text : String) : Option (List Token) := do
  if text.toList.all allowedChar then
    let tokens ← (Scan.start text).run (text.toList.length + 1)
    return tokens.toList
  else none

end DossierCompliance.Yaml
