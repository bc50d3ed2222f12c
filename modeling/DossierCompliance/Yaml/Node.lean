import DossierCompliance.Yaml.Token

/-!
The nodes of a YAML document, built from its tokens. A node may carry an
anchor, which aliases elsewhere refer to; anchors are numbered in the order in
which they are met.
-/

namespace DossierCompliance.Yaml

inductive Node where
  | alias (target : Nat)
  | scalar (anchor : Option Nat) (tag : Option TagBytes) (text : String) (isPlain : Bool)
  | sequence (anchor : Option Nat) (tag : Option TagBytes) (items : List Node)
  | mapping (anchor : Option Nat) (tag : Option TagBytes) (entries : List (Node × Node))

/-- What the tags of standard types begin with. -/
def standardLead : TagBytes :=
  asciiBytes "tag:yaml.org,2002:".toList

/-- What stands before the content of a node. -/
structure Properties where
  anchor : Option Nat
  tag : Option TagBytes

def Properties.none : Properties := ⟨.none, .none⟩

def Properties.isNone (p : Properties) : Bool :=
  p.anchor.isNone && p.tag.isNone

def Node.empty (p : Properties) : Node :=
  .scalar p.anchor p.tag "" true

/-- The tokens that are left, the numbers of the anchors met, and the leads
that the handles of tags stand for. -/
structure Parse where
  tokens : List Token
  anchors : List (String × Nat)
  handles : List (String × TagBytes)

abbrev Parser := StateT Parse Option

namespace Parser

def peek : Parser (Option Token) :=
  return (← get).tokens.head?

def skip : Parser Unit :=
  modify fun s => { s with tokens := s.tokens.drop 1 }

/-- Numbers an anchor; a name that comes again gets a new number. -/
def newAnchor (name : String) : Parser Nat := do
  let s ← get
  let number := s.anchors.length
  set { s with anchors := (name, number) :: s.anchors.filter (·.1 != name) }
  return number

def target (name : String) : Parser Nat := do
  match (← get).anchors.lookup name with
  | some number => return number
  | none => failure

/-- The tag with its handle replaced by what it stands for. -/
def wholeTag (tag : Tag) : Parser TagBytes := do
  if tag.handle.isEmpty then return tag.suffix
  match (← get).handles.lookup tag.handle with
  | some lead => return lead ++ tag.suffix
  | none => failure

def anchor : Parser (Option Nat) := do
  match ← peek with
  | some (.anchor name) =>
    skip
    return some (← newAnchor name)
  | _ => return none

def tag : Parser (Option Tag) := do
  match ← peek with
  | some (.tag content) =>
    skip
    return some content
  | _ => return none

/-- An anchor and a tag in either order. -/
def properties : Parser Properties := do
  let first ← anchor
  let content ← tag
  let anchor ← match first with
    | some number => pure (some number)
    | none => if content.isSome then anchor else pure none
  match content with
  | none => return ⟨anchor, none⟩
  | some content => return ⟨anchor, some (← wholeTag content)⟩

/-- Whether a block collection, or an entry of one, has no content here. -/
def endsEntry : Option Token → Bool
  | some .key | some .value | some .blockEnd => true
  | _ => false

mutual

/-- One node. Block collections are taken where `block` is set; `indentless`
allows a sequence whose entries are not indented. -/
def node (fuel : Nat) (block indentless : Bool) : Parser Node :=
  match fuel with
  | 0 => failure
  | fuel + 1 => do
    if let some (.alias name) := ← peek then
      skip
      return .alias (← target name)
    let p ← properties
    match ← peek with
    | some (.scalar text isPlain) =>
      skip
      return .scalar p.anchor p.tag text isPlain
    | some .openSequence =>
      skip
      return .sequence p.anchor p.tag (← flowItems fuel true)
    | some .openMapping =>
      skip
      return .mapping p.anchor p.tag (← flowEntries fuel true)
    | some .blockEntry =>
      if indentless then return .sequence p.anchor p.tag (← indentlessItems fuel)
      else if p.isNone then failure
      else return .empty p
    | some .blockSequence =>
      if block then
        skip
        return .sequence p.anchor p.tag (← blockItems fuel)
      else if p.isNone then failure
      else return .empty p
    | some .blockMapping =>
      if block then
        skip
        return .mapping p.anchor p.tag (← blockEntries fuel)
      else if p.isNone then failure
      else return .empty p
    | _ => if p.isNone then failure else return .empty p

def blockItems (fuel : Nat) : Parser (List Node) :=
  match fuel with
  | 0 => failure
  | fuel + 1 => do
    match ← peek with
    | some .blockEntry =>
      skip
      let item ← match ← peek with
        | some .blockEntry | some .blockEnd => pure (.empty .none)
        | _ => node fuel true false
      return item :: (← blockItems fuel)
    | some .blockEnd =>
      skip
      return []
    | _ => failure

/-- The items of a sequence that ends where something else than an entry comes. -/
def indentlessItems (fuel : Nat) : Parser (List Node) :=
  match fuel with
  | 0 => failure
  | fuel + 1 => do
    match ← peek with
    | some .blockEntry =>
      skip
      let item ← match ← peek with
        | some .blockEntry => pure (.empty .none)
        | next => if endsEntry next then pure (.empty .none) else node fuel true false
      return item :: (← indentlessItems fuel)
    | _ => return []

/-- A key or a value of a block mapping, which may be missing. -/
def blockPart (fuel : Nat) : Parser Node :=
  match fuel with
  | 0 => failure
  | fuel + 1 => do
    if endsEntry (← peek) then return .empty .none else node fuel true true

def blockEntries (fuel : Nat) : Parser (List (Node × Node)) :=
  match fuel with
  | 0 => failure
  | fuel + 1 => do
    match ← peek with
    | some .key =>
      skip
      let key ← blockPart fuel
      let value ← match ← peek with
        | some .value =>
          skip
          blockPart fuel
        | _ => pure (.empty .none)
      return (key, value) :: (← blockEntries fuel)
    | some .blockEnd =>
      skip
      return []
    | _ => failure

/-- The items of a flow sequence and its end. A key among them is a mapping of one entry. -/
def flowItems (fuel : Nat) (first : Bool) : Parser (List Node) :=
  match fuel with
  | 0 => failure
  | fuel + 1 => do
    if !first then
      match ← peek with
      | some .flowEntry => skip
      | some .closeSequence => pure ()
      | _ => failure
    match ← peek with
    | some .closeSequence =>
      skip
      return []
    | some .key =>
      skip
      let entry ← flowPair fuel
      return .mapping none none [entry] :: (← flowItems fuel false)
    | _ =>
      let item ← node fuel false false
      return item :: (← flowItems fuel false)

/-- The only entry of a mapping inside a flow sequence, behind its key mark. A
key may not be empty. -/
def flowPair (fuel : Nat) : Parser (Node × Node) :=
  match fuel with
  | 0 => failure
  | fuel + 1 => do
    match ← peek with
    | some .value | some .flowEntry | some .closeSequence => failure
    | _ =>
      let key ← node fuel false false
      match ← peek with
      | some .value =>
        skip
        match ← peek with
        | some .flowEntry | some .closeSequence => return (key, .empty .none)
        | _ => return (key, ← node fuel false false)
      | _ => return (key, .empty .none)

def flowEntries (fuel : Nat) (first : Bool) : Parser (List (Node × Node)) :=
  match fuel with
  | 0 => failure
  | fuel + 1 => do
    if !first then
      match ← peek with
      | some .flowEntry => skip
      | some .closeMapping => pure ()
      | _ => failure
    match ← peek with
    | some .closeMapping =>
      skip
      return []
    | some .key =>
      skip
      let key ← flowPart fuel
      let value ← match ← peek with
        | some .value =>
          skip
          flowPart fuel
        | _ => pure (.empty .none)
      return (key, value) :: (← flowEntries fuel false)
    | _ =>
      let key ← node fuel false false
      return (key, .empty .none) :: (← flowEntries fuel false)

/-- A key or a value of a flow mapping, which may be missing. -/
def flowPart (fuel : Nat) : Parser Node :=
  match fuel with
  | 0 => failure
  | fuel + 1 => do
    match ← peek with
    | some .value | some .flowEntry | some .closeMapping => return .empty .none
    | _ => node fuel false false

end

/-- The handles that need no directive. -/
def standardHandles : List (String × TagBytes) :=
  [("!", asciiBytes ['!']), ("!!", standardLead)]

/-- The directives before a document; there is at most one of each version and handle. -/
def directives (versioned : Bool) (handles : List (String × TagBytes)) :
    List Token → Option (List Token × List (String × TagBytes))
  | .directive (.version major minor) :: rest =>
    if versioned || major != 1 || (minor != 1 && minor != 2) then none
    else directives true handles rest
  | .directive (.handle name lead) :: rest =>
    if (handles.lookup name).isSome then none
    else directives versioned ((name, lead) :: handles) rest
  | rest => some (rest, handles)

/-- Whether a document has no content before a token. -/
def endsDocument : Option Token → Bool
  | none | some .documentStart | some .documentEnd | some (.directive _) => true
  | _ => false

/-- The content of a document behind the mark that starts it. -/
def content (fuel : Nat) : Parser Node := do
  if endsDocument (← peek) then return .empty .none else node fuel true false

def document (fuel : Nat) : Parser Node := do
  match ← peek with
  | none => return .empty .none
  | some .documentStart =>
    skip
    content fuel
  | some (.directive _) =>
    let s ← get
    match directives false [] s.tokens with
    | some (.documentStart :: rest, handles) =>
      set { s with tokens := rest, handles := handles ++ standardHandles }
      content fuel
    | _ => failure
  | some _ => node fuel true false

end Parser

def Node.ofText? (text : String) : Option Node := do
  let tokens ← tokens? text
  let start : Parse := ⟨tokens, [], Parser.standardHandles⟩
  let (root, s) ← (Parser.document (4 * tokens.length + 4)).run start
  let rest := s.tokens.dropWhile fun | .documentEnd => true | _ => false
  if rest.isEmpty then return root else none

end DossierCompliance.Yaml
