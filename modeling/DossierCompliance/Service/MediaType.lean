/-!
Media types, as a request states what its body is: a type and a subtype, then
parameters behind semicolons. The subtype may end in a suffix behind a plus
sign that names the notation the body is written in.
-/

namespace DossierCompliance

structure MediaType where
  type : String
  subtype : String
  suffix : Option String

namespace MediaType

def tokenMarks : List Char :=
  ['!', '#', '$', '%', '&', Char.ofNat 0x27, '*', '+', '-', '.', '^', '_', Char.ofNat 0x60, '|',
   '~']

def tokenChar (c : Char) : Bool :=
  c.isAlphanum || tokenMarks.contains c

/-- Where a reader is among the parameters. -/
inductive Place where
  | beforeName
  | name
  | beforeValue
  | value
  | openingQuote
  | quoted
  | afterQuote

/-- A character that may stand between quotes. -/
def quotableChar (c : Char) : Bool :=
  31 < c.toNat && c.toNat != 127

def Place.step : Place → Char → Option Place
  | beforeName, ' ' => some beforeName
  | beforeName, c => if tokenChar c then some name else none
  | name, '=' => some beforeValue
  | name, c => if tokenChar c then some name else none
  | beforeValue, '"' => some openingQuote
  | beforeValue, c => if tokenChar c then some value else none
  | value, ';' => some beforeName
  | value, c => if tokenChar c then some value else none
  | openingQuote, c => if quotableChar c then some quoted else none
  | quoted, '"' => some afterQuote
  | quoted, c => if quotableChar c then some quoted else none
  | afterQuote, ';' => some beforeName
  | afterQuote, ' ' => some afterQuote
  | afterQuote, _ => none

def Place.isEnd : Place → Bool
  | beforeName | beforeValue | value | afterQuote => true
  | name | openingQuote | quoted => false

/-- Whether the characters behind the first semicolon are parameters. -/
def areParameters (cs : List Char) : Bool :=
  (cs.foldlM Place.step .beforeName).any Place.isEnd

/-- A subtype split at its last plus sign, unless that is its first character. -/
def splitSuffix (subtype : List Char) : List Char × Option (List Char) :=
  let suffix := (subtype.reverse.takeWhile (· != '+')).reverse
  let before := subtype.take (subtype.length - suffix.length - 1)
  if before.isEmpty || suffix.length == subtype.length then (subtype, none)
  else (before, some suffix)

def lowerText (cs : List Char) : String :=
  String.ofList (cs.map Char.toLower)

/-- The media type that a header states. Headers of other characters than
visible ones of ASCII, blanks and tabs state none. -/
def ofText? (text : String) : Option MediaType :=
  let cs := text.toList
  let type := cs.takeWhile tokenChar
  match cs.drop type.length with
  | '/' :: rest =>
    let subtype := rest.takeWhile tokenChar
    let isOver := match rest.drop subtype.length with
      | [] => true
      | ';' :: parameters => !subtype.isEmpty && areParameters parameters
      | _ => false
    if type.isEmpty || !isOver || cs.any (fun c => 126 < c.toNat) then none
    else
      let (name, suffix) := splitSuffix subtype
      some ⟨lowerText type, lowerText name, suffix.map lowerText⟩
  | _ => none

def isJson (m : MediaType) : Bool :=
  m.type == "application" && (m.subtype == "json" || m.suffix == some "json")

end MediaType

end DossierCompliance
