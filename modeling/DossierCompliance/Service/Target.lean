/-!
Targets of requests: the text that says where a request goes. It is a path with
a query, or an address that ends in them, or the name of a server alone, or an
asterisk. A text with a character that has no place there is no target.
-/

namespace DossierCompliance

/-- A path and a query, both still encoded. -/
structure Target where
  path : String
  query : String
  deriving DecidableEq

namespace Target

/-- A target has fewer bytes than this. -/
def sizeLimit : Nat := 65535

def queryChar (c : Char) : Bool :=
  0x20 < c.toNat && !(['"', '#', '<', '>'].contains c)

def pathChar (c : Char) : Bool :=
  0x20 < c.toNat && !(['#', '<', '>', '?', Char.ofNat 0x60].contains c)

/-- The characters of a text up to its query or its fragment. -/
def uptoQuery (cs : List Char) : List Char :=
  cs.takeWhile fun c => c != '?' && c != '#'

/-- A path, perhaps with a query and a fragment, which does not count. An empty path is the root. -/
def ofPlace? (cs : List Char) : Option Target :=
  let path := uptoQuery cs
  let query := match cs.drop path.length with
    | '?' :: rest => rest.takeWhile (· != '#')
    | _ => []
  if path.all pathChar && query.all queryChar then
    some ⟨if path.isEmpty then "/" else String.ofList path, String.ofList query⟩
  else none

/-! ### Servers -/

def serverMarks : List Char :=
  ['!', '$', '%', '&', Char.ofNat 0x27, '(', ')', '*', '+', ',', '-', '.', ':', ';', '=', '@', '[',
   ']', '_', '~']

def behindLast (mark : Char) (cs : List Char) : List Char :=
  (cs.reverse.takeWhile (· != mark)).reverse

/-- Whether a text names a server: perhaps a user before an at sign, a name or
an address between brackets, and perhaps a port behind a colon. -/
def isServer (cs : List Char) : Bool :=
  let name := behindLast '@' cs
  let tail := behindLast ']' name
  !name.isEmpty && cs.all (fun c => c.isAlphanum || serverMarks.contains c)
    && cs.count '[' ≤ 1 && cs.count '[' == cs.count ']'
    && !tail.contains '%' && tail.count ':' ≤ 1

def schemeChar (c : Char) : Bool :=
  c.isAlphanum || c == '+' || c == '-' || c == '.'

/-- What stands behind the scheme of an address. -/
def behindScheme? (cs : List Char) : Option (List Char) :=
  match cs.dropWhile schemeChar with
  | ':' :: '/' :: '/' :: rest => some rest
  | _ => none

/-- The place on a server that an address names behind the scheme. -/
def ofAddress? (cs : List Char) : Option Target :=
  let server := (uptoQuery cs).takeWhile (· != '/')
  if isServer server then ofPlace? (cs.drop server.length) else none

/-- Reads a target. The name of a server alone leads to no path at all. -/
def ofText? (text : String) : Option Target :=
  let cs := text.toList
  if sizeLimit ≤ text.utf8ByteSize then none
  else if cs == ['*'] then some ⟨"*", ""⟩
  else if cs.head? == some '/' then ofPlace? cs
  else match behindScheme? cs with
    | some address => ofAddress? address
    | none => if isServer cs then some ⟨"", ""⟩ else none

end Target

end DossierCompliance
