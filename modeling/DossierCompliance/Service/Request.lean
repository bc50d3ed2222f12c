import DossierCompliance.Json.Shape
import DossierCompliance.Service.MediaType
import DossierCompliance.Service.Target
import DossierCompliance.Text.Percent
import DossierCompliance.Text.Split
import DossierCompliance.Text.Utf8

/-!
Requests to the service, as they arrive: the parts of the target still
encoded, the body still in bytes. What cannot be read out of a request is told by
the part that is at fault.
-/

namespace DossierCompliance

structure Request extends Target where
  method : String
  contentType : Option String
  body : List UInt8

inductive Unreadable where
  | path
  | query
  | contentType
  | size
  | body (why : Json.Mismatch)

def Unreadable.message : Unreadable → String
  | .path => "the path cannot be read"
  | .query => "the query cannot be read"
  | .contentType => "the body has to be declared as JSON"
  | .size => "the body is too large"
  | .body why => "the body cannot be read: " ++ why.message

namespace Request

def isHeaderText (text : String) : Bool :=
  text.toList.all fun c => c == '\t' || (0x20 ≤ c.toNat && c.toNat != 0x7F)

/-- A request with a text as its body, if its method is a word, its target can be read and
its content type can stand in a header. -/
def ofParts? (method target : String) (contentType : Option String) (body : String) :
    Option Request := do
  let place ← Target.ofText? target
  guard (method != "" && method.toList.all MediaType.tokenChar && contentType.all isHeaderText)
  return { place with method, contentType, body := Text.Utf8.encode body }

/-! ### Query -/

/-- A name or value of a query as it is meant: plus signs are blanks. -/
def queryText (cs : List Char) : String :=
  Text.Percent.decodeLenient (String.ofList (cs.map fun c => if c == '+' then ' ' else c))

def queryPair (part : List Char) : String × String :=
  (queryText (part.takeWhile (· != '=')), queryText ((part.dropWhile (· != '=')).drop 1))

def queryPairs (r : Request) : List (String × String) :=
  ((Text.splitChars '&' r.query.toList).filter fun part => !part.isEmpty).map queryPair

/-- The value of a name of the query, which may not come twice. -/
def queryValue (r : Request) (name : String) : Except Unreadable (Option String) :=
  match r.queryPairs.filter fun pair => pair.1 == name with
  | [] => .ok none
  | [pair] => .ok (some pair.2)
  | _ => .error .query

/-! ### Body -/

def bodyLimit : Nat := 2097152

def isJson (r : Request) : Bool :=
  (r.contentType.bind MediaType.ofText?).any MediaType.isJson

/-- What is read for a damaged place of a body: a letter that begins no value, and the
escape of half a character. Outside a string and in an escape the letter is refused, and
in a string the half; but a string that is only read over may hold both, as its bytes are
not looked at. -/
def damage : List Char :=
  ['x', '\\', 'u', 'd', 'c', '0', '0']

/-- The text that the body is read as. -/
def bodyText (r : Request) : String :=
  String.ofList ((Text.Utf8.read r.body).flatMap fun c => c.elim damage List.singleton)

def decodeBody {α : Type} (r : Request) (decode : Json.Decoder α) : Except Unreadable α :=
  if !r.isJson then .error .contentType
  else if bodyLimit < r.body.length then .error .size
  else (Json.decodeText decode r.bodyText).mapError .body

end Request

end DossierCompliance
