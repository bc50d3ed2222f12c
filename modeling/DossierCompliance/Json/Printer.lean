import DossierCompliance.Json.Basic
import DossierCompliance.Text.Quoted

/-!
The text of a JSON value, on one line or indented. Only quotes, backslashes
and control characters are escaped; all other characters stand for themselves.
-/

namespace DossierCompliance.Json

def controlEscape (code : Nat) : List Char :=
  ['\\', 'u', '0', '0', Text.lowerHexDigit (code / 16), Text.lowerHexDigit (code % 16)]

def escapeChar (c : Char) : List Char :=
  match c with
  | '"' => ['\\', '"']
  | '\\' => ['\\', '\\']
  | '\x08' => ['\\', 'b']
  | '\x0c' => ['\\', 'f']
  | '\n' => ['\\', 'n']
  | '\r' => ['\\', 'r']
  | '\t' => ['\\', 't']
  | c => if c.toNat < 0x20 then controlEscape c.toNat else [c]

def stringChars (s : String) : List Char :=
  '"' :: s.toList.flatMap escapeChar ++ ['"']

def openBrace : Char := Char.ofNat 0x7B

def closeBrace : Char := Char.ofNat 0x7D

mutual

/-- The characters of a value on one line, without blanks between its parts. -/
def chars : Json → List Char
  | .null => ['n', 'u', 'l', 'l']
  | .bool true => ['t', 'r', 'u', 'e']
  | .bool false => ['f', 'a', 'l', 's', 'e']
  | .number n => n.render.toList
  | .string s => stringChars s
  | .array [] => ['[', ']']
  | .array (item :: rest) => '[' :: item.chars ++ itemChars rest
  | .object [] => [openBrace, closeBrace]
  | .object ((key, value) :: rest) =>
    openBrace :: stringChars key ++ ':' :: value.chars ++ memberChars rest

/-- The items after the first, each behind a comma, and the bracket. -/
def itemChars : List Json → List Char
  | [] => [']']
  | item :: rest => ',' :: item.chars ++ itemChars rest

/-- The members after the first, each behind a comma, and the brace. -/
def memberChars : List (String × Json) → List Char
  | [] => [closeBrace]
  | (key, value) :: rest => ',' :: stringChars key ++ ':' :: value.chars ++ memberChars rest

end

def render (j : Json) : String :=
  String.ofList j.chars

def newline (depth : Nat) : List Char :=
  '\n' :: List.replicate (2 * depth) ' '

mutual

/-- The characters of a value with one item or member to a line, two blanks deeper each level. -/
def indentedChars (depth : Nat) : Json → List Char
  | .array (item :: rest) =>
    '[' :: newline (depth + 1) ++ item.indentedChars (depth + 1) ++ indentedItems depth rest
  | .object ((key, value) :: rest) =>
    openBrace :: newline (depth + 1) ++ stringChars key ++ ':' :: ' ' ::
      value.indentedChars (depth + 1) ++ indentedMembers depth rest
  | j => j.chars

def indentedItems (depth : Nat) : List Json → List Char
  | [] => newline depth ++ [']']
  | item :: rest =>
    ',' :: newline (depth + 1) ++ item.indentedChars (depth + 1) ++ indentedItems depth rest

def indentedMembers (depth : Nat) : List (String × Json) → List Char
  | [] => newline depth ++ [closeBrace]
  | (key, value) :: rest =>
    ',' :: newline (depth + 1) ++ stringChars key ++ ':' :: ' ' ::
      value.indentedChars (depth + 1) ++ indentedMembers depth rest

end

def renderIndented (j : Json) : String :=
  String.ofList (j.indentedChars 0)

end DossierCompliance.Json
