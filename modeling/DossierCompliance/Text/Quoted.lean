import DossierCompliance.Text.Printable

/-!
Texts quoted inside messages. A message that repeats what somebody wrote shows
it between double quotes, with every character legible: a quote, a backslash
and the usual line controls behind a backslash, and any other character that
cannot be shown by its code point.
-/

namespace DossierCompliance.Text

def lowerHexDigit (n : Nat) : Char :=
  if n < 10 then Char.ofNat (48 + n) else Char.ofNat (87 + n)

/-- The lower-case hexadecimal digits of a number, without leading zeros. -/
def hexDigits (n : Nat) : List Char :=
  Nat.toDigits 16 n

def quotedChar (c : Char) : List Char :=
  match c with
  | '"' => ['\\', '"']
  | '\\' => ['\\', '\\']
  | '\n' => ['\\', 'n']
  | '\r' => ['\\', 'r']
  | '\t' => ['\\', 't']
  | '\x00' => ['\\', '0']
  | c =>
    if printable c then [c]
    else ['\\', 'u', Char.ofNat 0x7B] ++ hexDigits c.toNat ++ [Char.ofNat 0x7D]

/-- A text between double quotes, every character legible. -/
def quoted (s : String) : String :=
  String.ofList ('"' :: s.toList.flatMap quotedChar ++ ['"'])

/-- A file path between double quotes. A path may be pasted into a shell, where
single quotes count as well, so they too stand behind a backslash. -/
def quotedPath (s : String) : String :=
  String.ofList
    ('"' :: s.toList.flatMap (fun c => if c = '\'' then ['\\', c] else quotedChar c) ++ ['"'])

end DossierCompliance.Text
