import DossierCompliance.Text.Split
import DossierCompliance.Text.Utf8

/-!
Files as the program sees them: what is found under a path, and why a text
cannot be read there.
-/

namespace DossierCompliance

inductive FileFailure where
  | missing
  /-- A part of the path before its end is no directory. -/
  | notDirectory
  | isDirectory
  | notText
  | badName
  /-- The path, or a name in it, has too many bytes. -/
  | nameTooLong
  | other (why : String)

def FileFailure.message : FileFailure → String
  | .missing => "No such file or directory (os error 2)"
  | .notDirectory => "Not a directory (os error 20)"
  | .isDirectory => "Is a directory (os error 21)"
  | .notText => "stream did not contain valid UTF-8"
  | .badName => "file name contained an unexpected NUL byte"
  | .nameTooLong => "File name too long (os error 36)"
  | .other why => why

inductive FileContent where
  | bytes (content : List UInt8)
  | directory
  | failed (why : FileFailure)

abbrev Files := String → FileContent

namespace FileContent

def isFound : FileContent → Bool
  | .bytes _ | .directory => true
  | .failed _ => false

def text : FileContent → Except FileFailure String
  | .bytes content => match Text.Utf8.decode? content with
    | some s => .ok s
    | none => .error .notText
  | .directory => .error .isDirectory
  | .failed why => .error why

end FileContent

namespace File

def pathParts (path : String) : List (List Char) :=
  Text.splitChars '/' path.toList

def longestPath : Nat := 4095

def longestName : Nat := 255

def isNameTooLong (part : List Char) : Bool :=
  longestName < (String.ofList part).utf8ByteSize

/-- Whether a part of a path leads nowhere else. -/
def isIdle (part : List Char) : Bool :=
  part.isEmpty || part == ['.']

/-- The name of the file or directory that a path ends in. -/
def name? (path : String) : Option (List Char) :=
  (((pathParts path).filter fun part => !isIdle part).getLast?).filter (· != ['.', '.'])

/-- What stands behind the last point of the name, unless the name begins with it. -/
def extension? (path : String) : Option String :=
  (name? path).bind fun name =>
    let ending := (name.reverse.takeWhile (· != '.')).reverse
    if name.length ≤ ending.length + 1 then none else some (String.ofList ending)

end File

end DossierCompliance
