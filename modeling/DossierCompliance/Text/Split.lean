/-!
Splitting at a separator. There is always at least one part; two separators
side by side, or one at either end, have an empty part between or beside them.
-/

namespace DossierCompliance.Text

def splitChars (separator : Char) : List Char → List (List Char)
  | [] => [[]]
  | c :: rest =>
    if c == separator then [] :: splitChars separator rest
    else match splitChars separator rest with
      | [] => [[c]]
      | part :: parts => (c :: part) :: parts

def split (separator : Char) (s : String) : List String :=
  (splitChars separator s.toList).map String.ofList

end DossierCompliance.Text
