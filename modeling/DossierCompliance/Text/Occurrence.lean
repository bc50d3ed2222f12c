/-!
Whether a text occurs in another one.
-/

namespace DossierCompliance.Text

def occursInChars (part : List Char) : List Char → Bool
  | [] => part.isEmpty
  | c :: rest => part.isPrefixOf (c :: rest) || occursInChars part rest

def occursIn (part whole : String) : Bool :=
  occursInChars part.toList whole.toList

end DossierCompliance.Text
