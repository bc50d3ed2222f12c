import DossierCompliance.Text.Split
import DossierCompliance.Value

/-!
Field paths. A path is a list of keys joined by dots and walks down a value.
Before each key a list is replaced by its first element, the only access to
lists that paths have. Whatever is missing is null, so walking never fails.
-/

namespace DossierCompliance.Value

/-- The value a key is looked up in: a list stands for its first element. -/
def container : Value → Value
  | .list (first :: _) => first
  | .list [] => .null
  | v => v

def step (v : Value) (key : String) : Value :=
  v.container.get key

def resolveSegments (v : Value) (segments : List String) : Value :=
  segments.foldl step v

def segments (path : String) : List String :=
  Text.split '.' path

def resolve (v : Value) (path : String) : Value :=
  v.resolveSegments (segments path)

def wellFormed (path : String) : Bool :=
  (segments path).all fun s => !s.isEmpty

end DossierCompliance.Value
