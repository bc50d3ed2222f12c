import DossierCompliance.Rule.Condition

/-!
Evaluating a condition against a snapshot. The paths of the whole chain are
checked before any comparison, so whether evaluation fails depends on the
condition alone. An explanation reports every comparison, also behind one that
does not match.
-/

namespace DossierCompliance

/-- A field path that is empty or has an empty segment. -/
structure MalformedPath where
  path : String
  deriving DecidableEq

def MalformedPath.message (e : MalformedPath) : String :=
  "malformed field path " ++ Text.quoted e.path

/-- What one comparison saw, and whether it matched. -/
structure Explanation where
  field : String
  operator : Operator
  expected : Value
  actual : Value
  isMatched : Bool

namespace Explanation

def toJson (e : Explanation) : Json :=
  .ofMembers
    [("field", .string e.field), ("operator", Named.toJson e.operator),
     ("expected", e.expected.toJson), ("actual", e.actual.toJson), ("matched", .bool e.isMatched)]

end Explanation

namespace Comparison

def actual (snapshot : Value) (c : Comparison) : Value :=
  snapshot.resolve c.field

def holds (snapshot : Value) (c : Comparison) : Bool :=
  c.operator.matchesValue (c.actual snapshot) c.operandOrNull

/-- A comparison whose path is malformed sees null and does not match. -/
def explain (snapshot : Value) (c : Comparison) : Explanation :=
  let legible := Value.wellFormed c.field
  { field := c.field
    operator := c.operator
    expected := c.operandOrNull
    actual := if legible then c.actual snapshot else .null
    isMatched := legible && c.holds snapshot }

end Comparison

namespace Condition

/-- The first path of the chain that is malformed. -/
def malformed? (c : Condition) : Option String :=
  c.fields.find? fun path => !Value.wellFormed path

/-- Whether all comparisons hold, provided that all paths are well-formed. -/
def evaluate (snapshot : Value) (c : Condition) : Except MalformedPath Bool :=
  match c.malformed? with
  | some path => .error ⟨path⟩
  | none => .ok (c.comparisons.all (·.holds snapshot))

def explain (snapshot : Value) (c : Condition) : List Explanation :=
  c.comparisons.map (·.explain snapshot)

end Condition

end DossierCompliance
