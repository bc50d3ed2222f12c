import DossierCompliance.Rule.Operator
import DossierCompliance.Value.Path

/-!
Conditions. A comparison sets the value at a field path against an operand; a
condition is a chain of comparisons that must all hold. That is the whole
language: there is no other connective, and every comparison of a chain sees
the same snapshot.
-/

namespace DossierCompliance

structure Comparison where
  field : String
  operator : Operator
  operand : Option Value

/-- A chain of at least one comparison. -/
inductive Condition where
  | single (test : Comparison)
  | also (test : Comparison) (rest : Condition)

namespace Comparison

/-- The operand to compare with: null when the rule gives none. -/
def operandOrNull (c : Comparison) : Value :=
  c.operand.getD .null

/-- Whether the operand is of a kind that the operator never matches. -/
def isInert (c : Comparison) : Bool :=
  (c.operator.isNumeric && c.operandOrNull.number?.isNone)
    || (c.operator.isTextual && c.operandOrNull.text?.isNone)

def members (c : Comparison) : List (String × Json) :=
  [("field", .string c.field), ("operator", Named.toJson c.operator)]
    ++ (c.operand.map fun v => ("value", v.toJson)).toList

end Comparison

namespace Condition

def comparisons : Condition → List Comparison
  | .single test => [test]
  | .also test rest => test :: rest.comparisons

/-- The chain of the comparisons of both conditions. -/
def and : Condition → Condition → Condition
  | .single test, next => .also test next
  | .also test rest, next => .also test (rest.and next)

def fields (c : Condition) : List String :=
  c.comparisons.map (·.field)

def inert (c : Condition) : List Comparison :=
  c.comparisons.filter (·.isInert)

/-! ### Writing -/

/-- The members of a condition in the order in which they are written. -/
def writtenMembers : Condition → List (String × Json)
  | .single test => test.members
  | .also test rest => test.members ++ [("additionalCheck", .object rest.writtenMembers)]

def written (c : Condition) : Json :=
  .object c.writtenMembers

def toJson (c : Condition) : Json :=
  c.written.sorted

/-! ### Reading -/

def names : List String :=
  ["field", "operator", "value", "additionalCheck"]

def ofParts (field : String) (operator : Operator) (operand : Option Value)
    (rest : Option Condition) : Condition :=
  match rest with
  | none => .single ⟨field, operator, operand⟩
  | some rest => .also ⟨field, operator, operand⟩ rest

/-- A condition out of its fields, the nested check already read. -/
def ofFields (nested : Json.Placed (Option Condition)) (fs : Json.Fields) :
    Json.Placed Condition :=
  ofParts <$> fs.required "field" Json.Decoder.text
    <*> fs.required "operator" Named.decode
    <*> fs.optional "value" Value.decode
    <*> nested

mutual

def decode : Json.Reading → Except Json.Mismatch Condition
  | .object members ending =>
    (Json.Decoder.record names true (ofFields (decodeMember 0 members))) (.object members ending)
  | .array items ending =>
    (Json.Decoder.record names true (ofFields (decodeItem 0 items))) (.array items ending)
  | .mapping entries =>
    (Json.Decoder.record names true (ofFields (decodeEntry 0 entries))) (.mapping entries)
  | .marked _ r => decode r
  | r => (Json.Decoder.record names true (ofFields (.ok none))) r

/-- The nested check among the members of a condition, from a place on. -/
def decodeMember (place : Nat) : List (String × Json.Reading) → Json.Placed (Option Condition)
  | [] => .ok none
  | (key, r) :: rest =>
    if key == "additionalCheck" then
      if r.isNull then .ok none else .ofExcept place (some <$> decode r)
    else decodeMember (place + 1) rest

/-- The nested check among the entries of a condition, from a place on. -/
def decodeEntry (place : Nat) : List (Json.Reading × Json.Reading) → Json.Placed (Option Condition)
  | [] => .ok none
  | (key, r) :: rest =>
    if key.text? == some "additionalCheck" then
      if r.isNull then .ok none else .ofExcept place (some <$> decode r)
    else decodeEntry (place + 1) rest

/-- The nested check among the items of a condition, from a place on. -/
def decodeItem (place : Nat) : List Json.Reading → Json.Placed (Option Condition)
  | [] => .ok none
  | r :: rest =>
    if place == 3 then
      if r.isNull then .ok none else .ofExcept place (some <$> decode r)
    else decodeItem (place + 1) rest

end

end Condition

end DossierCompliance
