import DossierCompliance.Decimal.Layout

/-!
JSON values. An object is the list of its members; a value whose objects have
strictly ascending keys at every level is in normal form, and every value that
comes out of a reader or a builder of this library is. Whole numbers and
numbers with a fraction are kept apart, since they are written differently.
-/

namespace DossierCompliance

abbrev Members (α : Type) := List (String × α)

namespace Members

variable {α : Type}

/-- Adds a member at its place among ascending keys, replacing one of the same key. -/
def put (key : String) (value : α) : Members α → Members α
  | [] => [(key, value)]
  | (k, v) :: rest =>
    if key < k then (key, value) :: (k, v) :: rest
    else if key == k then (key, value) :: rest
    else (k, v) :: put key value rest

/-- The members in ascending order of their keys; of several with one key the last is kept. -/
def sorted (entries : Members α) : Members α :=
  entries.foldl (fun ms entry => put entry.1 entry.2 ms) []

/-- The first member with a key. -/
def get? (ms : Members α) (key : String) : Option α :=
  (ms.find? fun entry => entry.1 == key).map (·.2)

def keys (ms : Members α) : List String :=
  ms.map (·.1)

/-- Keys strictly ascending, hence no key twice. -/
def Ascending (ms : Members α) : Prop :=
  ms.keys.Pairwise (· < ·)

end Members

namespace Json

/-- A whole number, or a binary64 number written with a fraction or an exponent. -/
inductive Number where
  | whole (value : Int)
  | real (value : Float)

/-- Numbers with a fraction are written positionally from `10^-5` up to but not
including `10^16`, always with a digit after the point. -/
def realLayout : Decimal.Layout where
  plainFrom := -5
  plainBelow := 16

def Number.toFloat : Number → Float
  | .whole n => Float.ofInt n
  | .real x => x

def Number.render : Number → String
  | .whole n => toString n
  | .real x => realLayout.render x

end Json

inductive Json where
  | null
  | bool (value : Bool)
  | number (value : Json.Number)
  | string (value : String)
  | array (items : List Json)
  | object (members : List (String × Json))

namespace Json

/-- An object with the given members, in normal form if their values are. -/
def ofMembers (entries : List (String × Json)) : Json :=
  .object (Members.sorted entries)

def ofNat (n : Nat) : Json :=
  .number (.whole n)

def ofInt (n : Int) : Json :=
  .number (.whole n)

/-- The number when it is finite, otherwise null. -/
def ofReal (x : Float) : Json :=
  if x.isFinite then .number (.real x) else .null

def ofOption {α : Type} (f : α → Json) : Option α → Json
  | none => .null
  | some a => f a

def ofText? : Option String → Json :=
  ofOption .string

def ofList {α : Type} (f : α → Json) (items : List α) : Json :=
  .array (items.map f)

def texts (items : List String) : Json :=
  ofList .string items

def get? (key : String) : Json → Option Json
  | .object members => Members.get? members key
  | _ => none

mutual

/-- A value in normal form: members in ascending order at every level. -/
def sorted : Json → Json
  | .null => .null
  | .bool b => .bool b
  | .number n => .number n
  | .string s => .string s
  | .array items => .array (sortedItems items)
  | .object members => .object (Members.sorted (sortedMembers members))

def sortedItems : List Json → List Json
  | [] => []
  | item :: rest => item.sorted :: sortedItems rest

def sortedMembers : List (String × Json) → List (String × Json)
  | [] => []
  | (key, value) :: rest => (key, value.sorted) :: sortedMembers rest

end

mutual

/-- Keys strictly ascending at every level. -/
def Normal : Json → Prop
  | .null | .bool _ | .number _ | .string _ => True
  | .array items => NormalItems items
  | .object members => Members.Ascending members ∧ NormalMembers members

def NormalItems : List Json → Prop
  | [] => True
  | item :: rest => item.Normal ∧ NormalItems rest

def NormalMembers : List (String × Json) → Prop
  | [] => True
  | (_, value) :: rest => value.Normal ∧ NormalMembers rest

end

end Json

end DossierCompliance
