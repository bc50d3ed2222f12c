import DossierCompliance.Json.Basic

/-!
What a reader finds in a text. A reading is a JSON tree in the order of the
text, repeated keys included, and it may stop at a fault. Keeping the fault
inside the tree lets a decoder report whichever comes first: a value of the
wrong shape, or the place where the text stops being JSON.
-/

namespace DossierCompliance.Json

/-- Why a text is not JSON: a character that cannot stand where it does, or an early end. -/
inductive Fault where
  | malformed
  | truncated
  deriving DecidableEq

inductive Ending where
  | closed
  /-- A fault in place of a comma or the brace. -/
  | atComma (fault : Fault)
  /-- A fault in place of a member. `asText` is the fault of the text that should stand first;
  none if another value stands there. -/
  | atMember (fault : Fault) (asText : Option Fault)
  /-- A key that cannot be taken, and the fault met when the rest is read over. -/
  | atKey (readOver : Option Fault)
  deriving DecidableEq

/-- The fault met when the members are taken. -/
def Ending.fault? : Ending → Option Fault
  | .closed => none
  | .atComma fault | .atMember fault _ => some fault
  | .atKey _ => some .malformed

/-- The fault met when the members are read over. -/
def Ending.skipFault? : Ending → Option Fault
  | .closed => none
  | .atComma fault | .atMember fault _ => some fault
  | .atKey readOver => readOver

inductive Reading where
  | null
  | bool (value : Bool)
  | number (value : Number)
  | string (value : String)
  /-- A scalar that is a text where a text is wanted and otherwise what it spells. It may
  stand for nothing at all if it is plain, that is, without quotes. -/
  | scalar (text : String) (isPlain : Bool) (spelled : Reading)
  /-- A value marked with the name of a variant. -/
  | marked (name : String) (inner : Reading)
  /-- Items that no record may be given as. -/
  | list (items : List Reading)
  /-- The items, and the fault found in place of the next comma or the bracket. -/
  | array (items : List Reading) (ending : Option Fault)
  | object (members : List (String × Reading)) (ending : Ending)
  /-- Entries under keys of any shape. -/
  | mapping (entries : List (Reading × Reading))
  /-- A value that cannot be taken; it is read over as `skipped`. -/
  | flawed (fault : Fault) (skipped : Reading)
  /-- Reading stopped here. -/
  | broken (fault : Fault)

namespace Reading

def text? : Reading → Option String
  | .string s | .scalar s _ _ | .marked _ (.string s) | .marked _ (.scalar s _ _) => some s
  | _ => none

/-- Whether the value is null, or a plain scalar that spells null. -/
def isNull : Reading → Bool
  | .null | .scalar _ true .null => true
  | _ => false

mutual

/-- The fault met when a value is read over. -/
def skipFault? : Reading → Option Fault
  | .null | .bool _ | .number _ | .string _ | .scalar _ _ _ => none
  | .marked _ inner => inner.skipFault?
  | .list items => skipItems? items
  | .array items ending => skipItems? items <|> ending
  | .object members ending => skipMembers? members <|> ending.skipFault?
  | .mapping entries => skipEntries? entries
  | .flawed _ skipped => skipped.skipFault?
  | .broken fault => some fault

def skipItems? : List Reading → Option Fault
  | [] => none
  | item :: rest => item.skipFault? <|> skipItems? rest

def skipMembers? : List (String × Reading) → Option Fault
  | [] => none
  | (_, value) :: rest => value.skipFault? <|> skipMembers? rest

def skipEntries? : List (Reading × Reading) → Option Fault
  | [] => none
  | (key, value) :: rest => key.skipFault? <|> value.skipFault? <|> skipEntries? rest

end

def endingWith {α : Type} (value : α) : Option Fault → Except Fault α
  | none => .ok value
  | some fault => .error fault

mutual

/-- The value in normal form, or the first fault of the text. -/
def toJson : Reading → Except Fault Json
  | .null => .ok .null
  | .bool b => .ok (.bool b)
  | .number n => .ok (.number n)
  | .string s => .ok (.string s)
  | .scalar _ _ spelled => spelled.toJson
  | .marked _ _ => .error .malformed
  | .list items => return .array (← toItems items)
  | .array items ending => do
    let values ← toItems items
    endingWith (.array values) ending
  | .object members ending => do
    let values ← toMembers members
    endingWith (.object (Members.sorted values)) ending.fault?
  | .mapping entries => return .object (Members.sorted (← toEntries entries))
  | .flawed fault _ => .error fault
  | .broken fault => .error fault

def toItems : List Reading → Except Fault (List Json)
  | [] => .ok []
  | item :: rest => do
    let value ← item.toJson
    let values ← toItems rest
    return value :: values

def toMembers : List (String × Reading) → Except Fault (List (String × Json))
  | [] => .ok []
  | (key, item) :: rest => do
    let value ← item.toJson
    let values ← toMembers rest
    return (key, value) :: values

/-- The members that entries stand for. Their keys have to be texts. -/
def toEntries : List (Reading × Reading) → Except Fault (List (String × Json))
  | [] => .ok []
  | (key, item) :: rest => do
    match ← key.toJson with
    | .string name =>
      let value ← item.toJson
      let values ← toEntries rest
      return (name, value) :: values
    | _ => throw .malformed

end

end Reading

mutual

def toReading : Json → Reading
  | .null => .null
  | .bool b => .bool b
  | .number n => .number n
  | .string s => .string s
  | .array items => .array (toReadings items) none
  | .object members => .object (toMemberReadings members) .closed

def toReadings : List Json → List Reading
  | [] => []
  | item :: rest => item.toReading :: toReadings rest

def toMemberReadings : List (String × Json) → List (String × Reading)
  | [] => []
  | (key, value) :: rest => (key, value.toReading) :: toMemberReadings rest

end

end DossierCompliance.Json
