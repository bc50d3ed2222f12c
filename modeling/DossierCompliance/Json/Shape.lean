import DossierCompliance.Json.Reader

/-!
Reading typed records out of JSON. A record is given as an object, or as an
array of its fields in their order. Each field is read on its own and once; of
the mismatches found, the one written first is reported, and fields that are
missing come after all that is written. What is read in the end does not
depend on the order of the members.
-/

namespace DossierCompliance.Json

inductive Mismatch where
  | missingField (name : String)
  | unknownField (name : String) (known : List String)
  | duplicateField (name : String)
  | unknownVariant (name : String) (known : List String)
  /-- A text outside the grammar of its field, with the complaint about it. -/
  | refusedText (complaint : String)
  /-- Another kind of value than the wanted one, or a size out of range. -/
  | wrongKind
  /-- A wrong kind of value that a text shows by another mismatch. -/
  | wrongKindOrInText (inText : Mismatch)
  | fault (fault : Fault)

/-- The mismatch as a text shows it. -/
def Mismatch.inText : Mismatch → Mismatch
  | .wrongKindOrInText m => m.inText
  | m => m

/-- The mismatch as a value shows it, whose syntax is settled. -/
def Mismatch.inValue : Mismatch → Mismatch
  | .wrongKindOrInText _ => .wrongKind
  | m => m

def backquoted (name : String) : String :=
  String.ofList [Char.ofNat 0x60] ++ name ++ String.ofList [Char.ofNat 0x60]

/-- The names that would have been right. -/
def expected : List String → String
  | [] => "expected nothing"
  | [a] => "expected " ++ backquoted a
  | [a, b] => "expected " ++ backquoted a ++ " or " ++ backquoted b
  | names => "expected one of " ++ String.intercalate ", " (names.map backquoted)

def Mismatch.message : Mismatch → String
  | .missingField name => "missing field " ++ backquoted name
  | .unknownField name known => "unknown field " ++ backquoted name ++ ", " ++ expected known
  | .duplicateField name => "duplicate field " ++ backquoted name
  | .unknownVariant name known => "unknown variant " ++ backquoted name ++ ", " ++ expected known
  | .refusedText complaint => complaint
  | .wrongKind => "a value does not have the expected kind"
  | .wrongKindOrInText m => m.message
  | .fault .malformed => "the text is not JSON"
  | .fault .truncated => "the text ends early"

abbrev Decoder (α : Type) := Reading → Except Mismatch α

namespace Decoder

/-- Why a reading is not what is wanted. A container that cannot be taken is
still seen to be one. -/
def refusal : Reading → Mismatch
  | .flawed _ (.array _ _) | .flawed _ (.object _ _) => .wrongKind
  | .flawed fault _ | .broken fault => .fault fault
  | _ => .wrongKind

def text : Decoder String := fun r =>
  match r.text? with
  | some s => .ok s
  | none => .error (refusal r)

def parsed {α : Type} (f : String → Option α) : Decoder α := fun r => do
  match f (← text r) with
  | some a => return a
  | none => throw .wrongKind

def boolean : Decoder Bool
  | .bool b | .scalar _ _ (.bool b) => .ok b
  | r => .error (refusal r)

def number : Decoder Number
  | .number n | .scalar _ _ (.number n) => .ok n
  | r => .error (refusal r)

def real : Decoder Float := fun r =>
  return (← number r).toFloat

/-- A whole number from `low` up to but not including `high`. -/
def wholeIn (low high : Int) : Decoder Int := fun r => do
  match ← number r with
  | .whole n => if low ≤ n && n < high then return n else throw .wrongKind
  | .real _ => throw .wrongKind

def int64 : Decoder Int :=
  wholeIn (-(Nat.pow 2 63 : Int)) (Nat.pow 2 63)

/-- Any value, in normal form. -/
def value : Decoder Json := fun r =>
  r.toJson.mapError .fault

/-- Null, or what the given decoder reads. -/
def optional {α : Type} (decode : Decoder α) : Decoder (Option α)
  | .null | .scalar _ true .null => .ok none
  | .scalar _ true (.flawed fault _) => .error (.fault fault)
  | r => (decode r).map some

def each {α : Type} (decode : Decoder α) (items : List Reading) (ending : Option Fault) :
    Except Mismatch (List α) :=
  match items with
  | [] => match ending with
    | none => .ok []
    | some fault => .error (.fault fault)
  | item :: rest => do
    let a ← decode item
    let more ← each decode rest ending
    return a :: more

def list {α : Type} (decode : Decoder α) : Decoder (List α)
  | .array items ending => each decode items ending
  | .list items | .marked _ (.list items) => each decode items none
  | .scalar "" true _ | .marked _ (.scalar "" true _) => .ok []
  | .flawed fault (.array _ _) => .error (.fault fault)
  | r => .error (refusal r)

def variantNamed {α : Type} (variants : List (String × α)) (name : String) : Except Mismatch α :=
  match variants.find? (·.1 == name) with
  | some (_, a) => .ok a
  | none => .error (.unknownVariant name (variants.map (·.1)))

/-- Null, as the content of a variant that has none. -/
def unit : Decoder Unit
  | .null => .ok ()
  | r => .error (refusal r)

/-- A member of a closed set: its name, or an object that maps its name to null. -/
def variant {α : Type} (variants : List (String × α)) : Decoder α
  | .string name | .scalar name _ _ => variantNamed variants name
  | .marked name inner => do
    let a ← variantNamed variants name
    match inner with
    | .null | .scalar _ true .null => return a
    | _ => throw .wrongKind
  | .object [(name, inner)] ending => do
    let a ← variantNamed variants name
    unit inner
    match ending with
    | .closed => return a
    | .atComma fault => throw (.fault fault)
    | .atMember _ _ | .atKey _ => throw (.fault .malformed)
  | .object ((name, inner) :: _) _ =>
    match do let _ ← variantNamed variants name; unit inner with
    | .error m => .error (.wrongKindOrInText m)
    | .ok () => .error (.wrongKindOrInText (.fault .malformed))
  | .object [] (.atComma fault) | .object [] (.atMember _ (some fault)) | .broken fault =>
    .error (.fault fault)
  | .object [] (.atMember _ none) => .error .wrongKind
  | _ => .error (.wrongKindOrInText (.fault .malformed))

end Decoder

/-- The outcome of reading one part of a record, a mismatch with its place in the text. -/
inductive Placed (α : Type) where
  | ok (value : α)
  | failed (place : Nat) (why : Mismatch)

namespace Placed

def ofExcept {α : Type} (place : Nat) : Except Mismatch α → Placed α
  | .ok a => .ok a
  | .error m => .failed place m

def toExcept {α : Type} : Placed α → Except Mismatch α
  | .ok a => .ok a
  | .failed _ m => .error m

/-- Both parts, or the mismatch that stands first; at one place the left part's counts. -/
def seq {α β : Type} : Placed (α → β) → Placed α → Placed β
  | .ok f, .ok a => .ok (f a)
  | .failed place m, .ok _ => .failed place m
  | .ok _, .failed place m => .failed place m
  | .failed p m, .failed q n => if p ≤ q then .failed p m else .failed q n

instance : Applicative Placed where
  pure := .ok
  seq f a := seq f (a ())

end Placed

/-- The fields of a record as they are written. `left` counts the items behind
the last field of a record given as an array. -/
structure Fields where
  entries : List (String × Reading)
  ending : Option Fault
  positional : Bool
  left : Nat

namespace Fields

def ofReading (names : List String) : Reading → Except Mismatch Fields
  | .object members ending => .ok ⟨members, ending.fault?, false, 0⟩
  | .mapping entries | .marked _ (.mapping entries) => do
    let members ← entries.mapM fun (key, r) => return (← Decoder.text key, r)
    return ⟨members, none, false, 0⟩
  | .array items ending => .ok ⟨names.zip items, ending, true, items.length - names.length⟩
  | .scalar "" true _ | .marked _ (.scalar "" true _) => .ok ⟨[], none, false, 0⟩
  | .flawed fault _ | .broken fault => .error (.fault fault)
  | _ => .error .wrongKind

/-- The first entry with a name among those from a place on. -/
def findFrom? (name : String) (place : Nat) : List (String × Reading) → Option (Nat × Reading)
  | [] => none
  | (key, r) :: rest => if key == name then some (place, r) else findFrom? name (place + 1) rest

def find? (fs : Fields) (name : String) : Option (Nat × Reading) :=
  findFrom? name 0 fs.entries

/-- The place of all that is missing, behind the end of what is written. -/
def behind (fs : Fields) : Nat :=
  fs.entries.length + 1

def missing {α : Type} (fs : Fields) (name : String) : Placed α :=
  .failed fs.behind (if fs.positional then .wrongKind else .missingField name)

def required {α : Type} (fs : Fields) (name : String) (decode : Decoder α) : Placed α :=
  match fs.find? name with
  | some (place, r) => .ofExcept place (decode r)
  | none => fs.missing name

/-- A field that is `absent` when it is not written. -/
def defaulted {α : Type} (fs : Fields) (name : String) (absent : α) (decode : Decoder α) :
    Placed α :=
  match fs.find? name with
  | some (place, r) => .ofExcept place (decode r)
  | none => .ok absent

/-- A field that may be left out or null. -/
def optional {α : Type} (fs : Fields) (name : String) (decode : Decoder α) : Placed (Option α) :=
  fs.defaulted name none (Decoder.optional decode)

/-- A field that may be null, and left out of an object. -/
def nullable {α : Type} (fs : Fields) (name : String) (decode : Decoder α) : Placed (Option α) :=
  if fs.positional then fs.required name (Decoder.optional decode) else fs.optional name decode

/-- Checks the names of the entries from a place on: unknown ones are read over
unless the record is `closed`, and none may come twice. -/
def checkFrom (names : List String) (closed : Bool) (ending : Option Fault) (place : Nat)
    (seen : List String) : List (String × Reading) → Placed Unit
  | [] => match ending with
    | none => .ok ()
    | some fault => .failed place (.fault fault)
  | (key, r) :: rest =>
    if names.contains key then
      if seen.contains key then .failed place (.duplicateField key)
      else checkFrom names closed ending (place + 1) (key :: seen) rest
    else if closed then .failed place (.unknownField key names)
    else match r.skipFault? with
      | some fault => .failed place (.fault fault)
      | none => checkFrom names closed ending (place + 1) seen rest

def check (fs : Fields) (names : List String) (closed : Bool) : Placed Unit :=
  if 0 < fs.left then .failed fs.behind (.wrongKindOrInText (.fault .malformed))
  else checkFrom names closed fs.ending 0 [] fs.entries

end Fields

/-- A record with the given field names, `closed` to all others. -/
def Decoder.record {α : Type} (names : List String) (closed : Bool) (build : Fields → Placed α) :
    Decoder α := fun r => do
  let fs ← Fields.ofReading names r
  ((fun _ a => a) <$> fs.check names closed <*> build fs).toExcept

def Document.decode {α : Type} (decode : Decoder α) (document : Document) : Except Mismatch α :=
  match decode document.root with
  | .error m => .error m.inText
  | .ok a => if document.trailing then .error (.fault .malformed) else .ok a

def decodeText {α : Type} (decode : Decoder α) (text : String) : Except Mismatch α :=
  (Document.read text).decode decode

def decodeValue {α : Type} (decode : Decoder α) (j : Json) : Except Mismatch α :=
  (decode j.toReading).mapError Mismatch.inValue

end DossierCompliance.Json
