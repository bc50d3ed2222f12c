import DossierCompliance.Named

/-!
The life of a training dossier: its statuses in order, the classes of statuses
that the regulatory checks ask for, and the phase of work that a change to
each status belongs to.
-/

namespace DossierCompliance

inductive Status where
  | draft
  | enrolled
  | contracted
  | inTraining
  | completed
  | invoiced
  | closed
  | cancelled
  deriving DecidableEq

inductive Phase where
  | admission
  | contracting
  | training
  | completion
  | billing
  | cancellation
  deriving DecidableEq

instance : Named Status where
  all := [.draft, .enrolled, .contracted, .inTraining, .completed, .invoiced, .closed, .cancelled]
  identifier
    | .draft => "Draft"
    | .enrolled => "Enrolled"
    | .contracted => "Contracted"
    | .inTraining => "InTraining"
    | .completed => "Completed"
    | .invoiced => "Invoiced"
    | .closed => "Closed"
    | .cancelled => "Cancelled"
  name
    | .draft => "DRAFT"
    | .enrolled => "ENROLLED"
    | .contracted => "CONTRACTED"
    | .inTraining => "IN_TRAINING"
    | .completed => "COMPLETED"
    | .invoiced => "INVOICED"
    | .closed => "CLOSED"
    | .cancelled => "CANCELLED"

instance : Named Phase where
  all := [.admission, .contracting, .training, .completion, .billing, .cancellation]
  identifier
    | .admission => "Admission"
    | .contracting => "Contracting"
    | .training => "Training"
    | .completion => "Completion"
    | .billing => "Billing"
    | .cancellation => "Cancellation"
  name
    | .admission => "ADMISSION"
    | .contracting => "CONTRACTING"
    | .training => "TRAINING"
    | .completion => "COMPLETION"
    | .billing => "BILLING"
    | .cancellation => "CANCELLATION"

namespace Status

abbrev name (s : Status) : String := Named.name s

/-- The learner is under contract. -/
def isActive : Status → Bool
  | .contracted | .inTraining => true
  | _ => false

/-- A financer is billed. -/
def isInvoicing : Status → Bool
  | .invoiced | .closed => true
  | _ => false

/-- The training itself has ended. -/
def isClosure : Status → Bool
  | .completed | .closed => true
  | _ => false

/-- The phase that a change to this status belongs to. -/
def phase : Status → Phase
  | .draft | .enrolled => .admission
  | .contracted => .contracting
  | .inTraining => .training
  | .completed => .completion
  | .invoiced | .closed => .billing
  | .cancelled => .cancellation

def unknownMessage (text : String) : String :=
  "unknown dossier status: \"" ++ text ++ "\""

def parse (text : String) : Except String Status :=
  match Named.ofName? text with
  | some s => .ok s
  | none => .error (unknownMessage text)

end Status

/-- What a rule is bound to: a change to a status, written with `TO_` before its name. -/
structure Trigger where
  target : Status
  deriving DecidableEq

namespace Trigger

def lead : List Char := ['T', 'O', '_']

def text (t : Trigger) : String :=
  String.ofList (lead ++ t.target.name.toList)

def invalidMessage (text : String) : String :=
  "invalid trigger: \"" ++ text ++ "\" (expected TO_<STATUS>)"

def ofText? (text : String) : Option Trigger :=
  match text.toList with
  | 'T' :: 'O' :: '_' :: name => (Named.ofName? (String.ofList name)).map Trigger.mk
  | _ => none

def parse (text : String) : Except String Trigger :=
  match ofText? text with
  | some t => .ok t
  | none => .error (invalidMessage text)

def fires (t : Trigger) (status : Status) : Bool :=
  t.target == status

def decode : Json.Decoder Trigger := fun r => do
  let text ← Json.Decoder.text r
  (parse text).mapError .refusedText

def toJson (t : Trigger) : Json :=
  .string t.text

end Trigger

end DossierCompliance
