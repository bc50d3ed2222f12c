import DossierCompliance.Json.Shape

/-!
Closed sets of names. Statuses, phases, funding channels and the like are
known outside by their upper-case names; each such type lists its members in
order. A member has two names: one that is given to it by hand, for messages,
columns and what is hashed, and one that is derived from the identifier that it
was declared by, for values that are written and read.
-/

namespace DossierCompliance

/-- A finite type whose members have names. -/
class Named (α : Type) where
  all : List α
  /-- Words without anything between them, each with a capital letter in front. -/
  identifier : α → String
  name : α → String

namespace Named

/-- An identifier with its words in capital letters and underscores between them. -/
def upperWords (identifier : String) : String :=
  match identifier.toList with
  | [] => ""
  | first :: others => String.ofList (first.toUpper ::
      others.flatMap fun c => if c.isUpper then ['_', c] else [c.toUpper])

variable {α : Type} [Named α]

def derivedName (a : α) : String :=
  upperWords (Named.identifier a)

def variants (α : Type) [Named α] : List (String × α) :=
  (Named.all : List α).map fun a => (derivedName a, a)

def ofName? (text : String) : Option α :=
  (Named.all : List α).find? fun a => Named.name a == text

def decode : Json.Decoder α :=
  Json.Decoder.variant (variants α)

def toJson (a : α) : Json :=
  .string (derivedName a)

end Named

end DossierCompliance
