import DossierCompliance.Violation
import DossierCompliance.Identity
import DossierCompliance.Dossier.Basic

/-!
The regulatory checks. They hold for every tenant, come before all rules, and
always block: an activity declaration number for invoicing, a certification in
force for public or mutualised funding, and an employer and a supervisor for
apprentices.
-/

namespace DossierCompliance

/-- What a check may look at: the certification is asked for on a day. -/
structure CheckInput where
  dossier : Dossier
  target : Status
  today : Date

structure Check where
  ruleId : String
  violation? : CheckInput → Option Violation

namespace Regulation

def ndaRequired : String := "RULE_NDA_REQUIRED"

def qualiopiRequired : String := "RULE_QUALIOPI_REQUIRED"

def tutorRequired : String := "RULE_CFA_TUTOR_REQUIRED"

def blocking (ruleId message : String) (details : List (String × Json)) : Violation where
  ruleId := ruleId
  severity := .blocking
  context := .tenantCompliance
  message := message
  details := .ofMembers details

/-! ### Activity declaration -/

/-- The complaint about the stored activity declaration number, if it has no
eleven digits. -/
def ndaComplaint? (stored : Option String) (target : Status) : Option String :=
  let unable := ": the dossier cannot move to " ++ target.name ++ "."
  match stored with
  | none => some ("The organization has no activity declaration number (NDA)" ++ unable)
  | some text =>
    match Nda.ofText text with
    | .ok _ => none
    | .error _ =>
      some ("The organization's activity declaration number (NDA) is not 11 digits" ++ unable)

def checkNda (input : CheckInput) : Option Violation :=
  let organization := input.dossier.organization
  if !input.target.isInvoicing then none
  else (ndaComplaint? organization.ndaNumber input.target).map fun message =>
    blocking ndaRequired message
      [("organization_id", .string organization.id),
       ("nda_number", .ofText? organization.ndaNumber),
       ("target_status", Named.toJson input.target)]

/-! ### Certification -/

def checkQualiopi (input : CheckInput) : Option Violation :=
  let organization := input.dossier.organization
  let channels := input.dossier.regulatedChannels.map Named.name
  if input.target == .cancelled || channels.isEmpty
      || organization.qualiopiActiveOn input.today then none
  else
    some <| blocking qualiopiRequired
      ("An active Qualiopi certification is required for dossiers funded through "
        ++ String.intercalate ", " channels ++ ".")
      [("organization_id", .string organization.id), ("funding_channels", .texts channels),
       ("qualiopi_certified", .bool organization.qualiopiCertified),
       ("qualiopi_valid_until", .ofOption Date.toJson organization.qualiopiValidUntil),
       ("checked_on", input.today.toJson)]

/-! ### Apprenticeship -/

/-- The names of the fields that an apprentice's dossier lacks. -/
def missingTutorFields (d : Dossier) : List String :=
  [("employer_reference", d.employerReference), ("supervisor_name", d.supervisorName)].filterMap
    fun (name, stored) => if Text.isMissing stored then some name else none

def checkTutor (input : CheckInput) : Option Violation :=
  let missing := missingTutorFields input.dossier
  if input.dossier.organization.kind != .apprenticeshipCenter || !input.target.isActive
      || missing.isEmpty then none
  else
    some <| blocking tutorRequired
      ("Apprenticeship dossier is missing required fields: " ++ String.intercalate ", " missing
        ++ ".")
      [("missing_fields", .texts missing), ("target_status", Named.toJson input.target)]

/-- The checks in the order in which they are made. -/
def checks : List Check :=
  [⟨ndaRequired, checkNda⟩, ⟨qualiopiRequired, checkQualiopi⟩, ⟨tutorRequired, checkTutor⟩]

end Regulation

end DossierCompliance
