import DossierCompliance.Assessment

/-!
Checks before an organization is taken on as a tenant, or a site of one is
created. They store nothing.
-/

namespace DossierCompliance

open Json (Decoder)

structure SiteDraft where
  name : String
  kind : SiteKind
  uaiCode : Option String

structure OrganizationDraft where
  name : String
  kind : OrganizationKind
  siret : Option String
  ndaNumber : Option String
  /-- Has to be stated, either way. -/
  qualiopiCertified : Option Bool

namespace SiteDraft

def decode : Decoder SiteDraft :=
  Decoder.record ["name", "kind", "uai_code"] false fun fs =>
    SiteDraft.mk <$> fs.required "name" Decoder.text
      <*> fs.required "kind" Named.decode
      <*> fs.optional "uai_code" Decoder.text

/-- Whether the site takes part in a programme that registers sites. -/
def isRegistered (s : SiteDraft) : Bool :=
  s.kind == .regional || s.kind == .apprenticeship

def uaiRequired : String := "RULE_UAI_REQUIRED"

def codeComplaint? (s : SiteDraft) : Option String :=
  match s.uaiCode.map Text.trim with
  | none | some "" => some (uaiRequired ++ ": site \"" ++ s.name ++ "\" requires a UAI code.")
  | some code =>
    match Uai.ofText code with
    | .ok _ => none
    | .error _ =>
      some (uaiRequired ++ ": UAI code \"" ++ code
        ++ "\" is invalid, expected 7 digits followed by an uppercase letter.")

/-- Regional and apprenticeship sites, and all sites of an apprenticeship
center, need a code. -/
def verdict (s : SiteDraft) (tenant : Organization) : Verdict where
  errors :=
    if s.isRegistered || tenant.kind == .apprenticeshipCenter then s.codeComplaint?.toList else []
  warnings := []

end SiteDraft

namespace OrganizationDraft

def names : List String :=
  ["name", "kind", "siret", "nda_number", "qualiopi_certified"]

def decode : Decoder OrganizationDraft :=
  Decoder.record names false fun fs =>
    OrganizationDraft.mk <$> fs.required "name" Decoder.text
      <*> fs.required "kind" Named.decode
      <*> fs.optional "siret" Decoder.text
      <*> fs.optional "nda_number" Decoder.text
      <*> fs.optional "qualiopi_certified" Decoder.boolean

def toJson (d : OrganizationDraft) : Json :=
  .ofMembers
    [("name", .string d.name), ("kind", Named.toJson d.kind), ("siret", .ofText? d.siret),
     ("nda_number", .ofText? d.ndaNumber),
     ("qualiopi_certified", .ofOption .bool d.qualiopiCertified)]

def nameComplaint? (d : OrganizationDraft) : Option String :=
  if Text.isBlank d.name then some "Organization name is required." else none

def siretComplaint? (d : OrganizationDraft) : Option String :=
  match d.siret with
  | none => some "SIRET is required."
  | some text =>
    match Siret.ofText text with
    | .ok _ => none
    | .error _ => some ("SIRET \"" ++ text ++ "\" is invalid, expected 14 digits.")

def ndaComplaint? (d : OrganizationDraft) : Option String :=
  match d.ndaNumber with
  | none => some "Activity declaration number (NDA) is required."
  | some text =>
    match Nda.ofText text with
    | .ok _ => none
    | .error _ =>
      some ("Activity declaration number (NDA) \"" ++ text ++ "\" is invalid, expected 11 digits.")

def qualiopiComplaint? (d : OrganizationDraft) : Option String :=
  match d.qualiopiCertified with
  | none => some "Qualiopi certification status must be stated."
  | some _ => none

def qualiopiWarning? (d : OrganizationDraft) : Option String :=
  if d.qualiopiCertified == some false then
    some ("Without Qualiopi certification the organization cannot receive CPF, OPCO, "
      ++ "France Travail or regional funding.")
  else none

def verdict (d : OrganizationDraft) : Verdict where
  errors :=
    [d.nameComplaint?, d.siretComplaint?, d.ndaComplaint?, d.qualiopiComplaint?].filterMap id
  warnings := d.qualiopiWarning?.toList

end OrganizationDraft

end DossierCompliance
