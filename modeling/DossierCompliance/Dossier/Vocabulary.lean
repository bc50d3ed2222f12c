import DossierCompliance.Named

/-!
The closed vocabularies of organizations, contracts and supporting documents.
-/

namespace DossierCompliance

inductive FundingChannel where
  | cpf
  | opco
  | franceTravail
  | region
  | employer
  | personal
  deriving DecidableEq

instance : Named FundingChannel where
  all := [.cpf, .opco, .franceTravail, .region, .employer, .personal]
  identifier
    | .cpf => "Cpf"
    | .opco => "Opco"
    | .franceTravail => "FranceTravail"
    | .region => "Region"
    | .employer => "Employer"
    | .personal => "Personal"
  name
    | .cpf => "CPF"
    | .opco => "OPCO"
    | .franceTravail => "FRANCE_TRAVAIL"
    | .region => "REGION"
    | .employer => "EMPLOYER"
    | .personal => "PERSONAL"

/-- Public or mutualised funds, which only a certified provider may receive. -/
def FundingChannel.isRegulated : FundingChannel → Bool
  | .cpf | .opco | .franceTravail | .region => true
  | .employer | .personal => false

inductive OrganizationKind where
  | trainingProvider
  | apprenticeshipCenter
  deriving DecidableEq

instance : Named OrganizationKind where
  all := [.trainingProvider, .apprenticeshipCenter]
  identifier
    | .trainingProvider => "TrainingProvider"
    | .apprenticeshipCenter => "ApprenticeshipCenter"
  name
    | .trainingProvider => "TRAINING_PROVIDER"
    | .apprenticeshipCenter => "APPRENTICESHIP_CENTER"

inductive ContractStatus where
  | draft
  | sent
  | signed
  | terminated
  deriving DecidableEq

instance : Named ContractStatus where
  all := [.draft, .sent, .signed, .terminated]
  identifier
    | .draft => "Draft"
    | .sent => "Sent"
    | .signed => "Signed"
    | .terminated => "Terminated"
  name
    | .draft => "DRAFT"
    | .sent => "SENT"
    | .signed => "SIGNED"
    | .terminated => "TERMINATED"

inductive ProofKind where
  | attendanceSheet
  | absenceJustification
  | completionCertificate
  | invoice
  | other
  deriving DecidableEq

instance : Named ProofKind where
  all := [.attendanceSheet, .absenceJustification, .completionCertificate, .invoice, .other]
  identifier
    | .attendanceSheet => "AttendanceSheet"
    | .absenceJustification => "AbsenceJustification"
    | .completionCertificate => "CompletionCertificate"
    | .invoice => "Invoice"
    | .other => "Other"
  name
    | .attendanceSheet => "ATTENDANCE_SHEET"
    | .absenceJustification => "ABSENCE_JUSTIFICATION"
    | .completionCertificate => "COMPLETION_CERTIFICATE"
    | .invoice => "INVOICE"
    | .other => "OTHER"

inductive SiteKind where
  | standard
  | regional
  | apprenticeship
  deriving DecidableEq

instance : Named SiteKind where
  all := [.standard, .regional, .apprenticeship]
  identifier
    | .standard => "Standard"
    | .regional => "Regional"
    | .apprenticeship => "Apprenticeship"
  name
    | .standard => "STANDARD"
    | .regional => "REGIONAL"
    | .apprenticeship => "APPRENTICESHIP"

end DossierCompliance
