import DossierCompliance.Dossier.Status
import DossierCompliance.Dossier.Vocabulary
import DossierCompliance.Calendar.Instant

/-!
A training dossier with all that belongs to it, and the figures derived from
it. Both the regulatory checks and the snapshot that rules see take these
figures from here.
-/

namespace DossierCompliance

/-- The tenant that owns a dossier. -/
structure Organization where
  id : String
  name : String
  /-- As it is stored, valid or not. -/
  ndaNumber : Option String
  qualiopiCertified : Bool
  /-- The last day of the certification, if one is known. -/
  qualiopiValidUntil : Option Date
  kind : OrganizationKind
  siret : Option String

structure Learner where
  firstName : String
  lastName : String
  email : Option String

structure Financer where
  id : String
  name : String
  channel : FundingChannel

structure Contract where
  id : String
  status : ContractStatus
  signedAt : Option Instant
  amountCents : Int
  financer : Option Financer

structure Certification where
  code : String
  title : String

structure Programme where
  id : String
  title : String
  durationHours : Float
  certification : Option Certification

structure Session where
  id : String
  startDate : Date
  endDate : Date
  programme : Programme

structure Proof where
  id : String
  kind : ProofKind
  uploadedAt : Instant

structure Attendance where
  date : Date
  hoursScheduled : Float
  hoursAttended : Float
  absenceJustified : Bool

structure Dossier where
  id : String
  tenantId : String
  status : Status
  learner : Learner
  organization : Organization
  contracts : List Contract
  session : Option Session
  proofs : List Proof
  attendance : List Attendance
  certificateGenerated : Bool
  employerReference : Option String
  supervisorName : Option String

def Organization.qualiopiActiveOn (o : Organization) (today : Date) : Bool :=
  o.qualiopiCertified && match o.qualiopiValidUntil with
    | none => true
    | some last => today ≤ last

def distinct {α : Type} [DecidableEq α] (items : List α) : List α :=
  items.foldl (fun kept item => if item ∈ kept then kept else kept ++ [item]) []

namespace Dossier

def total (hours : List Float) : Float :=
  hours.foldl (· + ·) 0.0

def hoursScheduled (d : Dossier) : Float :=
  total (d.attendance.map (·.hoursScheduled))

def hoursAttended (d : Dossier) : Float :=
  total (d.attendance.map (·.hoursAttended))

/-- A percentage brought into the range from 0 to 100. -/
def limited (x : Float) : Float :=
  if x < 0.0 then 0.0 else if 100.0 < x then 100.0 else x

/-- The attended hours as a percentage of the scheduled ones, not rounded;
zero when nothing is scheduled. -/
def attendanceRate (d : Dossier) : Float :=
  if d.hoursScheduled ≤ 0.0 then 0.0 else limited (d.hoursAttended / d.hoursScheduled * 100.0)

def hasSignedContract (d : Dossier) : Bool :=
  d.contracts.any fun c => c.status == .signed

/-- The financer of the first contract that has one. -/
def financer? (d : Dossier) : Option Financer :=
  d.contracts.findSome? (·.financer)

/-- The funding channels of all contracts, each once, in order. -/
def fundingChannels (d : Dossier) : List FundingChannel :=
  distinct (d.contracts.filterMap fun c => c.financer.map (·.channel))

/-- The channels of public or mutualised funds among them. -/
def regulatedChannels (d : Dossier) : List FundingChannel :=
  d.fundingChannels.filter (·.isRegulated)

def hasJustifiedAbsenceProof (d : Dossier) : Bool :=
  d.proofs.any fun p => p.kind == .absenceJustification

end Dossier

end DossierCompliance
