import DossierCompliance.Dossier.Basic
import DossierCompliance.Value

/-!
What rules see of a dossier. Beside the nested parts there are fields for what
paths cannot reach, such as whether any of the contracts is signed.
-/

namespace DossierCompliance

def Date.snapshot (d : Date) : Value :=
  .text d.text

def Instant.snapshot (t : Instant) : Value :=
  .text t.offsetText

def Learner.snapshot (l : Learner) : Value :=
  .ofEntries
    [("first_name", .text l.firstName), ("last_name", .text l.lastName),
     ("email", .ofText? l.email)]

def Organization.snapshot (o : Organization) : Value :=
  .ofEntries
    [("id", .text o.id), ("name", .text o.name), ("nda_number", .ofText? o.ndaNumber),
     ("qualiopi_certified", .bool o.qualiopiCertified),
     ("qualiopi_valid_until", .ofOption Date.snapshot o.qualiopiValidUntil),
     ("kind", .text (Named.name o.kind)), ("siret", .ofText? o.siret)]

def Financer.snapshot (f : Financer) : Value :=
  .ofEntries
    [("id", .text f.id), ("name", .text f.name), ("channel", .text (Named.name f.channel))]

def Contract.snapshot (c : Contract) : Value :=
  .ofEntries
    [("id", .text c.id), ("status", .text (Named.name c.status)),
     ("signed_at", .ofOption Instant.snapshot c.signedAt), ("amount_cents", .ofInt c.amountCents),
     ("financer", .ofOption Financer.snapshot c.financer)]

def Certification.snapshot (c : Certification) : Value :=
  .ofEntries [("code", .text c.code), ("title", .text c.title)]

def Programme.snapshot (p : Programme) : Value :=
  .ofEntries
    [("id", .text p.id), ("title", .text p.title), ("duration_hours", .number p.durationHours),
     ("certification", .ofOption Certification.snapshot p.certification)]

def Session.snapshot (s : Session) : Value :=
  .ofEntries
    [("id", .text s.id), ("start_date", s.startDate.snapshot), ("end_date", s.endDate.snapshot),
     ("programme", s.programme.snapshot)]

def Proof.snapshot (p : Proof) : Value :=
  .ofEntries
    [("id", .text p.id), ("kind", .text (Named.name p.kind)),
     ("uploaded_at", p.uploadedAt.snapshot)]

def Attendance.snapshot (a : Attendance) : Value :=
  .ofEntries
    [("date", a.date.snapshot), ("hours_scheduled", .number a.hoursScheduled),
     ("hours_attended", .number a.hoursAttended), ("absence_justified", .bool a.absenceJustified)]

/-- The first contract stands for the list of contracts, as in paths. -/
def Dossier.snapshot (d : Dossier) : Value :=
  .ofEntries
    [("id", .text d.id), ("status", .text d.status.name), ("tenant_id", .text d.tenantId),
     ("learner", d.learner.snapshot), ("organization", d.organization.snapshot),
     ("contracts", .list (d.contracts.map Contract.snapshot)),
     ("contract", .ofOption Contract.snapshot d.contracts.head?),
     ("financer", .ofOption Financer.snapshot d.financer?),
     ("funding_channel", .ofText? (d.financer?.map fun f => Named.name f.channel)),
     ("has_signed_contract", .bool d.hasSignedContract),
     ("session", .ofOption Session.snapshot d.session),
     ("proofs", .list (d.proofs.map Proof.snapshot)),
     ("has_justified_absence_proof", .bool d.hasJustifiedAbsenceProof),
     ("attendance", .list (d.attendance.map Attendance.snapshot)),
     ("hours_scheduled", .number d.hoursScheduled), ("hours_attended", .number d.hoursAttended),
     ("attendance_rate", .number d.attendanceRate),
     ("certificate_generated", .bool d.certificateGenerated),
     ("employer_reference", .ofText? d.employerReference),
     ("supervisor_name", .ofText? d.supervisorName)]

end DossierCompliance
