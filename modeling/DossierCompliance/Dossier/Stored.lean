import DossierCompliance.Dossier.Basic

/-!
The stored form of a dossier: how it is read out of JSON, where unknown members
are passed over and most parts may be left out, and how it is written, with
all its members.
-/

namespace DossierCompliance

open Json (Decoder Fields)

namespace Organization

def names : List String :=
  ["id", "name", "nda_number", "qualiopi_certified", "qualiopi_valid_until", "kind", "siret"]

def decode : Decoder Organization :=
  Decoder.record names false fun fs =>
    Organization.mk <$> fs.required "id" Decoder.text
      <*> fs.required "name" Decoder.text
      <*> fs.optional "nda_number" Decoder.text
      <*> fs.defaulted "qualiopi_certified" false Decoder.boolean
      <*> fs.optional "qualiopi_valid_until" Date.decode
      <*> fs.required "kind" Named.decode
      <*> fs.optional "siret" Decoder.text

def toJson (o : Organization) : Json :=
  .ofMembers
    [("id", .string o.id), ("name", .string o.name), ("nda_number", .ofText? o.ndaNumber),
     ("qualiopi_certified", .bool o.qualiopiCertified),
     ("qualiopi_valid_until", .ofOption Date.toJson o.qualiopiValidUntil),
     ("kind", Named.toJson o.kind), ("siret", .ofText? o.siret)]

end Organization

namespace Learner

def decode : Decoder Learner :=
  Decoder.record ["first_name", "last_name", "email"] false fun fs =>
    Learner.mk <$> fs.required "first_name" Decoder.text
      <*> fs.required "last_name" Decoder.text
      <*> fs.optional "email" Decoder.text

def toJson (l : Learner) : Json :=
  .ofMembers
    [("first_name", .string l.firstName), ("last_name", .string l.lastName),
     ("email", .ofText? l.email)]

end Learner

namespace Financer

def decode : Decoder Financer :=
  Decoder.record ["id", "name", "channel"] false fun fs =>
    Financer.mk <$> fs.required "id" Decoder.text
      <*> fs.required "name" Decoder.text
      <*> fs.required "channel" Named.decode

def toJson (f : Financer) : Json :=
  .ofMembers [("id", .string f.id), ("name", .string f.name), ("channel", Named.toJson f.channel)]

end Financer

namespace Contract

def names : List String :=
  ["id", "status", "signed_at", "amount_cents", "financer"]

def decode : Decoder Contract :=
  Decoder.record names false fun fs =>
    Contract.mk <$> fs.required "id" Decoder.text
      <*> fs.required "status" Named.decode
      <*> fs.optional "signed_at" Instant.decode
      <*> fs.defaulted "amount_cents" 0 Decoder.int64
      <*> fs.optional "financer" Financer.decode

def toJson (c : Contract) : Json :=
  .ofMembers
    [("id", .string c.id), ("status", Named.toJson c.status),
     ("signed_at", .ofOption Instant.toJson c.signedAt), ("amount_cents", .ofInt c.amountCents),
     ("financer", .ofOption Financer.toJson c.financer)]

end Contract

namespace Certification

def decode : Decoder Certification :=
  Decoder.record ["code", "title"] false fun fs =>
    Certification.mk <$> fs.required "code" Decoder.text <*> fs.required "title" Decoder.text

def toJson (c : Certification) : Json :=
  .ofMembers [("code", .string c.code), ("title", .string c.title)]

end Certification

namespace Programme

def decode : Decoder Programme :=
  Decoder.record ["id", "title", "duration_hours", "certification"] false fun fs =>
    Programme.mk <$> fs.required "id" Decoder.text
      <*> fs.required "title" Decoder.text
      <*> fs.defaulted "duration_hours" 0.0 Decoder.real
      <*> fs.optional "certification" Certification.decode

def toJson (p : Programme) : Json :=
  .ofMembers
    [("id", .string p.id), ("title", .string p.title), ("duration_hours", .ofReal p.durationHours),
     ("certification", .ofOption Certification.toJson p.certification)]

end Programme

namespace Session

def decode : Decoder Session :=
  Decoder.record ["id", "start_date", "end_date", "programme"] false fun fs =>
    Session.mk <$> fs.required "id" Decoder.text
      <*> fs.required "start_date" Date.decode
      <*> fs.required "end_date" Date.decode
      <*> fs.required "programme" Programme.decode

def toJson (s : Session) : Json :=
  .ofMembers
    [("id", .string s.id), ("start_date", s.startDate.toJson), ("end_date", s.endDate.toJson),
     ("programme", s.programme.toJson)]

end Session

namespace Proof

def decode : Decoder Proof :=
  Decoder.record ["id", "kind", "uploaded_at"] false fun fs =>
    Proof.mk <$> fs.required "id" Decoder.text
      <*> fs.required "kind" Named.decode
      <*> fs.required "uploaded_at" Instant.decode

def toJson (p : Proof) : Json :=
  .ofMembers
    [("id", .string p.id), ("kind", Named.toJson p.kind), ("uploaded_at", p.uploadedAt.toJson)]

end Proof

namespace Attendance

def names : List String :=
  ["date", "hours_scheduled", "hours_attended", "absence_justified"]

def decode : Decoder Attendance :=
  Decoder.record names false fun fs =>
    Attendance.mk <$> fs.required "date" Date.decode
      <*> fs.required "hours_scheduled" Decoder.real
      <*> fs.required "hours_attended" Decoder.real
      <*> fs.defaulted "absence_justified" false Decoder.boolean

def toJson (a : Attendance) : Json :=
  .ofMembers
    [("date", a.date.toJson), ("hours_scheduled", .ofReal a.hoursScheduled),
     ("hours_attended", .ofReal a.hoursAttended), ("absence_justified", .bool a.absenceJustified)]

end Attendance

namespace Dossier

def names : List String :=
  ["id", "tenant_id", "status", "learner", "organization", "contracts", "session", "proofs",
   "attendance", "certificate_generated", "employer_reference", "supervisor_name"]

def decode : Decoder Dossier :=
  Decoder.record names false fun fs =>
    Dossier.mk <$> fs.required "id" Decoder.text
      <*> fs.required "tenant_id" Decoder.text
      <*> fs.required "status" Named.decode
      <*> fs.required "learner" Learner.decode
      <*> fs.required "organization" Organization.decode
      <*> fs.defaulted "contracts" [] (Decoder.list Contract.decode)
      <*> fs.optional "session" Session.decode
      <*> fs.defaulted "proofs" [] (Decoder.list Proof.decode)
      <*> fs.defaulted "attendance" [] (Decoder.list Attendance.decode)
      <*> fs.defaulted "certificate_generated" false Decoder.boolean
      <*> fs.optional "employer_reference" Decoder.text
      <*> fs.optional "supervisor_name" Decoder.text

def toJson (d : Dossier) : Json :=
  .ofMembers
    [("id", .string d.id), ("tenant_id", .string d.tenantId), ("status", Named.toJson d.status),
     ("learner", d.learner.toJson), ("organization", d.organization.toJson),
     ("contracts", .ofList Contract.toJson d.contracts),
     ("session", .ofOption Session.toJson d.session),
     ("proofs", .ofList Proof.toJson d.proofs),
     ("attendance", .ofList Attendance.toJson d.attendance),
     ("certificate_generated", .bool d.certificateGenerated),
     ("employer_reference", .ofText? d.employerReference),
     ("supervisor_name", .ofText? d.supervisorName)]

end Dossier

end DossierCompliance
