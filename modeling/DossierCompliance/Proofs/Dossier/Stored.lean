import DossierCompliance.Dossier.Stored
import DossierCompliance.Proofs.Calendar.Instants
import DossierCompliance.Proofs.Json.Restoring

/-!
Dossiers, written and read back. A dossier whose hours are finite and whose amounts
fit 64 bits is read back from what is written of it; and a dossier that was read is
such a one, whatever was left out, null or spelled in another way where it was read.
-/

namespace DossierCompliance

open Json (Decoder Fields Placed FitsInt64)
open Json.Decoder

theorem Date.restores (d : Date) : Date.decode.Restores toJson d :=
  restores_parsed (ofText?_text d)

theorem Date.restores? (o : Option Date) : (optional Date.decode).Restores (.ofOption toJson) o :=
  restores_parsed? ofText?_text o

theorem Instant.restores (t : Instant) : Instant.decode.Restores toJson t :=
  restores_parsed (ofText?_text t)

theorem Instant.restores? (o : Option Instant) :
    (optional Instant.decode).Restores (.ofOption toJson) o :=
  restores_parsed? ofText?_text o

/-! ### Parts of any content -/

theorem Organization.restores (o : Organization) : Organization.decode.Restores toJson o := by
  refine restores_record rfl (by decide) fun fs hfs => ?_
  have hid := hfs.required "id" (restores_text o.id) rfl
  have hname := hfs.required "name" (restores_text o.name) rfl
  have hnda := hfs.optional "nda_number" (restores_text? o.ndaNumber) rfl
  have hcertified :=
    hfs.defaulted "qualiopi_certified" false (restores_boolean o.qualiopiCertified) rfl
  have huntil := hfs.optional "qualiopi_valid_until" (Date.restores? o.qualiopiValidUntil) rfl
  have hkind := hfs.required "kind" (restores_named o.kind) rfl
  have hsiret := hfs.optional "siret" (restores_text? o.siret) rfl
  exact ((((((hid.map mk).seq hname).seq hnda).seq hcertified).seq huntil).seq hkind).seq hsiret

theorem Learner.restores (l : Learner) : Learner.decode.Restores toJson l := by
  refine restores_record rfl (by decide) fun fs hfs => ?_
  have hfirst := hfs.required "first_name" (restores_text l.firstName) rfl
  have hlast := hfs.required "last_name" (restores_text l.lastName) rfl
  have hemail := hfs.optional "email" (restores_text? l.email) rfl
  exact ((hfirst.map mk).seq hlast).seq hemail

theorem Financer.restores (f : Financer) : Financer.decode.Restores toJson f := by
  refine restores_record rfl (by decide) fun fs hfs => ?_
  have hid := hfs.required "id" (restores_text f.id) rfl
  have hname := hfs.required "name" (restores_text f.name) rfl
  have hchannel := hfs.required "channel" (restores_named f.channel) rfl
  exact ((hid.map mk).seq hname).seq hchannel

theorem Certification.restores (c : Certification) : Certification.decode.Restores toJson c := by
  refine restores_record rfl (by decide) fun fs hfs => ?_
  have hcode := hfs.required "code" (restores_text c.code) rfl
  have htitle := hfs.required "title" (restores_text c.title) rfl
  exact (hcode.map mk).seq htitle

theorem Proof.restores (p : Proof) : Proof.decode.Restores toJson p := by
  refine restores_record rfl (by decide) fun fs hfs => ?_
  have hid := hfs.required "id" (restores_text p.id) rfl
  have hkind := hfs.required "kind" (restores_named p.kind) rfl
  have huploaded := hfs.required "uploaded_at" p.uploadedAt.restores rfl
  exact ((hid.map mk).seq hkind).seq huploaded

/-! ### Parts with numbers -/

namespace Contract

/-- The amount fits 64 bits. -/
def IsStored (c : Contract) : Prop :=
  FitsInt64 c.amountCents

theorem restores {c : Contract} (hc : c.IsStored) : Contract.decode.Restores toJson c := by
  refine restores_record rfl (by decide) fun fs hfs => ?_
  have hid := hfs.required "id" (restores_text c.id) rfl
  have hstatus := hfs.required "status" (restores_named c.status) rfl
  have hsigned := hfs.optional "signed_at" (Instant.restores? c.signedAt) rfl
  have hamount := hfs.defaulted "amount_cents" 0 (restores_int64 hc) rfl
  have hfinancer := hfs.optional "financer" (restores_record? fun f _ => Financer.restores f) rfl
  exact ((((hid.map mk).seq hstatus).seq hsigned).seq hamount).seq hfinancer

theorem yields : Contract.decode.Yields IsStored := by
  refine yields_record fun fs hfs => ?_
  have hamount := hfs.defaulted yields_int64 "amount_cents" 0 Json.fitsInt64_zero
  refine Placed.Gives.seq (Placed.Gives.seq_of ?_ hamount)
  iterate 2 apply Placed.Gives.seq
  exact Placed.Gives.map fun _ _ _ _ hfits _ => hfits

end Contract

namespace Programme

/-- The duration is a finite number. -/
def IsStored (p : Programme) : Prop :=
  p.durationHours.isFinite = true

theorem restores {p : Programme} (hp : p.IsStored) : Programme.decode.Restores toJson p := by
  refine restores_record rfl (by decide) fun fs hfs => ?_
  have hid := hfs.required "id" (restores_text p.id) rfl
  have htitle := hfs.required "title" (restores_text p.title) rfl
  have hduration := hfs.defaulted "duration_hours" 0.0 (restores_real hp) rfl
  have hcertification :=
    hfs.optional "certification" (restores_record? fun c _ => Certification.restores c) rfl
  exact (((hid.map mk).seq htitle).seq hduration).seq hcertification

theorem yields : Programme.decode.Yields IsStored := by
  refine yields_record fun fs hfs => ?_
  have hduration := hfs.defaulted yields_real "duration_hours" 0.0 (by decide)
  refine Placed.Gives.seq (Placed.Gives.seq_of ?_ hduration)
  apply Placed.Gives.seq
  exact Placed.Gives.map fun _ _ _ hfinite _ => hfinite

end Programme

namespace Session

theorem restores {s : Session} (hs : s.programme.IsStored) : Session.decode.Restores toJson s := by
  refine restores_record rfl (by decide) fun fs hfs => ?_
  have hid := hfs.required "id" (restores_text s.id) rfl
  have hstart := hfs.required "start_date" s.startDate.restores rfl
  have hend := hfs.required "end_date" s.endDate.restores rfl
  have hprogramme := hfs.required "programme" (Programme.restores hs) rfl
  exact (((hid.map mk).seq hstart).seq hend).seq hprogramme

theorem yields : Session.decode.Yields fun s => s.programme.IsStored := by
  refine yields_record fun fs hfs => ?_
  have hprogramme := hfs.required Programme.yields "programme"
  refine Placed.Gives.seq_of ?_ hprogramme
  iterate 2 apply Placed.Gives.seq
  exact Placed.Gives.map fun _ _ _ _ hstored => hstored

end Session

namespace Attendance

/-- The hours are finite numbers. -/
def IsStored (a : Attendance) : Prop :=
  a.hoursScheduled.isFinite = true ∧ a.hoursAttended.isFinite = true

theorem restores {a : Attendance} (ha : a.IsStored) : Attendance.decode.Restores toJson a := by
  refine restores_record rfl (by decide) fun fs hfs => ?_
  have hdate := hfs.required "date" a.date.restores rfl
  have hscheduled := hfs.required "hours_scheduled" (restores_real ha.1) rfl
  have hattended := hfs.required "hours_attended" (restores_real ha.2) rfl
  have hjustified :=
    hfs.defaulted "absence_justified" false (restores_boolean a.absenceJustified) rfl
  exact (((hdate.map mk).seq hscheduled).seq hattended).seq hjustified

theorem yields : Attendance.decode.Yields IsStored := by
  refine yields_record fun fs hfs => ?_
  have hscheduled := hfs.required yields_real "hours_scheduled"
  have hattended := hfs.required yields_real "hours_attended"
  refine Placed.Gives.seq (Placed.Gives.seq_of (Placed.Gives.seq_of ?_ hscheduled) hattended)
  exact Placed.Gives.map fun _ _ hscheduled _ hattended _ => ⟨hscheduled, hattended⟩

end Attendance

/-! ### Dossiers -/

namespace Dossier

/-- The numbers of a dossier are finite, and the amounts fit 64 bits. -/
structure IsStored (d : Dossier) : Prop where
  contracts : ∀ c ∈ d.contracts, c.IsStored
  session : ∀ s ∈ d.session, s.programme.IsStored
  attendance : ∀ a ∈ d.attendance, a.IsStored

theorem restores {d : Dossier} (hd : d.IsStored) : Dossier.decode.Restores toJson d := by
  refine restores_record rfl (by decide) fun fs hfs => ?_
  have hid := hfs.required "id" (restores_text d.id) rfl
  have htenant := hfs.required "tenant_id" (restores_text d.tenantId) rfl
  have hstatus := hfs.required "status" (restores_named d.status) rfl
  have hlearner := hfs.required "learner" d.learner.restores rfl
  have horganization := hfs.required "organization" d.organization.restores rfl
  have hcontracts := hfs.defaulted "contracts" []
    (restores_list fun c hc => Contract.restores (hd.contracts c hc)) rfl
  have hsession := hfs.optional "session"
    (restores_record? fun s hs => Session.restores (hd.session s hs)) rfl
  have hproofs := hfs.defaulted "proofs" [] (restores_list fun p _ => Proof.restores p) rfl
  have hattendance := hfs.defaulted "attendance" []
    (restores_list fun a ha => Attendance.restores (hd.attendance a ha)) rfl
  have hcertificate :=
    hfs.defaulted "certificate_generated" false (restores_boolean d.certificateGenerated) rfl
  have hemployer := hfs.optional "employer_reference" (restores_text? d.employerReference) rfl
  have hsupervisor := hfs.optional "supervisor_name" (restores_text? d.supervisorName) rfl
  exact (((((((((((hid.map mk).seq htenant).seq hstatus).seq hlearner).seq horganization).seq
    hcontracts).seq hsession).seq hproofs).seq hattendance).seq hcertificate).seq hemployer).seq
      hsupervisor

theorem yields : Dossier.decode.Yields IsStored := by
  refine yields_record fun fs hfs => ?_
  have hcontracts := hfs.defaulted Contract.yields.list "contracts" [] (List.forall_mem_nil _)
  have hsession := hfs.optional Session.yields "session"
  have hattendance := hfs.defaulted Attendance.yields.list "attendance" [] (List.forall_mem_nil _)
  iterate 3 apply Placed.Gives.seq
  refine Placed.Gives.seq_of (Placed.Gives.seq (Placed.Gives.seq_of
    (Placed.Gives.seq_of ?_ hcontracts) hsession)) hattendance
  iterate 4 apply Placed.Gives.seq
  exact Placed.Gives.map fun _ _ _ _ _ contracts hcontracts session hsession _ attendance
    hattendance _ _ _ => ⟨hcontracts, hsession, hattendance⟩

end Dossier

end DossierCompliance
