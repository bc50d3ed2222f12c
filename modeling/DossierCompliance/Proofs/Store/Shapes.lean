import DossierCompliance.Proofs.Dossier.Stored
import DossierCompliance.Proofs.Store.Rows
import DossierCompliance.Proofs.Uuid

/-!
The shapes in which records are stored. Whatever was read as a dossier, an alert or an
audit entry is read again as the same from what is written of it: fields that were
left out are written with their defaults, names and times in one spelling, and details
as they are.
-/

namespace DossierCompliance

open Json (Decoder Reading Placed)
open Json.Decoder

theorem Uuid.restores (u : Uuid) : Uuid.decode.Restores toJson u :=
  restores_parsed (ofText?_text u)

namespace Alert

theorem restores {a : Alert} (hdetails : a.details.Normal) : Alert.decode.Restores toJson a := by
  refine restores_record rfl (by decide) fun fs hfs => ?_
  have hid := hfs.required "id" a.id.restores rfl
  have hdossier := hfs.required "dossier_id" (restores_text a.dossierId) rfl
  have hrule := hfs.required "rule_id" (restores_text a.ruleId) rfl
  have hseverity := hfs.required "severity" (restores_named a.severity) rfl
  have hcontext := hfs.required "context" (restores_named a.context) rfl
  have htrigger := hfs.required "trigger" (restores_text a.trigger) rfl
  have hmessage := hfs.required "message" (restores_text a.message) rfl
  have hdetails := hfs.required "details" (restores_value hdetails) rfl
  have hresolved := hfs.required "is_resolved" (restores_boolean a.isResolved) rfl
  have hresolvedBy := hfs.nullable "resolved_by" (restores_text? a.resolvedBy) rfl
  have hresolvedAt := hfs.nullable "resolved_at" (Instant.restores? a.resolvedAt) rfl
  have hresolution := hfs.nullable "resolution" (restores_text? a.resolution) rfl
  have hcreated := hfs.required "created_at" a.createdAt.restores rfl
  exact ((((((((((((hid.map mk).seq hdossier).seq hrule).seq hseverity).seq hcontext).seq
    htrigger).seq hmessage).seq hdetails).seq hresolved).seq hresolvedBy).seq hresolvedAt).seq
      hresolution).seq hcreated

theorem normal_details_of_decode {r : Reading} {a : Alert} (h : decode r = .ok a) :
    a.details.Normal := by
  refine Json.of_record (p := fun a : Alert => a.details.Normal) (fun fs => ?_) h
  iterate 5 apply Placed.Gives.seq
  refine Placed.Gives.seq_of ?_ (Json.gives_value fs "details")
  iterate 6 apply Placed.Gives.seq
  exact Placed.Gives.map fun _ _ _ _ _ _ _ _ hnormal _ _ _ _ _ => hnormal

end Alert

namespace AuditEntry

theorem restores {e : AuditEntry} (hdetails : e.details.Normal) :
    AuditEntry.decode.Restores toJson e := by
  refine restores_record rfl (by decide) fun fs hfs => ?_
  have hid := hfs.required "id" e.id.restores rfl
  have htenant := hfs.required "tenant_id" (restores_text e.tenantId) rfl
  have hactor := hfs.required "actor_id" (restores_text e.actorId) rfl
  have hrole := hfs.nullable "actor_role" (restores_text? e.actorRole) rfl
  have haction := hfs.required "action" (restores_named e.action) rfl
  have hentityType := hfs.required "entity_type" (restores_text e.entityType) rfl
  have hentity := hfs.required "entity_id" (restores_text e.entityId) rfl
  have hphase := hfs.required "phase" (restores_named e.phase) rfl
  have hforced := hfs.required "is_forced" (restores_boolean e.isForced) rfl
  have hprevious := hfs.required "previous_state" (restores_named e.previousState) rfl
  have hnew := hfs.required "new_state" (restores_named e.newState) rfl
  have hdetails := hfs.required "details" (restores_value hdetails) rfl
  have htime := hfs.required "timestamp" e.timestamp.restores rfl
  have hprevHash := hfs.required "previous_hash" (restores_text e.previousHash) rfl
  have hhash := hfs.required "entry_hash" (restores_text e.entryHash) rfl
  exact ((((((((((((((hid.map mk).seq htenant).seq hactor).seq hrole).seq haction).seq
    hentityType).seq hentity).seq hphase).seq hforced).seq hprevious).seq hnew).seq hdetails).seq
      htime).seq hprevHash).seq hhash

end AuditEntry

/-- Records that were read out of a value, written and read again. The numbers of a
value in JSON are finite, and only a dossier holds any of them as such. -/
theorem shapes_restored :
    (∀ (j : Json) (d : Dossier), j.AllFinite → Json.decodeValue Dossier.decode j = .ok d →
      Json.decodeValue Dossier.decode d.toJson = .ok d) ∧
    (∀ (j : Json) (a : Alert), Json.decodeValue Alert.decode j = .ok a →
      Json.decodeValue Alert.decode a.toJson = .ok a) ∧
    (∀ (j : Json) (e : AuditEntry), Json.decodeValue AuditEntry.decode j = .ok e →
      Json.decodeValue AuditEntry.decode e.toJson = .ok e) := by
  simp only [Json.decodeValue_eq_ok]
  refine ⟨?_, ?_, ?_⟩
  · intro j d hj hd
    exact Dossier.restores (Dossier.yields j d hj hd)
  · intro j a ha
    exact Alert.restores (Alert.normal_details_of_decode ha)
  · intro j e he
    exact AuditEntry.restores (AuditEntry.normal_details_of_decode he)

/-- A dossier with fields left out or null, records given as arrays of their fields,
dates in loose spelling, and a time in a leap second behind an offset. -/
def lenientDossier : Json :=
  .object
    [("id", .string "dos-1"), ("tenant_id", .string "org-1"), ("status", .string "INVOICED"),
     ("learner", .array [.string "Ada", .string "Martin", .null]),
     ("organization", .object [("id", .string "org-1"), ("name", .string "Learn"),
       ("kind", .object [("TRAINING_PROVIDER", .null)]),
       ("qualiopi_valid_until", .string " -44 -3- 15 ")]),
     ("contracts", .array [.object [("id", .string "con-1"), ("status", .string "SIGNED"),
       ("signed_at", .string "2015-07-01t01:59:60.25 +02:00"), ("financer", .null)]]),
     ("attendance", .array [.array [.string "+12345-01-31", .number (.whole 7),
       .number (.real 3.5)]]),
     ("remarks", .number (.whole 1))]

def strictDossier : Dossier where
  id := "dos-1"
  tenantId := "org-1"
  status := .invoiced
  learner := ⟨"Ada", "Martin", none⟩
  organization :=
    ⟨"org-1", "Learn", none, false, some ⟨-44, 3, 15, by decide⟩, .trainingProvider, none⟩
  contracts :=
    [⟨"con-1", .signed, some ⟨⟨2015, 6, 30, by decide⟩, 86399, 1250000000, by decide⟩, 0, none⟩]
  session := none
  proofs := []
  attendance := [⟨⟨12345, 1, 31, by decide⟩, 7.0, 3.5, false⟩]
  certificateGenerated := false
  employerReference := none
  supervisorName := none

/-- An alert that was never resolved, under an identifier in capitals between braces. -/
def lenientAlert : Json :=
  .object
    [("id", .string "\x7b6BA7B810-9DAD-11D1-80B4-00C04FD430C8\x7d"),
     ("dossier_id", .string "dos-1"), ("rule_id", .string "RULE_NDA_REQUIRED"),
     ("severity", .string "BLOCKING"), ("context", .string "TENANT_COMPLIANCE"),
     ("trigger", .string "TO_INVOICED"), ("message", .string ""),
     ("details", .object [("b", .array [.null]), ("a", .object [])]),
     ("is_resolved", .bool false), ("created_at", .string "2024-05-01T12:00:00Z")]

def lenientEntry : Json :=
  .array
    [.string "6ba7b8109dad11d180b400c04fd430c8", .string "org-1", .string "alice", .null,
     .string "TRANSITION_BLOCKED", .string "DOSSIER", .string "dos-1", .string "BILLING",
     .bool false, .string "COMPLETED", .string "INVOICED", .null,
     .string "-0001-02-03 04:05:06.000000789Z", .string "", .string ""]

theorem shapes_restored_of_lenient :
    lenientDossier.AllFinite ∧ Json.decodeValue Dossier.decode lenientDossier = .ok strictDossier ∧
      Json.decodeValue Dossier.decode strictDossier.toJson = .ok strictDossier ∧
      (∃ a, Json.decodeValue Alert.decode lenientAlert = .ok a ∧
        Json.decodeValue Alert.decode a.toJson = .ok a) ∧
      ∃ e, Json.decodeValue AuditEntry.decode lenientEntry = .ok e ∧
        Json.decodeValue AuditEntry.decode e.toJson = .ok e := by
  have hfinite : lenientDossier.AllFinite := by
    simp only [lenientDossier, Json.AllFinite, Json.AllFiniteMembers, Json.AllFiniteItems, true_and,
      and_true]
    decide
  have hread : Json.decodeValue Dossier.decode lenientDossier = .ok strictDossier := rfl
  obtain ⟨a, ha⟩ : ∃ a, Json.decodeValue Alert.decode lenientAlert = .ok a := ⟨_, rfl⟩
  obtain ⟨e, he⟩ : ∃ e, Json.decodeValue AuditEntry.decode lenientEntry = .ok e := ⟨_, rfl⟩
  obtain ⟨hdossier, halert, hentry⟩ := shapes_restored
  exact ⟨hfinite, hread, hdossier _ _ hfinite hread, ⟨a, ha, halert _ a ha⟩, e, he, hentry _ e he⟩

end DossierCompliance
