import DossierCompliance.Alert
import DossierCompliance.Audit.Chain
import DossierCompliance.Dossier.Basic

/-!
What is asked of a store. Each call is a value with its own type of answer, so
that one description of the work serves every store, and a run can be stopped,
counted or interleaved between any two calls.
-/

namespace DossierCompliance

inductive StoreError where
  | backend (why : String)
  /-- What is stored does not have the shape of a record. -/
  | corrupt (why : Json.Mismatch)

def StoreError.message : StoreError → String
  | .backend why => "storage backend error: " ++ why
  | .corrupt why => "stored record is corrupt: " ++ why.message

inductive StoreCall where
  | findDossier (id : String)
  | findOrganization (id : String)
  | recordAlert (alert : Alert)
  /-- Resolves the first alert with an id, if there is one. -/
  | resolveAlert (id : Uuid) (resolution : Resolution)
  | unresolvedAlerts (dossierId : String)
  /-- Appends the entry of a draft, under a new id, behind the last one. -/
  | recordAudit (id : Uuid) (draft : AuditDraft)
  | auditEntries (entityType entityId : String)
  /-- Checks the first entries of the chain, as many as are asked for. -/
  | verifyAudit (limit : Nat)
  | ping

namespace StoreCall

def Answer : StoreCall → Type
  | findDossier _ => Option Dossier
  | findOrganization _ => Option Organization
  | recordAlert _ => Unit
  | resolveAlert _ _ => Option Alert
  | unresolvedAlerts _ => List Alert
  | recordAudit _ _ => AuditEntry
  | auditEntries _ _ => List AuditEntry
  | verifyAudit _ => ChainIntegrity
  | ping => Unit

abbrev Reply (c : StoreCall) : Type :=
  Except StoreError c.Answer

end StoreCall

/-- A store by its conduct: the reply to each call and the state after it. -/
abbrev StoreHandler (σ : Type) :=
  (c : StoreCall) → σ → c.Reply × σ

end DossierCompliance
