import DossierCompliance.Store.Call

/-!
Stores that fail on purpose. A fault strikes all calls of one area, or only
some of the writes of alerts; the calls that it strikes do not reach the store.
-/

namespace DossierCompliance

/-- The areas of a store, whose calls fail together. -/
inductive StoreArea where
  | dossiers
  | alerts
  | audit
  deriving DecidableEq

def StoreCall.area? : StoreCall → Option StoreArea
  | .findDossier _ | .findOrganization _ => some .dossiers
  | .recordAlert _ | .resolveAlert _ _ | .unresolvedAlerts _ => some .alerts
  | .recordAudit _ _ | .auditEntries _ _ | .verifyAudit _ => some .audit
  | .ping => none

def StoreCall.isAlertWrite : StoreCall → Bool
  | .recordAlert _ => true
  | _ => false

structure StoreFault where
  area : StoreArea
  why : StoreError
  /-- When given, only these writes of alerts fail, counted from zero. -/
  writes : Option (List Nat)

/-- Whether a call fails that comes after a number of writes of alerts. -/
def StoreFault.strikes (f : StoreFault) (alertWrites : Nat) (c : StoreCall) : Bool :=
  match f.writes with
  | none => c.area? == some f.area
  | some writes => c.isAlertWrite && c.area? == some f.area && writes.contains alertWrites

/-- A store with the number of writes of alerts that were tried on it. -/
structure Faulty (σ : Type) where
  store : σ
  alertWrites : Nat

namespace Faulty

variable {σ : Type}

def ofStore (s : σ) : Faulty σ where
  store := s
  alertWrites := 0

def counted (s : Faulty σ) (c : StoreCall) : Faulty σ :=
  { s with alertWrites := s.alertWrites + if c.isAlertWrite then 1 else 0 }

def handle (h : StoreHandler σ) (faults : List StoreFault) : StoreHandler (Faulty σ) :=
  fun c s =>
    match faults.find? fun f => f.strikes s.alertWrites c with
    | some f => (.error f.why, s.counted c)
    | none =>
      let (reply, store) := h c s.store
      (reply, { s.counted c with store := store })

end Faulty

def unreachable (why : String) : StoreHandler Unit :=
  fun _ s => (.error (.backend why), s)

end DossierCompliance
