import DossierCompliance.Store.Call

/-!
A store in memory. Dossiers and organizations are kept by id and replaced as a
whole; alerts and audit entries are lists that only grow, in the order in which
they were added.
-/

namespace DossierCompliance

structure MemoryStore where
  dossiers : Members Dossier
  organizations : Members Organization
  alerts : List Alert
  audit : List AuditEntry

namespace MemoryStore

def empty : MemoryStore where
  dossiers := []
  organizations := []
  alerts := []
  audit := []

def upsertOrganization (s : MemoryStore) (o : Organization) : MemoryStore :=
  { s with organizations := s.organizations.put o.id o }

/-- Adds or replaces a dossier, and its organization with it. -/
def upsertDossier (s : MemoryStore) (d : Dossier) : MemoryStore :=
  { s.upsertOrganization d.organization with dossiers := s.dossiers.put d.id d }

def recordAlert (s : MemoryStore) (a : Alert) : MemoryStore :=
  { s with alerts := s.alerts ++ [a] }

/-- The list with the first alert of an id resolved. -/
def resolveFirst (id : Uuid) (r : Resolution) : List Alert → List Alert
  | [] => []
  | a :: rest => if a.id = id then a.resolve r :: rest else a :: resolveFirst id r rest

def findAlert? (s : MemoryStore) (id : Uuid) : Option Alert :=
  s.alerts.find? fun a => a.id = id

def resolveAlert (s : MemoryStore) (id : Uuid) (r : Resolution) : MemoryStore :=
  { s with alerts := resolveFirst id r s.alerts }

def nextEntry (s : MemoryStore) (id : Uuid) (d : AuditDraft) : AuditEntry :=
  d.chain id (AuditChain.lastHash s.audit)

def recordAudit (s : MemoryStore) (id : Uuid) (d : AuditDraft) : MemoryStore :=
  { s with audit := s.audit ++ [s.nextEntry id d] }

def auditEntries (s : MemoryStore) (entityType entityId : String) : List AuditEntry :=
  s.audit.filter fun e => e.entityType == entityType && e.entityId == entityId

def verifyAudit (s : MemoryStore) (limit : Nat) : ChainIntegrity :=
  AuditChain.verify (s.audit.take limit)

/-- A store in memory never fails. -/
def handle : StoreHandler MemoryStore
  | .findDossier id, s => (.ok (s.dossiers.get? id), s)
  | .findOrganization id, s => (.ok (s.organizations.get? id), s)
  | .recordAlert a, s => (.ok (), s.recordAlert a)
  | .resolveAlert id r, s => (.ok ((s.findAlert? id).map (·.resolve r)), s.resolveAlert id r)
  | .unresolvedAlerts dossierId, s => (.ok (Alert.unresolvedOf dossierId s.alerts), s)
  | .recordAudit id d, s => (.ok (s.nextEntry id d), s.recordAudit id d)
  | .auditEntries entityType entityId, s => (.ok (s.auditEntries entityType entityId), s)
  | .verifyAudit limit, s => (.ok (s.verifyAudit limit), s)
  | .ping, s => (.ok (), s)

end MemoryStore

end DossierCompliance
