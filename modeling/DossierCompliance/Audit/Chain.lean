import DossierCompliance.Audit.Entry

/-!
The chain of audit entries. An entry is linked when it names the hash of the
entry before it and its own hash fits its content; the first entry names a hash
of zeros. Checking a chain counts its entries and those that are not linked.
-/

namespace DossierCompliance

/-- The hash that the first entry names: 64 zeros. -/
def genesisHash : String :=
  String.ofList (List.replicate 64 '0')

namespace AuditDraft

/-- The entry of a draft behind an entry with a given hash. -/
def chain (d : AuditDraft) (id : Uuid) (previousHash : String) : AuditEntry :=
  let unhashed : AuditEntry :=
    { id := id
      tenantId := d.tenantId
      actorId := d.actor.id
      actorRole := d.actor.role
      action := d.action
      entityType := d.entityType
      entityId := d.entityId
      phase := d.phase
      isForced := d.isForced
      previousState := d.previousState
      newState := d.newState
      details := d.details
      timestamp := d.timestamp
      previousHash := previousHash
      entryHash := "" }
  { unhashed with entryHash := unhashed.hash }

end AuditDraft

structure ChainIntegrity where
  totalEntries : Nat
  brokenLinks : Nat
  deriving DecidableEq

namespace ChainIntegrity

def isValid (i : ChainIntegrity) : Bool :=
  i.brokenLinks == 0

def toJson (i : ChainIntegrity) : Json :=
  .ofMembers [("total_entries", .ofNat i.totalEntries), ("broken_links", .ofNat i.brokenLinks)]

end ChainIntegrity

namespace AuditChain

/-- Whether an entry is linked behind an entry with a given hash. -/
def isLinked (previousHash : String) (e : AuditEntry) : Bool :=
  e.previousHash == previousHash && e.hash == e.entryHash

/-- The entries that are not linked, behind an entry with a given hash. -/
def brokenAfter (previousHash : String) : List AuditEntry → Nat
  | [] => 0
  | e :: rest => (if isLinked previousHash e then 0 else 1) + brokenAfter e.entryHash rest

def lastHash (entries : List AuditEntry) : String :=
  match entries.getLast? with
  | some e => e.entryHash
  | none => genesisHash

def verify (entries : List AuditEntry) : ChainIntegrity where
  totalEntries := entries.length
  brokenLinks := brokenAfter genesisHash entries

end AuditChain

end DossierCompliance
