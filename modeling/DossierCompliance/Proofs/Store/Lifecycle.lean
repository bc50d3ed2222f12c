import DossierCompliance.Proofs.Store.AuditTrail
import DossierCompliance.Proofs.Store.Newest
import Mathlib.Data.List.Nodup

/-!
The life of alerts in a store in memory. Alerts are only added, and nothing of
one changes but its resolution, which the last operation that names it decides.
So what is stored is told from the operations alone, and so are the unresolved
alerts of a dossier, which are read from the newest to the oldest.
-/

namespace DossierCompliance

/-! ### Resolutions -/

namespace Alert

/-- The alert as it was when it was raised, without its resolution. -/
def opened (a : Alert) : Alert :=
  { a with isResolved := false, resolvedBy := none, resolvedAt := none, resolution := none }

/-- The alert is a new one of some violation. -/
def IsRaised (a : Alert) : Prop :=
  ∃ id dossierId trigger v createdAt, a = raise id dossierId trigger v createdAt

/-- The alert after some resolutions, each of which overwrites the one before. -/
def settled (a : Alert) (rs : List Resolution) : Alert :=
  rs.foldl resolve a

@[simp]
theorem opened_resolve (a : Alert) (r : Resolution) : (a.resolve r).opened = a.opened := rfl

@[simp]
theorem opened_raise (id : Uuid) (dossierId : String) (trigger : Trigger) (v : Violation)
    (createdAt : Instant) :
    (raise id dossierId trigger v createdAt).opened =
      raise id dossierId trigger v createdAt := rfl

theorem IsRaised.opened {a : Alert} (h : a.IsRaised) : a.opened = a := by
  obtain ⟨id, dossierId, trigger, v, createdAt, rfl⟩ := h
  exact opened_raise id dossierId trigger v createdAt

theorem IsRaised.isResolved {a : Alert} (h : a.IsRaised) : a.isResolved = false := by
  obtain ⟨id, dossierId, trigger, v, createdAt, rfl⟩ := h
  rfl

@[simp]
theorem settled_nil (a : Alert) : a.settled [] = a := rfl

theorem settled_concat (a : Alert) (rs : List Resolution) (r : Resolution) :
    a.settled (rs ++ [r]) = (a.settled rs).resolve r := by
  simp [settled]

theorem settled_append (a : Alert) (rs more : List Resolution) :
    a.settled (rs ++ more) = (a.settled rs).settled more := by
  simp [settled]

@[simp]
theorem opened_settled (a : Alert) (rs : List Resolution) : (a.settled rs).opened = a.opened := by
  induction rs using List.reverseRecOn with
  | nil => rfl
  | append_singleton rs r ih => rw [settled_concat, opened_resolve, ih]

@[simp]
theorem id_settled (a : Alert) (rs : List Resolution) : (a.settled rs).id = a.id := by
  change (a.settled rs).opened.id = a.opened.id
  rw [opened_settled]

/-- The last resolution counts. -/
theorem settled_eq (a : Alert) (rs : List Resolution) :
    a.settled rs = (rs.getLast?.map a.resolve).getD a := by
  induction rs using List.reverseRecOn with
  | nil => rfl
  | append_singleton rs r ih =>
    rw [settled_concat, ih]
    cases rs.getLast? <;> simp [resolve]

theorem isResolved_settled (a : Alert) (rs : List Resolution) :
    (a.settled rs).isResolved = (a.isResolved || !rs.isEmpty) := by
  induction rs using List.reverseRecOn with
  | nil => simp
  | append_singleton rs r ih => simp [settled_concat, resolve]

end Alert

namespace StoreOperation

/-- The alert that an operation adds. -/
def alert? : StoreOperation → Option Alert
  | call (.recordAlert a) => some a
  | _ => none

/-- The resolution that an operation brings to the alert with an id. -/
def resolutionOf? (id : Uuid) : StoreOperation → Option Resolution
  | call (.resolveAlert i r) => if i = id then some r else none
  | _ => none

/-- The alerts that operations add, in their order. -/
def recordedAlerts (ops : List StoreOperation) : List Alert :=
  ops.filterMap alert?

/-- The resolutions that operations bring to the alert with an id, in their order. -/
def resolutionsOf (id : Uuid) (ops : List StoreOperation) : List Resolution :=
  ops.filterMap (resolutionOf? id)

/-- The alerts that operations add, each as the later operations leave it. -/
def settledAlerts : List StoreOperation → List Alert
  | [] => []
  | op :: later =>
    (op.alert?.map fun a => a.settled (resolutionsOf a.id later)).toList ++ settledAlerts later

theorem resolutionsOf_append (id : Uuid) (ops later : List StoreOperation) :
    resolutionsOf id (ops ++ later) = resolutionsOf id ops ++ resolutionsOf id later :=
  List.filterMap_append

theorem resolutionsOf_eq_nil (id : Uuid) (ops : List StoreOperation) :
    resolutionsOf id ops = [] ↔ ∀ r, call (.resolveAlert id r) ∉ ops := by
  rw [resolutionsOf, List.filterMap_eq_nil_iff]
  constructor
  · intro h r hmem
    have hnone := h _ hmem
    simp [resolutionOf?] at hnone
  · intro h op hop
    cases op with
    | upsertDossier d => rfl
    | upsertOrganization o => rfl
    | call c =>
      cases c with
      | resolveAlert i r =>
        have hother : i ≠ id := by
          rintro rfl
          exact h r hop
        simp [resolutionOf?, hother]
      | _ => rfl

theorem settledAlerts_append (ops later : List StoreOperation) :
    settledAlerts (ops ++ later) =
      (settledAlerts ops).map (fun a => a.settled (resolutionsOf a.id later)) ++
        settledAlerts later := by
  induction ops with
  | nil => rfl
  | cons op ops ih =>
    rw [List.cons_append, settledAlerts, settledAlerts, ih, List.map_append, List.append_assoc]
    congr 1
    cases op.alert? with
    | none => rfl
    | some a => simp [resolutionsOf_append, Alert.settled_append]

theorem opened_settledAlerts (ops : List StoreOperation) :
    (settledAlerts ops).map Alert.opened = (recordedAlerts ops).map Alert.opened := by
  induction ops with
  | nil => rfl
  | cons op ops ih =>
    rw [settledAlerts, List.map_append, ih, recordedAlerts, recordedAlerts, List.filterMap_cons]
    cases op.alert? with
    | none => rfl
    | some a => simp

theorem mem_settledAlerts {ops : List StoreOperation} {b : Alert} :
    b ∈ settledAlerts ops ↔
      ∃ before a later, ops = before ++ call (.recordAlert a) :: later ∧
        b = a.settled (resolutionsOf a.id later) := by
  constructor
  · intro hb
    induction ops with
    | nil => cases hb
    | cons op ops ih =>
      rcases List.mem_append.mp hb with hfirst | hrest
      · obtain ⟨a, hop, rfl⟩ := Option.map_eq_some_iff.mp (Option.mem_toList.mp hfirst)
        refine ⟨[], a, ops, ?_, rfl⟩
        cases op with
        | upsertDossier d => cases hop
        | upsertOrganization o => cases hop
        | call c => cases c <;> cases hop; rfl
      · obtain ⟨before, a, later, rfl, hsettled⟩ := ih hrest
        exact ⟨op :: before, a, later, rfl, hsettled⟩
  · rintro ⟨before, a, later, rfl, rfl⟩
    rw [settledAlerts_append]
    exact List.mem_append_right _ (List.mem_append_left _ (by simp [alert?]))

end StoreOperation

/-! ### One operation -/

namespace MemoryStore

open StoreOperation (after recordedAlerts resolutionsOf settledAlerts)

/-- When no two alerts have one id, resolving the first is resolving each. -/
theorem resolveFirst_eq_map {alerts : List Alert} (hids : (alerts.map (·.id)).Nodup) (id : Uuid)
    (r : Resolution) :
    resolveFirst id r alerts = alerts.map fun a => if a.id = id then a.resolve r else a := by
  induction alerts with
  | nil => rfl
  | cons a rest ih =>
    obtain ⟨hfresh, hrest⟩ := List.nodup_cons.mp hids
    rw [resolveFirst, List.map_cons]
    by_cases ha : a.id = id
    · have hothers : ∀ b ∈ rest, (if b.id = id then b.resolve r else b) = b := by
        intro b hb
        refine if_neg ?_
        rintro rfl
        exact hfresh (List.mem_map.mpr ⟨b, hb, ha.symm⟩)
      rw [if_pos ha, if_pos ha, List.map_congr_left hothers, List.map_id']
    · rw [if_neg ha, if_neg ha, ih hrest]

theorem opened_resolveFirst (id : Uuid) (r : Resolution) (alerts : List Alert) :
    (resolveFirst id r alerts).map Alert.opened = alerts.map Alert.opened := by
  induction alerts with
  | nil => rfl
  | cons a rest ih =>
    rw [resolveFirst]
    split
    · rfl
    · rw [List.map_cons, List.map_cons, ih]

theorem resolveFirst_append {id : Uuid} {before : List Alert}
    (hunknown : id ∉ before.map (·.id)) (r : Resolution) (behind : List Alert) :
    resolveFirst id r (before ++ behind) = before ++ resolveFirst id r behind := by
  induction before with
  | nil => rfl
  | cons a rest ih =>
    obtain ⟨ha, hrest⟩ := not_or.mp (mt List.mem_cons.mpr hunknown)
    rw [List.cons_append, resolveFirst, if_neg fun h => ha h.symm, ih hrest, List.cons_append]

theorem resolveFirst_of_notMem {id : Uuid} {alerts : List Alert}
    (hunknown : id ∉ alerts.map (·.id)) (r : Resolution) : resolveFirst id r alerts = alerts := by
  have hnone := resolveFirst_append hunknown r []
  rwa [resolveFirst, List.append_nil] at hnone

theorem find?_of_notMem {id : Uuid} {alerts : List Alert} (hunknown : id ∉ alerts.map (·.id)) :
    alerts.find? (fun a => a.id = id) = none := by
  rw [List.find?_eq_none]
  intro a ha hid
  exact hunknown (List.mem_map.mpr ⟨a, ha, of_decide_eq_true hid⟩)

/-- No alert of an unknown id is resolved. -/
theorem resolveAlert_unknown {s : MemoryStore} {id : Uuid}
    (hunknown : id ∉ s.alerts.map (·.id)) (r : Resolution) :
    handle (.resolveAlert id r) s = (.ok none, s) := by
  rw [handle, findAlert?, find?_of_notMem hunknown, resolveAlert,
    resolveFirst_of_notMem hunknown]
  rfl

/-- Of the alerts of an id the first is resolved, and nothing else changes. -/
theorem resolveAlert_first {s : MemoryStore} {before behind : List Alert} {a : Alert}
    (halerts : s.alerts = before ++ a :: behind) (hfirst : a.id ∉ before.map (·.id))
    (r : Resolution) :
    handle (.resolveAlert a.id r) s =
      (.ok (some (a.resolve r)), { s with alerts := before ++ a.resolve r :: behind }) := by
  have hfound : s.findAlert? a.id = some a := by
    rw [findAlert?, halerts, List.find?_append, find?_of_notMem hfirst]
    simp
  rw [handle, hfound, resolveAlert, halerts, resolveFirst_append hfirst, resolveFirst, if_pos rfl]
  rfl

/-- The alerts in a store but for their resolutions: an operation leaves them
alone or adds one behind the last. -/
theorem opened_step (op : StoreOperation) (s : MemoryStore) :
    (op.step s).alerts.map Alert.opened =
      s.alerts.map Alert.opened ++ (op.alert?.map Alert.opened).toList := by
  cases op with
  | upsertDossier d => exact (List.append_nil _).symm
  | upsertOrganization o => exact (List.append_nil _).symm
  | call c =>
    cases c with
    | recordAlert a => exact List.map_append
    | resolveAlert id r =>
      exact (opened_resolveFirst id r s.alerts).trans (List.append_nil _).symm
    | _ => exact (List.append_nil _).symm

theorem map_settled_of_none {op : StoreOperation} (hnone : ∀ id, op.resolutionOf? id = none)
    (alerts : List Alert) :
    alerts.map (fun a => a.settled (resolutionsOf a.id [op])) = alerts := by
  have hsame : ∀ a ∈ alerts, a.settled (resolutionsOf a.id [op]) = a := by
    intro a _
    simp [resolutionsOf, hnone]
  rw [List.map_congr_left hsame, List.map_id']

/-- An operation settles every alert by the resolution that it brings, if no
two alerts have one id. -/
theorem alerts_step (op : StoreOperation) {s : MemoryStore}
    (hids : (s.alerts.map (·.id)).Nodup) :
    (op.step s).alerts =
      s.alerts.map (fun a => a.settled (resolutionsOf a.id [op])) ++ op.alert?.toList := by
  cases op with
  | upsertDossier d =>
    rw [map_settled_of_none fun _ => rfl]
    exact (List.append_nil _).symm
  | upsertOrganization o =>
    rw [map_settled_of_none fun _ => rfl]
    exact (List.append_nil _).symm
  | call c =>
    cases c with
    | recordAlert a =>
      rw [map_settled_of_none fun _ => rfl]
      rfl
    | resolveAlert id r =>
      refine (resolveFirst_eq_map hids id r).trans ((List.map_congr_left ?_).trans
        (List.append_nil _).symm)
      intro a _
      by_cases ha : a.id = id
      · simp [resolutionsOf, StoreOperation.resolutionOf?, ha, Alert.settled]
      · simp [resolutionsOf, StoreOperation.resolutionOf?, ha, Ne.symm ha]
    | _ =>
      rw [map_settled_of_none fun _ => rfl]
      exact (List.append_nil _).symm

/-- What may become of a stored alert: it stays what it was when it was raised,
and once resolved it is resolved for good. -/
structure Continues (a b : Alert) : Prop where
  opened : b.opened = a.opened
  resolved : a.isResolved = true → b.isResolved = true

theorem Continues.refl (a : Alert) : Continues a a :=
  ⟨rfl, id⟩

theorem Continues.trans {a b c : Alert} (h₁ : Continues a b) (h₂ : Continues b c) :
    Continues a c :=
  ⟨h₂.opened.trans h₁.opened, fun h => h₂.resolved (h₁.resolved h)⟩

theorem continues_resolveFirst (id : Uuid) (r : Resolution) {alerts : List Alert} {i : Nat}
    {a : Alert} (ha : alerts[i]? = some a) :
    ∃ b, (resolveFirst id r alerts)[i]? = some b ∧ Continues a b := by
  induction alerts generalizing i with
  | nil => cases ha
  | cons first rest ih =>
    rw [resolveFirst]
    split
    · cases i with
      | zero =>
        cases ha
        exact ⟨a.resolve r, rfl, rfl, fun _ => rfl⟩
      | succ i => exact ⟨a, ha, Continues.refl a⟩
    · cases i with
      | zero => exact ⟨a, ha, Continues.refl a⟩
      | succ i => exact ih ha

theorem continues_step (op : StoreOperation) {s : MemoryStore} {i : Nat} {a : Alert}
    (ha : s.alerts[i]? = some a) :
    ∃ b, (op.step s).alerts[i]? = some b ∧ Continues a b := by
  cases op with
  | upsertDossier d => exact ⟨a, ha, Continues.refl a⟩
  | upsertOrganization o => exact ⟨a, ha, Continues.refl a⟩
  | call c =>
    cases c with
    | recordAlert added =>
      have hlt : i < s.alerts.length := (List.getElem?_eq_some_iff.mp ha).1
      exact ⟨a, (List.getElem?_append_left hlt).trans ha, Continues.refl a⟩
    | resolveAlert id r => exact continues_resolveFirst id r ha
    | _ => exact ⟨a, ha, Continues.refl a⟩

/-! ### All operations -/

theorem opened_after (ops : List StoreOperation) :
    (after ops).alerts.map Alert.opened = (recordedAlerts ops).map Alert.opened := by
  induction ops using List.reverseRecOn with
  | nil => rfl
  | append_singleton ops op ih =>
    rw [StoreOperation.after_append, opened_step, ih, recordedAlerts, recordedAlerts,
      List.filterMap_append, List.map_append]
    cases hop : op.alert? <;> simp [hop]

theorem ids_after (ops : List StoreOperation) :
    (after ops).alerts.map (·.id) = (recordedAlerts ops).map (·.id) := by
  have h := congrArg (List.map fun a : Alert => a.id) (opened_after ops)
  rw [List.map_map, List.map_map] at h
  exact h

theorem continues_after (ops later : List StoreOperation) {i : Nat} {a : Alert}
    (ha : (after ops).alerts[i]? = some a) :
    ∃ b, (after (ops ++ later)).alerts[i]? = some b ∧ Continues a b := by
  induction later using List.reverseRecOn with
  | nil => exact ⟨a, by rwa [List.append_nil], Continues.refl a⟩
  | append_singleton later op ih =>
    obtain ⟨b, hb, hab⟩ := ih
    obtain ⟨c, hc, hbc⟩ := continues_step op hb
    rw [← List.append_assoc, StoreOperation.after_append]
    exact ⟨c, hc, hab.trans hbc⟩

/-- The list of all alerts, told from the operations. -/
theorem alerts_after {ops : List StoreOperation}
    (hdistinct : ((recordedAlerts ops).map (·.id)).Nodup) :
    (after ops).alerts = settledAlerts ops := by
  induction ops using List.reverseRecOn with
  | nil => rfl
  | append_singleton ops op ih =>
    have hearlier : ((recordedAlerts ops).map (·.id)).Nodup := by
      rw [recordedAlerts, List.filterMap_append, List.map_append] at hdistinct
      exact (List.nodup_append.mp hdistinct).1
    have hids : ((after ops).alerts.map (·.id)).Nodup := by rwa [ids_after]
    have hlast : settledAlerts [op] = op.alert?.toList := by
      cases hop : op.alert? <;> simp [settledAlerts, hop, resolutionsOf]
    rw [StoreOperation.after_append, alerts_step op hids, ih hearlier,
      StoreOperation.settledAlerts_append, hlast]

theorem notMem_before {alerts before behind : List Alert} {a : Alert}
    (hids : (alerts.map (·.id)).Nodup) (halerts : alerts = before ++ a :: behind) :
    a.id ∉ before.map (·.id) := by
  rw [halerts, List.map_append, List.nodup_append] at hids
  intro hmem
  exact hids.2.2 a.id hmem a.id (List.mem_map_of_mem List.mem_cons_self) rfl

theorem alert_at {before later : List StoreOperation} {a : Alert}
    (hdistinct : ((recordedAlerts (before ++ .call (.recordAlert a) :: later)).map (·.id)).Nodup) :
    (after (before ++ .call (.recordAlert a) :: later)).alerts[(recordedAlerts before).length]? =
      some (a.settled (resolutionsOf a.id later)) := by
  have hlength : (settledAlerts before).length = (recordedAlerts before).length := by
    simpa using congrArg List.length (StoreOperation.opened_settledAlerts before)
  rw [alerts_after hdistinct, StoreOperation.settledAlerts_append,
    List.getElem?_append_right (by simp [hlength])]
  simp [hlength, settledAlerts, StoreOperation.alert?]

/-- Unresolved are those alerts of a dossier that no operation resolved after
they were added. -/
theorem mem_unresolved {ops : List StoreOperation}
    (hraised : ∀ a ∈ recordedAlerts ops, a.IsRaised)
    (hdistinct : ((recordedAlerts ops).map (·.id)).Nodup) (dossierId : String) (a : Alert) :
    a ∈ Alert.unresolvedOf dossierId (after ops).alerts ↔
      a.dossierId = dossierId ∧ ∃ before later, ops = before ++ .call (.recordAlert a) :: later ∧
        ∀ r, .call (.resolveAlert a.id r) ∉ later := by
  have hperm := Instant.newestFirst_perm Alert.createdAt
    ((after ops).alerts.filter fun a => a.dossierId == dossierId && !a.isResolved)
  rw [Alert.unresolvedOf, hperm.mem_iff, List.mem_filter, alerts_after hdistinct,
    StoreOperation.mem_settledAlerts]
  simp only [Bool.and_eq_true, beq_iff_eq, Bool.not_eq_true', ← StoreOperation.resolutionsOf_eq_nil]
  constructor
  · rintro ⟨⟨before, added, later, hops, rfl⟩, hdossier, hopen⟩
    rw [Alert.isResolved_settled, Bool.or_eq_false_iff, Bool.not_eq_false',
      List.isEmpty_iff] at hopen
    rw [hopen.2] at hdossier ⊢
    exact ⟨hdossier, before, later, hops, hopen.2⟩
  · rintro ⟨hdossier, before, later, hops, hnone⟩
    have hadded : a ∈ recordedAlerts ops := by
      rw [hops]
      exact List.mem_filterMap.mpr ⟨_, List.mem_append_right _ List.mem_cons_self, rfl⟩
    refine ⟨⟨before, a, later, hops, by rw [hnone, Alert.settled_nil]⟩, hdossier, ?_⟩
    exact (hraised a hadded).isResolved

/-- The alerts of one time are read from the last that was recorded to the first. -/
theorem pairwise_unresolved {ops : List StoreOperation}
    (hraised : ∀ a ∈ recordedAlerts ops, a.IsRaised)
    (hdistinct : ((recordedAlerts ops).map (·.id)).Nodup) (dossierId : String) :
    (Alert.unresolvedOf dossierId (after ops).alerts).Pairwise
      (Instant.Precedes Alert.createdAt (recordedAlerts ops)) := by
  have hopened {a : Alert} (ha : a ∈ Alert.unresolvedOf dossierId (after ops).alerts) :
      a.opened = a := by
    obtain ⟨_, before, later, hops, _⟩ := (mem_unresolved hraised hdistinct dossierId a).mp ha
    refine (hraised a ?_).opened
    rw [hops]
    exact List.mem_filterMap.mpr ⟨_, List.mem_append_right _ List.mem_cons_self, rfl⟩
  have hrecorded : (after ops).alerts.map Alert.opened = recordedAlerts ops := by
    rw [opened_after, List.map_congr_left fun a ha => (hraised a ha).opened, List.map_id']
  refine (Instant.newestFirst_pairwise Alert.createdAt _).imp_of_mem ?_
  intro a b ha hb hprecedes
  refine ⟨hprecedes.1, fun hsame => ?_⟩
  have hstored := ((hprecedes.2 hsame).trans List.filter_sublist).map Alert.opened
  rw [hrecorded, List.map_cons, List.map_cons, List.map_nil, hopened ha, hopened hb] at hstored
  exact hstored

theorem nodup_unresolved {ops : List StoreOperation}
    (hdistinct : ((recordedAlerts ops).map (·.id)).Nodup) (dossierId : String) :
    (Alert.unresolvedOf dossierId (after ops).alerts).Nodup := by
  have hids : ((after ops).alerts.map (·.id)).Nodup := by rwa [ids_after]
  exact (Instant.newestFirst_perm Alert.createdAt _).nodup_iff.mpr (hids.of_map.filter _)

/-- The life of the alerts in every state of a store. What was recorded stays, in
its order and as it was but for its resolution; resolving an unknown alert does
nothing, and resolving a known one changes its resolution and nothing else; the
last resolution counts and is never taken back; and the unresolved alerts of a
dossier are read from the newest to the oldest. -/
theorem alert_life_cycle {ops : List StoreOperation}
    (hraised : ∀ a ∈ recordedAlerts ops, a.IsRaised)
    (hdistinct : ((recordedAlerts ops).map (·.id)).Nodup) :
    (after ops).alerts.map Alert.opened = recordedAlerts ops ∧
    (∀ (later : List StoreOperation) (i : Nat) (a : Alert), (after ops).alerts[i]? = some a →
      ∃ b : Alert, (after (ops ++ later)).alerts[i]? = some b ∧ b.opened = a.opened ∧
        (a.isResolved = true → b.isResolved = true)) ∧
    (∀ (id : Uuid) (r : Resolution), id ∉ (recordedAlerts ops).map (·.id) →
      handle (.resolveAlert id r) (after ops) = (.ok none, after ops)) ∧
    (∀ (before : List Alert) (a : Alert) (behind : List Alert) (r : Resolution),
      (after ops).alerts = before ++ a :: behind →
      let resolved : Alert :=
        { a with
          isResolved := true
          resolvedBy := some r.resolvedBy
          resolvedAt := some r.resolvedAt
          resolution := some r.text }
      handle (.resolveAlert a.id r) (after ops) =
        (.ok (some resolved), { after ops with alerts := before ++ resolved :: behind })) ∧
    (∀ (before : List StoreOperation) (a : Alert) (later : List StoreOperation),
      ops = before ++ .call (.recordAlert a) :: later →
      (after ops).alerts[(recordedAlerts before).length]? =
        some (((resolutionsOf a.id later).getLast?.map a.resolve).getD a)) ∧
    (∀ dossierId, ∃ found : List Alert,
      handle (.unresolvedAlerts dossierId) (after ops) = (.ok found, after ops) ∧
        found.Nodup ∧
        (∀ a, a ∈ found ↔ a.dossierId = dossierId ∧
          ∃ before later, ops = before ++ .call (.recordAlert a) :: later ∧
            ∀ r, .call (.resolveAlert a.id r) ∉ later) ∧
        found.Pairwise fun a b => b.createdAt ≤ a.createdAt ∧
          (a.createdAt ≤ b.createdAt → [b, a].Sublist (recordedAlerts ops))) := by
  have hids : ((after ops).alerts.map (·.id)).Nodup := by rwa [ids_after]
  refine ⟨?_, ?_, ?_, ?_, ?_, ?_⟩
  · rw [opened_after, List.map_congr_left fun a ha => (hraised a ha).opened, List.map_id']
  · intro later i a ha
    obtain ⟨b, hb, hcontinues⟩ := continues_after ops later ha
    exact ⟨b, hb, hcontinues.opened, hcontinues.resolved⟩
  · intro id r hunknown
    rw [← ids_after] at hunknown
    exact resolveAlert_unknown hunknown r
  · intro before a behind r halerts
    exact resolveAlert_first halerts (notMem_before hids halerts) r
  · rintro before a later rfl
    rw [alert_at hdistinct, Alert.settled_eq]
  · intro dossierId
    exact ⟨_, rfl, nodup_unresolved hdistinct dossierId, mem_unresolved hraised hdistinct dossierId,
      pairwise_unresolved hraised hdistinct dossierId⟩

/-- An alert of dossier dos-1, raised at one moment whatever its id. -/
def alertOf (id : Uuid) : Alert :=
  .raise id "dos-1" ⟨.invoiced⟩
    { ruleId := "RULE_NDA_REQUIRED", severity := .blocking, context := .tenantCompliance
      message := "no NDA", details := .null }
    ⟨⟨2026, 5, 4, by decide⟩, 30300, 0, by decide⟩

/-- Alerts are recorded under three ids, of which one is resolved afterwards
and another one before it is known. -/
def earlyAndLate (first second third : Uuid) (r : Resolution) : List StoreOperation :=
  [.call (.resolveAlert third r), .call (.recordAlert (alertOf first)),
   .call (.recordAlert (alertOf second)), .call (.recordAlert (alertOf third)),
   .call (.resolveAlert second r)]

/-- Only the alert that was resolved afterwards is settled. -/
theorem early_resolution_lost :
    let first : Uuid := ⟨List.replicate 32 '0', by decide⟩
    let second : Uuid := ⟨List.replicate 32 '1', by decide⟩
    let third : Uuid := ⟨List.replicate 32 '2', by decide⟩
    let r : Resolution :=
      ⟨"alice", "NDA uploaded", ⟨⟨2026, 6, 2, by decide⟩, 36001, 0, by decide⟩⟩
    let ops := earlyAndLate first second third r
    (∀ a ∈ recordedAlerts ops, a.IsRaised) ∧ ((recordedAlerts ops).map (·.id)).Nodup ∧
      (after ops).alerts[1]? = some ((alertOf second).resolve r) ∧
      (after ops).alerts[2]? = some (alertOf third) ∧
      ∃ found : List Alert,
        handle (.unresolvedAlerts "dos-1") (after ops) = (.ok found, after ops) ∧
          alertOf third ∈ found := by
  intro first second third r ops
  have hraised : ∀ a ∈ recordedAlerts ops, a.IsRaised := by
    intro a ha
    simp only [ops, earlyAndLate, recordedAlerts, StoreOperation.alert?, List.filterMap_cons,
      List.filterMap_nil, List.mem_cons, List.not_mem_nil, or_false] at ha
    rcases ha with rfl | rfl | rfl <;> exact ⟨_, _, _, _, _, rfl⟩
  have hdistinct : ((recordedAlerts ops).map (·.id)).Nodup := by decide
  obtain ⟨_, _, _, _, hlast, hfound⟩ := alert_life_cycle hraised hdistinct
  let early : List StoreOperation :=
    [.call (.resolveAlert third r), .call (.recordAlert (alertOf first))]
  let middle : List StoreOperation := early ++ [.call (.recordAlert (alertOf second))]
  let late : List StoreOperation := [.call (.resolveAlert second r)]
  have hsecond := hlast early (alertOf second) (.call (.recordAlert (alertOf third)) :: late) rfl
  have hthird := hlast middle (alertOf third) late rfl
  obtain ⟨found, hreply, _, hmem, _⟩ := hfound "dos-1"
  refine ⟨hraised, hdistinct, hsecond, hthird, found, hreply,
    (hmem _).mpr ⟨rfl, middle, late, rfl, ?_⟩⟩
  intro later hlater
  injection List.mem_singleton.mp hlater with hcall
  injection hcall with hid
  exact absurd hid (by decide)

end MemoryStore

end DossierCompliance
