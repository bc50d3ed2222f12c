import DossierCompliance.Proofs.Engine.Confinement
import DossierCompliance.Proofs.Engine.Interleaving
import DossierCompliance.Proofs.Store.Separation

/-!
Tasks of different dossiers at one store in memory. Every task has a clock and a
source of identifiers of its own, so that one can be taken out of a run without
changing what the others read. A run of all tasks is compared with the run in which
those of other dossiers never have a turn: the tasks that are left do the same in
both, and the store of the first run covers that of the second for the dossier.
Three facts carry this: a validation calls for its own dossier only, what a
resolution concerns is told by its end, and no task looks at the hash of an entry.
-/

namespace DossierCompliance

open StoreOperation (after)

/-! ### Programs that ignore hashes -/

namespace Program

variable {α β : Type}

/-- How a program goes on does not depend on the hashes of the entries that it
records. -/
def IgnoresHashes : Program α → Prop
  | done _ => True
  | call .now next => ∀ time, (next time).IgnoresHashes
  | call .newId next => ∀ id, (next id).IgnoresHashes
  | call (.store c) next => ∀ reply, (next reply).IgnoresHashes ∧
    ∀ other, c.SameReply reply other → next other = next reply

theorem IgnoresHashes.bind {p : Program α} {f : α → Program β} (hp : p.IgnoresHashes)
    (hf : ∀ a, (f a).IgnoresHashes) : (p >>= f).IgnoresHashes := by
  induction p with
  | done a => exact hf a
  | call c next ih =>
    cases c with
    | now =>
      intro time
      exact ih time (hp time)
    | newId =>
      intro id
      exact ih id (hp id)
    | store c =>
      intro reply
      obtain ⟨hnext, hsame⟩ := hp reply
      refine ⟨ih reply hnext, ?_⟩
      intro other hother
      exact congrArg (fun rest => rest.bind f) (hsame other hother)

theorem IgnoresHashes.map {p : Program α} (hp : p.IgnoresHashes) (f : α → β) :
    (p >>= fun a => pure (f a)).IgnoresHashes := by
  apply hp.bind
  intro a
  trivial

end Program

namespace Engine

theorem ignoresHashes_recordAlerts (dossierId : String) (trigger : Trigger) (createdAt : Instant)
    (vs : List Violation) : (recordAlerts dossierId trigger createdAt vs).IgnoresHashes := by
  induction vs with
  | nil => trivial
  | cons v vs ih =>
    intro id reply
    refine ⟨?_, ?_⟩
    · cases reply with
      | ok answer => exact ih.map _
      | error why => exact ih.map _
    · rintro other rfl
      rfl

theorem ignoresHashes_recordAudit (d : Dossier) (a : Assessment) (actor : Option Actor)
    (timestamp : Instant) : (recordAudit d a actor timestamp).IgnoresHashes := by
  cases actor with
  | none => trivial
  | some who =>
    rw [recordAudit]
    split
    · trivial
    · intro id reply
      refine ⟨?_, ?_⟩
      · cases reply with
        | ok entry => trivial
        | error why => trivial
      · intro other hsame
        cases reply with
        | ok entry =>
          cases other with
          | ok added =>
            -- only the identifier of the entry is reported
            have hid : entry.id = added.id := congrArg Prod.fst (Except.ok.inj hsame)
            exact congrArg (fun id => Program.done (some (Except.ok id))) hid.symm
          | error why => cases hsame
        | error why =>
          cases other with
          | ok added => cases hsame
          | error reason =>
            cases hsame
            rfl

theorem ignoresHashes_validate (e : Engine) (dossierId : String) (target : Status)
    (actor : Option Actor) : (e.validate dossierId target actor).IgnoresHashes := by
  rw [validate_eq]
  intro reply
  refine ⟨?_, ?_⟩
  · rcases reply with why | none | d
    · trivial
    · trivial
    · intro today
      apply Program.IgnoresHashes.map
      intro time
      apply (ignoresHashes_recordAlerts d.id ⟨target⟩ time _).bind
      intro alerts
      exact (ignoresHashes_recordAudit d _ actor time).map _
  · rintro other rfl
    rfl

/-! ### Validations of one dossier -/

/-- A dossier that is found has the id that was asked for. -/
def FoundById : (c : StoreCall) → c.Reply → Prop
  | .findDossier id, reply => ∀ d, reply = .ok (some d) → d.id = id
  | _, _ => True

/-- The call concerns one dossier, whatever is stored. -/
def CallsFor (dossierId : String) (c : StoreCall) : Prop :=
  ∀ s, StoreOperation.Concerns (· = dossierId) s (.call c)

theorem callsFor_validate (e : Engine) (dossierId : String) (target : Status)
    (actor : Option Actor) :
    (e.validate dossierId target actor).Confined (CallsFor dossierId) FoundById := by
  apply confined_validate
  · intro s
    rfl
  · intro d hfound day time v _ id s
    exact hfound d rfl
  · intro d hfound day time who _ _ id s
    exact hfound d rfl

theorem foundById_handle (c : StoreCall) (ops : List StoreOperation) :
    FoundById c (MemoryStore.handle c (after ops)).1 := by
  cases c with
  | findDossier id =>
    intro d hfound
    exact MemoryStore.id_of_get? (Except.ok.inj hfound)
  | _ => trivial

end Engine

/-! ### What is left of a task -/

/-- The program may resolve an alert; it ends then, and with that alert. -/
def Program.Resolves : Program Ending → Prop
  | done _ => True
  | call .now next => ∀ time, (next time).Resolves
  | call .newId next => ∀ id, (next id).Resolves
  | call (.store (.resolveAlert _ _)) next => ∀ reply, (next reply).Resolves ∧
    ∀ a, reply = .ok (some a) → next reply = .done (.resolved (.ok a))
  | call (.store _) _ => False

/-- What a task has to do from some point on. -/
def Task.Fits : Task → Activity → Prop
  | validation _ dossierId _ _, .program rest =>
    rest.Confined (Engine.CallsFor dossierId) Engine.FoundById
  | resolution _ _ _, .program rest => rest.Resolves
  | upsert d, .upsert added => added = d
  | upsert _, .program (.done _) => True
  | _, _ => False

def Activity.IgnoresHashes : Activity → Prop
  | upsert _ => True
  | program rest => rest.IgnoresHashes

namespace Task

theorem fits_begin (task : Task) : task.Fits task.begin := by
  cases task with
  | validation e dossierId target actor =>
    exact (Engine.callsFor_validate e dossierId target actor).map _
  | resolution id resolvedBy text =>
    intro time reply
    rcases reply with why | none | a
    · exact ⟨trivial, fun a ha => by cases ha⟩
    · exact ⟨trivial, fun a ha => by cases ha⟩
    · refine ⟨trivial, ?_⟩
      rintro b hb
      cases hb
      rfl
  | upsert d => rfl

theorem ignoresHashes_begin (task : Task) : task.begin.IgnoresHashes := by
  cases task with
  | validation e dossierId target actor =>
    exact (Engine.ignoresHashes_validate e dossierId target actor).map _
  | resolution id resolvedBy text =>
    intro time reply
    refine ⟨?_, ?_⟩
    · rcases reply with why | none | a <;> trivial
    · rintro other rfl
      rfl
  | upsert d => trivial

/-- A task fits after a step at a store in which dossiers are found by their ids. -/
theorem Fits.next {task : Task} {a : Activity} (h : task.Fits a) (supply : Supply) (n : Nat)
    (ops : List StoreOperation) : task.Fits (a.next supply n (after ops)) := by
  cases a with
  | upsert added =>
    cases task with
    | upsert d => trivial
    | _ => exact h.elim
  | program rest =>
    rcases rest with ending | ⟨c, rest⟩
    · exact h
    · cases task with
      | validation e dossierId target actor =>
        cases c with
        | now => exact h _
        | newId => exact h _
        | store c => exact h.2 _ (Engine.foundById_handle c ops)
      | resolution id resolvedBy text =>
        cases c with
        | now => exact h _
        | newId => exact h _
        | store c =>
          cases c with
          | resolveAlert i r => exact (h _).1
          | _ => exact h.elim
      | upsert d => exact h.elim

/-- The dossier that a task concerns. Whose alert a resolution resolves is known
when it has ended. -/
def dossier? (ending : Option Ending) : Task → Option String
  | validation _ dossierId _ _ => some dossierId
  | upsert d => some d.id
  | resolution _ _ _ =>
    match ending with
    | some (.resolved (.ok a)) => some a.dossierId
    | _ => none

/-- What a task does next concerns the dossier that the task will have concerned. -/
theorem Fits.concerns {task : Task} {a : Activity} (h : task.Fits a) {op : StoreOperation}
    (hop : a.operation? = some op) (supply : Supply) (n : Nat) (s : MemoryStore)
    {ending : Option Ending}
    (hending : ∀ reached, (a.next supply n s).ending? = some reached → ending = some reached) :
    op.Concerns (fun id => task.dossier? ending = some id) s := by
  cases a with
  | upsert added =>
    cases hop
    cases task with
    | upsert d =>
      cases h
      rfl
    | _ => exact h.elim
  | program rest =>
    rcases rest with reached | ⟨_ | _ | c, rest⟩
    · cases hop
    · cases hop
    · cases hop
    · cases hop
      cases task with
      | validation e dossierId target actor =>
        refine (h.1 s).mono ?_
        rintro id rfl
        rfl
      | resolution id resolvedBy text =>
        cases c with
        | resolveAlert i r =>
          intro found hfound
          have hreply : (MemoryStore.handle (.resolveAlert i r) s).1 =
              .ok (some (found.resolve r)) := by
            rw [MemoryStore.handle, Option.mem_def.mp hfound]
            rfl
          have hended : rest (MemoryStore.handle (.resolveAlert i r) s).1 =
              .done (.resolved (.ok (found.resolve r))) := (h _).2 _ hreply
          rw [Activity.next, hended] at hending
          rw [hending _ rfl]
          rfl
        | _ => exact h.elim
      | upsert d => exact h.elim

end Task

namespace Activity

theorem IgnoresHashes.next {a : Activity} (h : a.IgnoresHashes) (supply : Supply) (n : Nat)
    (s : MemoryStore) : (a.next supply n s).IgnoresHashes := by
  cases a with
  | upsert d => trivial
  | program rest =>
    rcases rest with ending | ⟨_ | _ | c, rest⟩
    · trivial
    · exact h _
    · exact h _
    · exact (h _).1

/-- A step that concerns a dossier leads to the same at a store that is covered. -/
theorem IgnoresHashes.next_eq {a : Activity} (h : a.IgnoresHashes) {dossierId : String}
    {all alone : MemoryStore} (hcovers : all.Covers dossierId alone)
    (hown : ∀ op ∈ a.operation?, op.Concerns (· = dossierId) all) (supply : Supply) (n : Nat) :
    a.next supply n alone = a.next supply n all := by
  cases a with
  | upsert d => rfl
  | program rest =>
    rcases rest with ending | ⟨_ | _ | c, rest⟩
    · rfl
    · rfl
    · rfl
    · exact congrArg program ((h _).2 _ (hcovers.sameReply (hown _ rfl)))

end Activity

/-! ### One task at work -/

/-- A task at work, with the readings that are its own. -/
structure Worker where
  task : Task
  supply : Supply
  readings : Nat
  activity : Activity

namespace Worker

def begin (task : Task) (supply : Supply) : Worker where
  task := task
  supply := supply
  readings := 0
  activity := task.begin

/-- The worker after its next step, taken at a store. -/
def step (w : Worker) (s : MemoryStore) : Worker :=
  { w with
    readings := w.readings + w.activity.readings
    activity := w.activity.next w.supply w.readings s }

/-- The dossier that the worker concerns, as far as it is known. -/
def dossier? (w : Worker) : Option String :=
  w.task.dossier? w.activity.ending?

structure IsSound (w : Worker) : Prop where
  fits : w.task.Fits w.activity
  ignoresHashes : w.activity.IgnoresHashes

/-- A later state of a worker: an end that was reached is kept. -/
structure Leads (w later : Worker) : Prop where
  task : later.task = w.task
  ending : ∀ reached, w.activity.ending? = some reached → later.activity.ending? = some reached

theorem leads_step (w : Worker) (s : MemoryStore) : w.Leads (w.step s) where
  task := rfl
  ending := by
    intro reached hreached
    obtain ⟨task, supply, readings, activity⟩ := w
    rcases activity with ⟨ending | ⟨c, rest⟩⟩ | d
    · exact hreached
    · cases hreached
    · cases hreached

theorem Leads.trans {w later last : Worker} (h : w.Leads later) (hlast : later.Leads last) :
    w.Leads last where
  task := hlast.task.trans h.task
  ending := fun reached hreached => hlast.ending reached (h.ending reached hreached)

theorem IsSound.step {w : Worker} (h : w.IsSound) (ops : List StoreOperation) :
    (w.step (after ops)).IsSound where
  fits := h.fits.next w.supply w.readings ops
  ignoresHashes := h.ignoresHashes.next w.supply w.readings _

/-- The next operation concerns the dossier that the worker concerns in the end. -/
theorem IsSound.concerns {w last : Worker} (h : w.IsSound) {s : MemoryStore}
    (hlast : (w.step s).Leads last) :
    ∀ op ∈ w.activity.operation?, op.Concerns (fun id => last.dossier? = some id) s := by
  intro op hop
  rw [dossier?, hlast.task]
  exact h.fits.concerns hop w.supply w.readings s hlast.ending

end Worker

/-! ### All tasks -/

/-- Tasks on their way at one store, each with readings of its own. -/
structure Workshop where
  workers : List Worker
  store : MemoryStore

namespace Workshop

def start (tasks : List (Task × Supply)) (s : MemoryStore) : Workshop where
  workers := tasks.map fun (task, supply) => .begin task supply
  store := s

/-- A worker takes its next step; nothing happens if there is no such worker or if
it has ended. -/
def step (w : Workshop) (i : Nat) : Workshop :=
  match w.workers[i]? with
  | none => w
  | some worker =>
    { workers := w.workers.set i (worker.step w.store)
      store := w.store.perform worker.activity.operation?.toList }

/-- The workers take their steps by a schedule. -/
def run (w : Workshop) (schedule : List Nat) : Workshop :=
  schedule.foldl step w

def ending? (w : Workshop) (i : Nat) : Option Ending :=
  w.workers[i]?.bind fun worker => worker.activity.ending?

/-- The worker concerns another dossier than the given one. -/
def isForeign (w : Workshop) (dossierId : String) (i : Nat) : Bool :=
  (w.workers[i]?.bind Worker.dossier?).any (· != dossierId)

theorem step_of_some {w : Workshop} {i : Nat} {worker : Worker}
    (hworker : w.workers[i]? = some worker) :
    w.step i =
      { workers := w.workers.set i (worker.step w.store)
        store := w.store.perform worker.activity.operation?.toList } := by
  rw [step, hworker]

theorem step_of_none {w : Workshop} {i : Nat} (hnone : w.workers[i]? = none) : w.step i = w := by
  rw [step, hnone]

theorem step_self {w : Workshop} {i : Nat} {worker : Worker}
    (hworker : w.workers[i]? = some worker) :
    (w.step i).workers[i]? = some (worker.step w.store) := by
  rw [step_of_some hworker]
  exact List.getElem?_set_self (List.getElem?_eq_some_iff.mp hworker).1

theorem step_other {i j : Nat} (hne : i ≠ j) (w : Workshop) :
    (w.step j).workers[i]? = w.workers[i]? := by
  cases hworker : w.workers[j]? with
  | none => rw [step_of_none hworker]
  | some worker =>
    rw [step_of_some hworker]
    exact List.getElem?_set_ne hne.symm

theorem run_append (w : Workshop) (first second : List Nat) :
    w.run (first ++ second) = (w.run first).run second :=
  List.foldl_append

/-- Workers stay and keep the ends that they have reached. -/
theorem leads_run {w : Workshop} {i : Nat} {worker : Worker}
    (hworker : w.workers[i]? = some worker) (schedule : List Nat) :
    ∃ last, (w.run schedule).workers[i]? = some last ∧ worker.Leads last := by
  induction schedule generalizing w worker with
  | nil => exact ⟨worker, hworker, rfl, fun _ hreached => hreached⟩
  | cons j schedule ih =>
    by_cases hij : i = j
    · subst hij
      obtain ⟨last, hlast, hleads⟩ := ih (step_self hworker)
      exact ⟨last, hlast, (worker.leads_step w.store).trans hleads⟩
    · exact ih ((step_other hij w).trans hworker)

/-! ### Sound workshops -/

/-- The store is one that operations lead to, and every worker has to do what its
task asks. -/
structure IsSound (w : Workshop) : Prop where
  store : ∃ ops, w.store = after ops
  workers : ∀ worker ∈ w.workers, worker.IsSound

theorem isSound_start (tasks : List (Task × Supply)) (ops : List StoreOperation) :
    (start tasks (after ops)).IsSound where
  store := ⟨ops, rfl⟩
  workers := by
    intro worker hworker
    obtain ⟨⟨task, supply⟩, _, rfl⟩ := List.mem_map.mp hworker
    exact ⟨task.fits_begin, task.ignoresHashes_begin⟩

theorem IsSound.step {w : Workshop} (h : w.IsSound) (i : Nat) : (w.step i).IsSound := by
  cases hworker : w.workers[i]? with
  | none => rwa [step_of_none hworker]
  | some worker =>
    obtain ⟨ops, hops⟩ := h.store
    rw [step_of_some hworker]
    constructor
    · refine ⟨ops ++ worker.activity.operation?.toList, ?_⟩
      rw [← MemoryStore.perform_after, ← hops]
    · intro other hother
      rcases List.mem_or_eq_of_mem_set hother with hsame | rfl
      · exact h.workers other hsame
      · rw [hops]
        exact (h.workers worker (List.mem_of_getElem? hworker)).step ops

theorem IsSound.run {w : Workshop} (h : w.IsSound) (schedule : List Nat) :
    (w.run schedule).IsSound := by
  induction schedule generalizing w with
  | nil => exact h
  | cons i schedule ih => exact ih (h.step i)

/-! ### Two runs -/

/-- The run of all tasks beside the run without those of other dossiers. -/
structure Separate (dossierId : String) (left : Nat → Bool) (all alone : Workshop) : Prop where
  store : all.store.Covers dossierId alone.store
  workers : ∀ i, left i = true → alone.workers[i]? = all.workers[i]?

variable {dossierId : String} {left : Nat → Bool} {all alone : Workshop} {i : Nat}

/-- A step that is left is the same in both runs. -/
theorem Separate.own (h : Separate dossierId left all alone) (hsound : all.IsSound)
    (hleft : left i = true)
    (hown : ∀ worker, all.workers[i]? = some worker →
      ∀ op ∈ worker.activity.operation?, op.Concerns (· = dossierId) all.store) :
    Separate dossierId left (all.step i) (alone.step i) := by
  cases hworker : all.workers[i]? with
  | none =>
    rw [step_of_none hworker, step_of_none ((h.workers i hleft).trans hworker)]
    exact h
  | some worker =>
    have halone := (h.workers i hleft).trans hworker
    have hconcerns := hown worker hworker
    have hnext : worker.step alone.store = worker.step all.store := by
      rw [Worker.step, (hsound.workers worker (List.mem_of_getElem? hworker)).ignoresHashes.next_eq
        h.store hconcerns]
      rfl
    constructor
    · rw [step_of_some hworker, step_of_some halone]
      cases hop : worker.activity.operation? with
      | none => exact h.store
      | some op => exact h.store.own (hconcerns op hop)
    · intro j hj
      by_cases hji : j = i
      · subst hji
        rw [step_self hworker, step_self halone, hnext]
      · rw [step_other hji, step_other hji]
        exact h.workers j hj

/-- A step that is taken out is not seen. -/
theorem Separate.foreign (h : Separate dossierId left all alone) (hleft : left i = false)
    (hforeign : ∀ worker, all.workers[i]? = some worker →
      ∀ op ∈ worker.activity.operation?, op.Concerns (· ≠ dossierId) all.store) :
    Separate dossierId left (all.step i) alone := by
  constructor
  · cases hworker : all.workers[i]? with
    | none =>
      rw [step_of_none hworker]
      exact h.store
    | some worker =>
      rw [step_of_some hworker]
      cases hop : worker.activity.operation? with
      | none => exact h.store
      | some op => exact h.store.foreign (hforeign worker hworker op hop)
  · intro j hj
    have hji : j ≠ i := by
      rintro rfl
      rw [hleft] at hj
      cases hj
    rw [step_other hji]
    exact h.workers j hj

theorem isForeign_eq {w : Workshop} {worker : Worker} (hworker : w.workers[i]? = some worker)
    {id : String} (hid : worker.dossier? = some id) (dossierId : String) :
    w.isForeign dossierId i = (id != dossierId) := by
  rw [isForeign, hworker, Option.bind_some, hid, Option.any_some]

/-- The two runs stay separate. What a step concerns is told by what its worker
concerns at the end of the whole run. -/
theorem separate_run {begun : Workshop} (hsound : begun.IsSound) (dossierId : String)
    (schedule later : List Nat) :
    let left (i : Nat) : Bool := !(begun.run (schedule ++ later)).isForeign dossierId i
    Separate dossierId left (begun.run schedule) (begun.run (schedule.filter left)) := by
  induction schedule using List.reverseRecOn generalizing later with
  | nil => exact ⟨.refl dossierId begun.store, fun _ _ => rfl⟩
  | append_singleton schedule i ih =>
    intro left
    have hearlier := ih (i :: later)
    have hwhole : schedule ++ i :: later = schedule ++ [i] ++ later := by simp
    rw [hwhole] at hearlier
    -- what the worker concerns in the end
    have hconcerns : ∀ worker, (begun.run schedule).workers[i]? = some worker →
        ∃ last, (begun.run (schedule ++ [i] ++ later)).workers[i]? = some last ∧
          ∀ op ∈ worker.activity.operation?,
            op.Concerns (fun id => last.dossier? = some id) (begun.run schedule).store := by
      intro worker hworker
      obtain ⟨last, hlast, hleads⟩ := leads_run (step_self hworker) later
      refine ⟨last, ?_, ?_⟩
      · rw [run_append, run_append]
        exact hlast
      · exact ((hsound.run schedule).workers worker (List.mem_of_getElem? hworker)).concerns hleads
    rw [run_append, List.filter_append, run_append]
    cases hleft : left i with
    | true =>
      rw [List.filter_singleton, hleft]
      refine hearlier.own (hsound.run schedule) hleft ?_
      intro worker hworker op hop
      obtain ⟨last, hlast, hlater⟩ := hconcerns worker hworker
      refine (hlater op hop).mono ?_
      intro id hid
      have hsame : left i = !(id != dossierId) := congrArg not (isForeign_eq hlast hid dossierId)
      rw [hleft] at hsame
      simpa using hsame
    | false =>
      rw [List.filter_singleton, hleft]
      refine hearlier.foreign hleft ?_
      intro worker hworker op hop
      obtain ⟨last, hlast, hlater⟩ := hconcerns worker hworker
      refine (hlater op hop).mono ?_
      intro id hid
      have hsame : left i = !(id != dossierId) := congrArg not (isForeign_eq hlast hid dossierId)
      rw [hleft] at hsame
      simpa using hsame

/-- Dossiers do not see each other. Take any run of validations, resolutions and
upserts at a store in any state, and leave out the turns of every task that concerns
another dossier: validations and upserts of other dossiers, and resolutions that
found an alert of another one. The tasks that are left end as before, so every verdict
of the dossier is the same; the unresolved alerts of the dossier are the same; and so
is its audit trail but for the hashes. -/
theorem dossiers_separate (dossierId : String) (tasks : List (Task × Supply))
    (ops : List StoreOperation) (schedule : List Nat) :
    let begun := start tasks (after ops)
    let all := begun.run schedule
    let alone := begun.run (schedule.filter fun i => !all.isForeign dossierId i)
    (∀ i, all.isForeign dossierId i = false → alone.ending? i = all.ending? i) ∧
    (∀ supply, ((Engine.unresolvedAlerts dossierId).run MemoryStore.handle supply alone.store).1 =
      ((Engine.unresolvedAlerts dossierId).run MemoryStore.handle supply all.store).1) ∧
    (∀ supply, ∃ entries others : List AuditEntry,
      ((Engine.auditTrail dossierId).run MemoryStore.handle supply all.store).1 = .ok entries ∧
      ((Engine.auditTrail dossierId).run MemoryStore.handle supply alone.store).1 = .ok others ∧
      others.map AuditEntry.record = entries.map AuditEntry.record) := by
  intro begun all alone
  have hseparate := separate_run (isSound_start tasks ops) dossierId schedule []
  rw [List.append_nil] at hseparate
  refine ⟨?_, ?_, ?_⟩
  · intro i hi
    rw [ending?, hseparate.workers i (by rw [hi]; rfl), ending?]
  · intro supply
    exact congrArg Except.ok hseparate.store.alerts.unresolvedOf
  · intro supply
    exact ⟨_, _, rfl, rfl, hseparate.store.auditEntries dossierEntity⟩

/-- A dossier that may not be invoiced, as its organization has no activity
declaration number. -/
def undeclared (id : String) : Dossier where
  id := id
  tenantId := "org-1"
  status := .completed
  learner := ⟨"Ada", "Martin", none⟩
  organization := ⟨"org-1", "Learn", none, false, none, .trainingProvider, none⟩
  contracts := []
  session := none
  proofs := []
  attendance := []
  certificateGenerated := false
  employerReference := none
  supervisorName := none

/-- A clock that stands still, and a source that gives one id again and again. -/
def constantSupply : Supply where
  instant _ := ⟨⟨2025, 3, 14, by decide⟩, 45000, 0, by decide⟩
  id _ := ⟨List.replicate 32 '0', rfl⟩

/-- Two dossiers are stored and validated, and the first alert is resolved of the
id that the alerts of both have. -/
def twoDossiers : List (Task × Supply) :=
  [(.upsert (undeclared "dos-1"), constantSupply), (.upsert (undeclared "dos-2"), constantSupply),
   (.validation ⟨⟨none, []⟩, false⟩ "dos-1" .invoiced none, constantSupply),
   (.validation ⟨⟨none, []⟩, false⟩ "dos-2" .invoiced none, constantSupply),
   (.resolution (constantSupply.id 0) "alice" "done", constantSupply)]

/-- The alert of the other dossier comes first, so the resolution is one of the
tasks that are left out, and the alert of the dossier stays unresolved. -/
theorem shared_id_separate :
    let schedule := [0, 1] ++ List.replicate 5 3 ++ List.replicate 5 2 ++ [4, 4]
    let all := (start twoDossiers (after [])).run schedule
    let left := schedule.filter fun i => !all.isForeign "dos-1" i
    let alone := (start twoDossiers (after [])).run left
    left = 0 :: List.replicate 5 2 ∧ (all.ending? 2).isSome ∧ alone.ending? 2 = all.ending? 2 ∧
      (Alert.unresolvedOf "dos-1" all.store.alerts).length = 1 := by
  intro schedule all left alone
  refine ⟨rfl, rfl, (dossiers_separate "dos-1" twoDossiers [] schedule).1 2 rfl, ?_⟩
  rw [Alert.unresolvedOf, (Instant.newestFirst_perm _ _).length_eq]
  rfl

end Workshop

end DossierCompliance
