import DossierCompliance.Proofs.Engine.Promises

/-!
Several tasks at one store in memory. Each call that a task makes is one step,
and a schedule says whose step is next, so the calls of different tasks mix in
any way while those of one task keep their order. Three invariants carry the
account of such a run: the store is the one that the operations of the log
lead to; what a task still has to do keeps its promise, given what the task has
done by the log; and no step touches what another task has to do.
-/

namespace DossierCompliance

/-- What is asked of the store at the same time as other things. Every
validation has an engine of its own, so rules and options may differ. -/
inductive Task where
  | validation (e : Engine) (dossierId : String) (target : Status) (actor : Option Actor)
  | resolution (id : Uuid) (resolvedBy text : String)
  | upsert (d : Dossier)

/-- What a task ends with. -/
inductive Ending where
  | validated (result : Except EngineError TransitionReport)
  | resolved (result : Except EngineError Alert)
  | stored

/-- What a task still has to do. -/
inductive Activity where
  | program (rest : Program Ending)
  | upsert (d : Dossier)

/-! ### One task -/

namespace Activity

variable (supply : Supply)

/-- The operation on the store that is the next step, unless the clock or the
source of identifiers is asked. -/
def operation? : Activity → Option StoreOperation
  | upsert d => some (.upsertDossier d)
  | program (.call (.store c) _) => some (.call c)
  | program _ => none

/-- The number of readings that the next step takes. -/
def readings : Activity → Nat
  | program (.call .now _) => 1
  | program (.call .newId _) => 1
  | _ => 0

/-- What is left to do after the next step, taken after some readings at a store. -/
def next (n : Nat) (s : MemoryStore) : Activity → Activity
  | upsert _ => program (.done .stored)
  | program (.call .now rest) => program (rest (supply.instant n))
  | program (.call .newId rest) => program (rest (supply.id n))
  | program (.call (.store c) rest) => program (rest (MemoryStore.handle c s).1)
  | program (.done ending) => program (.done ending)

/-- The end, once nothing is left to do. -/
def ending? : Activity → Option Ending
  | program (.done ending) => some ending
  | _ => none

/-- From here on a promise is kept, some operations having been done so far. -/
def Keeps (promise : Ending → List StoreOperation → Prop) :
    Activity → List StoreOperation → Prop
  | upsert d, own => promise .stored (own ++ [.upsertDossier d])
  | program rest, own => rest.Keeps supply promise own

variable {supply} {promise : Ending → List StoreOperation → Prop}

theorem keeps_next {a : Activity} {own : List StoreOperation} (h : a.Keeps supply promise own)
    (n : Nat) (s : MemoryStore) :
    (a.next supply n s).Keeps supply promise (own ++ a.operation?.toList) := by
  cases a with
  | upsert d => exact h
  | program rest =>
    cases rest with
    | done ending => exact (List.append_nil own).symm ▸ h
    | call c rest =>
      cases c with
      | now => exact (List.append_nil own).symm ▸ h n
      | newId => exact (List.append_nil own).symm ▸ h n
      | store c => exact h s

theorem promise_of_ending {a : Activity} {own : List StoreOperation}
    (h : a.Keeps supply promise own) {ending : Ending} (hending : a.ending? = some ending) :
    promise ending own := by
  cases a with
  | upsert d => cases hending
  | program rest =>
    cases rest with
    | done reached =>
      cases hending
      exact h
    | call c rest => cases hending

end Activity

namespace Task

variable (supply : Supply)

/-- What a task has to do when it begins. -/
def begin : Task → Activity
  | validation e dossierId target actor =>
    .program (return .validated (← e.validate dossierId target actor))
  | resolution id resolvedBy text =>
    .program (return .resolved (← Engine.resolveAlert id resolvedBy text))
  | upsert d => .upsert d

/-- What a task has recorded when it ends, by the dossiers that were stored when
it took its first step: a validation what it owes for the dossier that it read,
and any other task nothing. -/
def Accounted (dossiers : Members Dossier) (ending : Ending) (alerts : List Alert)
    (entries : List (Uuid × AuditDraft)) : Task → Prop
  | validation e dossierId target actor => ∃ result, ending = .validated result ∧
    Engine.Accounted supply e dossierId target actor result alerts entries
      (dossiers.get? dossierId)
  | resolution _ _ _ => (∃ result, ending = .resolved result) ∧ alerts = [] ∧ entries = []
  | upsert _ => ending = .stored ∧ alerts = [] ∧ entries = []

/-- What a task promises by its first step. -/
def Promise (dossiers : Members Dossier) (task : Task) (ending : Ending)
    (own : List StoreOperation) : Prop :=
  task.Accounted supply dossiers ending (StoreOperation.recordedAlerts own)
    (StoreOperation.recorded own)

theorem begin_validation (e : Engine) (dossierId : String) (target : Status)
    (actor : Option Actor) :
    (validation e dossierId target actor).begin =
      .program (.call (.store (.findDossier dossierId)) fun reply =>
        (e.validateFound dossierId target actor reply).bind fun result =>
          .done (.validated result)) := by
  rw [begin, Engine.validate_eq]
  rfl

theorem ending?_begin (task : Task) : task.begin.ending? = none := by
  cases task with
  | validation e dossierId target actor =>
    rw [begin_validation]
    rfl
  | resolution id resolvedBy text => rfl
  | upsert d => rfl

/-- After its first step a task keeps what it promises by that step. -/
theorem keeps_first (task : Task) (n : Nat) (s : MemoryStore) :
    (task.begin.next supply n s).Keeps supply (task.Promise supply s.dossiers)
      task.begin.operation?.toList := by
  cases task with
  | validation e dossierId target actor =>
    rw [begin_validation]
    refine Program.Keeps.bind ((Engine.keeps_validateFound e dossierId target actor
      (s.dossiers.get? dossierId) [.call (.findDossier dossierId)]).mono ?_)
    rintro result done ⟨alerts, entries, haccounted, rfl⟩
    have halerts : StoreOperation.recordedAlerts
        ([.call (.findDossier dossierId)] ++ Engine.writes alerts entries) = alerts :=
      Engine.recordedAlerts_writes alerts entries
    have hentries : StoreOperation.recorded
        ([.call (.findDossier dossierId)] ++ Engine.writes alerts entries) = entries :=
      Engine.recorded_writes alerts entries
    refine ⟨result, rfl, ?_⟩
    rwa [halerts, hentries]
  | resolution id resolvedBy text =>
    intro t
    cases hfound : t.findAlert? id with
    | none =>
      simp only [MemoryStore.handle, hfound]
      exact ⟨⟨_, rfl⟩, rfl, rfl⟩
    | some a =>
      simp only [MemoryStore.handle, hfound]
      exact ⟨⟨_, rfl⟩, rfl, rfl⟩
  | upsert d => exact ⟨rfl, rfl, rfl⟩

end Task

/-! ### All tasks -/

/-- Tasks on their way. The log says what was done to the store, and by which task. -/
structure Pool where
  activities : List Activity
  readings : Nat
  store : MemoryStore
  log : List (Nat × StoreOperation)

namespace Pool

open StoreOperation (after)

variable (supply : Supply)

def start (tasks : List Task) (n : Nat) (s : MemoryStore) : Pool where
  activities := tasks.map Task.begin
  readings := n
  store := s
  log := []

/-- A task takes its next step; nothing happens if there is no such task or if
it has ended. -/
def step (p : Pool) (i : Nat) : Pool :=
  match p.activities[i]? with
  | none => p
  | some a =>
    { activities := p.activities.set i (a.next supply p.readings p.store)
      readings := p.readings + a.readings
      store := p.store.perform a.operation?.toList
      log := p.log ++ a.operation?.toList.map fun op => (i, op) }

/-- The tasks take their steps by a schedule. -/
def run (p : Pool) (schedule : List Nat) : Pool :=
  schedule.foldl (step supply) p

def ending? (p : Pool) (i : Nat) : Option Ending :=
  p.activities[i]?.bind Activity.ending?

/-- All that was done to the store. -/
def operations (p : Pool) : List StoreOperation :=
  p.log.map (·.2)

/-- What a task has done to the store. -/
def doneBy (p : Pool) (i : Nat) : List StoreOperation :=
  (p.log.filter fun entry => entry.1 = i).map (·.2)

/-- What is read off the operations, each with the task that did it. -/
def attributed {β : Type} (read : StoreOperation → Option β) (p : Pool) : List (Nat × β) :=
  p.log.filterMap fun entry => (read entry.2).map fun b => (entry.1, b)

/-! ### One step -/

theorem step_of_some {p : Pool} {i : Nat} {a : Activity} (ha : p.activities[i]? = some a) :
    p.step supply i =
      { activities := p.activities.set i (a.next supply p.readings p.store)
        readings := p.readings + a.readings
        store := p.store.perform a.operation?.toList
        log := p.log ++ a.operation?.toList.map fun op => (i, op) } := by
  rw [step, ha]

theorem step_of_none {p : Pool} {i : Nat} (ha : p.activities[i]? = none) :
    p.step supply i = p := by
  rw [step, ha]

/-- A step does what the task does next and leaves it with the rest. -/
theorem step_self {p : Pool} {i : Nat} {a : Activity} (ha : p.activities[i]? = some a) :
    (p.step supply i).activities[i]? = some (a.next supply p.readings p.store) ∧
      (p.step supply i).doneBy i = p.doneBy i ++ a.operation?.toList := by
  have hlt : i < p.activities.length := (List.getElem?_eq_some_iff.mp ha).1
  rw [step_of_some supply ha]
  refine ⟨List.getElem?_set_self hlt, ?_⟩
  simp [doneBy, List.filter_map, Function.comp_def]

/-- A step of one task is none of another. -/
theorem step_other {p : Pool} {i j : Nat} (hne : i ≠ j) :
    (p.step supply j).activities[i]? = p.activities[i]? ∧
      (p.step supply j).doneBy i = p.doneBy i := by
  cases ha : p.activities[j]? with
  | none =>
    rw [step_of_none supply ha]
    exact ⟨rfl, rfl⟩
  | some a =>
    rw [step_of_some supply ha]
    refine ⟨List.getElem?_set_ne hne.symm, ?_⟩
    simp [doneBy, List.filter_map, Function.comp_def, hne.symm]

/-- What a task keeps, it keeps at every step of its own and of the others. -/
theorem keeps_step {p : Pool} {i : Nat} {promise : Ending → List StoreOperation → Prop}
    {a : Activity} (ha : p.activities[i]? = some a)
    (h : a.Keeps supply promise (p.doneBy i)) (j : Nat) :
    ∃ b, (p.step supply j).activities[i]? = some b ∧
      b.Keeps supply promise ((p.step supply j).doneBy i) := by
  by_cases hij : i = j
  · subst hij
    obtain ⟨hactivity, hdone⟩ := step_self supply ha
    exact ⟨_, hactivity, hdone.symm ▸ Activity.keeps_next h p.readings p.store⟩
  · obtain ⟨hactivity, hdone⟩ := step_other supply hij
    exact ⟨a, hactivity.trans ha, hdone.symm ▸ h⟩

theorem length_step (p : Pool) (i : Nat) :
    (p.step supply i).activities.length = p.activities.length := by
  cases ha : p.activities[i]? with
  | none => rw [step_of_none supply ha]
  | some a =>
    rw [step_of_some supply ha]
    exact List.length_set

/-- The log names only tasks of the pool. -/
theorem log_step {p : Pool} (h : ∀ entry ∈ p.log, entry.1 < p.activities.length) (i : Nat) :
    ∀ entry ∈ (p.step supply i).log, entry.1 < (p.step supply i).activities.length := by
  rw [length_step]
  cases ha : p.activities[i]? with
  | none => rwa [step_of_none supply ha]
  | some a =>
    have hlt : i < p.activities.length := (List.getElem?_eq_some_iff.mp ha).1
    rw [step_of_some supply ha]
    intro entry hentry
    rcases List.mem_append.mp hentry with hearlier | hnew
    · exact h entry hearlier
    · obtain ⟨op, _, rfl⟩ := List.mem_map.mp hnew
      exact hlt

/-- The operations of the log lead to the store. -/
theorem store_step {p : Pool} {s : MemoryStore}
    (h : p.store = s.perform p.operations) (i : Nat) :
    (p.step supply i).store = s.perform (p.step supply i).operations := by
  cases ha : p.activities[i]? with
  | none => rwa [step_of_none supply ha]
  | some a =>
    rw [step_of_some supply ha]
    have hdone : (p.log ++ a.operation?.toList.map fun op => (i, op)).map (·.2) =
        p.operations ++ a.operation?.toList := by
      simp [operations, Function.comp_def]
    rw [operations, hdone, MemoryStore.perform_append, ← h]

/-! ### A whole run -/

theorem run_append (p : Pool) (first second : List Nat) :
    p.run supply (first ++ second) = (p.run supply first).run supply second :=
  List.foldl_append

theorem store_run (tasks : List Task) (n : Nat) (s : MemoryStore) (schedule : List Nat) :
    ((start tasks n s).run supply schedule).store =
      s.perform ((start tasks n s).run supply schedule).operations := by
  induction schedule using List.reverseRecOn with
  | nil => rfl
  | append_singleton schedule i ih =>
    rw [run_append]
    exact store_step supply ih i

theorem length_run (p : Pool) (schedule : List Nat) :
    (p.run supply schedule).activities.length = p.activities.length := by
  induction schedule using List.reverseRecOn with
  | nil => rfl
  | append_singleton schedule i ih =>
    rw [run_append]
    exact (length_step supply _ i).trans ih

theorem log_run (tasks : List Task) (n : Nat) (s : MemoryStore) (schedule : List Nat) :
    ∀ entry ∈ ((start tasks n s).run supply schedule).log, entry.1 < tasks.length := by
  have hlength : ((start tasks n s).run supply schedule).activities.length = tasks.length :=
    (length_run supply _ schedule).trans (List.length_map _)
  rw [← hlength]
  clear hlength
  induction schedule using List.reverseRecOn with
  | nil => exact fun entry hentry => absurd hentry List.not_mem_nil
  | append_singleton schedule i ih =>
    rw [run_append]
    exact log_step supply ih i

/-- A task that does not have its turn does nothing. -/
theorem run_of_notMem {p : Pool} {i : Nat} {schedule : List Nat} (hi : i ∉ schedule) :
    (p.run supply schedule).activities[i]? = p.activities[i]? ∧
      (p.run supply schedule).doneBy i = p.doneBy i := by
  induction schedule using List.reverseRecOn with
  | nil => exact ⟨rfl, rfl⟩
  | append_singleton schedule j ih =>
    rw [List.mem_append, List.mem_singleton, not_or] at hi
    obtain ⟨hactivity, hdone⟩ := ih hi.1
    obtain ⟨hsame, hnothing⟩ := step_other supply hi.2
    rw [run_append]
    exact ⟨hsame.trans hactivity, hnothing.trans hdone⟩

theorem keeps_run {p : Pool} {i : Nat} {promise : Ending → List StoreOperation → Prop}
    {a : Activity} (ha : p.activities[i]? = some a)
    (h : a.Keeps supply promise (p.doneBy i)) (schedule : List Nat) :
    ∃ b, (p.run supply schedule).activities[i]? = some b ∧
      b.Keeps supply promise ((p.run supply schedule).doneBy i) := by
  induction schedule using List.reverseRecOn with
  | nil => exact ⟨a, ha, h⟩
  | append_singleton schedule j ih =>
    obtain ⟨b, hb, hkeeps⟩ := ih
    rw [run_append]
    exact keeps_step supply hb hkeeps j

/-- A task that has ended took its first step at some store, and it has done
what it promises by that step. -/
theorem promise_of_ended {tasks : List Task} {n : Nat} {s : MemoryStore} {schedule : List Nat}
    {i : Nat} {task : Task} {ending : Ending} (htask : tasks[i]? = some task)
    (hending : ((start tasks n s).run supply schedule).ending? i = some ending) :
    ∃ before later, schedule = before ++ i :: later ∧ i ∉ before ∧
      task.Promise supply ((start tasks n s).run supply before).store.dossiers ending
        (((start tasks n s).run supply schedule).doneBy i) := by
  have hbegin : (start tasks n s).activities[i]? = some task.begin := by
    rw [start, List.getElem?_map, htask]
    rfl
  by_cases hi : i ∈ schedule
  · obtain ⟨before, later, rfl, hbefore⟩ := List.eq_append_cons_of_mem hi
    obtain ⟨hactivity, hdone⟩ := run_of_notMem supply hbefore
    obtain ⟨hnext, hown⟩ := step_self supply (hactivity.trans hbegin)
    have hfirst := Task.keeps_first supply task ((start tasks n s).run supply before).readings
      ((start tasks n s).run supply before).store
    have hnothing : (start tasks n s).doneBy i = [] := rfl
    rw [hdone, hnothing, List.nil_append] at hown
    rw [← hown] at hfirst
    obtain ⟨b, hb, hkeeps⟩ := keeps_run supply hnext hfirst later
    have hrun : (start tasks n s).run supply (before ++ i :: later) =
        (((start tasks n s).run supply before).step supply i).run supply later :=
      run_append supply _ _ _
    rw [hrun] at hending ⊢
    rw [ending?, hb] at hending
    exact ⟨before, later, rfl, hbefore, Activity.promise_of_ending hkeeps hending⟩
  · rw [ending?, (run_of_notMem supply hi).1, hbegin] at hending
    exact absurd (hending.symm.trans (Task.ending?_begin task)) (Option.some_ne_none ending)

/-! ### Attributed operations -/

theorem map_attributed {β : Type} (read : StoreOperation → Option β) (p : Pool) :
    (p.attributed read).map (·.2) = p.operations.filterMap read := by
  rw [attributed, operations, List.map_filterMap, List.filterMap_map]
  refine List.filterMap_congr fun entry _ => ?_
  cases h : read entry.2 with
  | none => simp [h]
  | some b => simp [h]

theorem attributed_to {β : Type} (read : StoreOperation → Option β) (p : Pool) (i : Nat) :
    ((p.attributed read).filter fun entry => entry.1 = i).map (·.2) =
      (p.doneBy i).filterMap read := by
  rw [attributed, doneBy, List.filter_filterMap, List.map_filterMap, List.filterMap_map,
    List.filterMap_filter]
  refine List.filterMap_congr fun entry _ => ?_
  by_cases hi : entry.1 = i
  · cases h : read entry.2 <;> simp [h, hi]
  · cases read entry.2 <;> simp [hi]

theorem lt_of_mem_attributed {β : Type} {read : StoreOperation → Option β} {p : Pool} {k : Nat}
    (h : ∀ entry ∈ p.log, entry.1 < k) : ∀ entry ∈ p.attributed read, entry.1 < k := by
  intro entry hentry
  obtain ⟨logged, hlogged, hread⟩ := List.mem_filterMap.mp hentry
  obtain ⟨b, _, rfl⟩ := Option.map_eq_some_iff.mp hread
  exact h logged hlogged

/-! ### Every run can be brought to an end -/

/-- What a program does by itself it does in a pool: one step, and the rest. -/
theorem runFrom_step {p : Pool} {i : Nat} {c : Call} {rest : c.Reply → Program Ending}
    (h : p.activities[i]? = some (.program (.call c rest))) :
    ∃ reply, (p.step supply i).activities[i]? = some (.program (rest reply)) ∧
      (rest reply).runFrom MemoryStore.handle supply (p.step supply i).readings
          (p.step supply i).store =
        (Program.call c rest).runFrom MemoryStore.handle supply p.readings p.store := by
  have hnext := (step_self supply h).1
  rw [step_of_some supply h] at hnext ⊢
  cases c with
  | now => exact ⟨_, hnext, rfl⟩
  | newId => exact ⟨_, hnext, rfl⟩
  | store c => exact ⟨_, hnext, rfl⟩

/-- A task that has all the turns does what its program does when it runs by itself. -/
theorem runs_alone {p : Pool} {i : Nat} {rest : Program Ending}
    (hrest : p.activities[i]? = some (.program rest)) :
    ∃ m, some (rest.runFrom MemoryStore.handle supply p.readings p.store).1 =
        (p.run supply (List.replicate m i)).ending? i ∧
      (rest.runFrom MemoryStore.handle supply p.readings p.store).2 =
        (p.run supply (List.replicate m i)).store := by
  induction rest generalizing p with
  | done ending =>
    refine ⟨0, ?_, rfl⟩
    rw [List.replicate_zero, run, List.foldl_nil, ending?, hrest]
    rfl
  | call c rest ih =>
    obtain ⟨reply, hnext, hsame⟩ := runFrom_step supply hrest
    obtain ⟨m, hm⟩ := ih reply hnext
    rw [hsame] at hm
    exact ⟨m + 1, hm⟩

theorem ends_alone {p : Pool} {i : Nat} (hi : i < p.activities.length) :
    ∃ m, ((p.run supply (List.replicate m i)).ending? i).isSome := by
  obtain ⟨a, ha⟩ : ∃ a, p.activities[i]? = some a := ⟨_, List.getElem?_eq_getElem hi⟩
  cases a with
  | upsert d =>
    refine ⟨1, ?_⟩
    have hnext := (step_self supply ha).1
    rw [List.replicate_one, run, List.foldl_cons, List.foldl_nil, ending?, hnext]
    rfl
  | program rest =>
    obtain ⟨m, hending, _⟩ := runs_alone supply ha
    exact ⟨m, hending ▸ rfl⟩

/-- The tasks can be brought to an end one after the other. -/
theorem ends_all (p : Pool) (k : Nat) (hk : k ≤ p.activities.length) :
    ∃ more, ∀ i < k, ((p.run supply more).ending? i).isSome := by
  induction k with
  | zero => exact ⟨[], fun i hi => absurd hi (Nat.not_lt_zero i)⟩
  | succ k ih =>
    obtain ⟨more, hmore⟩ := ih (Nat.le_of_succ_le hk)
    have hlast : k < (p.run supply more).activities.length := by rwa [length_run]
    obtain ⟨m, hend⟩ := ends_alone supply hlast
    refine ⟨more ++ List.replicate m k, fun i hi => ?_⟩
    rw [run_append]
    rcases Nat.lt_succ_iff_lt_or_eq.mp hi with hlt | rfl
    · have hother : i ∉ List.replicate m k := fun hmem =>
        Nat.ne_of_lt hlt (List.eq_of_mem_replicate hmem)
      rw [ending?, (run_of_notMem supply hother).1]
      exact hmore i hlt
    · exact hend

/-! ### The account -/

/-- The account of tasks that share a store, in any state of the store and for
any schedule. Alerts and audit entries are only added, each by one of the tasks;
a task that has ended added what it owes for the dossiers at its first step, in
order and under the ids of its report, and nothing else; no link of the audit
chain is broken; and the tasks can always be brought to an end. -/
theorem interleaved_account (supply : Supply) (tasks : List Task) (n : Nat)
    (ops : List StoreOperation) (schedule : List Nat) :
    let begun := start tasks n (after ops)
    let final := begun.run supply schedule
    (∃ (alerts : List (Nat × Alert)) (entries : List (Nat × Uuid × AuditDraft)),
      final.store.alerts.map Alert.opened =
          (after ops).alerts.map Alert.opened ++ alerts.map (·.2.opened) ∧
        final.store.audit.map AuditEntry.record =
          (after ops).audit.map AuditEntry.record ++ entries.map (·.2) ∧
        (∀ alert ∈ alerts, alert.1 < tasks.length) ∧
        (∀ entry ∈ entries, entry.1 < tasks.length) ∧
        ∀ i task ending, tasks[i]? = some task → final.ending? i = some ending →
          ∃ before later, schedule = before ++ i :: later ∧ i ∉ before ∧
            task.Accounted supply (begun.run supply before).store.dossiers ending
              ((alerts.filter fun alert => alert.1 = i).map (·.2))
              ((entries.filter fun entry => entry.1 = i).map (·.2))) ∧
    (AuditChain.verify final.store.audit).brokenLinks = 0 ∧
    ∃ more, ∀ i < tasks.length,
      ((begun.run supply (schedule ++ more)).ending? i).isSome := by
  intro begun final
  have hstore : final.store = after (ops ++ final.operations) := by
    rw [← MemoryStore.perform_after]
    exact store_run supply tasks n (after ops) schedule
  have hlog : ∀ entry ∈ final.log, entry.1 < tasks.length :=
    log_run supply tasks n (after ops) schedule
  have halerts : (final.attributed StoreOperation.alert?).map (·.2.opened) =
      (StoreOperation.recordedAlerts final.operations).map Alert.opened := by
    rw [StoreOperation.recordedAlerts, ← map_attributed, List.map_map]
    rfl
  have hentries := map_attributed StoreOperation.recorded? final
  refine ⟨⟨final.attributed StoreOperation.alert?, final.attributed StoreOperation.recorded?,
    ?_, ?_, lt_of_mem_attributed hlog, lt_of_mem_attributed hlog, ?_⟩, ?_, ?_⟩
  · rw [hstore, MemoryStore.opened_after, MemoryStore.opened_after, halerts, ← List.map_append]
    exact congrArg (List.map Alert.opened) List.filterMap_append
  · rw [hstore, MemoryStore.records_after, MemoryStore.records_after, hentries]
    exact List.filterMap_append
  · intro i task ending htask hending
    obtain ⟨before, later, hschedule, hfirst, hpromise⟩ := promise_of_ended supply htask hending
    refine ⟨before, later, hschedule, hfirst, ?_⟩
    rw [attributed_to, attributed_to]
    exact hpromise
  · rw [hstore, AuditChain.verify]
    exact (AuditChain.brokenAfter_eq_zero_iff _ _).mpr (MemoryStore.linked_after _)
  · have hlength : final.activities.length = tasks.length :=
      (length_run supply _ schedule).trans (List.length_map _)
    obtain ⟨more, hmore⟩ := ends_all supply final tasks.length (Nat.le_of_eq hlength.symm)
    refine ⟨more, fun i hi => ?_⟩
    rw [run_append]
    exact hmore i hi

end Pool

end DossierCompliance
