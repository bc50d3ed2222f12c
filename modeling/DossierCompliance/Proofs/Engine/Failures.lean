import DossierCompliance.Proofs.Engine.Writes

/-!
Programs on a store that fails. Two runs that differ in nothing but why calls
failed are compared call by call: a program goes on alike if it asks the same of
the store whatever the reasons were. A call that the work cannot do without ends
it when it fails; the writes of a validation do not, and their failures are
reported beside the verdict.
-/

namespace DossierCompliance

/-! ### Programs that go on alike -/

namespace Program

variable {α β γ δ σ τ : Type}

/-- Two programs ask the same of a store, whatever the reasons why calls fail,
and end with related results. -/
inductive Alike (R : α → β → Prop) : Program α → Program β → Prop
  | done {a : α} {b : β} (h : R a b) : Alike R (.done a) (.done b)
  | now {p : Instant → Program α} {q : Instant → Program β}
    (h : ∀ time, Alike R (p time) (q time)) : Alike R (.call .now p) (.call .now q)
  | newId {p : Uuid → Program α} {q : Uuid → Program β} (h : ∀ id, Alike R (p id) (q id)) :
    Alike R (.call .newId p) (.call .newId q)
  | store {c : StoreCall} {p : c.Reply → Program α} {q : c.Reply → Program β}
    (hok : ∀ answer, Alike R (p (.ok answer)) (q (.ok answer)))
    (herror : ∀ why other, Alike R (p (.error why)) (q (.error other))) :
    Alike R (.call (.store c) p) (.call (.store c) q)

namespace Alike

variable {R : α → β → Prop} {S : γ → δ → Prop}

theorem bind {p : Program α} {q : Program β} {f : α → Program γ} {g : β → Program δ}
    (h : Alike R p q) (hfg : ∀ a b, R a b → Alike S (f a) (g b)) :
    Alike S (p >>= f) (q >>= g) := by
  induction h with
  | done hab => exact hfg _ _ hab
  | now _ ih => exact .now ih
  | newId _ ih => exact .newId ih
  | store _ _ ihok iherror => exact .store ihok iherror

theorem map {p : Program α} {q : Program β} {f : α → γ} {g : β → δ} (h : Alike R p q)
    (hfg : ∀ a b, R a b → S (f a) (g b)) :
    Alike S (p >>= fun a => pure (f a)) (q >>= fun b => pure (g b)) :=
  h.bind fun a b hab => .done (hfg a b hab)

/-- Stores that give the same answers and fail at the same calls lead to related
results, and stay related themselves. -/
theorem runFrom {p : Program α} {q : Program β} (hpq : Alike R p q) {h : StoreHandler σ}
    {k : StoreHandler τ} {I : σ → τ → Prop}
    (hcall : ∀ c s t, I s t → (h c s).1.toOption = (k c t).1.toOption ∧ I (h c s).2 (k c t).2)
    (supply : Supply) (n : Nat) {s : σ} {t : τ} (hst : I s t) :
    R (p.runFrom h supply n s).1 (q.runFrom k supply n t).1 ∧
      I (p.runFrom h supply n s).2 (q.runFrom k supply n t).2 := by
  induction hpq generalizing n s t with
  | done hab => exact ⟨hab, hst⟩
  | now _ ih => exact ih _ (n + 1) hst
  | newId _ ih => exact ih _ (n + 1) hst
  | @store c p q _ _ ihok iherror =>
    obtain ⟨hreply, hnext⟩ := hcall c s t hst
    have hgo (reply other : c.Reply) (hsame : reply.toOption = other.toOption) :
        R ((p reply).runFrom h supply n (h c s).2).1 ((q other).runFrom k supply n (k c t).2).1 ∧
          I ((p reply).runFrom h supply n (h c s).2).2
            ((q other).runFrom k supply n (k c t).2).2 := by
      cases reply with
      | ok answer =>
        cases other with
        | ok _ =>
          cases hsame
          exact ihok answer n hnext
        | error why => cases hsame
      | error why =>
        cases other with
        | ok answer => cases hsame
        | error other => exact iherror why other n hnext
    exact hgo _ _ hreply

end Alike

end Program

/-- A store that fails when another one does, but for reasons of its own: the
reason of each call by its number. -/
def reworded {σ : Type} (h : StoreHandler σ) (reasons : Nat → StoreError) :
    StoreHandler (σ × Nat) :=
  fun c s =>
    let (reply, t) := h c s.1
    (reply.mapError fun _ => reasons s.2, t, s.2 + 1)

theorem Except.toOption_mapError {ε ε' α : Type} (f : ε → ε') (x : Except ε α) :
    (x.mapError f).toOption = x.toOption := by
  cases x <;> rfl

/-- The reasons do not change what a program answers that goes on alike, nor
what it does to the store. -/
theorem Program.Alike.runFrom_reworded {α : Type} {p : Program α} (hp : Alike Eq p p)
    {σ : Type} (h : StoreHandler σ) (reasons : Nat → StoreError) (supply : Supply) (n : Nat)
    (s : σ) (k : Nat) :
    (p.runFrom (reworded h reasons) supply n (s, k)).1 = (p.runFrom h supply n s).1 ∧
      (p.runFrom (reworded h reasons) supply n (s, k)).2.1 = (p.runFrom h supply n s).2 := by
  have hcall (c : StoreCall) (s : σ) (t : σ × Nat) (hst : s = t.1) :
      (h c s).1.toOption = (reworded h reasons c t).1.toOption ∧
        (h c s).2 = (reworded h reasons c t).2.1 := by
    subst hst
    exact ⟨(Except.toOption_mapError _ _).symm, rfl⟩
  obtain ⟨hanswer, hstore⟩ := hp.runFrom hcall supply n (s := s) (t := (s, k)) rfl
  exact ⟨hanswer.symm, hstore.symm⟩

/-! ### Calls that end the work -/

/-- The writes of a validation, whose failures are reported beside the verdict. -/
def StoreCall.isReported : StoreCall → Bool
  | recordAlert _ | recordAudit _ _ => true
  | _ => false

def Exchange.failed (x : Exchange) : Bool :=
  !x.reply.isOk

namespace Program

variable {α β : Type}

/-- A call that fails ends the work with a result that fits the call, unless its
failure is reported. -/
def Stops (P : StoreCall → α → Prop) : Program α → Prop
  | done _ => True
  | call .now next => ∀ time, (next time).Stops P
  | call .newId next => ∀ id, (next id).Stops P
  | call (.store c) next =>
    (c.isReported = false → ∀ why, ∃ a, next (.error why) = .done a ∧ P c a) ∧
      ∀ reply, (next reply).Stops P

variable {P : StoreCall → α → Prop} {Q : StoreCall → β → Prop}

theorem Stops.bind {p : Program α} {f : α → Program β} (hp : p.Stops P)
    (hend : ∀ c a, P c a → ∃ b, f a = .done b ∧ Q c b) (hf : ∀ a, (f a).Stops Q) :
    (p >>= f).Stops Q := by
  induction p with
  | done a => exact hf a
  | call c next ih =>
    cases c with
    | now => exact fun time => ih time (hp time)
    | newId => exact fun id => ih id (hp id)
    | store c =>
      refine ⟨fun hc why => ?_, fun reply => ih reply (hp.2 reply)⟩
      obtain ⟨a, hdone, ha⟩ := hp.1 hc why
      obtain ⟨b, hfa, hb⟩ := hend c a ha
      exact ⟨b, (congrArg (fun rest => rest.bind f) hdone).trans hfa, hb⟩

theorem Stops.exchanges {p : Program α} (hp : p.Stops P) {σ : Type} (h : StoreHandler σ)
    (supply : Supply) (n : Nat) (s : σ) {x : Exchange}
    (hx : x ∈ (p.trace h supply n s).exchanges) (hfailed : x.failed = true)
    (hcall : x.call.isReported = false) : P x.call (p.trace h supply n s).value := by
  induction p generalizing n s with
  | done a => cases hx
  | call c next ih =>
    cases c with
    | now => exact ih _ (hp _) (n + 1) s hx
    | newId => exact ih _ (hp _) (n + 1) s hx
    | store c =>
      rcases List.mem_cons.mp hx with rfl | hrest
      · rw [trace]
        cases hreply : (h c s).1 with
        | ok answer =>
          rw [Exchange.failed, hreply] at hfailed
          cases hfailed
        | error why =>
          obtain ⟨a, hdone, ha⟩ := hp.1 hcall why
          rw [hdone]
          exact ha
      · exact ih _ (hp.2 _) n _ hrest

end Program

/-- The trace ends with what is made of the end. -/
theorem Program.trace_map {σ α β : Type} (h : StoreHandler σ) (supply : Supply) (p : Program α)
    (f : α → β) (n : Nat) (s : σ) :
    (p >>= fun a => pure (f a)).trace h supply n s =
      { p.trace h supply n s with value := f (p.trace h supply n s).value } := by
  rw [trace_bind, trace_pure, Trace.behind, List.append_nil]

/-! ### Validations -/

namespace Engine

open Program (Alike)

theorem alike_recordAlerts (dossierId : String) (trigger : Trigger) (createdAt : Instant)
    (vs : List Violation) :
    Alike (fun outcomes others => outcomes.map Except.toOption = others.map Except.toOption)
      (recordAlerts dossierId trigger createdAt vs)
      (recordAlerts dossierId trigger createdAt vs) := by
  induction vs with
  | nil => exact .done rfl
  | cons v vs ih =>
    exact .newId fun id => .store
      (fun _ => ih.map fun _ _ hrest => congrArg (some id :: ·) hrest)
      (fun _ _ => ih.map fun _ _ hrest => congrArg (none :: ·) hrest)

theorem alike_recordAudit (d : Dossier) (a : Assessment) (actor : Option Actor)
    (timestamp : Instant) :
    Alike (fun outcome other => outcome.map Except.toOption = other.map Except.toOption)
      (recordAudit d a actor timestamp) (recordAudit d a actor timestamp) := by
  cases actor with
  | none => exact .done rfl
  | some actor =>
    rw [recordAudit]
    split
    · exact .done rfl
    · exact .newId fun id => .store (fun _ => .done rfl) fun _ _ => .done rfl

/-- Nothing is reported to have failed exactly when every write gave an identifier. -/
theorem isEmpty_failures {α : Type} (outcomes : List (Except PersistenceFailure α)) :
    (outcomes.filterMap failure?).isEmpty = (outcomes.map Except.toOption).all Option.isSome := by
  induction outcomes with
  | nil => rfl
  | cons outcome rest ih =>
    cases outcome with
    | ok a => exact ih
    | error why => rfl

/-- No failure to write ends a validation. -/
theorem stops_recordAlerts (dossierId : String) (trigger : Trigger) (createdAt : Instant)
    (vs : List Violation) :
    (recordAlerts dossierId trigger createdAt vs).Stops fun _ _ => False := by
  induction vs with
  | nil => trivial
  | cons v vs ih =>
    refine fun id => ⟨(fun hended => by cases hended), fun reply => ?_⟩
    cases reply <;> exact ih.bind (fun _ _ => False.elim) fun _ => trivial

theorem stops_recordAudit (d : Dossier) (a : Assessment) (actor : Option Actor)
    (timestamp : Instant) : (recordAudit d a actor timestamp).Stops fun _ _ => False := by
  cases actor with
  | none => trivial
  | some actor =>
    rw [recordAudit]
    split
    · trivial
    · refine fun id => ⟨(fun hended => by cases hended), fun reply => ?_⟩
      cases reply <;> trivial

theorem stops_apply (e : Engine) (d : Dossier) (a : Assessment) (actor : Option Actor) :
    (e.apply d a actor).Stops fun _ _ => False :=
  fun time => (stops_recordAlerts d.id ⟨a.target⟩ time _).bind (fun _ _ => False.elim) fun _ =>
    (stops_recordAudit d a actor time).bind (fun _ _ => False.elim) fun _ => trivial

variable {σ : Type} (h : StoreHandler σ) (supply : Supply)

/-- The writes of a validation, and the report that is made of them. -/
structure Reports (verdict : Verdict) (writes : List Exchange) (report : TransitionReport) :
    Prop where
  calls : ∀ x ∈ writes, x.call.isReported = true
  verdict : report.verdict = verdict
  alertIds : report.alertIds = writes.filterMap Exchange.alertId?
  auditEntryId : report.auditEntryId = (writes.filterMap Exchange.auditId?).head?
  failures : report.failures = writes.filterMap Exchange.failure?

theorem reports_apply (e : Engine) (d : Dossier) (a : Assessment) (actor : Option Actor) (n : Nat)
    (s : σ) :
    Reports a.verdict ((e.apply d a actor).trace h supply n s).exchanges
      ((e.apply d a actor).trace h supply n s).value := by
  have halerts := writesAlerts_recordAlerts h supply d.id ⟨a.target⟩ (supply.instant n)
    (e.alerting a) (n + 1) s
  obtain ⟨first, hfirst⟩ : ∃ t, (recordAlerts d.id ⟨a.target⟩ (supply.instant n)
    (e.alerting a)).trace h supply (n + 1) s = t := ⟨_, rfl⟩
  have haudit := writesAudit_recordAudit h supply d a actor (supply.instant n) first.readings
    first.store
  obtain ⟨second, hsecond⟩ : ∃ t, (recordAudit d a actor (supply.instant n)).trace h supply
    first.readings first.store = t := ⟨_, rfl⟩
  rw [hfirst] at halerts
  rw [hsecond] at haudit
  rw [trace_apply h supply hfirst hsecond]
  constructor
  · intro x hx
    have hcall : x.call ∈ (first.exchanges ++ second.exchanges).map (·.call) :=
      List.mem_map_of_mem hx
    rw [List.map_append, halerts.calls, haudit.calls, List.mem_append] at hcall
    rcases hcall with hcall | hcall
    · obtain ⟨alert, _, hcall⟩ := List.mem_map.mp hcall
      rw [← hcall]
      rfl
    · obtain ⟨actor, _, hcall⟩ := List.mem_map.mp hcall
      rw [← hcall]
      rfl
  · rfl
  · rw [List.filterMap_append, haudit.noAlertId, List.append_nil, halerts.ids]
  · rw [List.filterMap_append, halerts.noAuditId, List.nil_append, haudit.id]
  · rw [List.filterMap_append, halerts.failures, haudit.failures]

/-- Something was not persisted exactly when a write failed. -/
theorem Reports.isFullyPersisted {verdict : Verdict} {writes : List Exchange}
    {report : TransitionReport} (hreports : Reports verdict writes report) :
    report.isFullyPersisted = writes.all fun x => !x.failed := by
  have hcalls := hreports.calls
  rw [TransitionReport.isFullyPersisted, hreports.failures]
  clear hreports
  induction writes with
  | nil => rfl
  | cons x writes ih =>
    obtain ⟨hcall, hrest⟩ := List.forall_mem_cons.mp hcalls
    obtain ⟨c, reply⟩ := x
    cases c with
    | recordAlert alert =>
      cases reply with
      | ok answer => exact ih hrest
      | error why => rfl
    | recordAudit id draft =>
      cases reply with
      | ok entry => exact ih hrest
      | error why => rfl
    | _ => cases hcall

theorem trace_validate (e : Engine) (dossierId : String) (target : Status)
    (actor : Option Actor) (n : Nat) (s : σ) :
    ∃ reply writes,
      ((e.validate dossierId target actor).trace h supply n s).exchanges =
        ⟨.findDossier dossierId, reply⟩ :: writes ∧
      ∀ d, reply = .ok (some d) → ∃ report,
        ((e.validate dossierId target actor).trace h supply n s).value = .ok report ∧
        Reports (assess e.rules ⟨d, target, (supply.instant n).date⟩).verdict writes
          report := by
  rw [validate, Program.trace_bind, Program.trace_store]
  refine ⟨_, _, rfl, fun d hreply => ?_⟩
  dsimp only at hreply ⊢
  rw [hreply]
  dsimp only
  rw [Program.trace_bind, Program.trace_now, Program.trace_map]
  exact ⟨_, rfl, reports_apply h supply e d _ actor (n + 1) _⟩

end Engine

end DossierCompliance
