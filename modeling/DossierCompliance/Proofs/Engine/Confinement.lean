import DossierCompliance.Proofs.Engine.Promises

/-!
What a program may ask of a store. A program is confined to some calls if it
makes no other one, as long as it is told nothing that the store could not say;
so an invariant that every such call keeps is kept by every run. A validation
asks for one dossier and then records only what it found about this dossier.
-/

namespace DossierCompliance

namespace Program

variable {α β σ : Type}

/-- Every call to the store is an allowed one, whatever the program is told of
what it may be told. -/
def Confined (allowed : StoreCall → Prop) (told : (c : StoreCall) → c.Reply → Prop) :
    Program α → Prop
  | done _ => True
  | call .now next => ∀ time, (next time).Confined allowed told
  | call .newId next => ∀ id, (next id).Confined allowed told
  | call (.store c) next =>
    allowed c ∧ ∀ reply, told c reply → (next reply).Confined allowed told

variable {allowed : StoreCall → Prop} {told : (c : StoreCall) → c.Reply → Prop}

theorem Confined.bind {p : Program α} {f : α → Program β} (hp : p.Confined allowed told)
    (hf : ∀ a, (f a).Confined allowed told) : (p >>= f).Confined allowed told := by
  induction p with
  | done a => exact hf a
  | call c next ih =>
    cases c with
    | now =>
      intro time
      exact ih time (hp time)
    | newId =>
      intro id
      exact ih id (hp id)
    | store c =>
      refine ⟨hp.1, ?_⟩
      intro reply htold
      exact ih reply (hp.2 reply htold)

/-- What is made of the end of a program asks nothing more. -/
theorem Confined.map {p : Program α} (hp : p.Confined allowed told) (f : α → β) :
    (p >>= fun a => pure (f a)).Confined allowed told := by
  apply hp.bind
  intro a
  trivial

/-- An invariant that every allowed call keeps is kept by a run. -/
theorem Confined.runFrom {p : Program α} (hp : p.Confined allowed told) {h : StoreHandler σ}
    {I : σ → Prop} (hcall : ∀ c s, allowed c → I s → told c (h c s).1 ∧ I (h c s).2)
    (supply : Supply) (n : Nat) {s : σ} (hs : I s) : I (p.runFrom h supply n s).2 := by
  induction p generalizing n s with
  | done a => exact hs
  | call c next ih =>
    cases c with
    | now => exact ih _ (hp _) (n + 1) hs
    | newId => exact ih _ (hp _) (n + 1) hs
    | store c =>
      obtain ⟨htold, hnext⟩ := hcall c s hp.1 hs
      exact ih _ (hp.2 _ htold) n hnext

end Program

/-! ### Validations -/

namespace Engine

variable {allowed : StoreCall → Prop} {told : (c : StoreCall) → c.Reply → Prop}

theorem confined_recordAlert {dossierId : String} {trigger : Trigger} {createdAt : Instant}
    {v : Violation}
    (halert : ∀ id, allowed (.recordAlert (.raise id dossierId trigger v createdAt))) :
    (recordAlert dossierId trigger createdAt v).Confined allowed told := by
  intro id
  refine ⟨halert id, ?_⟩
  intro reply _
  cases reply with
  | ok answer => trivial
  | error why => trivial

theorem confined_recordAlerts {dossierId : String} {trigger : Trigger} {createdAt : Instant}
    {vs : List Violation}
    (halerts : ∀ v ∈ vs, ∀ id, allowed (.recordAlert (.raise id dossierId trigger v createdAt))) :
    (recordAlerts dossierId trigger createdAt vs).Confined allowed told := by
  induction vs with
  | nil => trivial
  | cons v vs ih =>
    obtain ⟨hfirst, hrest⟩ := List.forall_mem_cons.mp halerts
    apply (confined_recordAlert hfirst).bind
    intro outcome
    exact (ih hrest).map _

theorem confined_recordAudit {d : Dossier} {a : Assessment} {actor : Option Actor}
    {timestamp : Instant}
    (haudit : ∀ who ∈ actor, a.findings ≠ [] →
      ∀ id, allowed (.recordAudit id (a.auditDraft d who timestamp))) :
    (recordAudit d a actor timestamp).Confined allowed told := by
  cases actor with
  | none => trivial
  | some who =>
    rw [recordAudit, isClean_verdict]
    cases hempty : a.findings.isEmpty with
    | true => trivial
    | false =>
      have hfound : a.findings ≠ [] := by simpa using hempty
      intro id
      refine ⟨haudit who rfl hfound id, ?_⟩
      intro reply _
      cases reply with
      | ok entry => trivial
      | error why => trivial

/-- A validation asks for its dossier. Of the dossier that it is told it records
alerts for violations that call for them, and an entry for the actor if anything
was found. -/
theorem confined_validate {e : Engine} {dossierId : String} {target : Status}
    {actor : Option Actor} (hfind : allowed (.findDossier dossierId))
    (halerts : ∀ d, told (.findDossier dossierId) (.ok (some d)) → ∀ day time,
      ∀ v ∈ e.alerting (assess e.rules ⟨d, target, day⟩), ∀ id,
        allowed (.recordAlert (.raise id d.id ⟨target⟩ v time)))
    (haudit : ∀ d, told (.findDossier dossierId) (.ok (some d)) → ∀ day time, ∀ who ∈ actor,
      (assess e.rules ⟨d, target, day⟩).findings ≠ [] → ∀ id,
        allowed (.recordAudit id ((assess e.rules ⟨d, target, day⟩).auditDraft d who time))) :
    (e.validate dossierId target actor).Confined allowed told := by
  rw [validate_eq]
  refine ⟨hfind, ?_⟩
  intro reply htold
  rcases reply with why | none | d
  · trivial
  · trivial
  · intro today
    apply Program.Confined.map
    intro time
    apply (confined_recordAlerts (halerts d htold today.date time)).bind
    intro alerts
    exact (confined_recordAudit (haudit d htold today.date time)).map _

end Engine

end DossierCompliance
