import DossierCompliance.Proofs.Engine.Promises
import DossierCompliance.Proofs.Json.Members
import DossierCompliance.Proofs.Service.Refusals
import DossierCompliance.Proofs.Store.Separation
import DossierCompliance.Store.Database.Basic

/-!
What requests change. All places of the service but two only read the store;
the two that write are reached by POST, and each writes only when it answers
that the request was served. What it writes then is told by the answer.
-/

namespace DossierCompliance

open StoreOperation (after)

/-! ### Programs that only read -/

/-- The calls that leave every store as it is. -/
def StoreCall.reads : StoreCall → Bool
  | recordAlert _ | resolveAlert _ _ | recordAudit _ _ => false
  | _ => true

theorem MemoryStore.handle_of_reads (c : StoreCall) (s : MemoryStore) (h : c.reads = true) :
    (handle c s).2 = s := by
  cases c with
  | recordAlert _ | resolveAlert _ _ | recordAudit _ _ => cases h
  | _ => rfl

theorem Database.handle_of_reads (c : StoreCall) (db : Database) (h : c.reads = true) :
    (handle c db).2 = db := by
  cases c with
  | recordAlert _ | resolveAlert _ _ | recordAudit _ _ => cases h
  | _ => rfl

namespace Program

variable {α β : Type}

/-- Every call to the store is one that leaves it as it is. -/
def Reads : Program α → Prop
  | done _ => True
  | call .now next => ∀ time, (next time).Reads
  | call .newId next => ∀ id, (next id).Reads
  | call (.store c) next => c.reads = true ∧ ∀ reply, (next reply).Reads

theorem Reads.bind {p : Program α} {f : α → Program β} (hp : p.Reads) (hf : ∀ a, (f a).Reads) :
    (p >>= f).Reads := by
  induction p with
  | done a => exact hf a
  | call c next ih =>
    cases c with
    | now => exact fun time => ih time (hp time)
    | newId => exact fun id => ih id (hp id)
    | store c => exact ⟨hp.1, fun reply => ih reply (hp.2 reply)⟩

theorem Reads.runFrom {σ : Type} {p : Program α} (hp : p.Reads) {h : StoreHandler σ}
    (hsame : ∀ c s, c.reads = true → (h c s).2 = s) (supply : Supply) (n : Nat) (s : σ) :
    (p.runFrom h supply n s).2 = s := by
  induction p generalizing n with
  | done a => rfl
  | call c next ih =>
    cases c with
    | now => exact ih _ (hp _) (n + 1)
    | newId => exact ih _ (hp _) (n + 1)
    | store c =>
      rw [Program.runFrom]
      dsimp only
      rw [hsame c s hp.1]
      exact ih _ (hp.2 _) n

end Program

/-! ### Places that only read -/

namespace Serving

theorem reads_after {α : Type} {outcome : Except Refusal α} {f : α → Serving}
    (hf : ∀ a, (f a).Reads) : (after outcome f).Reads := by
  cases outcome with
  | ok a => exact hf a
  | error why => trivial

theorem reads_asking {α : Type} {p : Program (Except EngineError α)} {f : α → Json}
    (hp : p.Reads) : (asking p f).Reads :=
  hp.bind fun _ => trivial

end Serving

namespace Endpoint

theorem reads_serve {serving : Serving} (h : serving.Reads) : (serve serving).Reads :=
  h.bind fun _ => trivial

theorem reads_withText {f : String → Serving} (hf : ∀ text, (f text).Reads)
    (parameter : Option String) : (withText parameter f).Reads := by
  cases parameter with
  | none => trivial
  | some text => exact reads_serve (hf text)

theorem reads_respond {endpoint : Endpoint} (htransition : endpoint ≠ .validateTransition)
    (hresolve : endpoint ≠ .resolveAlert) (e : Engine) (parameter : Option String)
    (r : Request) : (endpoint.respond e parameter r).Reads := by
  cases endpoint with
  | validateTransition => exact absurd rfl htransition
  | resolveAlert => exact absurd rfl hresolve
  | liveness | description => trivial
  | readiness =>
    refine ⟨rfl, fun reply => ?_⟩
    cases reply <;> trivial
  | unresolvedAlerts =>
    refine reads_withText (fun text => Serving.reads_asking ?_) parameter
    exact ⟨rfl, fun _ => trivial⟩
  | auditTrail =>
    refine reads_withText (fun text => Serving.reads_asking ?_) parameter
    exact ⟨rfl, fun _ => trivial⟩
  | verifyAudit =>
    refine reads_serve (Serving.reads_after fun limit => Serving.reads_asking ?_)
    exact ⟨rfl, fun _ => trivial⟩
  | validateSite =>
    refine reads_withText (fun text => Serving.reads_after fun site => Serving.reads_asking ?_)
      parameter
    refine ⟨rfl, fun reply => ?_⟩
    rcases reply with why | none | tenant <;> trivial
  | validateOrganization => exact reads_serve (Serving.reads_after fun draft => trivial)
  | listRules => exact reads_serve (Serving.reads_after fun rules => trivial)

end Endpoint

/-! ### Refusals -/

theorem Refusal.status_ne (why : Refusal) : why.status ≠ 200 := by
  cases why with
  | unreadable why => simp [status]
  | invalid why => simp [status]
  | engine why => cases why <;> simp [status]

namespace Serving

variable {σ : Type} (h : StoreHandler σ) (supply : Supply) (n : Nat) (s : σ)

theorem runFrom_asking {α : Type} (p : Program (Except EngineError α)) (f : α → Json) :
    (asking p f).runFrom h supply n s =
      (((p.runFrom h supply n s).1.map f).mapError .engine, (p.runFrom h supply n s).2) :=
  Program.runFrom_map h supply p (fun outcome => (outcome.map f).mapError Refusal.engine) n s

end Serving

/-! ### Changes of status -/

/-- What a change of status that was validated has recorded: the alerts of the
report, all of the dossier and of the trigger, and the audit entry of the
report if there is one, behind what was recorded before. -/
structure MemoryStore.Recorded (dossierId : String) (target : Status) (report : TransitionReport)
    (alerts : List Alert) (entry : Option AuditEntry) (s final : MemoryStore) : Prop where
  store : final = { s with alerts := s.alerts ++ alerts, audit := s.audit ++ entry.toList }
  alertIds : report.alertIds = alerts.map (·.id)
  alertsOf : ∀ a ∈ alerts, a.dossierId = dossierId ∧ a.trigger = (Trigger.mk target).text
  auditEntryId : report.auditEntryId = entry.map (·.id)

/-- What a change of status takes to be served: its path names a stored dossier,
and its body a status and perhaps an actor. -/
def Request.NamesDossier (r : Request) (parameter : Option String) (s : MemoryStore) : Prop :=
  ∃ dossierId target actor, parameter = some dossierId ∧
    r.checkedBody TransitionRequest.decode TransitionRequest.check = .ok (target, actor) ∧
    (s.dossiers.get? dossierId).isSome

/-- A change of status was served. The path names the dossier and the body the
new status; the answer lists the alerts that were added, all of that dossier and
trigger, and the audit entry that was added or null; nothing else has changed. -/
def Request.Validated (r : Request) (parameter : Option String) (s : MemoryStore)
    (outcome : Response × MemoryStore) : Prop :=
  ∃ dossierId target actor answer alerts entry, parameter = some dossierId ∧
    r.checkedBody TransitionRequest.decode TransitionRequest.check = .ok (target, actor) ∧
    outcome.1 = .ok answer ∧
    answer.get? "alert_ids" = some (.ofList (fun a : Alert => a.id.toJson) alerts) ∧
    answer.get? "audit_entry_id" =
      some (.ofOption (fun entry : AuditEntry => entry.id.toJson) entry) ∧
    (∀ a ∈ alerts, a.dossierId = dossierId ∧ a.trigger = (Trigger.mk target).text) ∧
    outcome.2 = { s with alerts := s.alerts ++ alerts, audit := s.audit ++ entry.toList }

theorem AuditEntry.exists_of_ids {added : List AuditEntry} {id : Option Uuid}
    (h : added.map (·.id) = id.toList) :
    ∃ entry : Option AuditEntry, added = entry.toList ∧ id = entry.map (·.id) := by
  cases id with
  | none => exact ⟨none, List.map_eq_nil_iff.mp h, rfl⟩
  | some id =>
    obtain ⟨entry, rfl, rfl⟩ := List.map_eq_singleton_iff.mp h
    exact ⟨some entry, rfl, rfl⟩

theorem Engine.runFrom_validate_after (supply : Supply) (e : Engine) (dossierId : String)
    (target : Status) (actor : Option Actor) (n : Nat) (ops : List StoreOperation) :
    let outcome :=
      (e.validate dossierId target actor).runFrom MemoryStore.handle supply n (after ops)
    ((after ops).dossiers.get? dossierId = none ∧
      outcome = (.error (.noDossier dossierId), after ops)) ∨
    ((after ops).dossiers.get? dossierId).isSome ∧
      ∃ (report : TransitionReport) (alerts : List Alert) (entry : Option AuditEntry),
        outcome.1 = .ok report ∧
          MemoryStore.Recorded dossierId target report alerts entry (after ops) outcome.2 := by
  intro outcome
  obtain ⟨alerts, entries, haccounted, hstore⟩ :=
    Engine.runFrom_validate supply e dossierId target actor n (after ops)
  cases hfound : (after ops).dossiers.get? dossierId with
  | none =>
    rw [hfound] at haccounted
    obtain ⟨hresult, rfl, rfl⟩ := haccounted
    exact .inl ⟨rfl, Prod.ext hresult hstore⟩
  | some d =>
    rw [hfound] at haccounted
    obtain ⟨day, time, report, hresult, haccounts⟩ := haccounted
    obtain ⟨added, hrecords, hfinal⟩ := Engine.perform_writes alerts entries (after ops)
    have hids := congrArg (List.map (·.1)) (hrecords.trans haccounts.entries)
    rw [List.map_map, Engine.ids_auditedUnder haccounts.auditEntryId] at hids
    obtain ⟨entry, rfl, hentry⟩ := AuditEntry.exists_of_ids hids
    refine .inr ⟨rfl, report, alerts, entry, hresult, ⟨hstore.trans hfinal, ?_, ?_, hentry⟩⟩
    · rw [haccounts.alerts, Engine.ids_raisedUnder haccounts.alertIds]
    · intro a ha
      rw [haccounts.alerts] at ha
      rw [← MemoryStore.id_of_get? hfound]
      exact Engine.mem_raisedUnder ha

theorem Serving.get?_transitionJson (dossierId : String) (target : Status)
    (report : TransitionReport) :
    (transitionJson dossierId target report).get? "alert_ids" =
        some (.ofList Uuid.toJson report.alertIds) ∧
      (transitionJson dossierId target report).get? "audit_entry_id" =
        some (.ofOption Uuid.toJson report.auditEntryId) := by
  simp [transitionJson, Json.ofMembers, Json.get?, Members.get?_sorted, Members.get?_cons]

/-- The answer lists what was recorded. -/
theorem Request.validated_of_recorded {r : Request} {dossierId : String} {target : Status}
    {actor : Option Actor}
    (hbody : r.checkedBody TransitionRequest.decode TransitionRequest.check = .ok (target, actor))
    {report : TransitionReport} {alerts : List Alert} {entry : Option AuditEntry}
    {s final : MemoryStore}
    (h : MemoryStore.Recorded dossierId target report alerts entry s final) :
    r.Validated (some dossierId) s
      (.ok (Serving.transitionJson dossierId target report), final) := by
  obtain ⟨halertIds, hauditId⟩ := Serving.get?_transitionJson dossierId target report
  refine ⟨dossierId, target, actor, _, alerts, entry, rfl, hbody, rfl, ?_, ?_, h.alertsOf, h.store⟩
  · rw [halertIds, h.alertIds, Json.ofList, Json.ofList, List.map_map]
    rfl
  · rw [hauditId, h.auditEntryId]
    cases entry <;> rfl

theorem Endpoint.runFrom_validateTransition (supply : Supply) (e : Engine)
    (parameter : Option String) (r : Request) (n : Nat) (ops : List StoreOperation) :
    let s := after ops
    let outcome := (validateTransition.respond e parameter r).runFrom MemoryStore.handle supply n s
    (¬ r.NamesDossier parameter s ∧ outcome.1.status ≠ 200 ∧ outcome.2 = s) ∨
      r.NamesDossier parameter s ∧ outcome.1.status = 200 ∧ r.Validated parameter s outcome := by
  intro s outcome
  cases parameter with
  | none =>
    have hrefused : (400 : Nat) ≠ 200 := by decide
    refine .inl ⟨?_, hrefused, rfl⟩
    rintro ⟨_, _, _, hid, _⟩
    cases hid
  | some dossierId =>
    have houtcome : outcome = (serve (Serving.validateTransition e dossierId r)).runFrom
      MemoryStore.handle supply n s := rfl
    rw [run_serve, Serving.validateTransition] at houtcome
    cases hbody : r.checkedBody TransitionRequest.decode TransitionRequest.check with
    | error why =>
      rw [hbody] at houtcome
      rw [houtcome]
      refine .inl ⟨?_, why.status_ne, rfl⟩
      rintro ⟨_, _, _, _, hread, _⟩
      cases hbody.symm.trans hread
    | ok body =>
      obtain ⟨target, actor⟩ := body
      rw [hbody, Serving.after, Serving.runFrom_asking] at houtcome
      rw [houtcome]
      rcases Engine.runFrom_validate_after supply e dossierId target actor n ops with
        ⟨hnone, hrefused⟩ | ⟨hsome, report, alerts, entry, hreport, hrecorded⟩
      · rw [hrefused]
        refine .inl ⟨?_, Refusal.status_ne (.engine (.noDossier dossierId)), rfl⟩
        rintro ⟨_, _, _, hid, _, hstored⟩
        cases hid
        rw [hnone] at hstored
        cases hstored
      · rw [hreport]
        exact .inr ⟨⟨dossierId, target, actor, rfl, hbody, hsome⟩, rfl,
          Request.validated_of_recorded hbody hrecorded⟩

/-! ### Resolutions -/

/-- What a resolution takes to be served: its path names the id of a stored
alert, and its body who resolves it and how. -/
def Request.NamesAlert (r : Request) (parameter : Option String) (s : MemoryStore) : Prop :=
  ∃ id body, parameter.bind Uuid.ofText? = some id ∧
    r.checkedBody ResolveRequest.decode ResolveRequest.check = .ok body ∧
    id ∈ s.alerts.map (·.id)

/-- A resolution was served. The path names an alert, the first of its id, and
the body who resolved it and how; nothing but its resolution has changed. -/
def Request.Resolved (r : Request) (parameter : Option String) (time : Instant) (s : MemoryStore)
    (outcome : Response × MemoryStore) : Prop :=
  ∃ before a behind body, parameter.bind Uuid.ofText? = some a.id ∧
    r.checkedBody ResolveRequest.decode ResolveRequest.check = .ok body ∧
    s.alerts = before ++ a :: behind ∧ a.id ∉ before.map (·.id) ∧
    let resolved : Alert :=
      { a with
        isResolved := true
        resolvedBy := some body.resolvedBy
        resolvedAt := some time
        resolution := some body.resolution }
    outcome = (.ok resolved.toJson, { s with alerts := before ++ resolved :: behind })

/-- A resolution asks the store once and answers what it is told. -/
theorem Engine.runFrom_resolveAlert {σ : Type} (h : StoreHandler σ) (supply : Supply) (id : Uuid)
    (resolvedBy text : String) (n : Nat) {s t : σ} {found : Option Alert}
    (hreply : h (.resolveAlert id ⟨resolvedBy, text, supply.instant n⟩) s = (.ok found, t)) :
    (resolveAlert id resolvedBy text).runFrom h supply n s =
      (found.elim (.error (.noAlert id)) .ok, t) := by
  rw [Program.runFrom_eq_trace, resolveAlert, Program.trace_bind, Program.trace_now]
  dsimp only
  rw [Program.trace_bind, Program.trace_store, hreply]
  cases found <;> rfl

/-- An alert of the id stands first among those of the id, if there is one. -/
theorem Alert.exists_first {id : Uuid} {alerts : List Alert} (h : id ∈ alerts.map (·.id)) :
    ∃ before a behind, alerts = before ++ a :: behind ∧ a.id = id ∧ id ∉ before.map (·.id) := by
  obtain ⟨ids, others, hids, hfirst⟩ := List.eq_append_cons_of_mem h
  obtain ⟨before, rest, rfl, rfl, hrest⟩ := List.map_eq_append_iff.mp hids
  obtain ⟨a, behind, rfl, rfl, rfl⟩ := List.map_eq_cons_iff.mp hrest
  exact ⟨before, a, behind, rfl, rfl, hfirst⟩

theorem Endpoint.runFrom_resolveAlert (supply : Supply) (e : Engine) (parameter : Option String)
    (r : Request) (n : Nat) (s : MemoryStore) :
    let outcome := (resolveAlert.respond e parameter r).runFrom MemoryStore.handle supply n s
    (¬ r.NamesAlert parameter s ∧ outcome.1.status ≠ 200 ∧ outcome.2 = s) ∨
      r.NamesAlert parameter s ∧ outcome.1.status = 200 ∧
        r.Resolved parameter (supply.instant n) s outcome := by
  intro outcome
  have houtcome : outcome =
    (serve (Serving.resolveAlert parameter r)).runFrom MemoryStore.handle supply n s := rfl
  rw [run_serve, Serving.resolveAlert, Serving.pathUuid] at houtcome
  cases hid : parameter.bind Uuid.ofText? with
  | none =>
    rw [hid] at houtcome
    rw [houtcome]
    refine .inl ⟨?_, Refusal.status_ne (.unreadable .path), rfl⟩
    rintro ⟨_, _, hread, _⟩
    cases hid.symm.trans hread
  | some id =>
    cases hbody : r.checkedBody ResolveRequest.decode ResolveRequest.check with
    | error why =>
      rw [hid, hbody] at houtcome
      rw [houtcome]
      refine .inl ⟨?_, why.status_ne, rfl⟩
      rintro ⟨_, _, _, hread, _⟩
      cases hbody.symm.trans hread
    | ok body =>
      rw [hid, hbody, Serving.after, Serving.after, Serving.runFrom_asking] at houtcome
      by_cases hknown : id ∈ s.alerts.map (·.id)
      · have hnamed : r.NamesAlert parameter s := ⟨id, body, hid, hbody, hknown⟩
        obtain ⟨before, a, behind, halerts, rfl, hfirst⟩ := Alert.exists_first hknown
        rw [Engine.runFrom_resolveAlert _ _ _ _ _ _
          (MemoryStore.resolveAlert_first halerts hfirst _)] at houtcome
        refine .inr ⟨hnamed, ?_, before, a, behind, body, hid, hbody, halerts, hfirst, houtcome⟩
        rw [houtcome]
        rfl
      · rw [Engine.runFrom_resolveAlert _ _ _ _ _ _
          (MemoryStore.resolveAlert_unknown hknown _)] at houtcome
        rw [houtcome]
        refine .inl ⟨?_, Refusal.status_ne (.engine (.noAlert id)), rfl⟩
        rintro ⟨_, _, hread, _, hstored⟩
        cases hid.symm.trans hread
        exact hknown hstored

/-! ### Requests -/

namespace Route

theorem mem_of_find? {path : String} {route : Route} {texts : List String}
    (h : find? path = some (route, texts)) : route ∈ all := by
  obtain ⟨parts, _, hfound⟩ := Option.bind_eq_some_iff.mp h
  obtain ⟨candidate, hmem, hmatch⟩ := List.exists_of_findSome?_eq_some hfound
  obtain ⟨_, _, hpair⟩ := Option.map_eq_some_iff.mp hmatch
  cases hpair
  exact hmem

/-- The places that write are reached by POST alone. -/
theorem verb_of_writes {route : Route} (hroute : route ∈ all)
    (hwrites : route.endpoint = .validateTransition ∨ route.endpoint = .resolveAlert) :
    route.verb = .post := by
  have hall : ∀ route ∈ all,
      route.endpoint = .validateTransition ∨ route.endpoint = .resolveAlert →
        route.verb = .post := by decide
  exact hall route hroute hwrites

theorem serves?_post {method : String} {headOnly : Bool}
    (h : serves? .post method = some headOnly) : method = "POST" ∧ headOnly = false := by
  unfold serves? at h
  split at h <;> simp_all

end Route

/-- A request is answered by the place that its path leads to, if the place
serves its method; otherwise it is not served and nothing changes. -/
theorem Engine.runFrom_respond {σ : Type} (h : StoreHandler σ) (supply : Supply) (e : Engine)
    (r : Request) (n : Nat) (s : σ) :
    let outcome := (e.respond r).runFrom h supply n s
    ((∀ route texts, Route.find? r.path = some (route, texts) →
        Route.serves? route.verb r.method = none) ∧ outcome.1.status ≠ 200 ∧ outcome.2 = s) ∨
      ∃ route texts headOnly, Route.find? r.path = some (route, texts) ∧
        Route.serves? route.verb r.method = some headOnly ∧
        let served := (route.endpoint.respond e (texts.head?.bind Text.Percent.decode?) r).runFrom
          h supply n s
        outcome = (if headOnly then .empty served.1.status else served.1, served.2) := by
  intro outcome
  have houtcome : outcome = (e.respond r).runFrom h supply n s := rfl
  rw [Engine.respond] at houtcome
  cases hfind : Route.find? r.path with
  | none =>
    have hrefused : (404 : Nat) ≠ 200 := by decide
    rw [hfind] at houtcome
    rw [houtcome]
    refine .inl ⟨fun route texts hfound => ?_, hrefused, rfl⟩
    cases hfound
  | some found =>
    obtain ⟨route, texts⟩ := found
    rw [hfind] at houtcome
    dsimp only at houtcome
    cases hserves : Route.serves? route.verb r.method with
    | none =>
      have hrefused : (405 : Nat) ≠ 200 := by decide
      rw [hserves] at houtcome
      rw [houtcome]
      refine .inl ⟨fun other _ hfound => ?_, hrefused, rfl⟩
      cases hfound
      exact hserves
    | some headOnly =>
      rw [hserves] at houtcome
      refine .inr ⟨route, texts, headOnly, rfl, hserves, houtcome.trans ?_⟩
      exact Program.runFrom_map h supply _
        (fun response => if headOnly then Response.empty response.status else response) n s

/-- What a place has changed when it answers: nothing unless it serves the request. -/
theorem Endpoint.runFrom_respond (endpoint : Endpoint) (supply : Supply) (e : Engine)
    (parameter : Option String) (r : Request) (n : Nat) (ops : List StoreOperation) :
    let s := after ops
    let outcome := (endpoint.respond e parameter r).runFrom MemoryStore.handle supply n s
    (outcome.1.status ≠ 200 → outcome.2 = s) ∧
    (endpoint ≠ .validateTransition → endpoint ≠ .resolveAlert → outcome.2 = s) ∧
    (endpoint = .validateTransition →
      (outcome.1.status = 200 ↔ r.NamesDossier parameter s) ∧
      (outcome.1.status = 200 → r.Validated parameter s outcome)) ∧
    (endpoint = .resolveAlert →
      (outcome.1.status = 200 ↔ r.NamesAlert parameter s) ∧
      (outcome.1.status = 200 → r.Resolved parameter (supply.instant n) s outcome)) := by
  intro s outcome
  by_cases htransition : endpoint = .validateTransition
  · subst htransition
    rcases runFrom_validateTransition supply e parameter r n ops with
      ⟨hunnamed, hrefused, hsame⟩ | ⟨hnamed, hserved, hvalidated⟩
    · exact ⟨fun _ => hsame, fun _ _ => hsame,
        fun _ => ⟨iff_of_false hrefused hunnamed, fun h => absurd h hrefused⟩, nofun⟩
    · exact ⟨fun h => absurd hserved h, fun h => absurd rfl h,
        fun _ => ⟨iff_of_true hserved hnamed, fun _ => hvalidated⟩, nofun⟩
  by_cases hresolve : endpoint = .resolveAlert
  · subst hresolve
    rcases runFrom_resolveAlert supply e parameter r n s with
      ⟨hunnamed, hrefused, hsame⟩ | ⟨hnamed, hserved, hresolved⟩
    · exact ⟨fun _ => hsame, fun _ _ => hsame, nofun,
        fun _ => ⟨iff_of_false hrefused hunnamed, fun h => absurd h hrefused⟩⟩
    · exact ⟨fun h => absurd hserved h, fun _ h => absurd rfl h, nofun,
        fun _ => ⟨iff_of_true hserved hnamed, fun _ => hresolved⟩⟩
  have hreads := reads_respond htransition hresolve e parameter r
  have hsame := hreads.runFrom MemoryStore.handle_of_reads supply n s
  exact ⟨fun _ => hsame, fun _ _ => hsame, fun h => absurd h htransition,
    fun h => absurd h hresolve⟩

/-- What requests change, in any state of a store in memory and for any engine.
A request that is not served changes nothing, nor does one that is not a POST
or goes to a place that only reads. A change of status is served when it names
a stored dossier, and it adds the alerts and the audit entry that the answer
lists and nothing else; a resolution is served when it names a stored alert, and
it resolves the first of that id and changes nothing else. -/
theorem request_effects (supply : Supply) (e : Engine) (r : Request) (n : Nat)
    (ops : List StoreOperation) :
    let s := after ops
    let outcome := (e.respond r).runFrom MemoryStore.handle supply n s
    (outcome.1.status ≠ 200 → outcome.2 = s) ∧
    (r.method ≠ "POST" → outcome.2 = s) ∧
    ∀ route texts, Route.find? r.path = some (route, texts) →
      let parameter := texts.head?.bind Text.Percent.decode?
      (route.endpoint ≠ .validateTransition → route.endpoint ≠ .resolveAlert → outcome.2 = s) ∧
      (route.endpoint = .validateTransition →
        (outcome.1.status = 200 ↔ r.method = "POST" ∧ r.NamesDossier parameter s) ∧
        (outcome.1.status = 200 → r.Validated parameter s outcome)) ∧
      (route.endpoint = .resolveAlert →
        (outcome.1.status = 200 ↔ r.method = "POST" ∧ r.NamesAlert parameter s) ∧
        (outcome.1.status = 200 → r.Resolved parameter (supply.instant n) s outcome)) := by
  intro s outcome
  rcases Engine.runFrom_respond MemoryStore.handle supply e r n s with
    ⟨hunserved, hstatus, hsame⟩ | ⟨route, texts, headOnly, hfind, hserves, houtcome⟩
  · refine ⟨fun _ => hsame, fun _ => hsame, fun route texts hfind => ?_⟩
    have hother (hwrites : route.endpoint = .validateTransition ∨ route.endpoint = .resolveAlert) :
        r.method ≠ "POST" := by
      intro hmethod
      have hnone := hunserved route texts hfind
      rw [Route.verb_of_writes (Route.mem_of_find? hfind) hwrites, hmethod] at hnone
      cases hnone
    refine ⟨fun _ _ => hsame, fun hendpoint => ⟨?_, fun hserved => absurd hserved hstatus⟩,
      fun hendpoint => ⟨?_, fun hserved => absurd hserved hstatus⟩⟩
    · exact iff_of_false hstatus fun hnamed => hother (.inl hendpoint) hnamed.1
    · exact iff_of_false hstatus fun hnamed => hother (.inr hendpoint) hnamed.1
  · obtain ⟨hrefused, hreads, hvalidated, hresolved⟩ := Endpoint.runFrom_respond route.endpoint
      supply e (texts.head?.bind Text.Percent.decode?) r n ops
    have hstore := congrArg Prod.snd houtcome
    have hpost (hwrites : route.endpoint = .validateTransition ∨ route.endpoint = .resolveAlert) :
        r.method = "POST" ∧ outcome =
          (route.endpoint.respond e (texts.head?.bind Text.Percent.decode?) r).runFrom
            MemoryStore.handle supply n s := by
      rw [Route.verb_of_writes (Route.mem_of_find? hfind) hwrites] at hserves
      obtain ⟨hmethod, rfl⟩ := Route.serves?_post hserves
      exact ⟨hmethod, houtcome⟩
    refine ⟨fun hstatus => hstore.trans (hrefused ?_), fun hmethod => hstore.trans (hreads ?_ ?_),
      fun other _ hfound => ?_⟩
    · intro hserved
      refine hstatus ((congrArg (fun outcome => outcome.1.status) houtcome).trans ?_)
      cases headOnly <;> exact hserved
    · exact fun hendpoint => hmethod (hpost (.inl hendpoint)).1
    · exact fun hendpoint => hmethod (hpost (.inr hendpoint)).1
    · cases hfind.symm.trans hfound
      refine ⟨fun htransition hresolve => hstore.trans (hreads htransition hresolve),
        fun hendpoint => ?_, fun hendpoint => ?_⟩
      · obtain ⟨hmethod, hanswered⟩ := hpost (.inl hendpoint)
        rw [hanswered, and_iff_right hmethod]
        exact hvalidated hendpoint
      · obtain ⟨hmethod, hanswered⟩ := hpost (.inr hendpoint)
        rw [hanswered, and_iff_right hmethod]
        exact hresolved hendpoint

end DossierCompliance
