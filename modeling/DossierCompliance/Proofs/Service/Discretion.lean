import DossierCompliance.Proofs.Engine.Failures
import DossierCompliance.Proofs.Service.Effects

/-!
What responses tell of a store that fails: nothing of the reasons. A failure that
ends the work has one fixed response, and of the writes of a validation the
response says which records there are and whether all were written.
-/

namespace DossierCompliance

/-! ### Discreet programs -/

/-- The response to a request that cannot do without a call that failed. -/
def Response.unavailable : StoreCall → Response
  | .ping => .plain 503 "database unavailable"
  | _ =>
    { status := 500
      body := .json (.ofMembers [("error", .ofMembers
        [("code", .string "INTERNAL_ERROR"), ("message", .string "An internal error occurred")])]) }

/-- A program whose response says nothing of why calls failed, and is the fixed
one of the call when a failure ended the work. -/
structure Program.Discreet {α : Type} (answer : α → Response) (p : Program α) : Prop where
  alike : Program.Alike (fun a b => answer a = answer b) p p
  stops : p.Stops fun c a => answer a = .unavailable c

namespace Program.Discreet

variable {α β : Type} {answer : α → Response}

theorem done (a : α) : (Program.done a).Discreet answer where
  alike := .done rfl
  stops := trivial

theorem now {next : Instant → Program α} (h : ∀ time, (next time).Discreet answer) :
    (Program.call .now next).Discreet answer where
  alike := .now fun time => (h time).alike
  stops := fun time => (h time).stops

/-- A call that the work cannot do without. -/
theorem store {c : StoreCall} {next : c.Reply → Program α}
    (hok : ∀ found, (next (.ok found)).Discreet answer)
    (herror : ∀ why, ∃ a, next (.error why) = .done a ∧ answer a = .unavailable c) :
    (Program.call (.store c) next).Discreet answer where
  alike := by
    refine .store (fun found => (hok found).alike) fun why other => ?_
    obtain ⟨a, hdone, ha⟩ := herror why
    obtain ⟨b, hdone', hb⟩ := herror other
    rw [hdone, hdone']
    exact .done (ha.trans hb.symm)
  stops := by
    refine ⟨fun _ why => herror why, fun reply => ?_⟩
    cases reply with
    | ok found => exact (hok found).stops
    | error why =>
      obtain ⟨a, hdone, _⟩ := herror why
      rw [hdone]
      trivial

theorem map {p : Program β} {f : β → α} (h : p.Discreet fun b => answer (f b)) :
    (p >>= fun b => pure (f b)).Discreet answer where
  alike := h.alike.map fun _ _ hsame => hsame
  stops := h.stops.bind (fun _ b hb => ⟨f b, rfl, hb⟩) fun _ => trivial

end Program.Discreet

/-! ### Requests to the engine -/

namespace Engine

theorem alike_apply (e : Engine) (d : Dossier) (a : Assessment) (actor : Option Actor)
    (dossierId : String) (target : Status) :
    Program.Alike (fun report other => Serving.transitionJson dossierId target report =
        Serving.transitionJson dossierId target other)
      (e.apply d a actor) (e.apply d a actor) := by
  refine .now fun time => (alike_recordAlerts _ _ _ _).bind fun alerts others halerts =>
    (alike_recordAudit _ _ _ _).map fun audit other haudit => ?_
  have hids : alerts.filterMap Except.toOption = others.filterMap Except.toOption := by
    have hsame := congrArg (List.filterMap id) halerts
    rwa [List.filterMap_map, List.filterMap_map] at hsame
  have hid : audit.bind Except.toOption = other.bind Except.toOption := by
    have hsame := congrArg (Option.bind · id) haudit
    rwa [Option.bind_map, Option.bind_map] at hsame
  have hall : (alerts ++ audit.toList).map Except.toOption =
      (others ++ other.toList).map Except.toOption := by
    rw [List.map_append, List.map_append, halerts, ← Option.toList_map, haudit, Option.toList_map]
  simp only [Serving.transitionJson, TransitionReport.isFullyPersisted, ← List.filterMap_append,
    isEmpty_failures, hids, hid, hall]

/-- What is made of the answer of the engine, or of its reason to give none. -/
def told {α : Type} (f : α → Json) (outcome : Except EngineError α) : Response :=
  .ofOutcome ((outcome.map f).mapError .engine)

theorem discreet_validate (e : Engine) (dossierId : String) (target : Status)
    (actor : Option Actor) :
    (e.validate dossierId target actor).Discreet
      (told (Serving.transitionJson dossierId target)) := by
  refine .store (fun found => ?_) fun why => ⟨_, rfl, rfl⟩
  cases found with
  | none => exact .done _
  | some d =>
    refine .now fun time => ⟨?_, ?_⟩
    · exact (alike_apply e d _ actor dossierId target).map fun _ _ hsame =>
        congrArg Response.ok hsame
    · exact (stops_apply e d _ actor).bind (fun _ _ => False.elim) fun _ => trivial

theorem discreet_resolveAlert (id : Uuid) (resolvedBy text : String) :
    (resolveAlert id resolvedBy text).Discreet (told Alert.toJson) := by
  refine .now fun time => .store (fun found => ?_) fun why => ⟨_, rfl, rfl⟩
  cases found with
  | none => exact .done _
  | some alert => exact .done _

theorem discreet_checkSite (tenantId : String) (site : SiteDraft) :
    (checkSite tenantId site).Discreet (told Verdict.toJson) := by
  refine .store (fun found => ?_) fun why => ⟨_, rfl, rfl⟩
  cases found with
  | none => exact .done _
  | some tenant => exact .done _

end Engine

/-! ### Places -/

namespace Serving

theorem discreet_after {α : Type} {outcome : Except Refusal α} {f : α → Serving}
    (hf : ∀ a, (f a).Discreet Response.ofOutcome) :
    (after outcome f).Discreet Response.ofOutcome := by
  cases outcome with
  | ok a => exact hf a
  | error why => exact .done _

theorem discreet_asking {α : Type} {p : Program (Except EngineError α)} {f : α → Json}
    (hp : p.Discreet (Engine.told f)) : (asking p f).Discreet Response.ofOutcome :=
  .map hp

end Serving

namespace Endpoint

open Serving (discreet_after discreet_asking)

theorem discreet_serve {serving : Serving} (h : serving.Discreet Response.ofOutcome) :
    (serve serving).Discreet id :=
  .map h

theorem discreet_withText {f : String → Serving}
    (hf : ∀ text, (f text).Discreet Response.ofOutcome) (parameter : Option String) :
    (withText parameter f).Discreet id := by
  cases parameter with
  | none => exact .done _
  | some text => exact discreet_serve (hf text)

theorem discreet_respond (endpoint : Endpoint) (e : Engine) (parameter : Option String)
    (r : Request) : (endpoint.respond e parameter r).Discreet id := by
  cases endpoint with
  | liveness | description => exact .done _
  | readiness => exact .store (fun _ => .done _) fun _ => ⟨_, rfl, rfl⟩
  | validateTransition =>
    exact discreet_withText (fun id => discreet_after fun (target, actor) =>
      discreet_asking (e.discreet_validate id target actor)) parameter
  | unresolvedAlerts =>
    exact discreet_withText (fun id => discreet_asking
      (.store (fun _ => .done _) fun _ => ⟨_, rfl, rfl⟩)) parameter
  | resolveAlert =>
    exact discreet_serve (discreet_after fun id => discreet_after fun body =>
      discreet_asking (Engine.discreet_resolveAlert id body.resolvedBy body.resolution))
  | auditTrail =>
    exact discreet_withText (fun id => discreet_asking
      (.store (fun _ => .done _) fun _ => ⟨_, rfl, rfl⟩)) parameter
  | verifyAudit =>
    exact discreet_serve (discreet_after fun limit => discreet_asking
      (.store (fun _ => .done _) fun _ => ⟨_, rfl, rfl⟩))
  | validateSite =>
    exact discreet_withText (fun id => discreet_after fun site =>
      discreet_asking (Engine.discreet_checkSite id site)) parameter
  | validateOrganization => exact discreet_serve (discreet_after fun draft => .done _)
  | listRules => exact discreet_serve (discreet_after fun rules => .done _)

end Endpoint

/-! ### Requests -/

theorem Route.serves?_head {verb : Verb} {method : String} {headOnly : Bool}
    (h : Route.serves? verb method = some headOnly) : headOnly = true ↔ method = "HEAD" := by
  unfold serves? at h
  split at h <;> cases h <;> simp

/-- The response to a request that cannot do without a call that failed, without
its body if the request is for the head alone. -/
def Request.unavailable (r : Request) (c : StoreCall) : Response :=
  if r.method = "HEAD" then .empty (Response.unavailable c).status else .unavailable c

theorem Engine.discreet_respond (e : Engine) (r : Request) :
    (e.respond r).Alike Eq (e.respond r) ∧
      (e.respond r).Stops fun c response => response = r.unavailable c := by
  rw [respond]
  cases Route.find? r.path with
  | none => exact ⟨.done rfl, trivial⟩
  | some found =>
    obtain ⟨route, texts⟩ := found
    dsimp only
    cases hserves : Route.serves? route.verb r.method with
    | none => exact ⟨.done rfl, trivial⟩
    | some headOnly =>
      obtain ⟨halike, hstops⟩ := Endpoint.discreet_respond route.endpoint e
        (texts.head?.bind Text.Percent.decode?) r
      refine ⟨halike.map fun response other (hsame : response = other) => by rw [hsame],
        hstops.bind (fun c response (hfixed : response = .unavailable c) => ⟨_, rfl, ?_⟩)
          fun _ => trivial⟩
      rw [hfixed, Request.unavailable]
      simp only [Route.serves?_head hserves]

/-- A request to validate a change of status: its path names the dossier, and
its body the new status and perhaps an actor. -/
structure Request.AsksToValidate (r : Request) (dossierId : String) (target : Status)
    (actor : Option Actor) : Prop where
  method : r.method = "POST"
  path : ∃ route texts, Route.find? r.path = some (route, texts) ∧
    route.endpoint = .validateTransition ∧ texts.head?.bind Text.Percent.decode? = some dossierId
  body : r.checkedBody TransitionRequest.decode TransitionRequest.check = .ok (target, actor)

theorem Engine.respond_of_asksToValidate {r : Request} {dossierId : String} {target : Status}
    {actor : Option Actor} (hr : r.AsksToValidate dossierId target actor) (e : Engine) :
    e.respond r = Endpoint.serve (Serving.asking (e.validate dossierId target actor)
      (Serving.transitionJson dossierId target)) := by
  obtain ⟨hmethod, ⟨route, texts, hfind, hendpoint, hid⟩, hbody⟩ := hr
  have hverb : route.verb = .post :=
    Route.verb_of_writes (Route.mem_of_find? hfind) (.inl hendpoint)
  have hserves : Route.serves? .post "POST" = some false := rfl
  simp only [respond, hfind, hverb, hmethod, hserves, hendpoint, hid, Bool.false_eq_true, if_false]
  rw [bind_pure, Endpoint.respond, Endpoint.withText, Serving.validateTransition, hbody]
  rfl

/-- What a response tells of a store that fails, for any store, any request and
any pattern of failures. It does not depend on the reasons, and neither does
what is done to the store. A failed call gives the fixed response of the call,
unless it is a write of a validation; a validation of a stored dossier is
answered whatever becomes of its writes, with the verdict of the assessment, the
identifiers of the records that were written, and whether all of them were. -/
theorem failures_untold {σ : Type} (h : StoreHandler σ) (supply : Supply) (n : Nat) (s : σ)
    (e : Engine) (r : Request) :
    ∃ (response : Response) (final : σ) (log : List Exchange),
      (e.respond r).runFrom h supply n s = (response, final) ∧
      (e.respond r).runFrom (recording h) supply n (s, []) = (response, final, log) ∧
      (∀ (reasons : Nat → StoreError) (k : Nat), ∃ calls,
        (e.respond r).runFrom (reworded h reasons) supply n (s, k) = (response, final, calls)) ∧
      (∀ x ∈ log, x.failed = true → x.call.isReported = false →
        response = r.unavailable x.call) ∧
      ∀ dossierId target actor, r.AsksToValidate dossierId target actor →
        ∃ reply writes, log = ⟨.findDossier dossierId, reply⟩ :: writes ∧
          ∀ d, reply = .ok (some d) →
            let verdict := (assess e.rules ⟨d, target, (supply.instant n).date⟩).verdict
            (∀ x ∈ writes, x.call.isReported = true) ∧
            response = .ok (.ofMembers
              [("dossier_id", .string dossierId), ("target_status", Named.toJson target),
               ("success", .bool verdict.isSuccess), ("errors", .texts verdict.errors),
               ("warnings", .texts verdict.warnings),
               ("alert_ids", .ofList Uuid.toJson (writes.filterMap Exchange.alertId?)),
               ("audit_entry_id",
                 .ofOption Uuid.toJson (writes.filterMap Exchange.auditId?).head?),
               ("fully_persisted", .bool (writes.all fun x => !x.failed))]) := by
  obtain ⟨halike, hstops⟩ := e.discreet_respond r
  have hrecorded := Program.runFrom_recording h supply (e.respond r) n s []
  rw [List.nil_append] at hrecorded
  refine ⟨_, _, _, Program.runFrom_eq_trace h supply _ n s, hrecorded, ?_, ?_, ?_⟩
  · intro reasons k
    obtain ⟨hresponse, hstore⟩ := halike.runFrom_reworded h reasons supply n s k
    rw [Program.runFrom_eq_trace h] at hresponse hstore
    exact ⟨_, Prod.ext hresponse (Prod.ext hstore rfl)⟩
  · intro x hx hfailed hcall
    exact hstops.exchanges h supply n s hx hfailed hcall
  · intro dossierId target actor hr
    obtain ⟨reply, writes, hlog, hreport⟩ :=
      Engine.trace_validate h supply e dossierId target actor n s
    rw [Engine.respond_of_asksToValidate hr, Endpoint.serve, Serving.asking, Program.trace_map,
      Program.trace_map]
    refine ⟨reply, writes, hlog, fun d hfound => ?_⟩
    obtain ⟨report, hvalue, hreports⟩ := hreport d hfound
    refine ⟨hreports.calls, ?_⟩
    dsimp only
    rw [hvalue, ← hreports.verdict, ← hreports.alertIds, ← hreports.auditEntryId,
      ← hreports.isFullyPersisted]
    rfl

end DossierCompliance
