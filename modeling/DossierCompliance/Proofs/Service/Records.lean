import DossierCompliance.Proofs.Engine.Confinement
import DossierCompliance.Proofs.Json.Normal
import DossierCompliance.Proofs.Rule.Editing
import DossierCompliance.Proofs.Service.Effects
import DossierCompliance.Proofs.Text.Blank

/-!
The records that requests leave in a store. Whatever requests come, a place of
the service asks the store to keep only records of a certain form, and none of
its calls takes this form away from a record that has it. So all records of a
store that held none at the start are of this form.
-/

namespace DossierCompliance

/-! ### The form of records -/

/-- An audit entry says who tried which change of a dossier, and its details
agree with each other and with the action. -/
structure AuditEntry.IsWellFormed (e : AuditEntry) : Prop where
  actorId : Text.IsTidy e.actorId
  actorRole : ∀ role ∈ e.actorRole, Text.IsTidy role
  isForced : e.isForced = false
  entityType : e.entityType = "DOSSIER"
  phase : e.phase = e.newState.phase
  details : ∃ (blocked : Bool) (errors warnings ruleIds : List String),
    e.details.get? "blocked" = some (.bool blocked) ∧
    e.details.get? "errors" = some (.texts errors) ∧
    e.details.get? "warnings" = some (.texts warnings) ∧
    e.details.get? "rule_ids" = some (.texts ruleIds) ∧
    (e.action = .transitionBlocked ↔ errors ≠ []) ∧ (errors ≠ [] ↔ blocked = true) ∧
    ruleIds.length = errors.length + warnings.length ∧ 1 ≤ ruleIds.length

/-- An alert names the trigger of a change, blocks unless warnings are recorded
as well, and is resolved exactly when it says by whom, how and when. -/
structure Alert.IsWellFormed (recordsWarnings : Bool) (a : Alert) : Prop where
  trigger : ∃ status : Status, a.trigger = "TO_" ++ status.name
  severity : recordsWarnings = false → a.severity = .blocking
  isResolved : a.isResolved = true ↔
    a.resolvedBy.isSome = true ∧ a.resolution.isSome = true ∧ a.resolvedAt.isSome = true
  resolvedBy : ∀ name ∈ a.resolvedBy, Text.IsTidy name
  resolution : ∀ text ∈ a.resolution, Text.IsTidy text

/-- A store whose records are all of the form. -/
structure MemoryStore.IsWellFormed (recordsWarnings : Bool) (s : MemoryStore) : Prop where
  alerts : ∀ a ∈ s.alerts, a.IsWellFormed recordsWarnings
  audit : ∀ e ∈ s.audit, e.IsWellFormed

/-! ### Calls that keep the form -/

/-- A call that writes nothing but records of the form, and resolves alerts only
by a name and with a text that are tidy. -/
def StoreCall.IsProper (recordsWarnings : Bool) : StoreCall → Prop
  | recordAlert a => a.IsWellFormed recordsWarnings
  | resolveAlert _ r => Text.IsTidy r.resolvedBy ∧ Text.IsTidy r.text
  | recordAudit id draft => ∀ previousHash, (draft.chain id previousHash).IsWellFormed
  | _ => True

theorem StoreCall.isProper_of_reads {c : StoreCall} (h : c.reads = true) (recordsWarnings : Bool) :
    c.IsProper recordsWarnings := by
  cases c with
  | recordAlert _ | resolveAlert _ _ | recordAudit _ _ => cases h
  | _ => trivial

section Store

variable {recordsWarnings : Bool}

theorem Alert.IsWellFormed.resolve {a : Alert} (h : a.IsWellFormed recordsWarnings)
    {r : Resolution} (hname : Text.IsTidy r.resolvedBy) (htext : Text.IsTidy r.text) :
    (a.resolve r).IsWellFormed recordsWarnings where
  trigger := h.trigger
  severity := h.severity
  isResolved := by simp [Alert.resolve]
  resolvedBy := by simpa [Alert.resolve] using hname
  resolution := by simpa [Alert.resolve] using htext

/-- Only one alert changes when one is resolved. -/
theorem MemoryStore.mem_resolveFirst {id : Uuid} {r : Resolution} {alerts : List Alert} {a : Alert}
    (h : a ∈ resolveFirst id r alerts) : a ∈ alerts ∨ ∃ b ∈ alerts, a = b.resolve r := by
  induction alerts with
  | nil => cases h
  | cons b rest ih =>
    rw [resolveFirst] at h
    split at h
    · rcases List.mem_cons.mp h with rfl | hrest
      · exact .inr ⟨b, List.mem_cons_self, rfl⟩
      · exact .inl (List.mem_cons_of_mem b hrest)
    · rcases List.mem_cons.mp h with rfl | hrest
      · exact .inl List.mem_cons_self
      · rcases ih hrest with hsame | ⟨c, hc, hresolved⟩
        · exact .inl (List.mem_cons_of_mem b hsame)
        · exact .inr ⟨c, List.mem_cons_of_mem b hc, hresolved⟩

/-- A proper call leaves only records of the form behind. -/
theorem MemoryStore.IsWellFormed.handle {c : StoreCall} (hc : c.IsProper recordsWarnings)
    {s : MemoryStore} (hs : s.IsWellFormed recordsWarnings) :
    (MemoryStore.handle c s).2.IsWellFormed recordsWarnings := by
  cases c with
  | recordAlert a =>
    refine ⟨?_, hs.audit⟩
    exact List.forall_mem_append.mpr ⟨hs.alerts, List.forall_mem_singleton.mpr hc⟩
  | resolveAlert id r =>
    refine ⟨?_, hs.audit⟩
    intro a ha
    rcases mem_resolveFirst ha with hsame | ⟨b, hb, rfl⟩
    · exact hs.alerts a hsame
    · exact (hs.alerts b hb).resolve hc.1 hc.2
  | recordAudit id draft =>
    refine ⟨hs.alerts, ?_⟩
    exact List.forall_mem_append.mpr ⟨hs.audit, List.forall_mem_singleton.mpr (hc _)⟩
  | _ => exact hs

end Store

/-! ### What a validation records -/

theorem Trigger.text_eq_append (t : Trigger) : t.text = "TO_" ++ t.target.name := by
  rw [text, String.ofList_append, String.ofList_toList]
  rfl

/-- The alert of a violation that calls for one. -/
theorem Alert.isWellFormed_raise {e : Engine} {a : Assessment} {v : Violation}
    (hv : v ∈ e.alerting a) (id : Uuid) (dossierId : String) (trigger : Trigger)
    (createdAt : Instant) :
    (Alert.raise id dossierId trigger v createdAt).IsWellFormed e.recordsWarnings where
  trigger := ⟨trigger.target, trigger.text_eq_append⟩
  severity := by
    intro hwarnings
    have hcalled := (List.mem_filter.mp hv).2
    have hblocking : v.severity = .blocking := by
      simpa [hwarnings, Violation.isBlocking] using hcalled
    exact hblocking
  isResolved := by simp [Alert.raise]
  resolvedBy := by simp [Alert.raise]
  resolution := by simp [Alert.raise]

/-- Who asks for a change gives an id, and a role or none. -/
structure Actor.IsTidy (a : Actor) : Prop where
  id : Text.IsTidy a.id
  role : ∀ role ∈ a.role, Text.IsTidy role

theorem Assessment.get?_details (a : Assessment) (d : Dossier) (actor : Actor)
    (timestamp : Instant) :
    let details := (a.auditDraft d actor timestamp).details
    details.get? "blocked" = some (.bool !a.verdict.isSuccess) ∧
    details.get? "errors" = some (.texts a.verdict.errors) ∧
    details.get? "warnings" = some (.texts a.verdict.warnings) ∧
    details.get? "rule_ids" = some (.texts (a.findings.map (·.ruleId))) := by
  simp [auditDraft, Json.ofMembers, Json.get?, Members.get?_sorted, Members.get?_cons]

/-- The entry of a change in which anything was found. -/
theorem AuditEntry.isWellFormed_chain {a : Assessment} (hfound : a.findings ≠ []) {actor : Actor}
    (hactor : actor.IsTidy) (d : Dossier) (timestamp : Instant) (id : Uuid)
    (previousHash : String) :
    ((a.auditDraft d actor timestamp).chain id previousHash).IsWellFormed where
  actorId := hactor.id
  actorRole := hactor.role
  isForced := rfl
  entityType := rfl
  phase := rfl
  details := by
    obtain ⟨hblocked, herrors, hwarnings, hruleIds⟩ := a.get?_details d actor timestamp
    refine ⟨_, _, _, _, hblocked, herrors, hwarnings, hruleIds, ?_, ?_, ?_, ?_⟩
    · change (if a.verdict.isSuccess then AuditAction.transitionAllowedWithWarnings
        else .transitionBlocked) = .transitionBlocked ↔ a.verdict.errors ≠ []
      cases herrors : a.verdict.errors <;> simp [Verdict.isSuccess, herrors]
    · simp [Verdict.isSuccess]
    · rw [List.length_map, a.length_verdict]
    · rw [List.length_map]
      exact List.length_pos_iff.mpr hfound

/-! ### What requests may bring -/

open Json (bind_eq_ok)

theorem isTidy_of_requireText {field text : String} {u : Unit}
    (h : requireText field text = .ok u) : Text.IsTidy (Text.trim text) := by
  unfold requireText at h
  cases hblank : Text.isBlank text with
  | false => exact Text.isTidy_trim (Text.trim_ne_empty hblank)
  | true => simp [hblank] at h

namespace TransitionRequest

/-- The actor of a request whose id is not blank. -/
theorem isTidy_actor {r : TransitionRequest} (hid : ∀ id ∈ r.actorId, Text.IsTidy (Text.trim id)) :
    ∀ a ∈ r.actor, a.IsTidy := by
  intro a ha
  obtain ⟨id, hsome, rfl⟩ := Option.map_eq_some_iff.mp ha
  refine ⟨hid id hsome, ?_⟩
  intro role hrole
  obtain ⟨hmap, hfilled⟩ := Option.filter_eq_some_iff.mp hrole
  obtain ⟨text, _, rfl⟩ := Option.map_eq_some_iff.mp hmap
  apply Text.isTidy_trim
  intro hempty
  simp [hempty] at hfilled

theorem isTidy_of_check {r : TransitionRequest} {target : Status} {actor : Option Actor}
    (h : r.check = .ok (target, actor)) : ∀ a ∈ actor, a.IsTidy := by
  obtain ⟨t, _, hrest⟩ := bind_eq_ok h
  -- The check of the role, once that of the id has passed.
  have hlast (hrole : (if r.actorRole.isSome && r.actorId.isNone then
      (do throw .roleWithoutActor; return (t, r.actor) : Except InvalidRequest _)
      else return (t, r.actor)) = .ok (target, actor)) : r.actor = actor := by
    split at hrole
    · cases hrole
    · cases hrole
      rfl
  cases hid : r.actorId with
  | none =>
    rw [hid] at hrest hlast
    rw [← hlast hrest]
    apply isTidy_actor
    simp [hid]
  | some id =>
    rw [hid] at hrest hlast
    obtain ⟨u, hchecked, hrole⟩ := bind_eq_ok hrest
    rw [← hlast hrole]
    apply isTidy_actor
    intro given hgiven
    cases hid.symm.trans hgiven
    exact isTidy_of_requireText hchecked

end TransitionRequest

theorem ResolveRequest.isTidy_of_check {r body : ResolveRequest} (h : r.check = .ok body) :
    Text.IsTidy body.resolvedBy ∧ Text.IsTidy body.resolution := by
  obtain ⟨u, hname, hrest⟩ := bind_eq_ok h
  obtain ⟨v, htext, hbody⟩ := bind_eq_ok hrest
  cases hbody
  exact ⟨isTidy_of_requireText hname, isTidy_of_requireText htext⟩

theorem Request.check_of_checkedBody {α β : Type} {r : Request} {decode : Json.Decoder α}
    {check : α → Except InvalidRequest β} {b : β} (h : r.checkedBody decode check = .ok b) :
    ∃ a, check a = .ok b := by
  obtain ⟨a, _, hchecked⟩ := bind_eq_ok h
  refine ⟨a, ?_⟩
  cases hcheck : check a with
  | error why =>
    rw [hcheck] at hchecked
    cases hchecked
  | ok other =>
    rw [hcheck] at hchecked
    cases hchecked
    rfl

/-! ### What places ask of the store -/

section Places

variable {allowed : StoreCall → Prop} {told : (c : StoreCall) → c.Reply → Prop}

theorem Program.Reads.confined {α : Type} {p : Program α} (hp : p.Reads)
    (hreads : ∀ c : StoreCall, c.reads = true → allowed c) : p.Confined allowed told := by
  induction p with
  | done a => trivial
  | call c next ih =>
    cases c with
    | now => exact fun time => ih time (hp time)
    | newId => exact fun id => ih id (hp id)
    | store c => exact ⟨hreads c hp.1, fun reply _ => ih reply (hp.2 reply)⟩

theorem Serving.confined_after {α : Type} {outcome : Except Refusal α} {f : α → Serving}
    (hf : ∀ a, outcome = .ok a → (f a).Confined allowed told) :
    (after outcome f).Confined allowed told := by
  cases outcome with
  | ok a => exact hf a rfl
  | error why => trivial

theorem Serving.confined_asking {α : Type} {p : Program (Except EngineError α)} {f : α → Json}
    (hp : p.Confined allowed told) : (asking p f).Confined allowed told :=
  hp.map _

theorem Endpoint.confined_serve {serving : Serving} (h : serving.Confined allowed told) :
    (serve serving).Confined allowed told :=
  h.map _

theorem Endpoint.confined_withText {f : String → Serving}
    (hf : ∀ text, (f text).Confined allowed told) (parameter : Option String) :
    (withText parameter f).Confined allowed told := by
  cases parameter with
  | none => trivial
  | some text => exact confined_serve (hf text)

end Places

variable {told : (c : StoreCall) → c.Reply → Prop}

theorem Engine.proper_validate (e : Engine) (dossierId : String) (target : Status)
    {actor : Option Actor} (hactor : ∀ a ∈ actor, a.IsTidy) :
    (e.validate dossierId target actor).Confined (StoreCall.IsProper e.recordsWarnings) told := by
  apply confined_validate
  · trivial
  · intro d _ day time v hv id
    exact Alert.isWellFormed_raise hv id d.id ⟨target⟩ time
  · intro d _ day time who hwho hfound id previousHash
    exact AuditEntry.isWellFormed_chain hfound (hactor who hwho) d time id previousHash

theorem Engine.proper_resolveAlert (recordsWarnings : Bool) (id : Uuid) {resolvedBy text : String}
    (hname : Text.IsTidy resolvedBy) (htext : Text.IsTidy text) :
    (resolveAlert id resolvedBy text).Confined (StoreCall.IsProper recordsWarnings) told := by
  intro time
  refine ⟨⟨hname, htext⟩, ?_⟩
  intro reply _
  rcases reply with why | none | alert
  · trivial
  · trivial
  · trivial

/-- Each place makes only proper calls: the two that write check what they are
given, and all others only read. -/
theorem Endpoint.proper_respond (endpoint : Endpoint) (e : Engine) (parameter : Option String)
    (r : Request) :
    (endpoint.respond e parameter r).Confined (StoreCall.IsProper e.recordsWarnings) told := by
  by_cases htransition : endpoint = .validateTransition
  · subst htransition
    refine confined_withText (fun dossierId => ?_) parameter
    apply Serving.confined_after
    rintro ⟨target, actor⟩ hbody
    obtain ⟨body, hcheck⟩ := Request.check_of_checkedBody hbody
    apply Serving.confined_asking
    exact e.proper_validate dossierId target (TransitionRequest.isTidy_of_check hcheck)
  by_cases hresolve : endpoint = .resolveAlert
  · subst hresolve
    apply confined_serve
    apply Serving.confined_after
    intro id _
    apply Serving.confined_after
    intro body hbody
    obtain ⟨given, hcheck⟩ := Request.check_of_checkedBody hbody
    obtain ⟨hname, htext⟩ := ResolveRequest.isTidy_of_check hcheck
    apply Serving.confined_asking
    exact Engine.proper_resolveAlert e.recordsWarnings id hname htext
  · apply (reads_respond htransition hresolve e parameter r).confined
    intro c hc
    exact StoreCall.isProper_of_reads hc e.recordsWarnings

theorem Engine.proper_respond (e : Engine) (r : Request) :
    (e.respond r).Confined (StoreCall.IsProper e.recordsWarnings) told := by
  rw [Engine.respond]
  cases Route.find? r.path with
  | none => trivial
  | some found =>
    obtain ⟨route, texts⟩ := found
    dsimp only
    cases Route.serves? route.verb r.method with
    | none => trivial
    | some headOnly => exact (route.endpoint.proper_respond e _ r).map _

theorem Engine.proper_requests (e : Engine) (requests : List Request) :
    (requests.mapM e.respond).Confined (StoreCall.IsProper e.recordsWarnings) told := by
  induction requests with
  | nil => trivial
  | cons r requests ih =>
    rw [List.mapM_cons]
    apply (e.proper_respond r).bind
    intro response
    exact ih.map _

/-- The records of a store that begins without any and answers requests, in any
number and order, at any times and with whatever ids are drawn. Every audit entry
and every alert is of the form. -/
theorem records_wellFormed (supply : Supply) (e : Engine) (dossiers : Members Dossier)
    (organizations : Members Organization) (requests : List Request) :
    let opening : MemoryStore := ⟨dossiers, organizations, [], []⟩
    let final := ((requests.mapM e.respond).run MemoryStore.handle supply opening).2
    (∀ entry ∈ final.audit, entry.IsWellFormed) ∧
      ∀ a ∈ final.alerts, a.IsWellFormed e.recordsWarnings := by
  intro opening final
  have hopening : opening.IsWellFormed e.recordsWarnings := by
    constructor
    · intro a ha
      cases ha
    · intro entry hentry
      cases hentry
  have hcall (c : StoreCall) (s : MemoryStore) (hc : c.IsProper e.recordsWarnings)
      (hs : s.IsWellFormed e.recordsWarnings) :
      True ∧ (MemoryStore.handle c s).2.IsWellFormed e.recordsWarnings := ⟨trivial, hs.handle hc⟩
  have hproper : (requests.mapM e.respond).Confined (StoreCall.IsProper e.recordsWarnings)
      (fun _ _ => True) := e.proper_requests requests
  have hfinal : final.IsWellFormed e.recordsWarnings := hproper.runFrom hcall supply 0 hopening
  exact ⟨hfinal.audit, hfinal.alerts⟩

end DossierCompliance
