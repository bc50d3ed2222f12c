import DossierCompliance.Engine.Seed
import DossierCompliance.Proofs.Engine.Traces
import DossierCompliance.Proofs.Text.Utf8
import DossierCompliance.Service.Route
import DossierCompliance.Store.Memory

/-!
How requests are refused. A request for one of the places of the interface is
served, or refused with an envelope that holds a code and a message, whatever
stands in it and whatever the store replies. There is one exception: where a
place takes its parameter as a plain text and the text cannot be read out of
the path, the answer is a bare text.
-/

namespace DossierCompliance

/-! ### Routes -/

def Verb.method : Verb → String
  | get => "GET"
  | post => "POST"

theorem Route.serves?_method (verb : Verb) : Route.serves? verb verb.method = some false := by
  cases verb <;> rfl

namespace Route

theorem matchParts?_nil {parts texts : List String} :
    matchParts? [] parts = some texts ↔ parts = [] ∧ texts = [] := by
  cases parts <;> simp [matchParts?, eq_comm]

theorem matchParts?_fixed {text : String} {rest : List PathPart} {parts texts : List String} :
    matchParts? (.fixed text :: rest) parts = some texts ↔
      ∃ behind, parts = text :: behind ∧ matchParts? rest behind = some texts := by
  cases parts with
  | nil => simp [matchParts?]
  | cons part parts => simp [matchParts?, and_assoc]

theorem matchParts?_parameter {rest : List PathPart} {parts texts : List String} :
    matchParts? (.parameter :: rest) parts = some texts ↔
      ∃ text behind more, parts = text :: behind ∧ matchParts? rest behind = some more ∧
        texts = text :: more := by
  cases parts with
  | nil => simp [matchParts?]
  | cons part parts =>
    rw [matchParts?, Option.map_eq_some_iff]
    constructor
    · rintro ⟨more, hmore, rfl⟩
      exact ⟨part, parts, more, rfl, hmore, rfl⟩
    · rintro ⟨text, behind, more, hparts, hmore, rfl⟩
      cases hparts
      exact ⟨more, hmore, rfl⟩

/-- A path of the form of one of the routes of the interface leads to no other. -/
theorem find?_of_match {route : Route} (hroute : route ∈ interface) {path : String}
    {parts texts : List String} (hparts : pathParts? path = some parts)
    (htexts : matchParts? route.path parts = some texts) :
    find? path = some (route, texts) := by
  rw [find?, hparts, Option.bind_some]
  simp only [interface, List.mem_cons, List.not_mem_nil, or_false] at hroute
  rcases hroute with rfl | rfl | rfl | rfl | rfl | rfl | rfl | rfl <;>
    simp only [matchParts?_fixed, matchParts?_parameter, matchParts?_nil] at htexts
  · obtain ⟨_, rfl, _, rfl, text, _, _, rfl, ⟨_, rfl, _, rfl, rfl, rfl⟩, rfl⟩ := htexts
    simp [all, health, interface, matchParts?]
  · obtain ⟨_, rfl, _, rfl, text, _, _, rfl, ⟨_, rfl, rfl, rfl⟩, rfl⟩ := htexts
    simp [all, health, interface, matchParts?]
  · obtain ⟨_, rfl, _, rfl, text, _, _, rfl, ⟨_, rfl, rfl, rfl⟩, rfl⟩ := htexts
    simp [all, health, interface, matchParts?]
  · obtain ⟨_, rfl, _, rfl, text, _, _, rfl, ⟨_, rfl, rfl, rfl⟩, rfl⟩ := htexts
    simp [all, health, interface, matchParts?]
  · obtain ⟨_, rfl, _, rfl, _, rfl, rfl, rfl⟩ := htexts
    simp [all, health, interface, matchParts?]
  · obtain ⟨_, rfl, _, rfl, text, _, _, rfl, ⟨_, rfl, _, rfl, rfl, rfl⟩, rfl⟩ := htexts
    simp [all, health, interface, matchParts?]
  · obtain ⟨_, rfl, _, rfl, _, rfl, rfl, rfl⟩ := htexts
    simp [all, health, interface, matchParts?]
  · obtain ⟨_, rfl, _, rfl, rfl, rfl⟩ := htexts
    simp [all, health, interface, matchParts?]

end Route

/-! ### Bodies -/

/-- A body that is a text in UTF-8 is read as that text. -/
theorem Request.bodyText_of_encode {r : Request} {text : String}
    (h : r.body = Text.Utf8.encode text) : r.bodyText = text := by
  have hpieces : (text.toList.map some).flatMap (fun c => c.elim damage List.singleton) =
      text.toList := by
    rw [List.flatMap_map]
    exact List.flatMap_singleton' text.toList
  rw [bodyText, h, Text.Utf8.read_encode, hpieces, String.ofList_toList]

/-! ### Answers -/

namespace Response

/-- The statuses of refusals, each with its code. -/
def refusalCodes : List (Nat × String) :=
  [(400, "BAD_REQUEST"), (404, "NOT_FOUND"), (422, "VALIDATION_ERROR"), (500, "INTERNAL_ERROR")]

/-- The body is an envelope with a message and the code of the status. -/
def IsEnveloped (r : Response) : Prop :=
  ∃ code message,
    r.body = .json (.ofMembers
      [("error", .ofMembers [("code", .string code), ("message", .string message)])]) ∧
    (r.status, code) ∈ refusalCodes

theorem isEnveloped_refusal (why : Refusal) : why.response.IsEnveloped := by
  refine ⟨why.code, why.message, rfl, ?_⟩
  cases why with
  | unreadable why => exact List.mem_cons_self
  | invalid why => simp [refusalCodes, Refusal.response, Refusal.status, Refusal.code]
  | engine why => cases why <;> simp [refusalCodes, Refusal.response, Refusal.status, Refusal.code]

theorem isEnveloped_ofOutcome {outcome : Except Refusal Json}
    (h : (ofOutcome outcome).status ≠ 200) : (ofOutcome outcome).IsEnveloped := by
  cases outcome with
  | ok value => exact absurd rfl h
  | error why => exact isEnveloped_refusal why

theorem not_isEnveloped_plain (status : Nat) (text : String) :
    ¬ (plain status text).IsEnveloped := by
  rintro ⟨code, message, hbody, _⟩
  cases hbody

end Response

namespace Endpoint

variable {σ : Type} (h : StoreHandler σ) (supply : Supply) (n : Nat) (s : σ)

/-- Whether the parameter of a place is taken as a plain text. -/
def takesText : Endpoint → Bool
  | validateTransition | unresolvedAlerts | auditTrail | validateSite => true
  | _ => false

theorem run_serve (serving : Serving) :
    (serve serving).runFrom h supply n s =
      (.ofOutcome (serving.runFrom h supply n s).1, (serving.runFrom h supply n s).2) :=
  Program.runFrom_map h supply serving Response.ofOutcome n s

/-- A place of the interface is served, once its parameter is read. -/
theorem respond_eq_serve {route : Route} (hroute : route ∈ Route.interface) (e : Engine)
    {parameter : Option String} (r : Request)
    (hreadable : route.endpoint.takesText = true → ∃ text, parameter = some text) :
    ∃ serving, route.endpoint.respond e parameter r = serve serving := by
  simp only [Route.interface, List.mem_cons, List.not_mem_nil, or_false] at hroute
  rcases hroute with rfl | rfl | rfl | rfl | rfl | rfl | rfl | rfl
  · obtain ⟨text, rfl⟩ := hreadable rfl
    exact ⟨_, rfl⟩
  · obtain ⟨text, rfl⟩ := hreadable rfl
    exact ⟨_, rfl⟩
  · exact ⟨_, rfl⟩
  · obtain ⟨text, rfl⟩ := hreadable rfl
    exact ⟨_, rfl⟩
  · exact ⟨_, rfl⟩
  · obtain ⟨text, rfl⟩ := hreadable rfl
    exact ⟨_, rfl⟩
  · exact ⟨_, rfl⟩
  · exact ⟨_, rfl⟩

/-- A text that cannot be read is told of in a bare text. -/
theorem respond_unreadable {endpoint : Endpoint} (htext : endpoint.takesText = true) (e : Engine)
    (r : Request) :
    ∃ text, endpoint.respond e none r = pure (.plain 400 text) := by
  cases endpoint with
  | validateTransition | unresolvedAlerts | auditTrail | validateSite => exact ⟨_, rfl⟩
  | _ => cases htext

end Endpoint

/-- A request to a place of the interface goes there. -/
theorem Engine.respond_eq {route : Route} (hroute : route ∈ Route.interface) (e : Engine)
    {r : Request} {parts texts : List String} (hparts : Route.pathParts? r.path = some parts)
    (htexts : Route.matchParts? route.path parts = some texts)
    (hmethod : r.method = route.verb.method) :
    e.respond r = route.endpoint.respond e (texts.head?.bind Text.Percent.decode?) r := by
  simp only [respond, Route.find?_of_match hroute hparts htexts, hmethod, Route.serves?_method,
    Bool.false_eq_true, if_false]
  exact bind_pure _

theorem Engine.respond_unreadable {route : Route} (hroute : route ∈ Route.interface) (e : Engine)
    {r : Request} {parts texts : List String} (hparts : Route.pathParts? r.path = some parts)
    (htexts : Route.matchParts? route.path parts = some texts)
    (hmethod : r.method = route.verb.method) (htext : route.endpoint.takesText = true)
    (hnone : texts.head?.bind Text.Percent.decode? = none) :
    ∃ text, e.respond r = pure (.plain 400 text) := by
  rw [respond_eq hroute e hparts htexts hmethod, hnone]
  exact Endpoint.respond_unreadable htext e r

/-- How a request to a place of the interface is refused, whatever stands in it
and whatever the store replies: with an envelope and the code of its status,
unless the place takes its parameter as a plain text that cannot be read. -/
theorem refusals_enveloped {σ : Type} (h : StoreHandler σ) (supply : Supply) (n : Nat) (s : σ)
    (e : Engine) (r : Request) {route : Route} (hroute : route ∈ Route.interface)
    {parts texts : List String} (hparts : Route.pathParts? r.path = some parts)
    (htexts : Route.matchParts? route.path parts = some texts)
    (hmethod : r.method = route.verb.method) :
    let response := ((e.respond r).runFrom h supply n s).1
    let unreadable := route.endpoint.takesText = true ∧ texts.head?.bind Text.Percent.decode? = none
    (¬ unreadable → response.status ≠ 200 → response.IsEnveloped) ∧
      (unreadable →
        response.status = 400 ∧ (∃ text, response.body = .text text) ∧
          ¬ response.IsEnveloped) := by
  intro response unreadable
  constructor
  · intro hreadable hstatus
    obtain ⟨serving, hserving⟩ := Endpoint.respond_eq_serve hroute e r fun htext =>
      Option.ne_none_iff_exists'.mp fun hnone => hreadable ⟨htext, hnone⟩
    have hresponse : response = .ofOutcome (serving.runFrom h supply n s).1 := by
      simp only [response, Engine.respond_eq hroute e hparts htexts hmethod, hserving,
        Endpoint.run_serve]
    rw [hresponse] at hstatus ⊢
    exact Response.isEnveloped_ofOutcome hstatus
  · rintro ⟨htext, hnone⟩
    obtain ⟨text, hplain⟩ :=
      Engine.respond_unreadable hroute e hparts htexts hmethod htext hnone
    have hresponse : response = .plain 400 text := by
      simp only [response, hplain]
      rfl
    rw [hresponse]
    exact ⟨rfl, ⟨text, rfl⟩, Response.not_isEnveloped_plain 400 text⟩

/-- A request without a body. -/
def bareRequest (method path : String) : Request :=
  { path, query := "", method, contentType := none, body := [] }

/-- The answer to it, by an engine without rules on an empty store. -/
def bareAnswer (method path : String) : Response :=
  let e : Engine := ⟨⟨none, []⟩, false⟩
  let supply := Supply.ofSeed ⟨⟨2026, 3, 2, by decide⟩, 28800, 0, by decide⟩ []
  ((e.respond (bareRequest method path)).runFrom MemoryStore.handle supply 0 MemoryStore.empty).1

/-- An alert id that is none is refused with an envelope, and a dossier id that
is no text in UTF-8 without one. -/
theorem refusals_of_ids :
    (bareAnswer "POST" "/v1/alerts/first/resolve").status ≠ 200 ∧
      (bareAnswer "POST" "/v1/alerts/first/resolve").IsEnveloped ∧
      (bareAnswer "GET" "/v1/dossiers/%FF/alerts").status = 400 ∧
      ∃ text, (bareAnswer "GET" "/v1/dossiers/%FF/alerts").body = .text text := by
  have hstatus : (bareAnswer "POST" "/v1/alerts/first/resolve").status ≠ 200 := by
    decide +kernel
  refine ⟨hstatus, ?_, ?_⟩
  · have hresolve : Route.interface[2] ∈ Route.interface := List.getElem_mem _
    have hparts : Route.pathParts? "/v1/alerts/first/resolve" =
        some ["v1", "alerts", "first", "resolve"] := by decide
    refine (refusals_enveloped _ _ _ _ _ _ hresolve hparts rfl rfl).1 ?_ hstatus
    rintro ⟨htext, _⟩
    cases htext
  · have halerts : Route.interface[1] ∈ Route.interface := List.getElem_mem _
    have hparts : Route.pathParts? "/v1/dossiers/%FF/alerts" =
        some ["v1", "dossiers", "%FF", "alerts"] := by decide
    have hnone : ["%FF"].head?.bind Text.Percent.decode? = none := by decide +kernel
    obtain ⟨hstatus, htext, -⟩ :=
      (refusals_enveloped _ _ _ _ _ (bareRequest "GET" "/v1/dossiers/%FF/alerts") halerts hparts
        rfl rfl).2 ⟨rfl, hnone⟩
    exact ⟨hstatus, htext⟩

/-- The alerts of a dossier are asked for as their route says, and the answer
has neither the status of success nor an envelope. -/
theorem unreadable_id_not_enveloped :
    let alerts : Route :=
      ⟨.get, [.fixed "v1", .fixed "dossiers", .parameter, .fixed "alerts"], .unresolvedAlerts⟩
    alerts ∈ Route.interface ∧
      (Route.pathParts? "/v1/dossiers/%FF/alerts").bind (Route.matchParts? alerts.path) =
        some ["%FF"] ∧
      (bareAnswer alerts.verb.method "/v1/dossiers/%FF/alerts").status ≠ 200 ∧
      ¬ (bareAnswer alerts.verb.method "/v1/dossiers/%FF/alerts").IsEnveloped := by
  intro alerts
  have halerts : alerts ∈ Route.interface :=
    List.getElem_mem (by decide : 1 < Route.interface.length)
  have hparts : Route.pathParts? "/v1/dossiers/%FF/alerts" =
      some ["v1", "dossiers", "%FF", "alerts"] := by decide
  have hnone : ["%FF"].head?.bind Text.Percent.decode? = none := by decide +kernel
  obtain ⟨text, hplain⟩ : ∃ text,
      bareAnswer alerts.verb.method "/v1/dossiers/%FF/alerts" = .plain 400 text := by
    let r := bareRequest alerts.verb.method "/v1/dossiers/%FF/alerts"
    obtain ⟨text, hrespond⟩ := Engine.respond_unreadable (r := r) halerts _ hparts rfl rfl rfl hnone
    exact ⟨text, by rw [bareAnswer, hrespond]; rfl⟩
  rw [hplain]
  refine ⟨halerts, by rw [hparts]; rfl, ?_, Response.not_isEnveloped_plain 400 text⟩
  exact (by decide : (400 : Nat) ≠ 200)

end DossierCompliance
