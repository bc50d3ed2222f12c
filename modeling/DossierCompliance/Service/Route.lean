import DossierCompliance.Service.Description
import DossierCompliance.Service.Serving

/-!
Routes of the service: which place a method and a path lead to. A path without
a route is not found, and a route whose method is another one is not allowed;
neither answer has a body. Where reading is allowed a request for the head
alone is answered without the body.
-/

namespace DossierCompliance

/-- A part of the path of a route: a fixed text, or a place for any text. -/
inductive PathPart where
  | fixed (text : String)
  | parameter
  deriving DecidableEq

inductive Verb where
  | get
  | post
  deriving DecidableEq

inductive Endpoint where
  | liveness
  | readiness
  | description
  | validateTransition
  | unresolvedAlerts
  | resolveAlert
  | auditTrail
  | verifyAudit
  | validateSite
  | validateOrganization
  | listRules
  deriving DecidableEq

structure Route where
  verb : Verb
  path : List PathPart
  endpoint : Endpoint

namespace Route

open PathPart

def health : List Route :=
  [⟨.get, [fixed "health", fixed "liveness"], .liveness⟩,
   ⟨.get, [fixed "health", fixed "readiness"], .readiness⟩]

/-- The routes of the interface proper. -/
def interface : List Route :=
  [⟨.post, [fixed "v1", fixed "dossiers", parameter, fixed "transitions", fixed "validate"],
     .validateTransition⟩,
   ⟨.get, [fixed "v1", fixed "dossiers", parameter, fixed "alerts"], .unresolvedAlerts⟩,
   ⟨.post, [fixed "v1", fixed "alerts", parameter, fixed "resolve"], .resolveAlert⟩,
   ⟨.get, [fixed "v1", fixed "dossiers", parameter, fixed "audit"], .auditTrail⟩,
   ⟨.get, [fixed "v1", fixed "audit", fixed "verify"], .verifyAudit⟩,
   ⟨.post, [fixed "v1", fixed "tenants", parameter, fixed "sites", fixed "validate"],
     .validateSite⟩,
   ⟨.post, [fixed "v1", fixed "organizations", fixed "validate"], .validateOrganization⟩,
   ⟨.get, [fixed "v1", fixed "rules"], .listRules⟩]

def all : List Route :=
  health ++ interface ++ [⟨.get, [fixed "openapi.json"], .description⟩]

/-- The texts in the places of a route, still encoded, if a path has its form. -/
def matchParts? : List PathPart → List String → Option (List String)
  | [], [] => some []
  | fixed text :: rest, part :: parts => if part == text then matchParts? rest parts else none
  | parameter :: rest, part :: parts => (matchParts? rest parts).map (part :: ·)
  | _, _ => none

def pathParts? (path : String) : Option (List String) :=
  match path.toList with
  | '/' :: rest => some ((Text.splitChars '/' rest).map String.ofList)
  | _ => none

/-- The first route that a path leads to, with the texts in its places. -/
def find? (path : String) : Option (Route × List String) :=
  (pathParts? path).bind fun parts =>
    all.findSome? fun route => (matchParts? route.path parts).map fun texts => (route, texts)

/-- Whether a route serves a method, and whether only for the head. -/
def serves? (verb : Verb) (method : String) : Option Bool :=
  match verb, method with
  | .get, "GET" | .post, "POST" => some false
  | .get, "HEAD" => some true
  | _, _ => none

end Route

namespace Endpoint

def serve (serving : Serving) : Program Response :=
  return .ofOutcome (← serving)

/-- Answers a request whose path holds a text that has to be readable. -/
def withText (parameter : Option String) (f : String → Serving) : Program Response :=
  match parameter with
  | some text => serve (f text)
  | none => return .plain 400 Unreadable.path.message

def probe : Program Response := do
  match ← Program.store .ping with
  | .ok () => return .plain 200 "ready"
  | .error _ => return .plain 503 "database unavailable"

/-- Answers a request. `parameter` is the text in the path, if it can be read. -/
def respond (e : Engine) (parameter : Option String) (r : Request) : Endpoint → Program Response
  | liveness => return .plain 200 "ok"
  | readiness => probe
  | description => return .ok ServiceDescription.standard.toJson
  | validateTransition => withText parameter fun id => Serving.validateTransition e id r
  | unresolvedAlerts => withText parameter Serving.unresolvedAlerts
  | resolveAlert => serve (Serving.resolveAlert parameter r)
  | auditTrail => withText parameter Serving.auditTrail
  | verifyAudit => serve (Serving.verifyAudit r)
  | validateSite => withText parameter fun id => Serving.validateSite id r
  | validateOrganization => serve (Serving.validateOrganization r)
  | listRules => serve (Serving.listRules e.rules r)

end Endpoint

def Engine.respond (e : Engine) (r : Request) : Program Response := do
  match Route.find? r.path with
  | none => return .empty 404
  | some (route, texts) =>
    match Route.serves? route.verb r.method with
    | none => return .empty 405
    | some headOnly =>
      let response ← route.endpoint.respond e (texts.head?.bind Text.Percent.decode?) r
      return if headOnly then .empty response.status else response

end DossierCompliance
