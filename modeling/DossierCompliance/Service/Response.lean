import DossierCompliance.Engine.Transition
import DossierCompliance.Service.Request

/-!
Responses of the service. A request that cannot be served is refused with a
status and an envelope that holds a code and a message. What goes wrong inside
the service is not told.
-/

namespace DossierCompliance

inductive Response.Body where
  | none
  | text (text : String)
  | json (value : Json)

structure Response where
  status : Nat
  body : Response.Body

inductive InvalidRequest where
  /-- A text that does not name what it should. -/
  | name (complaint : String)
  | blank (field : String)
  | roleWithoutActor
  | zeroLimit

def InvalidRequest.message : InvalidRequest → String
  | .name complaint => complaint
  | .blank field => field ++ " must not be empty"
  | .roleWithoutActor => "actor_role requires actor_id"
  | .zeroLimit => "limit must be at least 1"

inductive Refusal where
  | unreadable (why : Unreadable)
  | invalid (why : InvalidRequest)
  | engine (why : EngineError)

namespace Refusal

def status : Refusal → Nat
  | .unreadable _ => 400
  | .invalid _ => 422
  | .engine (.store _) => 500
  | .engine _ => 404

def code : Refusal → String
  | .unreadable _ => "BAD_REQUEST"
  | .invalid _ => "VALIDATION_ERROR"
  | .engine (.store _) => "INTERNAL_ERROR"
  | .engine _ => "NOT_FOUND"

def message : Refusal → String
  | .unreadable why => "bad request: " ++ why.message
  | .invalid why => "validation error: " ++ why.message
  | .engine (.store _) => "An internal error occurred"
  | .engine why => "not found: " ++ why.message

def envelope (r : Refusal) : Json :=
  .ofMembers [("error", .ofMembers [("code", .string r.code), ("message", .string r.message)])]

def response (r : Refusal) : Response where
  status := r.status
  body := .json r.envelope

end Refusal

namespace Response

def ok (value : Json) : Response where
  status := 200
  body := .json value

def plain (status : Nat) (text : String) : Response where
  status := status
  body := .text text

def empty (status : Nat) : Response where
  status := status
  body := .none

/-- What is served, or the refusal to serve it. -/
def ofOutcome : Except Refusal Json → Response
  | .ok value => ok value
  | .error why => why.response

end Response

end DossierCompliance
