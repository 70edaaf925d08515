import EndpointGuard.Http.Response
import EndpointGuard.Json

/-!
# Decisions and refusals

The outcome of an access check, and the errors that a client is answered. A denied decision turns
into a refusal with the same message; `Refusal.response` is the answer of each refusal.
-/

namespace EndpointGuard

/-- An error that a request is refused with. -/
inductive Refusal where
  | accessDenied (message : String)
  | endpointNotFound (endpoint method : String)
  | unauthorized
deriving DecidableEq

namespace Refusal

/-- The text of a refusal. -/
def message : Refusal → String
  | .accessDenied message => message
  | .endpointNotFound endpoint method =>
    "Endpoint '" ++ endpoint ++ "' or method '" ++ method ++ "' is not found"
  | .unauthorized => "unauthorized"

/-- The status a refusal is answered with. -/
def status : Refusal → Nat
  | .accessDenied _ => 401
  | .endpointNotFound _ _ => 404
  | .unauthorized => 401

/-- The answer of a refusal: its text as the one member of a JSON object. -/
def response (refusal : Refusal) : Http.Response :=
  .json refusal.status (.object [("message", .string refusal.message)])

end Refusal

/-- The outcome of an access check. -/
inductive Decision where
  | allowed
  | denied (message : String)
deriving DecidableEq

namespace Decision

/-- The caller may go on. -/
def isAllowed : Decision → Bool
  | .allowed => true
  | .denied _ => false

/-- The reason of a denial. -/
def message? : Decision → Option String
  | .allowed => none
  | .denied message => some message

/-- The refusal a denial turns into. -/
def refusal? : Decision → Option Refusal
  | .allowed => none
  | .denied message => some (.accessDenied message)

/-- The text of a decision. -/
def display : Decision → String
  | .allowed => "allowed"
  | .denied message => "denied (" ++ message ++ ")"

end Decision

end EndpointGuard
