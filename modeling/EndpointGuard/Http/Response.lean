import EndpointGuard.Json

/-!
# Responses

What a client is answered: a status, a content type for bodies that have one, and the body.
-/

namespace EndpointGuard.Http

/-- An answer to a request. -/
structure Response where
  status : Nat
  contentType : Option String
  body : String
deriving DecidableEq

/-- The content type of bodies in JSON. -/
def jsonType : String :=
  "application/json"

/-- A successful answer with a plain body. -/
def Response.plain (body : String) : Response where
  status := 200
  contentType := none
  body := body

/-- An answer in JSON. -/
def Response.json (status : Nat) (value : Json) : Response where
  status := status
  contentType := some jsonType
  body := value.render

/-- The answer where no service is found: no body at all. -/
def Response.nothingHere : Response where
  status := 404
  contentType := none
  body := ""

end EndpointGuard.Http
