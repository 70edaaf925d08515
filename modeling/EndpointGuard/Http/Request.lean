import EndpointGuard.Http.Uri
import EndpointGuard.Text.LowerCase

/-!
# Requests

What a service sees of a request. A header is looked up without regard to the case of its name, and
the first of several values counts.
-/

namespace EndpointGuard.Http

/-- A request with its decoded path. -/
structure Request where
  method : String
  path : String
  headers : List (String × String) := []
  body : String := ""

/-- Two header names are the same name. -/
def sameHeader (left right : String) : Bool :=
  left.toList.map Text.lowerAscii = right.toList.map Text.lowerAscii

/-- The character may stand in a header value that is read as a text. -/
def isReadable (c : Char) : Bool :=
  c = '\t' || (0x20 ≤ c.toNat && c.toNat < 0x7f)

/-- The first value of a header, if it can be read as a text. -/
def Request.header? (request : Request) (name : String) : Option String :=
  match request.headers.find? fun header ↦ sameHeader header.1 name with
  | some (_, value) => if value.toList.all isReadable then some value else none
  | none => none

end EndpointGuard.Http
