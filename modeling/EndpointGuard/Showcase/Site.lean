import EndpointGuard.Gate
import EndpointGuard.Http.Request
import EndpointGuard.Http.Route
import EndpointGuard.Showcase.Endpoints

/-!
# The sites of the showcase

Services behind the gate that answer what they see of a request. Callers name themselves in headers.
The site `callSite` dispatches calls and answers questions about the caller, and `openSite` answers
every path under the standard one, so that the gate alone keeps requests out. Both take the router
that reads the patterns of their routes. `Site.reach` tells what a request reaches behind the gate,
and `Site.serve` how it is answered.
-/

namespace EndpointGuard.Showcase

open EndpointGuard.Http (Request Response Route Router dispatch callRoute)

/-- The items of a list in a header: separated by commas, without blanks around them. -/
def headerList (request : Request) (name : String) : List String :=
  match request.header? name with
  | none => []
  | some value =>
    (value.toList.splitOn ',').map (String.ofList ∘ Text.trimChars) |>.filter (· ≠ "")

/-- The user that the headers of a request name. -/
def headerUser (request : Request) : Option User :=
  (request.header? "X-User").map fun username ↦
    ((User.named username).grantRoles (headerList request "X-Roles")).grantAuthorities
      (headerList request "X-Authorities")

/-- What a request reaches behind the gate: the handler of calls, with the texts handed to it, or a
page. -/
inductive Reached where
  | call (handed : List String)
  | page (response : Response)
deriving DecidableEq

/-- The answer of what was reached. The handler of calls names the endpoint and the method that it
is handed first. -/
def Reached.response : Reached → Response
  | .call (endpoint :: method :: _) =>
    .json 200 (.object [("endpoint", .string endpoint), ("method", .string method)])
  | .call _ => .nothingHere
  | .page response => response

/-- Names the authenticated caller. -/
def whoAmI (context : RequestContext) : Response :=
  match context.authenticatedUser with
  | .ok user => .plain user.username
  | .error refusal => refusal.response

/-- Tells whether the caller holds the role. -/
def hasRole (context : RequestContext) : List String → Response
  | [role] => .json 200 (.bool (context.holdsRole role))
  | _ => .nothingHere

/-- The route of a page that is read. -/
def pageRoute (pattern : String) (answer : List String → Response) : Route Reached where
  method := some "GET"
  pattern := pattern
  answer := fun found ↦ .page (answer found)

/-- The route that tells that the site is up. -/
def healthRoute : Route Reached :=
  pageRoute "/health" fun _ ↦ .plain "up"

/-- The pages of the site that dispatches calls. -/
def pageRoutes (context : RequestContext) : List (Route Reached) :=
  [pageRoute "/whoami" fun _ ↦ whoAmI context,
    healthRoute,
    pageRoute "/has-role/\x7brole\x7d" (hasRole context)]

/-- The routes of the site that dispatches calls. -/
def callRoutes (settings : Settings) (context : RequestContext) : List (Route Reached) :=
  callRoute settings.pathPrefix .call :: pageRoutes context

/-- The routes of the site that answers everything under the standard path. -/
def openRoutes : List (Route Reached) := [
  { method := none
    pattern := "/connect/\x7btail:.*\x7d"
    answer := fun _ ↦ .page (.plain "reached") },
  healthRoute]

/-- A site: a gate, the routes behind it and the router that reads them. -/
structure Site where
  gate : Gate
  routes : RequestContext → List (Route Reached)
  router : Router

/-- The site that dispatches calls, under given settings and with an optional audit trail. -/
def callSite (home : String) (settings : Settings) (audit : Option AuditLogger)
    (router : Router := .standard) : Site where
  gate := ⟨registry home, settings, audit⟩
  routes := callRoutes settings
  router := router

/-- The site that answers everything under the standard path. -/
def openSite (home : String) (router : Router := .standard) : Site where
  gate := ⟨registry home, .standard, none⟩
  routes := fun _ ↦ openRoutes
  router := router

/-- Hand a request whose caller is named by its headers to what it reaches behind the gate. -/
def Site.reach (site : Site) (store : EventStore) (stamp : EventStamp) (request : Request) :
    Served Reached :=
  site.gate.serve store stamp (headerUser request) request.path {} fun context ↦
    dispatch site.router (site.routes context) (.page .nothingHere) request.method request.path

/-- Serve a request whose caller is named by its headers. -/
def Site.serve (site : Site) (store : EventStore) (stamp : EventStamp) (request : Request) :
    Served Response :=
  (site.reach store stamp request).map Reached.response

end EndpointGuard.Showcase
