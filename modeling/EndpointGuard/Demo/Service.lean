import EndpointGuard.Demo.OrderDesk
import EndpointGuard.Gate
import EndpointGuard.Http.MediaType
import EndpointGuard.Http.Request
import EndpointGuard.Http.Route
import EndpointGuard.Json.Reader

/-!
# The demo service

The order desk as an endpoint behind the gate. Callers present a bearer token, and `callMethod`
carries out a call that the gate has let pass. `serve` answers a request and tells what became of
the orders. The module that declares the types of the demo and the router are parameters; they come
last and have standard values.

A request body is a text of any length. The limit that a web framework sets to a body in JSON, above
which a call has no parameters, is left out.
-/

namespace EndpointGuard.Demo

open EndpointGuard.Http (Request Response Route Router dispatch)

/-- The module that declares the types of the demo. -/
def ownModule : String :=
  "endpoint_access_test::endpoints"

/-- The type whose methods every demo endpoint inherits. -/
def statusType (home : String) : TypeDefinition where
  own := {
    typeName := home ++ "::StatusService"
    simpleName := "StatusService"
    methods := [⟨"version", .ofMarkers [.anonymousAllowed]⟩, ⟨"internals", .ofMarkers []⟩] }

/-- The order desk as an endpoint. -/
def orderType (home : String) : TypeDefinition where
  own := {
    typeName := home ++ "::OrderEndpoint"
    simpleName := "OrderEndpoint"
    givenName := some "orders"
    isEndpoint := true
    policy := .ofMarkers [.permitAll]
    methods := [⟨"count", .ofMarkers [.anonymousAllowed]⟩, ⟨"list", .ofMarkers []⟩,
      ⟨"place", .ofMarkers []⟩, ⟨"cancel", .ofMarkers [.rolesAllowed ["ADMIN"]]⟩] }
  ancestors := (statusType home).chain

/-- The registry of the demo. -/
def registry (home : String := ownModule) : Registry :=
  Registry.empty.add (orderType home)

/-- The users by their tokens. -/
def tokens : KeyedList String User :=
  .ofList [
    ("admin-token", (User.named "admin").grantRoles ["ADMIN", "USER"]),
    ("user-token", (User.named "user").grantRoles ["USER"])]

/-- The user whose token a request presents. -/
def bearer (request : Request) : Option User := do
  let value ← request.header? "Authorization"
  let token ← stripStart? "Bearer " value
  tokens.get? (Text.trim token)

/-- The parameters of a call: its body, if that is announced as JSON and can be read. -/
def parameters (request : Request) : Json :=
  match request.header? "Content-Type" with
  | some contentType =>
    if Http.isJson contentType then
      match Json.read request.body with
      | .ok value => value
      | .error _ => .null
    else
      .null
  | none => .null

/-- An order in JSON. -/
def Order.toJson (order : Order) : Json :=
  .object [("id", .whole order.id), ("item", .string order.item), ("owner", .string order.owner)]

/-- A method that the service carries out. -/
inductive Method where
  | version
  | internals
  | count
  | list
  | place
  | cancel
deriving DecidableEq

/-- The method that a call names. -/
def Method.ofCall? (endpoint method : String) : Option Method :=
  if Text.lowerCase endpoint = "orders" then
    match Text.lowerCase method with
    | "version" => some .version
    | "internals" => some .internals
    | "count" => some .count
    | "list" => some .list
    | "place" => some .place
    | "cancel" => some .cancel
    | _ => none
  else
    none

/-- Carry out a method with its parameters for the attached user. -/
def Method.run (desk : OrderDesk) (context : RequestContext) (parameters : Json) :
    Method → Response × OrderDesk
  | .version => (.json 200 (.string "0.1.0"), desk)
  | .internals => (.json 200 (.string "not reachable"), desk)
  | .count => (.json 200 (.whole desk.count), desk)
  | .list => (.json 200 (.array (desk.orders.map Order.toJson)), desk)
  | .place =>
    let owner := (context.user.map User.username).getD ""
    let item :=
      match parameters.member "item" with
      | .string item => item
      | _ => "unnamed"
    let (order, desk) := desk.place owner item
    (.json 200 order.toJson, desk)
  | .cancel =>
    match parameters.member "id" with
    | .whole id =>
      let (cancelled, desk) := desk.cancel id
      (.json 200 (.bool cancelled), desk)
    | _ => (.json 400 (.object [("message", .string "missing order id")]), desk)

/-- Carry out a call of an endpoint and a method, the first two texts that a request hands over. -/
def callMethod (desk : OrderDesk) (context : RequestContext) (request : Request) :
    List String → Response × OrderDesk
  | endpoint :: method :: _ =>
    match Method.ofCall? endpoint method with
    | some method => method.run desk context (parameters request)
    | none => (.nothingHere, desk)
  | _ => (.nothingHere, desk)

/-- The route of the calls. -/
def callRoutes (settings : Settings) (desk : OrderDesk) (context : RequestContext)
    (request : Request) : List (Route (Response × OrderDesk)) :=
  [Http.callRoute settings.pathPrefix (callMethod desk context request)]

/-- The gate of the demo. -/
def gate (settings : Settings) (home : String := ownModule) : Gate where
  registry := registry home
  settings := settings
  audit := some .toLog

/-- What came of a request: the answer, the orders after it, and the log records written. -/
structure Handled where
  response : Response
  desk : OrderDesk
  records : List LogRecord

/-- Serve a request. -/
def serve (settings : Settings) (stamp : EventStamp) (desk : OrderDesk) (request : Request)
    (home : String := ownModule) (router : Router := .standard) : Handled :=
  let served := (gate settings home).serve {} stamp (bearer request) request.path {} fun context ↦
    dispatch router (callRoutes settings desk context request) (.nothingHere, desk) request.method
      request.path
  match served.answer with
  | .ok (response, desk) => ⟨response, desk, served.records⟩
  | .error refusal => ⟨refusal.response, desk, served.records⟩

end EndpointGuard.Demo
