import EndpointGuard.Audit.Logger
import EndpointGuard.Gate.CallPath
import EndpointGuard.Settings

/-!
# The gate in front of a service

Every request passes the gate before it reaches the service behind it. The gate attaches the caller
to the request, and lets it pass when its path is no endpoint call or when the call is allowed.
`Gate.examine` is the ruling about one request, and `Gate.serveIn` carries it out in front of a
service with effects, `Gate.serve` in front of one without.
-/

namespace EndpointGuard

/-- What a service sees of the caller: the user and the role prefix attached to the request. -/
structure RequestContext where
  user : Option User := none
  rolePrefix : Option RolePrefix := none
deriving DecidableEq

namespace RequestContext

/-- The identity of the caller. -/
def identity (context : RequestContext) : Identity :=
  .ofUser? context.user

/-- The caller holds the role, under the attached prefix or the standard one. -/
def holdsRole (context : RequestContext) (role : String) : Bool :=
  (RoleHolder.ofUser? context.user (context.rolePrefix.getD .standard)).holds role

/-- The user of an authenticated caller; anyone else is refused. -/
def authenticatedUser (context : RequestContext) : Except Refusal User :=
  match context.user with
  | some user => if user.isAnonymous then .error .unauthorized else .ok user
  | none => .error .unauthorized

/-- Attach what the gate knows about the caller. A user stays attached when the gate knows none. -/
def attach (context : RequestContext) (user : Option User) (rolePrefix : RolePrefix) :
    RequestContext where
  user := user.or context.user
  rolePrefix := some rolePrefix

end RequestContext

namespace Checker

/-- Decide about a call for the user attached to a request. -/
def decideRequest (checker : Checker) (target : Target) (context : RequestContext) :
    Decision × List LogRecord :=
  checker.decideFor target context.user

/-- Decide about a type as a whole for the user attached to a request. -/
def decideTypeRequest (checker : Checker) (policy : Policy) (context : RequestContext) :
    Decision × List LogRecord :=
  checker.decideTypeFor policy context.user

end Checker

/-- The ruling about a request. `refusal` is the refusal it is answered with, if any, and `event` is
what the audit trail is told. Records are written before and after the event is published. -/
structure Ruling where
  refusal : Option Refusal
  event : Option SecurityEvent := none
  recordsBefore : List LogRecord := []
  recordsAfter : List LogRecord := []

/-- The registered endpoints behind a configured gate, and the logger of its audit trail, if any. -/
structure Gate where
  registry : Registry
  settings : Settings
  audit : Option AuditLogger := none

/-- What came of a request: the refusal or the answer of the service behind the gate, the store and
the reports that the audit trail left, and the log records written. -/
structure Served (ρ : Type) where
  answer : Except Refusal ρ
  store : EventStore
  reports : List String
  records : List LogRecord

/-- The same outcome with the answer of the service read in another way. -/
def Served.map {ρ σ : Type} (read : ρ → σ) (served : Served ρ) : Served σ :=
  { answer := served.answer.map read
    store := served.store
    reports := served.reports
    records := served.records }

namespace Gate

/-- The checker the gate decides with. -/
def checker (gate : Gate) : Checker :=
  gate.settings.checker

/-- The ruling about a call of something that does not exist. -/
def rejectUnknown (stamp : EventStamp) (identity : Identity)
    (path endpoint method warning : String) : Ruling where
  refusal := some (.endpointNotFound endpoint method)
  event := some <|
    (SecurityEvent.endpointNotFound stamp identity.principal? endpoint method).set (.path path)
  recordsBefore := [⟨.warn, warning, .decisions⟩]

/-- The name of the scope whose policy decides about a target. -/
def decidingScope (target : Target) : String :=
  if target.method.isSpecified then "method" else "declaring_type"

/-- The event of a decided call. -/
def callEvent (stamp : EventStamp) (identity : Identity) (path endpoint method : String)
    (resolved : ResolvedMethod) (decision : Decision) : SecurityEvent :=
  let event :=
    match decision with
    | .allowed => SecurityEvent.accessGranted stamp identity.principal? endpoint method
    | .denied reason => .accessDenied stamp identity.principal? endpoint method reason
  event.setAll [.path path, .detail "declaring_type" resolved.declaringType,
    .detail "scope" (decidingScope resolved.target)]

/-- The ruling about a call of a method that exists. -/
def ruleCall (gate : Gate) (stamp : EventStamp) (user : Option User)
    (path endpoint method : String) (resolved : ResolvedMethod) : Ruling :=
  let identity := Identity.ofUser? user
  let (decision, records) := gate.checker.decideFor resolved.target user
  { refusal := decision.refusal?
    event := some (callEvent stamp identity path endpoint method resolved decision)
    recordsBefore := records
    recordsAfter :=
      match decision with
      | .allowed => []
      | .denied _ =>
        [⟨.debug, "denied " ++ endpoint ++ "." ++ method ++ " to " ++ identity.display,
          .decisions⟩] }

/-- The ruling about a request of a user for a path. -/
def examine (gate : Gate) (stamp : EventStamp) (user : Option User) (path : String) : Ruling :=
  let identity := Identity.ofUser? user
  match CallPath.classify path gate.settings.pathPrefix with
  | .outside => { refusal := none }
  | .malformed endpoint method =>
    rejectUnknown stamp identity path endpoint method ("malformed endpoint call path " ++ path)
  | .call endpoint method =>
    match gate.registry.resolve endpoint method with
    | none =>
      rejectUnknown stamp identity path endpoint method
        ("no endpoint method " ++ endpoint ++ "." ++ method ++ " for " ++ path)
    | some resolved => gate.ruleCall stamp user path endpoint method resolved

/-- What the audit trail does about an event. -/
def publish (gate : Gate) (store : EventStore) (event : Option SecurityEvent) : Publication :=
  match gate.audit, event with
  | some logger, some event => logger.publish store event
  | _, _ => { store := store }

/-- What comes of a request with the given answer once the event of its ruling is published. -/
def outcome {ρ : Type} (gate : Gate) (store : EventStore) (stamp : EventStamp)
    (user : Option User) (path : String) (answer : Except Refusal ρ) : Served ρ :=
  let ruling := gate.examine stamp user path
  let publication := gate.publish store ruling.event
  { answer := answer
    store := publication.store
    reports := publication.reports
    records := ruling.recordsBefore ++ publication.records ++ ruling.recordsAfter }

/-- Carry out the ruling about a request: publish its event, and refuse it or hand it to the service
with the caller attached. The service is a computation with effects of its own. -/
def serveIn {m : Type → Type} [Monad m] {ρ : Type} (gate : Gate) (store : EventStore)
    (stamp : EventStamp) (user : Option User) (path : String) (context : RequestContext)
    (service : RequestContext → m ρ) : m (Served ρ) :=
  match (gate.examine stamp user path).refusal with
  | some refusal => pure (gate.outcome store stamp user path (.error refusal))
  | none => do
    let reply ← service (context.attach user gate.checker.rolePrefix)
    pure (gate.outcome store stamp user path (.ok reply))

/-- Carry out the ruling about a request in front of a service without effects. -/
def serve {ρ : Type} (gate : Gate) (store : EventStore) (stamp : EventStamp) (user : Option User)
    (path : String) (context : RequestContext) (service : RequestContext → ρ) : Served ρ :=
  Id.run (gate.serveIn store stamp user path context fun context ↦ pure (service context))

end Gate

end EndpointGuard
