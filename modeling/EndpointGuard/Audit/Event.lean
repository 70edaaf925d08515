import EndpointGuard.Json
import EndpointGuard.KeyedList
import EndpointGuard.Registry

/-!
# Security events

What the audit trail records about a request. `SecurityEvent.set` sets one field, `logLine` is the
line an event is logged as, and `toJson` its JSON object. The line lists the details in ascending
order of their keys, whatever the order in which they were entered.
-/

namespace EndpointGuard

/-- The kinds of security events. -/
inductive EventKind where
  | accessGranted
  | accessDenied
  | endpointNotFound
deriving DecidableEq

/-- The name of a kind. -/
def EventKind.name : EventKind → String
  | .accessGranted => "ACCESS_GRANTED"
  | .accessDenied => "ACCESS_DENIED"
  | .endpointNotFound => "ENDPOINT_NOT_FOUND"

/-- How serious an event is. -/
inductive Severity where
  | info
  | warning
  | error
deriving DecidableEq

namespace Severity

/-- The name of a severity. -/
def name : Severity → String
  | .info => "INFO"
  | .warning => "WARNING"
  | .error => "ERROR"

/-- The place of a severity among all, from the least serious on. -/
def rank : Severity → Nat
  | .info => 0
  | .warning => 1
  | .error => 2

/-- The level at which an event of this severity is logged. -/
def logLevel : Severity → LogLevel
  | .info => .info
  | .warning => .warn
  | .error => .warn

end Severity

/-- The severity of an event for which none is set. -/
def EventKind.severity : EventKind → Severity
  | .accessGranted => .info
  | .accessDenied => .error
  | .endpointNotFound => .warning

/-- What tells events apart: an identifier and the time in milliseconds. -/
structure EventStamp where
  id : String
  timestamp : UInt64
deriving DecidableEq

namespace EventStamp

/-- The stamp of an event at a time in microseconds, with a random part. -/
def ofClock (microseconds : Nat) (random : UInt32) : EventStamp where
  id :=
    let random := Text.hexDigits random.toNat
    String.ofList (Text.hexDigits microseconds ++ '-' ::
      (List.replicate (8 - random.length) '0' ++ random))
  timestamp := (microseconds / 1000).toUInt64

/-- A digit of a hexadecimal number in small letters. -/
def isSmallHexDigit (c : Char) : Bool :=
  Text.isHexDigit c && !c.isUpper

/-- The identifier is a hexadecimal number, a dash and eight hexadecimal digits. -/
def isWellFormed (id : String) : Bool :=
  let time := id.toList.takeWhile (· ≠ '-')
  let random := (id.toList.dropWhile (· ≠ '-')).drop 1
  time ≠ [] && time.all isSmallHexDigit && random.length = 8 && random.all isSmallHexDigit

end EventStamp

/-- A security event. -/
structure SecurityEvent where
  stamp : EventStamp
  kind : EventKind
  severity : Severity
  username : Option String := none
  endpoint : Option String := none
  method : Option String := none
  path : Option String := none
  details : KeyedList String String := .empty
  error : Option String := none
deriving DecidableEq

/-- A field of a security event with the value it is set to. -/
inductive EventField where
  | username (value : String)
  | endpoint (value : String)
  | method (value : String)
  | path (value : String)
  | error (value : String)
  | detail (key value : String)
deriving DecidableEq

namespace SecurityEvent

/-- An event of a kind, with no field set. -/
def new (stamp : EventStamp) (kind : EventKind) : SecurityEvent where
  stamp := stamp
  kind := kind
  severity := kind.severity

/-- Set one field in place of the value it had. -/
def set (event : SecurityEvent) : EventField → SecurityEvent
  | .username value => { event with username := some value }
  | .endpoint value => { event with endpoint := some value }
  | .method value => { event with method := some value }
  | .path value => { event with path := some value }
  | .error value => { event with error := some value }
  | .detail key value => { event with details := event.details.insert key value }

/-- Set fields one after the other. -/
def setAll (event : SecurityEvent) (fields : List EventField) : SecurityEvent :=
  fields.foldl set event

/-- An event about a call, with the caller's name if it is known. -/
def ofCall (stamp : EventStamp) (kind : EventKind) (username : Option String)
    (endpoint method : String) : SecurityEvent :=
  { new stamp kind with
    username := username
    endpoint := some endpoint
    method := some method }

/-- The event of a call that was allowed. -/
def accessGranted (stamp : EventStamp) (username : Option String) (endpoint method : String) :
    SecurityEvent :=
  ofCall stamp .accessGranted username endpoint method

/-- The event of a call that was denied for a reason. -/
def accessDenied (stamp : EventStamp) (username : Option String)
    (endpoint method reason : String) : SecurityEvent :=
  (ofCall stamp .accessDenied username endpoint method).set (.error reason)

/-- The event of a call of something that does not exist. -/
def endpointNotFound (stamp : EventStamp) (username : Option String) (endpoint method : String) :
    SecurityEvent :=
  ofCall stamp .endpointNotFound username endpoint method

/-- The details in ascending order of their keys. -/
def sortedDetails (event : SecurityEvent) : List (String × String) :=
  event.details.entries.mergeSort fun a b ↦ a.1 ≤ b.1

/-- The parts of the line an event is logged as. -/
def logParts (event : SecurityEvent) : List String :=
  ["[" ++ event.severity.name ++ "]", "[" ++ event.kind.name ++ "]",
    "user=" ++ event.username.getD "<anonymous>"] ++
  (match event.endpoint, event.method with
    | some endpoint, some method => ["target=" ++ endpoint ++ "." ++ method]
    | _, _ => []) ++
  (event.path.map fun path ↦ "path=" ++ path).toList ++
  (event.error.map fun error ↦ "error=\"" ++ error ++ "\"").toList ++
  event.sortedDetails.map fun (key, value) ↦ key ++ "=" ++ value

/-- The line an event is logged as. -/
def logLine (event : SecurityEvent) : String :=
  " ".intercalate event.logParts

/-- The JSON object of an event, with null for what is not set. -/
def toJson (event : SecurityEvent) : Json :=
  .object [
    ("id", .string event.stamp.id),
    ("timestamp", .whole event.stamp.timestamp.toNat),
    ("event_type", .string event.kind.name),
    ("severity", .string event.severity.name),
    ("username", .ofText? event.username),
    ("endpoint", .ofText? event.endpoint),
    ("method", .ofText? event.method),
    ("path", .ofText? event.path),
    ("details", .object (event.details.entries.map fun (key, value) ↦ (key, .string value))),
    ("error", .ofText? event.error)]

end SecurityEvent

end EndpointGuard
