import EndpointGuard.Audit.Event

/-!
# The audit trail

Handlers receive the events that are published while the logger is enabled. A handler keeps an event
in the store, writes it to the log, or reports a text about it. Publishing answers what the handlers
did, in the order in which they were added.
-/

namespace EndpointGuard

/-- The events kept in memory. The oldest ones are dropped when there are more than `limit`. -/
structure EventStore where
  events : List SecurityEvent := []
  limit : Nat := 10000

namespace EventStore

/-- Keep one more event. -/
def keep (store : EventStore) (event : SecurityEvent) : EventStore :=
  let events := store.events ++ [event]
  { store with events := events.drop (events.length - store.limit) }

/-- Forget all events. -/
def clear (store : EventStore) : EventStore :=
  { store with events := [] }

/-- The kept events of one kind. -/
def ofKind (store : EventStore) (kind : EventKind) : List SecurityEvent :=
  store.events.filter fun event ↦ event.kind = kind

end EventStore

/-- A receiver of events. `keep` puts an event into the store, `log` writes it to the log if it is
at least as severe as `least`, and `report` answers a text about it. -/
inductive EventHandler where
  | keep
  | log (least : Severity)
  | report (describe : SecurityEvent → String)

/-- What handlers did: the store they left, the texts reported and the log records written. -/
structure Publication where
  store : EventStore
  reports : List String := []
  records : List LogRecord := []

/-- The log record of an event. -/
def SecurityEvent.logRecord (event : SecurityEvent) : LogRecord where
  level := event.severity.logLevel
  message := event.logLine
  channel := .audit

/-- Hand an event to a handler, after what earlier handlers did. -/
def EventHandler.handle (handler : EventHandler) (event : SecurityEvent) (done : Publication) :
    Publication :=
  match handler with
  | .keep => { done with store := done.store.keep event }
  | .log least =>
    if event.severity.rank < least.rank then done
    else { done with records := done.records ++ [event.logRecord] }
  | .report describe => { done with reports := done.reports ++ [describe event] }

/-- A logger with its handlers in the order in which they were added. -/
structure AuditLogger where
  handlers : List EventHandler := []
  enabled : Bool := true

namespace AuditLogger

/-- A logger whose only handler writes every event to the log. -/
def toLog : AuditLogger where
  handlers := [.log .info]

/-- Add a handler behind the present ones. -/
def withHandler (logger : AuditLogger) (handler : EventHandler) : AuditLogger :=
  { logger with handlers := logger.handlers ++ [handler] }

/-- Switch the logger on or off. -/
def setEnabled (logger : AuditLogger) (enabled : Bool) : AuditLogger :=
  { logger with enabled := enabled }

/-- Hand an event to every handler, unless the logger is switched off. -/
def publish (logger : AuditLogger) (store : EventStore) (event : SecurityEvent) : Publication :=
  if logger.enabled then
    logger.handlers.foldl (fun done handler ↦ handler.handle event done) { store := store }
  else
    { store := store }

end AuditLogger

end EndpointGuard
