/-!
# Log records

What the library writes to the log is returned by its functions as a list of records, in the order
of writing. `LogRecord.line` is the text of a record.
-/

namespace EndpointGuard

/-- The levels of log records. -/
inductive LogLevel where
  | trace
  | debug
  | info
  | warn
deriving DecidableEq

/-- The name of a level. -/
def LogLevel.name : LogLevel → String
  | .trace => "TRACE"
  | .debug => "DEBUG"
  | .info => "INFO"
  | .warn => "WARN"

/-- The channel a record is written to: the decisions of the library or the audit trail. -/
inductive LogChannel where
  | decisions
  | audit
deriving DecidableEq

/-- A record of the log. -/
structure LogRecord where
  level : LogLevel
  message : String
  channel : LogChannel := .decisions
deriving DecidableEq

/-- The text of a record: its level, the name of the audit channel if it went there, the message. -/
def LogRecord.line (record : LogRecord) : String :=
  match record.channel with
  | .decisions => record.level.name ++ " " ++ record.message
  | .audit => record.level.name ++ " [endpoint_access::audit] " ++ record.message

end EndpointGuard
