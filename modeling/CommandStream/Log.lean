/-!
# Log entries

What a run reports, in order.
-/

namespace CommandStream

/-- Severities. -/
inductive Severity where
  | debug
  | info
  | warning
  | error
  deriving DecidableEq

namespace Severity

/-- The label of a severity. -/
def label : Severity → String
  | debug => "DEBUG"
  | info => "INFO"
  | warning => "WARNING"
  | error => "ERROR"

end Severity

/-- A reported message. -/
structure LogEntry where
  severity : Severity
  source : String
  message : String
  deriving DecidableEq

/-- Messages in order. -/
abbrev Log := List LogEntry

namespace LogEntry

/-- The line of an entry. -/
def line (entry : LogEntry) : String :=
  entry.severity.label ++ ": " ++ entry.source ++ ": " ++ entry.message

end LogEntry

end CommandStream
