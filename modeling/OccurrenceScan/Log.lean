namespace OccurrenceScan

/-!
# Log records

A run reports its progress as log records: a level, the name of the part that speaks and a
message. A record is shown when its level is at least the threshold of the run, as
`LEVEL: name: message` on a line of its own.
-/

/-- How much a log record matters, least first. -/
inductive LogLevel where
  | debug
  | info
  | warning
  | error
  deriving DecidableEq, Repr

namespace LogLevel

/-- The rank of a level: a record shows when its rank is at least the threshold's. -/
def rank : LogLevel → Nat
  | .debug => 10
  | .info => 20
  | .warning => 30
  | .error => 40

/-- The name a level is shown and chosen with. -/
def name : LogLevel → String
  | .debug => "DEBUG"
  | .info => "INFO"
  | .warning => "WARNING"
  | .error => "ERROR"

/-- The level with a given name; names are matched exactly. -/
def ofName? (s : String) : Option LogLevel :=
  [LogLevel.debug, .info, .warning, .error].find? (·.name = s)

end LogLevel

/-- One log record. -/
structure LogRecord where
  level : LogLevel
  source : String
  message : String
  deriving DecidableEq, Repr

namespace LogRecord

/-- The line a record is shown as, its line feed included. -/
def line (r : LogRecord) : String :=
  r.level.name ++ ": " ++ r.source ++ ": " ++ r.message ++ "\n"

end LogRecord

/-- The lines of the records that reach a threshold, in order. -/
def showLog (threshold : LogLevel) (records : List LogRecord) : String :=
  String.join ((records.filter fun r => threshold.rank ≤ r.level.rank).map LogRecord.line)

end OccurrenceScan
