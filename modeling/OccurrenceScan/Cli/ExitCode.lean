import OccurrenceScan.Range
import OccurrenceScan.Index.Read

namespace OccurrenceScan

/-!
# Exit codes and failures

A run ends with an exit code. Failures are sorted into the classes that decide it: each of the
index failures and a malformed range has a code of its own, a configuration failure has one, a
refused value has one, and every other failure, of the system or not, is a general error.
-/

/-- The exit codes of the command. -/
inductive ExitCode where
  | success
  | generalError
  | parseError
  | validationError
  | configError
  | missingInput
  | indexReadError
  | indexDecodeError
  | malformedRange
  | bindingsError
  deriving DecidableEq, Repr

namespace ExitCode

/-- The number a process exits with. -/
def code : ExitCode → Nat
  | .success => 0
  | .generalError => 1
  | .parseError => 2
  | .validationError => 3
  | .configError => 4
  | .missingInput => 10
  | .indexReadError => 11
  | .indexDecodeError => 12
  | .malformedRange => 13
  | .bindingsError => 14

/-- The name of an exit code. -/
def name : ExitCode → String
  | .success => "SUCCESS"
  | .generalError => "GENERAL_ERROR"
  | .parseError => "PARSE_ERROR"
  | .validationError => "VALIDATION_ERROR"
  | .configError => "CONFIG_ERROR"
  | .missingInput => "MISSING_INPUT"
  | .indexReadError => "INDEX_READ_ERROR"
  | .indexDecodeError => "INDEX_DECODE_ERROR"
  | .malformedRange => "MALFORMED_RANGE"
  | .bindingsError => "BINDINGS_ERROR"

end ExitCode

/-- How a run failed, sorted by what decides its exit code. -/
inductive Failure where
  /-- No index path was given. -/
  | missingIndex
  /-- The index file could not be read. -/
  | unreadableIndex (message : String)
  /-- The index file holds no index. -/
  | undecodableIndex (message : String)
  /-- A matched occurrence has a malformed range. -/
  | malformedRange (m : MalformedRange)
  /-- Generated bindings could not be loaded. -/
  | bindings (message : String)
  /-- The settings could not be loaded. -/
  | config (message : String)
  /-- A value was refused. -/
  | invalid (message : String)
  /-- The system refused an operation. -/
  | system (message : String)
  /-- Anything else. -/
  | other (message : String)
  deriving DecidableEq, Repr

namespace Failure

/-- The failure of a read of the index. -/
def ofRead (f : ReadFailure) : Failure :=
  match f with
  | .noPath => .missingIndex
  | .noBindings _ => .bindings f.message
  | .system .. => .system f.message
  | .bindingsUnreadable .. => .bindings f.message
  | .bindingsRefused .. => .bindings f.message
  | .bindingsWithoutIndex _ => .bindings f.message
  | .unreadable .. => .unreadableIndex f.message
  | .undecodable .. => .undecodableIndex f.message

/-- The exit code a failure ends a run with. -/
def exitCode : Failure → ExitCode
  | .missingIndex => .missingInput
  | .unreadableIndex _ => .indexReadError
  | .undecodableIndex _ => .indexDecodeError
  | .malformedRange _ => .malformedRange
  | .bindings _ => .bindingsError
  | .config _ => .configError
  | .invalid _ => .validationError
  | .system _ => .generalError
  | .other _ => .generalError

/-- The text of a failure. -/
def message : Failure → String
  | .missingIndex => ReadFailure.noPath.message
  | .unreadableIndex s => s
  | .undecodableIndex s => s
  | .malformedRange m => m.message
  | .bindings s => s
  | .config s => s
  | .invalid s => s
  | .system s => s
  | .other s => s

end Failure

end OccurrenceScan
