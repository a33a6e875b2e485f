import OccurrenceScan.Cli.ExitCode
import OccurrenceScan.Log
import OccurrenceScan.Text.Console
import OccurrenceScan.Text.Literal

namespace OccurrenceScan

/-!
# Command results

A command hands back nothing, an exit code, a result, or a value of a type no command should
return. A result carries its exit code, a summary and named counts. Reporting it prints a
non-empty summary to the error stream, prefixed with `error: ` unless the code is zero, then logs
each count at debug level in the order of its name; the process exits with the result's code.
Nothing exits with 0; a stray value is reported and exits with 1.
-/

/-- What a command reports: its exit code, a summary, and named counts. -/
structure CommandResult where
  exitCode : Int
  summary : Option String := none
  metrics : List (String × Nat) := []
  deriving DecidableEq, Repr

namespace CommandResult

/-- Whether the result is a success. -/
def ok (r : CommandResult) : Bool :=
  r.exitCode = 0

/-- The result of a failure: its exit code, and the given summary or else the failure's text. -/
def ofFailure (f : Failure) (summary : Option String := none) : CommandResult :=
  { exitCode := f.exitCode.code
    summary := some (match summary with
      | some s => if s = "" then f.message else s
      | none => f.message) }

end CommandResult

/-- What a command hands back. -/
inductive CommandReturn where
  | nothing
  | code (n : Int)
  | result (r : CommandResult)
  /-- A text, which is no command's return value. -/
  | strayText (s : String)
  deriving DecidableEq, Repr

/-- What a run writes to its error stream, in order: console messages and log records. -/
inductive Note where
  | console (text : String)
  | log (r : LogRecord)
  deriving DecidableEq, Repr

/-- The text of the notes that show at a log threshold; with none, no record shows. -/
def showNotes (threshold : Option LogLevel) (notes : List Note) : String :=
  String.join (notes.map fun n =>
    match n with
    | .console text => text
    | .log r =>
      match threshold with
      | some t => if t.rank ≤ r.level.rank then r.line else ""
      | none => "")

/-- The name result counts are logged under. -/
def resultSource : String := "symscan.cli.result_action"

/-- The log record of one count. -/
def metricRecord (entry : String × Nat) : LogRecord :=
  ⟨.debug, resultSource, "Metric " ++ entry.1 ++ "=" ++ Nat.repr entry.2 ++ ".0"⟩

/-- Orders counts by name. -/
def sortMetrics (metrics : List (String × Nat)) : List (String × Nat) :=
  metrics.mergeSort fun a b => decide (a.1 ≤ b.1)

namespace CommandReturn

/-- Reports what a command handed back: the exit code and what goes to the error stream. -/
def finish : CommandReturn → Int × List Note
  | .nothing => (0, [])
  | .code n => (n, [])
  | .result r =>
    let shown : List Note := match r.summary with
      | some s =>
        if s = "" then [] else [.console (Console.render ((if r.ok then "" else "error: ") ++ s))]
      | none => []
    (r.exitCode, shown ++ (sortMetrics r.metrics).map (Note.log ∘ metricRecord))
  | .strayText s =>
    (1, [.console (Console.render ("Unexpected command return type: str (value: " ++
      Literal.quote s ++ ")"))])

end CommandReturn

end OccurrenceScan
