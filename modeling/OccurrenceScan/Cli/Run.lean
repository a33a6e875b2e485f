import OccurrenceScan.Cli.Args
import OccurrenceScan.Cli.Result
import OccurrenceScan.Config.Load
import OccurrenceScan.Index.Read
import OccurrenceScan.Report

namespace OccurrenceScan

/-!
# Running the command

A scan runs in stages and stops at the first that fails: load the settings, build the suffix
set, read the index (the bindings check first), open the output file, write the report. Each
setting comes from the command line when it is given there, else from the settings when they
have it, else from its default. The output file is opened, and so created or emptied, only after
the index was read, so a run that fails earlier leaves the files as they were. Lines written
before a malformed range stay written.
-/

/-- The version the command reports. -/
def version : String := "0.1.0"

/-- The name the scan command logs under. -/
def commandSource : String := "symscan.cli.commands.scan"

/-- The name the scan logs under. -/
def scanSource : String := "symscan.extract.scip_audit"

/-- The failure of opening the output file. -/
def outputFailure (e : AccessError) (path : FsPath) : Failure :=
  match e with
  | .os _ => .system (e.describe path)
  | .embeddedNull => .invalid e.reason

/-- What a finished run leaves: its exit code and its two output streams; a refused command line
leaves only its reason. -/
inductive RunOutcome where
  | refused (e : ArgsError)
  | finished (exitCode : Int) (stdout stderr : String)
  deriving DecidableEq, Repr

/-- Runs a scan: the log notes in order, what went to the standard output, and the result. -/
def scanCommand {m : Type → Type} [Monad m] [FileSystem m] (opts : ScanOptions) :
    m (List Note × String × CommandResult) := do
  let (loaded, settings) ← Settings.load opts.configFile none
  let notes := loaded.map Note.log
  match settings with
  | .error (.invalid msg) => return (notes, "", .ofFailure (.config msg))
  | .error f@(.system ..) => return (notes, "", .ofFailure (.system f.message))
  | .ok cfg =>
    let spec : ScanSpec :=
      ⟨(opts.document <|> cfg.document).getD ScanSpec.defaultDocument,
        (opts.symbolSuffixes <|> cfg.symbolSuffixes).getD ScanSpec.defaultSuffixes⟩
    match SuffixSet.ofList spec.suffixes with
    | .error e => return (notes, "", .ofFailure (.invalid e.message))
    | .ok _ =>
      let bindings := (opts.bindingsDir <|> cfg.bindingsDir).map FsPath.parse
      let (readLog, read) ← Index.read opts.indexPath bindings
      let notes := notes ++ readLog.map Note.log
      match read with
      | .error f => return (notes, "", .ofFailure (.ofRead f))
      | .ok ix =>
        let fmt := (opts.outputFormat <|> cfg.outputFormat).getD .text
        let target : Except Failure (Option FsPath) ← match opts.output with
          | none => pure (.ok none)
          | some o =>
            let p := FsPath.parse o
            match ← FileSystem.writeText p "" with
            | .ok () => pure (.ok (some p))
            | .error e => pure (.error (outputFailure e p))
        match target with
        | .error f => return (notes, "", .ofFailure f)
        | .ok target =>
          let found := ix.scan spec
          let notes := match found with
            | .missing => notes ++ [.log ⟨.info, scanSource,
                "No document in the index has relative_path " ++ Literal.quote spec.document⟩]
            | _ => notes
          let report := found.report fmt
          let stdout ← match target with
            | none => pure report.written
            | some p => do
              let _ ← FileSystem.writeText p report.written
              pure ""
          match report.outcome with
          | .error f =>
            let failure : Failure := match f with
              | .malformed mr => .malformedRange mr
              | .suffixes e => .invalid e.message
            return (notes, stdout, .ofFailure failure)
          | .ok n =>
            let reported : LogRecord := ⟨.debug, commandSource,
              "Reported " ++ Nat.repr n ++ " matching occurrences in " ++ spec.document⟩
            return (notes ++ [.log reported], stdout,
              { exitCode := 0, metrics := [("matches", n)] })

/-- Runs the command on a command line, with the log level the environment sets, if any. -/
def runCommand {m : Type → Type} [Monad m] [FileSystem m] (args : List String)
    (environmentLevel : Option String) : m RunOutcome := do
  match Invocation.parse args environmentLevel with
  | .error e => return .refused e
  | .ok .version => return .finished 0 (version ++ "\n") ""
  | .ok .help => return .finished 0 (usage ++ "\n") ""
  | .ok (.scan opts level) =>
    let (notes, stdout, result) ← scanCommand opts
    let (code, reported) := (CommandReturn.result result).finish
    return .finished code stdout (showNotes (some level) (notes ++ reported))
where
  /-- The usage line. -/
  usage : String :=
    "Usage: symscan [INDEX_PATH] [--document D] [--symbol-suffix S]... [--empty-symbol-suffix] " ++
      "[--format text|jsonl] [--output FILE] [--bindings-dir DIR] [--config FILE] " ++
      "[--log-level DEBUG|INFO|WARNING|ERROR]"

end OccurrenceScan
