import OccurrenceScan.Cli.Run
import OccurrenceScan.Proofs.FileWrites
import OccurrenceScan.Proofs.ReadOnlyRuns

/-!
# The stages of a scan

A scan runs in stages and stops at the first that fails: load the settings, make a suffix set of
the chosen suffixes, read the index, open the output file, write the report. `ScanEnd` says, stage
by stage, how a run on a workspace may end: the stage that stopped it, the exit code and text of
its failure, what went to the standard output, and the workspace it leaves.

* Each setting is the command line's when given there, else the settings file's when it has the
  key (an empty text or list included), else the default (`ScanOptions.scanSpec`,
  `ScanOptions.bindingsIn`, `ScanOptions.formatIn`).
* A failure's exit code is that of its kind (`LoadFailure.exitCode`, `ReadFailure.exitCode`,
  `AccessError.exitCode`): a configuration error exits with 4, a refused suffix list with 3, no
  index path with 10, bindings that cannot be loaded with 14, an unreadable index with 11, an
  undecodable one with 12, a malformed range with 13. When the system cannot say whether a path
  exists, the run exits with 1, in whichever stage; an output file the system refuses exits with 1,
  and one whose path holds a NUL character is a refused value and exits with 3
  (`scan_nulOutput_exitsInvalid`).
* Every stage before the report only reads, so a run that stops there writes nothing to the
  standard output and leaves the workspace as it was, an output file included.
* The report goes to the standard output, or to the output file, which then holds exactly the
  report: emptying it first leaves no trace (`Workspace.writeBytes_writeBytes`).
* A failed run prints its failure's text, never empty, after `error: `.

Main statement: `scanRun_stages`.
-/

namespace OccurrenceScan

open Workspace

/-! ### Exit codes by kind of failure -/

namespace LoadFailure

/-- The exit code of a run whose settings do not load: a configuration error, or a general error
when the system could not say whether a path exists. -/
def exitCode : LoadFailure → Int
  | .invalid _ => 4
  | .system .. => 1

end LoadFailure

namespace ReadFailure

/-- The exit code of a run whose index cannot be read. -/
def exitCode : ReadFailure → Int
  | .noPath => 10
  | .noBindings _ => 14
  | .system .. => 1
  | .bindingsUnreadable .. => 14
  | .bindingsRefused .. => 14
  | .bindingsWithoutIndex _ => 14
  | .unreadable .. => 11
  | .undecodable .. => 12

end ReadFailure

namespace AccessError

/-- The exit code of a run whose output file cannot be opened: a general error when the system
refuses the path, a refused value when it holds a NUL character. -/
def exitCode : AccessError → Int
  | .os _ => 1
  | .embeddedNull => 3

end AccessError

/-! Every failure has a text: each starts with words of its own. -/

theorem AccessError.describe_ne_empty (e : AccessError) (p : FsPath) : e.describe p ≠ "" := by
  cases e with
  | os e =>
    unfold AccessError.describe AccessError.describeText
    repeat refine append_ne_empty _ ?_
    decide
  | embeddedNull => exact (by decide : "embedded null byte" ≠ "")

theorem ReadFailure.message_ne_empty (f : ReadFailure) : f.message ≠ "" := by
  cases f with
  | system e path => exact AccessError.describe_ne_empty _ _
  | undecodable path reason => exact append_ne_empty _ (append_ne_empty_of_right _ (by decide))
  | _ =>
    unfold ReadFailure.message
    repeat refine append_ne_empty _ ?_
    decide

theorem SuffixError.message_ne_empty (e : SuffixError) : e.message ≠ "" := by
  cases e <;> decide

theorem ReportFailure.message_ne_empty (f : ReportFailure) : f.message ≠ "" := by
  cases f with
  | suffixes e => exact SuffixError.message_ne_empty e
  | malformed m =>
    unfold ReportFailure.message MalformedRange.message
    repeat refine append_ne_empty _ ?_
    decide

/-! ### What each stage sees -/

namespace ScanOptions

/-- The settings a run loads in a workspace. -/
def settingsIn (opts : ScanOptions) (ws : Workspace) : Except LoadFailure Settings :=
  ((Settings.load opts.configFile none : StateM Workspace _).run ws).1.2

/-- The scan a run makes: its document and its suffixes, each from the command line when given
there, else from the settings when they have it, else the default. -/
def scanSpec (opts : ScanOptions) (cfg : Settings) : ScanSpec :=
  ⟨(opts.document.or cfg.document).getD ScanSpec.defaultDocument,
    (opts.symbolSuffixes.or cfg.symbolSuffixes).getD ScanSpec.defaultSuffixes⟩

/-- The directory of generated bindings a run reads with: the command line's, else the
settings', else none. -/
def bindingsIn (opts : ScanOptions) (cfg : Settings) : Option FsPath :=
  (opts.bindingsDir.or cfg.bindingsDir).map FsPath.parse

/-- The format a run reports in: the command line's, else the settings', else text. -/
def formatIn (opts : ScanOptions) (cfg : Settings) : ReportFormat :=
  (opts.outputFormat.or cfg.outputFormat).getD .text

/-- The index a run reads in a workspace. -/
def indexIn (opts : ScanOptions) (cfg : Settings) (ws : Workspace) : Except ReadFailure Index :=
  ((Index.read opts.indexPath (opts.bindingsIn cfg) : StateM Workspace _).run ws).1.2

/-- The report a run writes of an index. -/
def reportIn (opts : ScanOptions) (cfg : Settings) (ix : Index) : Report :=
  (ix.scan (opts.scanSpec cfg)).report (opts.formatIn cfg)

/-- A scan run on a workspace: its log notes, standard output and result, and the workspace it
leaves. -/
def runIn (opts : ScanOptions) (ws : Workspace) :
    (List Note × String × CommandResult) × Workspace :=
  (scanCommand opts : StateM Workspace _).run ws

end ScanOptions

/-- The result of a run that wrote its report: success with the number of matches, or the
failure that stopped the report, with exit code 13. -/
def Report.result (r : Report) : CommandResult :=
  match r.outcome with
  | .ok n => { exitCode := 0, metrics := [("matches", n)] }
  | .error f => { exitCode := 13, summary := some f.message }

/-- Where a report goes: to the standard output, the workspace left as it is, or to the output
file, which is created or emptied and then holds the report. -/
inductive Delivered (output : Option String) (ws : Workspace) (written : String) :
    String → Workspace → Prop
  | printed (ho : output = none) : Delivered output ws written written ws
  | filed {o : String} {ws' : Workspace} (ho : output = some o)
      (hwrite : ws.writeBytes (FsPath.parse o) (Utf8.encode written) = .ok ws') :
      Delivered output ws written "" ws'

/-- How a scan run on a workspace ends, stage by stage: each stage runs only when those before it
passed, and a run stopped before its report prints nothing and leaves the workspace as it was. -/
inductive ScanEnd (opts : ScanOptions) (ws : Workspace) :
    (List Note × String × CommandResult) × Workspace → Prop
  /-- The settings do not load. -/
  | config {notes : List Note} {f : LoadFailure} (hload : opts.settingsIn ws = .error f) :
      ScanEnd opts ws ((notes, "", ⟨f.exitCode, some f.message, []⟩), ws)
  /-- The chosen suffixes make no suffix set. -/
  | suffixes {notes : List Note} {cfg : Settings} {e : SuffixError}
      (hload : opts.settingsIn ws = .ok cfg)
      (hset : SuffixSet.ofList (opts.scanSpec cfg).suffixes = .error e) :
      ScanEnd opts ws ((notes, "", ⟨3, some e.message, []⟩), ws)
  /-- The index cannot be read. -/
  | read {notes : List Note} {cfg : Settings} {set : SuffixSet} {f : ReadFailure}
      (hload : opts.settingsIn ws = .ok cfg)
      (hset : SuffixSet.ofList (opts.scanSpec cfg).suffixes = .ok set)
      (hread : opts.indexIn cfg ws = .error f) :
      ScanEnd opts ws ((notes, "", ⟨f.exitCode, some f.message, []⟩), ws)
  /-- The output file cannot be opened. -/
  | output {notes : List Note} {cfg : Settings} {set : SuffixSet} {ix : Index} {o : String}
      {e : AccessError}
      (hload : opts.settingsIn ws = .ok cfg)
      (hset : SuffixSet.ofList (opts.scanSpec cfg).suffixes = .ok set)
      (hread : opts.indexIn cfg ws = .ok ix) (ho : opts.output = some o)
      (hopen : ws.writeBytes (FsPath.parse o) [] = .error e) :
      ScanEnd opts ws ((notes, "", ⟨e.exitCode, some (e.describe (FsPath.parse o)), []⟩), ws)
  /-- The report is written, whole or up to a malformed range. -/
  | reported {notes : List Note} {cfg : Settings} {set : SuffixSet} {ix : Index} {out : String}
      {ws' : Workspace}
      (hload : opts.settingsIn ws = .ok cfg)
      (hset : SuffixSet.ofList (opts.scanSpec cfg).suffixes = .ok set)
      (hread : opts.indexIn cfg ws = .ok ix)
      (hdel : Delivered opts.output ws (opts.reportIn cfg ix).written out ws') :
      ScanEnd opts ws ((notes, out, (opts.reportIn cfg ix).result), ws')

/-! ### The run follows its stages -/

/-- Writing a text, then going on with what the write answered. -/
theorem run_writeText_bind {β : Type} (p : FsPath) (text : String)
    (k : Except AccessError Unit → StateM Workspace β) (ws : Workspace) :
    (FileSystem.writeText p text >>= k).run ws =
      match ws.writeBytes p (Utf8.encode text) with
      | .ok ws' => (k (.ok ())).run ws'
      | .error e => (k (.error e)).run ws := by
  have hwrite : (FileSystem.writeText p text : StateM Workspace _) = (do
      let ws ← get
      match ws.writeBytes p (Utf8.encode text) with
      | .ok ws' =>
        set ws'
        pure (.ok ())
      | .error e => pure (.error e)) := rfl
  rw [hwrite]
  cases h : ws.writeBytes p (Utf8.encode text) <;> simp [h]

theorem ofFailure_ofRead (f : ReadFailure) :
    CommandResult.ofFailure (.ofRead f) = ⟨f.exitCode, some f.message, []⟩ := by
  cases f <;> rfl

theorem ofFailure_outputFailure (e : AccessError) (p : FsPath) :
    CommandResult.ofFailure (outputFailure e p) = ⟨e.exitCode, some (e.describe p), []⟩ := by
  cases e <;> rfl

/-- A scan whose suffixes make a suffix set is never refused for them. -/
theorem report_outcome_ne_suffixes {spec : ScanSpec} {set : SuffixSet}
    (hset : SuffixSet.ofList spec.suffixes = .ok set) (ix : Index) (fmt : ReportFormat)
    (e : SuffixError) : ((ix.scan spec).report fmt).outcome ≠ .error (.suffixes e) := by
  unfold Index.scan
  rw [hset]
  dsimp only
  split
  · simp [Scan.report]
  · simp only [Scan.report]
    split <;> simp

/-- **Every scan run ends as `ScanEnd` describes.** -/
theorem scanCommand_ends (opts : ScanOptions) (ws : Workspace) :
    ScanEnd opts ws (opts.runIn ws) := by
  unfold ScanOptions.runIn scanCommand
  simp only [Option.orElse_eq_orElse, Option.orElse_eq_or]
  -- the settings: loading them leaves the workspace as it is
  rw [(load_readsOnly _ _).run_bind]
  rcases hl : ((Settings.load opts.configFile none : StateM Workspace _).run ws).1 with
    ⟨loaded, settings⟩
  have hload : opts.settingsIn ws = settings := by simp [ScanOptions.settingsIn, hl]
  dsimp -zeta only
  cases settings with
  | error f =>
    cases f with
    | invalid msg => exact .config hload
    | system e p => exact .config hload
  | ok cfg =>
    -- the suffix set
    dsimp only
    cases hset : SuffixSet.ofList ((opts.symbolSuffixes.or cfg.symbolSuffixes).getD
      ScanSpec.defaultSuffixes) with
    | error e => exact .suffixes hload hset
    | ok set =>
      -- the index: reading it leaves the workspace as it is
      dsimp only
      rw [(read_readsOnly _ _).run_bind]
      rcases hr : ((Index.read opts.indexPath (Option.map FsPath.parse
          (opts.bindingsDir.or cfg.bindingsDir)) : StateM Workspace _).run ws).1 with
        ⟨readLog, read⟩
      have hread : opts.indexIn cfg ws = read := by
        simp [ScanOptions.indexIn, ScanOptions.bindingsIn, hr]
      dsimp only
      cases read with
      | error f =>
        dsimp only
        rw [ofFailure_ofRead]
        exact .read hload hset hread
      | ok ix =>
        dsimp only
        generalize hrep : Scan.report ((opts.outputFormat.or cfg.outputFormat).getD .text)
          (ix.scan ⟨(opts.document.or cfg.document).getD ScanSpec.defaultDocument,
            (opts.symbolSuffixes.or cfg.symbolSuffixes).getD ScanSpec.defaultSuffixes⟩) = report
        have hrep' : opts.reportIn cfg ix = report := hrep
        -- how the report ends the run: with its count, or its malformed range
        have hne : ∀ e, report.outcome ≠ .error (.suffixes e) := by
          rw [← hrep']
          exact @report_outcome_ne_suffixes (opts.scanSpec cfg) set hset ix (opts.formatIn cfg)
        have hok : ∀ n, report.outcome = .ok n →
            ({ exitCode := 0, metrics := [("matches", n)] } : CommandResult) = report.result := by
          intro n hout
          simp only [Report.result, hout]
        have hmal : ∀ m, report.outcome = .error (.malformed m) →
            CommandResult.ofFailure (.malformedRange m) = report.result := by
          intro m hout
          simp only [Report.result, hout]
          rfl
        cases ho : opts.output with
        | none =>
          simp only [pure_bind]
          rcases hout : report.outcome with (e | m) | n <;> dsimp only
          · exact absurd hout (hne e)
          · rw [hmal m hout, ← hrep']
            exact .reported hload hset hread (.printed ho)
          · rw [hok n hout, ← hrep']
            exact .reported hload hset hread (.printed ho)
        | some o =>
          -- the output file is opened, creating or emptying it, then the report written to it
          rw [run_writeText_bind]
          cases hw : ws.writeBytes (FsPath.parse o) (Utf8.encode "") with
          | error e =>
            dsimp only
            simp only [pure_bind]
            rw [ofFailure_outputFailure]
            exact .output hload hset hread ho hw
          | ok ws₁ =>
            dsimp only
            simp only [pure_bind]
            obtain ⟨ws₂, hw₂⟩ := writeBytes_ok_of_ok hw (Utf8.encode report.written)
            rw [run_writeText_bind, writeBytes_writeBytes hw, hw₂]
            dsimp only
            rw [← hrep'] at hw₂
            rcases hout : report.outcome with (e | m) | n <;> dsimp only
            · exact absurd hout (hne e)
            · rw [hmal m hout, ← hrep']
              exact .reported hload hset hread (.filed ho hw₂)
            · rw [hok n hout, ← hrep']
              exact .reported hload hset hread (.filed ho hw₂)

/-! ### Where a run ends

A run that fails at a stage ends as that stage's constructor of `ScanEnd` says, whatever the
notes: these are read off the run's description once, here. -/

/-- A run whose settings do not load ends there: it prints nothing, fails with the load's
failure and leaves the workspace as it was. -/
theorem ScanEnd.of_config_error {opts : ScanOptions} {ws : Workspace}
    {r : (List Note × String × CommandResult) × Workspace} (h : ScanEnd opts ws r)
    {f : LoadFailure} (hload : opts.settingsIn ws = .error f) :
    r.1.2 = ("", ⟨f.exitCode, some f.message, []⟩) ∧ r.2 = ws := by
  cases h with
  | config hload' =>
    rw [hload] at hload'
    cases hload'
    exact ⟨rfl, rfl⟩
  | suffixes hload' | read hload' | output hload' | reported hload' =>
    rw [hload] at hload'
    cases hload'

/-- A run whose settings load, whose suffixes make a set and whose index cannot be read ends at
the read: it prints nothing, fails with the read's failure and leaves the workspace as it was. -/
theorem ScanEnd.of_read_error {opts : ScanOptions} {ws : Workspace}
    {r : (List Note × String × CommandResult) × Workspace} (h : ScanEnd opts ws r)
    {cfg : Settings} {set : SuffixSet} {f : ReadFailure}
    (hload : opts.settingsIn ws = .ok cfg)
    (hset : SuffixSet.ofList (opts.scanSpec cfg).suffixes = .ok set)
    (hread : opts.indexIn cfg ws = .error f) :
    r.1.2 = ("", ⟨f.exitCode, some f.message, []⟩) ∧ r.2 = ws := by
  cases h with
  | config hload' =>
    rw [hload] at hload'
    cases hload'
  | suffixes hload' hset' =>
    rw [hload] at hload'
    cases hload'
    rw [hset] at hset'
    cases hset'
  | read hload' _ hread' =>
    rw [hload] at hload'
    cases hload'
    rw [hread] at hread'
    cases hread'
    exact ⟨rfl, rfl⟩
  | output hload' _ hread' =>
    rw [hload] at hload'
    cases hload'
    rw [hread] at hread'
    cases hread'
  | reported hload' _ hread' =>
    rw [hload] at hload'
    cases hload'
    rw [hread] at hread'
    cases hread'

/-- A run whose index is read and whose output file cannot be opened ends there: it prints
nothing, fails with the refusal and leaves the workspace as it was. -/
theorem ScanEnd.of_output_error {opts : ScanOptions} {ws : Workspace}
    {r : (List Note × String × CommandResult) × Workspace} (h : ScanEnd opts ws r)
    {cfg : Settings} {set : SuffixSet} {ix : Index} {o : String} {e : AccessError}
    (hload : opts.settingsIn ws = .ok cfg)
    (hset : SuffixSet.ofList (opts.scanSpec cfg).suffixes = .ok set)
    (hread : opts.indexIn cfg ws = .ok ix) (ho : opts.output = some o)
    (hopen : ws.writeBytes (FsPath.parse o) [] = .error e) :
    r.1.2 = ("", ⟨e.exitCode, some (e.describe (FsPath.parse o)), []⟩) ∧ r.2 = ws := by
  cases h with
  | config hload' =>
    rw [hload] at hload'
    cases hload'
  | suffixes hload' hset' =>
    rw [hload] at hload'
    cases hload'
    rw [hset] at hset'
    cases hset'
  | read hload' _ hread' =>
    rw [hload] at hload'
    cases hload'
    rw [hread] at hread'
    cases hread'
  | output hload' _ hread' ho' hopen' =>
    rw [hload] at hload'
    cases hload'
    rw [hread] at hread'
    cases hread'
    rw [ho] at ho'
    cases ho'
    rw [hopen] at hopen'
    cases hopen'
    exact ⟨rfl, rfl⟩
  | reported hload' _ hread' hdel =>
    rw [hload] at hload'
    cases hload'
    rw [hread] at hread'
    cases hread'
    -- a report that was delivered went to a file that could be opened
    cases hdel with
    | printed ho' => rw [ho] at ho'; cases ho'
    | filed ho' hwrite =>
      rw [ho] at ho'
      cases ho'
      obtain ⟨ws₂, hw⟩ := writeBytes_ok_of_ok hwrite []
      rw [hopen] at hw
      cases hw

/-! ### What a failed run prints -/

/-- A failed result with a text prints that text after `error: `, and nothing else. -/
theorem finish_failure {r : CommandResult} {text : String} (hc : r.exitCode ≠ 0)
    (hs : r.summary = some text) (hne : text ≠ "") (hm : r.metrics = []) :
    (CommandReturn.result r).finish = (r.exitCode, [.console (Console.render ("error: " ++ text))]) := by
  simp [CommandReturn.finish, CommandResult.ok, hc, hs, hne, hm, sortMetrics]

/-- A run that fails reports a text that is not empty, and no counts. -/
theorem ScanEnd.failure_text {opts : ScanOptions} {ws : Workspace}
    {r : (List Note × String × CommandResult) × Workspace} (h : ScanEnd opts ws r)
    (hc : r.1.2.2.exitCode ≠ 0) :
    ∃ text, text ≠ "" ∧ r.1.2.2.summary = some text ∧ r.1.2.2.metrics = [] := by
  cases h with
  | config hload =>
    have hnamed : Named (opts.settingsIn ws) := (load_readsOnly opts.configFile none ws).2
    rw [hload] at hnamed
    exact ⟨_, hnamed, rfl, rfl⟩
  | suffixes => exact ⟨_, SuffixError.message_ne_empty _, rfl, rfl⟩
  | read => exact ⟨_, ReadFailure.message_ne_empty _, rfl, rfl⟩
  | output => exact ⟨_, AccessError.describe_ne_empty _ _, rfl, rfl⟩
  | @reported notes cfg set ix out ws' hload hset hread hdel =>
    -- a report that ends the run with a failure stopped at a malformed range
    cases hout : (opts.reportIn cfg ix).outcome with
    | ok n => simp [Report.result, hout] at hc
    | error f =>
      refine ⟨f.message, ReportFailure.message_ne_empty f, ?_, ?_⟩ <;> simp [Report.result, hout]

/-- **A scan stops at its first failing stage, and writes files only to report.** For every
command line and workspace, the run ends as `ScanEnd` describes: settings, suffix set, index,
output file, report, each stage run only when those before it passed, with the exit code of the
failure's kind; a run stopped before its report writes nothing to the standard output and leaves
the workspace as it was, and one that reports sends the report to the standard output or leaves
the output file holding exactly the report. A failed run prints its failure's text, which is not
empty, after `error: `. -/
theorem scanRun_stages (opts : ScanOptions) (ws : Workspace) :
    ScanEnd opts ws (opts.runIn ws) ∧
      ((opts.runIn ws).1.2.2.exitCode ≠ 0 → ∃ text, text ≠ "" ∧
        (opts.runIn ws).1.2.2.summary = some text ∧
        (CommandReturn.result (opts.runIn ws).1.2.2).finish =
          ((opts.runIn ws).1.2.2.exitCode, [.console (Console.render ("error: " ++ text))])) := by
  have hend := scanCommand_ends opts ws
  refine ⟨hend, fun hc => ?_⟩
  obtain ⟨text, hne, hs, hm⟩ := hend.failure_text hc
  exact ⟨text, hne, hs, finish_failure hc hs hne hm⟩

/-- **An output path holding a NUL character is a refused value.** A run that reads its index
and names an output file whose path holds a NUL character stops at opening it, with exit code 3
and the text `embedded null byte`; it prints nothing and leaves the workspace as it was. -/
theorem scan_nulOutput_exitsInvalid (opts : ScanOptions) (ws : Workspace) {cfg : Settings}
    {set : SuffixSet} {ix : Index} {o : String}
    (hload : opts.settingsIn ws = .ok cfg)
    (hset : SuffixSet.ofList (opts.scanSpec cfg).suffixes = .ok set)
    (hread : opts.indexIn cfg ws = .ok ix) (ho : opts.output = some o)
    (hnul : (FsPath.parse o).hasNul = true) :
    (opts.runIn ws).1.2 = ("", ⟨3, some "embedded null byte", []⟩) ∧ (opts.runIn ws).2 = ws :=
  (scanCommand_ends opts ws).of_output_error hload hset hread ho (writeBytes_of_hasNul hnul [])

/-- An output path holding a NUL character stops the run at opening the output file, after the
index was read, with the text `embedded null byte`. -/
theorem scanRun_stages_nulOutput :
    (({ indexPath := some "index.scip", output := some "out\x00.txt" } : ScanOptions).runIn
        ⟨["work"], [(["index.scip"], .file [])], fun _ => .ran true⟩).1.2.2.exitCode ≠ 0 ∧
      ∃ text, text ≠ "" ∧
        (({ indexPath := some "index.scip", output := some "out\x00.txt" } : ScanOptions).runIn
          ⟨["work"], [(["index.scip"], .file [])], fun _ => .ran true⟩).1.2.2.summary =
            some text ∧
        (CommandReturn.result (({ indexPath := some "index.scip", output := some "out\x00.txt" } :
          ScanOptions).runIn
            ⟨["work"], [(["index.scip"], .file [])], fun _ => .ran true⟩).1.2.2).finish =
          ((({ indexPath := some "index.scip", output := some "out\x00.txt" } : ScanOptions).runIn
            ⟨["work"], [(["index.scip"], .file [])], fun _ => .ran true⟩).1.2.2.exitCode,
            [.console (Console.render ("error: " ++ text))]) := by
  have hc : (({ indexPath := some "index.scip", output := some "out\x00.txt" } : ScanOptions).runIn
      ⟨["work"], [(["index.scip"], .file [])], fun _ => .ran true⟩).1.2.2.exitCode ≠ 0 := by
    decide +kernel
  exact ⟨hc, (scanRun_stages _ _).2 hc⟩

/-- An output file that cannot be opened does not always exit with 1: a path holding a NUL
character is a refused value, and the run exits with 3. -/
theorem scanRun_nulOutput_exitsInvalid :
    (⟨["work"], [(["index.scip"], .file [])], fun _ => .ran true⟩ : Workspace).writeBytes
        (FsPath.parse "out\x00.txt") [] = .error .embeddedNull ∧
      (({ indexPath := some "index.scip", output := some "out\x00.txt" } : ScanOptions).runIn
        ⟨["work"], [(["index.scip"], .file [])], fun _ => .ran true⟩).1.2.2 =
        ⟨3, some "embedded null byte", []⟩ := by
  have hload : ({ indexPath := some "index.scip", output := some "out\x00.txt" } :
      ScanOptions).settingsIn ⟨["work"], [(["index.scip"], .file [])], fun _ => .ran true⟩ =
      .ok {} := rfl
  -- the index file is empty, and decodes to the index with no documents
  have hread : ({ indexPath := some "index.scip", output := some "out\x00.txt" } :
      ScanOptions).indexIn {} ⟨["work"], [(["index.scip"], .file [])], fun _ => .ran true⟩ =
      .ok ⟨[]⟩ := by
    have hsome : (({ indexPath := some "index.scip", output := some "out\x00.txt" } :
        ScanOptions).indexIn {}
          ⟨["work"], [(["index.scip"], .file [])], fun _ => .ran true⟩).toOption =
        some ⟨[]⟩ := by
      decide +kernel
    revert hsome
    cases ({ indexPath := some "index.scip", output := some "out\x00.txt" } :
        ScanOptions).indexIn {} ⟨["work"], [(["index.scip"], .file [])], fun _ => .ran true⟩ <;>
      simp [Except.toOption]
  refine ⟨rfl, ?_⟩
  rw [(scan_nulOutput_exitsInvalid _ _ hload rfl hread rfl (by decide)).1]

end OccurrenceScan
