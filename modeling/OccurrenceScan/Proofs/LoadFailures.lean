import OccurrenceScan.Proofs.PathNormalForm
import OccurrenceScan.Proofs.ScanStages
import OccurrenceScan.Proofs.SettingsDiscovery

/-!
# Failures to load settings and bindings

Before a scan reads its index it loads two things, and either can stop it.

Settings: a settings file named on the command line is first asked after, whether it exists.
When the system refuses to say, as it does for a component longer than 255 bytes
(`Workspace.pathExists_of_long_component`), the run stops there with that refusal and the
general exit code 1, not with a configuration error (`scan_stops_at_refused_settings`).

Bindings: a scan that names a directory of generated bindings loads `scip_pb2.py` from it
(`Index.loadBindings`). It asks the system whether the file exists, reads it, lets the compiler
look at its bytes before any of them runs (`BindingsSource.examine`), and has the system run the
code there is. What that code does is the system's answer, on a workspace `Workspace.runs`,
which this library does not model: a statement that needs one answer names it as a hypothesis.
`Workspace.bindingsFailure` is loading as a function of the workspace, and `loadBindings_run`
says the load computes it.

* Bindings that load leave the read as it is without them, but for the record that names them;
  bindings that do not stop the read with their failure before the index file is opened
  (`read_bindings_run`).
* Every failure to load bindings exits with 14, save one: the system refusing to say whether
  `scip_pb2.py` exists, which exits with 1 (`bindingsFailure_exitCode`).
* A module whose source holds code fails to load when its code raises, with the exception's
  text, and when it runs and defines no index message (`bindingsFailure_of_code`).

Main statements: `scan_stops_at_refused_settings` and `scan_stops_at_bindings`.
-/

namespace OccurrenceScan

/-! ### Settings the system cannot answer for -/

/-- A text with no slash that reading keeps reads as the relative path of that one component. -/
theorem FsPath.parse_of_component {s : String} (hkeep : FsPath.keeps s.toList = true)
    (hslash : '/' ∉ s.toList) : FsPath.parse s = ⟨"", [s]⟩ := by
  have htext : (⟨"", [s]⟩ : FsPath).toText = s := by simp [FsPath.toText]
  have hnormal : (⟨"", [s]⟩ : FsPath).IsNormal :=
    ⟨.inl rfl, by simpa using ⟨hkeep, hslash⟩⟩
  calc FsPath.parse s = FsPath.parse (⟨"", [s]⟩ : FsPath).toText := by rw [htext]
    _ = ⟨"", [s]⟩ := FsPath.parse_toText hnormal

/-- The system refuses a path whose first component is longer than 255 bytes, whatever follows
it and wherever it starts. -/
theorem Workspace.pathExists_of_long_component {ws : Workspace} {p : FsPath} {c : String}
    {rest : List String} (hnul : p.hasNul = false) (hshort : (Utf8.encode p.toText).length < 4096)
    (hparts : p.parts = c :: rest) (hdots : c ≠ "..") (hlong : 255 < (Utf8.encode c).length) :
    ws.pathExists p = .error .nameTooLong := by
  have hwalk : ws.walk (ws.start p) p.parts = .error .nameTooLong := by
    rw [hparts, Workspace.walk, if_neg hdots, if_pos hlong]
  simp only [Workspace.pathExists, Workspace.lookup, Workspace.precheck, hnul,
    if_neg (Nat.not_le.2 hshort), hwalk]
  rfl

/-- **A settings file the system cannot answer for stops the scan with the general exit code.**
When the command line names a settings file and the system refuses to say whether it exists, the
run stops at loading the settings with exit code 1 and the system's refusal as its text, not with
a configuration error; it prints nothing and leaves the workspace as it was. -/
theorem scan_stops_at_refused_settings (opts : ScanOptions) (ws : Workspace) {text : String}
    {e : OsError} (hfile : opts.configFile = some text) (htext : text ≠ "")
    (hrefused : ws.pathExists (FsPath.parse text) = .error e) :
    opts.settingsIn ws = .error (.system e (FsPath.parse text)) ∧
      (opts.runIn ws).1.2 =
        ("", ⟨1, some (AccessError.describe (.os e) (FsPath.parse text)), []⟩) ∧
      (opts.runIn ws).2 = ws := by
  have hload : opts.settingsIn ws = .error (.system e (FsPath.parse text)) := by
    rw [ScanOptions.settingsIn, hfile, load_named_run htext, hrefused]
  obtain ⟨hout, hws⟩ := (scanCommand_ends opts ws).of_config_error hload
  exact ⟨hload, hout, hws⟩

/-- A text of `n` copies of an ASCII character is `n` bytes long. -/
theorem Utf8.length_encode_replicate {c : Char} (hc : c.toNat < 128) (n : Nat) :
    (Utf8.encode (String.ofList (List.replicate n c))).length = n := by
  have hone : (Utf8.encodeChar c).length = 1 := by simp [Utf8.encodeChar, hc]
  simp only [Utf8.encode, String.toList_ofList, List.length_flatMap, List.map_replicate, hone,
    List.sum_replicate, smul_eq_mul, mul_one]

/-- A name of `n` copies of an ASCII character other than `/` and NUL reads as that one
component, which the system refuses once it is longer than 255 bytes and the whole path shorter
than 4096. -/
theorem Workspace.pathExists_replicate (ws : Workspace) {c : Char} {n : Nat} (hc : c.toNat < 128)
    (hslash : c ≠ '/') (hnul : c ≠ Char.ofNat 0) (hlong : 255 < n)
    (hshort : n < 4096) :
    FsPath.parse (String.ofList (List.replicate n c)) =
        ⟨"", [String.ofList (List.replicate n c)]⟩ ∧
      ws.pathExists (FsPath.parse (String.ofList (List.replicate n c))) = .error .nameTooLong := by
  have hbytes := Utf8.length_encode_replicate hc n
  have hparse : FsPath.parse (String.ofList (List.replicate n c)) =
      ⟨"", [String.ofList (List.replicate n c)]⟩ := by
    refine FsPath.parse_of_component ?_ ?_
    · -- more than one character, and none of them a slash
      have hlen : (List.replicate n c).length = n := List.length_replicate
      simp only [FsPath.keeps, String.toList_ofList, decide_eq_true_eq]
      refine ⟨fun h => ?_, fun h => ?_⟩ <;> rw [h] at hlen <;> simp at hlen <;> omega
    · simp [Ne.symm hslash]
  have htext : (FsPath.mk "" [String.ofList (List.replicate n c)]).toText =
      String.ofList (List.replicate n c) := by
    simp [FsPath.toText]
  refine ⟨hparse, ?_⟩
  rw [hparse]
  refine Workspace.pathExists_of_long_component ?_ (by rw [htext, hbytes]; exact hshort) rfl ?_
    (by rw [hbytes]; exact hlong)
  · simp [FsPath.hasNul, Ne.symm hnul]
  · intro h
    have hlen := congrArg String.length h
    have hdots : "..".length = 2 := rfl
    simp only [String.length_ofList, List.length_replicate, hdots] at hlen
    omega

/-- A settings file named by 300 bytes is more than the system answers for: the run stops at
loading the settings, with the general exit code 1 and not the configuration error's 4. -/
theorem scanRun_longConfig_exitsGeneral :
    ({ indexPath := some "index.scip",
        configFile := some (String.ofList (List.replicate 300 'x')) } : ScanOptions).settingsIn
        ⟨["work"], [(["index.scip"], .file [])], fun _ => .ran true⟩ =
      .error (.system .nameTooLong (FsPath.parse (String.ofList (List.replicate 300 'x')))) ∧
    (({ indexPath := some "index.scip",
        configFile := some (String.ofList (List.replicate 300 'x')) } : ScanOptions).runIn
        ⟨["work"], [(["index.scip"], .file [])], fun _ => .ran true⟩).1.2.2.exitCode = 1 := by
  have hrefused := (Workspace.pathExists_replicate
    ⟨["work"], [(["index.scip"], .file [])], fun _ => .ran true⟩ (c := 'x') (n := 300)
    (by decide) (by decide) (by decide) (by decide) (by decide)).2
  have hne : String.ofList (List.replicate 300 'x') ≠ "" := by
    intro h
    have hlen := congrArg String.length h
    rw [String.length_ofList, List.length_replicate] at hlen
    exact absurd hlen (by decide)
  obtain ⟨hload, hout, -⟩ := scan_stops_at_refused_settings
    { indexPath := some "index.scip", configFile := some (String.ofList (List.replicate 300 'x')) }
    _ rfl hne hrefused
  exact ⟨hload, by rw [hout]⟩

/-! ### Loading bindings -/

namespace Workspace

/-- The failure, if any, of loading the bindings of the directory `dir`: the steps of
`Index.loadBindings`, each answered by the workspace. -/
def bindingsFailure (ws : Workspace) (dir : FsPath) : Option ReadFailure :=
  let module := dir.child "scip_pb2.py"
  match ws.pathExists module with
  | .error e => some (.system e module)
  | .ok false => some (.noBindings dir)
  | .ok true =>
    match ws.readBytes module with
    | .error e => some (.bindingsUnreadable module (absoluteText ⟨"/", ws.location⟩ module) e)
    | .ok source =>
      match BindingsSource.examine "scip_pb2.py" source with
      | .refused reason => some (.bindingsRefused module reason)
      | .empty => some (.bindingsWithoutIndex module)
      | .code =>
        match ws.runs source with
        | .raised text => some (.bindingsRefused module text)
        | .ran false => some (.bindingsWithoutIndex module)
        | .ran true => none

end Workspace

/-! ### What loading computes -/

theorem run_runModule (p : FsPath) (source : List UInt8) (ws : Workspace) :
    (FileSystem.runModule p source : StateM Workspace _).run ws = (ws.runs source, ws) := rfl

theorem loadBindings_run (dir : FsPath) (ws : Workspace) :
    (Index.loadBindings dir : StateM Workspace _).run ws = (ws.bindingsFailure dir, ws) := by
  unfold Index.loadBindings Workspace.bindingsFailure
  dsimp only
  rw [(Workspace.readsOnly_pathExists _).run_bind, run_pathExists]
  rcases ws.pathExists (dir.child "scip_pb2.py") with e | _ | _
  · rfl
  · rfl
  · dsimp only
    rw [(Workspace.readsOnly_readBytes _).run_bind, run_readBytes]
    rcases ws.readBytes (dir.child "scip_pb2.py") with e | source
    · rfl
    · dsimp only
      cases BindingsSource.examine "scip_pb2.py" source with
      | refused reason => rfl
      | empty => rfl
      | code =>
        dsimp only
        rw [(Workspace.readsOnly_runModule _ _).run_bind, run_runModule]
        rcases ws.runs source with text | _ | _ <;> rfl

/-- With a directory of bindings named, a read is the load's failure, logged after the record
that names the directory, or, when the bindings load, the read without them, with that record
first. -/
theorem read_bindings_run (ws : Workspace) {text : String} (htext : text ≠ "") (dir : FsPath) :
    (Index.read (some text) (some dir) : StateM Workspace _).run' ws =
      match ws.bindingsFailure dir with
      | some f =>
        ([⟨.debug, readerSource, "Decoding with SCIP bindings from " ++ dir.toText⟩], .error f)
      | none =>
        (⟨.debug, readerSource, "Decoding with SCIP bindings from " ++ dir.toText⟩ ::
            ((Index.read (some text) none : StateM Workspace _).run' ws).1,
          ((Index.read (some text) none : StateM Workspace _).run' ws).2) := by
  simp only [Index.read, if_neg htext]
  rw [run'_eq_fst, run'_eq_fst, (Workspace.loadBindings_readsOnly dir).run_bind, loadBindings_run]
  cases ws.bindingsFailure dir with
  | some f => rfl
  | none =>
    -- the index file is read as without bindings; only the first record differs
    dsimp only
    rw [(Workspace.readsOnly_readBytes _).run_bind, (Workspace.readsOnly_readBytes _).run_bind,
      run_readBytes]
    rcases ws.readBytes (FsPath.parse text) with e | bytes
    · rfl
    · dsimp only
      cases Index.decode bytes <;> rfl

/-! ### What loading can answer -/

/-- **Failing to load bindings exits with 14**, save when the system refuses to say whether
`scip_pb2.py` exists: that failure is the system's refusal, which exits with 1. -/
theorem bindingsFailure_exitCode {ws : Workspace} {dir : FsPath} {f : ReadFailure}
    (h : ws.bindingsFailure dir = some f) :
    f.exitCode = 14 ∨ ∃ e, ws.pathExists (dir.child "scip_pb2.py") = .error e ∧
      f = .system e (dir.child "scip_pb2.py") := by
  unfold Workspace.bindingsFailure at h
  dsimp only at h
  rcases hexists : ws.pathExists (dir.child "scip_pb2.py") with e | _ | _ <;>
    simp only [hexists] at h
  · -- the system cannot say whether the file is there
    cases h
    exact .inr ⟨e, rfl, rfl⟩
  · cases h
    exact .inl rfl
  · -- the file is there: every later failure is one of the bindings'
    left
    split at h
    · cases h
      rfl
    · split at h
      · cases h
        rfl
      · cases h
        rfl
      · split at h
        · cases h
          rfl
        · cases h
          rfl
        · cases h

/-- **Code in bindings loads by what it does when it runs.** For a `scip_pb2.py` that is there
and whose source the compiler finds code in, loading fails with the exception's text when the
code raises, fails for want of an index message when it runs without defining one, and succeeds
when it defines one. -/
theorem bindingsFailure_of_code {ws : Workspace} {dir : FsPath} {source : List UInt8}
    (hexists : ws.pathExists (dir.child "scip_pb2.py") = .ok true)
    (hsource : ws.readBytes (dir.child "scip_pb2.py") = .ok source)
    (hcode : BindingsSource.examine "scip_pb2.py" source = .code) :
    (∀ text, ws.runs source = .raised text →
      ws.bindingsFailure dir = some (.bindingsRefused (dir.child "scip_pb2.py") text)) ∧
    (ws.runs source = .ran false →
      ws.bindingsFailure dir = some (.bindingsWithoutIndex (dir.child "scip_pb2.py"))) ∧
    (ws.runs source = .ran true → ws.bindingsFailure dir = none) := by
  refine ⟨fun text hrun => ?_, fun hrun => ?_, fun hrun => ?_⟩ <;>
    simp only [Workspace.bindingsFailure, hexists, hsource, hcode, hrun]

/-! ### A scan stopped by its bindings -/

/-- **Bindings that do not load stop the scan.** For every command line and workspace whose
settings load and whose suffixes make a set, a scan that names an index and a directory of
bindings that fail to load ends with that failure: its exit code, which is 14 unless the system
refused to say whether `scip_pb2.py` exists, and its text; it prints nothing and leaves the
workspace as it was. -/
theorem scan_stops_at_bindings (opts : ScanOptions) (ws : Workspace) {cfg : Settings}
    {set : SuffixSet} {text : String} {dir : FsPath} {f : ReadFailure}
    (hload : opts.settingsIn ws = .ok cfg)
    (hset : SuffixSet.ofList (opts.scanSpec cfg).suffixes = .ok set)
    (hpath : opts.indexPath = some text) (htext : text ≠ "")
    (hdir : opts.bindingsIn cfg = some dir) (hfail : ws.bindingsFailure dir = some f) :
    (opts.runIn ws).1.2 = ("", ⟨f.exitCode, some f.message, []⟩) ∧ (opts.runIn ws).2 = ws ∧
      (f.exitCode = 14 ∨ ∃ e, ws.pathExists (dir.child "scip_pb2.py") = .error e ∧
        f = .system e (dir.child "scip_pb2.py")) := by
  have hread : opts.indexIn cfg ws = .error f := by
    have h := read_bindings_run ws htext dir
    rw [hfail] at h
    rw [ScanOptions.indexIn, hpath, hdir, ← run'_eq_fst, h]
  obtain ⟨hout, hws⟩ := (scanCommand_ends opts ws).of_read_error hload hset hread
  exact ⟨hout, hws, bindingsFailure_exitCode hfail⟩

/-- A workspace laid out as for a scan with broken bindings: an index, and in `bindings` a
`scip_pb2.py` whose code raises an import error, as generated code does whose runtime does not
match. -/
def brokenBindings : Workspace :=
  ⟨["tmp"], [(["bindings", "scip_pb2.py"],
      .file (Utf8.encode "raise ImportError('gencode/runtime version mismatch')\n")),
    (["index.scip"], .file [])],
    fun _ => .raised "gencode/runtime version mismatch"⟩

/-- Bindings whose source holds code that raises stop the scan with exit code 14 and the
exception's text. -/
theorem scan_stops_at_raising_bindings :
    BindingsSource.examine "scip_pb2.py"
        (Utf8.encode "raise ImportError('gencode/runtime version mismatch')\n") = .code ∧
      brokenBindings.runs (Utf8.encode "raise ImportError('gencode/runtime version mismatch')\n") =
        .raised "gencode/runtime version mismatch" ∧
      (({ indexPath := some "index.scip", bindingsDir := some "bindings" } : ScanOptions).runIn
        brokenBindings).1.2 = ("", ⟨14, some ("Unable to load SCIP bindings from " ++
          "bindings/scip_pb2.py: gencode/runtime version mismatch"), []⟩) := by
  -- the compiler finds code in the source, and the system's run of it raises
  have hcode : BindingsSource.examine "scip_pb2.py"
      (Utf8.encode "raise ImportError('gencode/runtime version mismatch')\n") = .code := by
    decide +kernel
  have hfail := (@bindingsFailure_of_code brokenBindings (FsPath.parse "bindings") _
    rfl rfl hcode).1 _ rfl
  have hload : ({ indexPath := some "index.scip", bindingsDir := some "bindings" } :
      ScanOptions).settingsIn brokenBindings = .ok {} := rfl
  refine ⟨hcode, rfl, ?_⟩
  rw [(scan_stops_at_bindings _ _ hload rfl rfl (by decide) rfl hfail).1]
  rfl

end OccurrenceScan
