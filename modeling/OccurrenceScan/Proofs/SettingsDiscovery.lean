import OccurrenceScan.Proofs.ReadOnlyRuns
import Mathlib

/-!
# Where the settings come from

Loading the settings with no file named walks up from the start directory: the directory, its
parent, and so on to the anchor, the one path that is its own parent. At each directory it asks
the workspace whether a `symscan.toml` is there, and reads the first that is; only when none is
does it walk again for `pyproject.toml`. `Workspace.search` is that walk as a function of the
workspace, and `findUpwards_run` says the search the loader runs computes it.

The workspace answers a candidate in three ways: it exists, it does not, or the system refuses
to say, for a path of 4096 bytes or more or a component longer than 255 bytes. A refusal stops
the walk where it happens, and a settings file further up is then never read
(`load_refused_before_top_settings`).

Main statements: `load_takes_nearest_settings`.
-/

namespace OccurrenceScan

/-! ### The walk up -/

namespace FsPath

/-- A path with components has itself first among its ancestors, then its parent's. -/
theorem ancestors_cons {p : FsPath} (h : p.parts ≠ []) : p.ancestors = p :: p.parent.ancestors := by
  obtain ⟨a, parts⟩ := p
  obtain ⟨n, hn⟩ : ∃ n, parts.length = n + 1 := Nat.exists_eq_succ_of_ne_zero (by simpa using h)
  simp only [ancestors, parent, hn, List.length_dropLast, Nat.add_sub_cancel]
  rw [List.range_succ, List.reverse_append, List.reverse_singleton, List.singleton_append,
    List.map_cons, ← hn, List.take_length]
  congr 1
  apply List.map_congr_left
  intro k hk
  simp only [List.mem_reverse, List.mem_range] at hk
  rw [List.dropLast_eq_take, List.take_take]
  congr 2
  omega

/-- The ancestors of a path are the path and its parents, one per component, up to the anchor. -/
theorem ancestors_eq_iterate (p : FsPath) :
    p.ancestors = List.iterate parent p (p.parts.length + 1) := by
  obtain ⟨a, parts⟩ := p
  -- on the number of components, each parent having one fewer
  induction h : parts.length generalizing parts with
  | zero =>
    rw [List.length_eq_zero_iff] at h
    subst h
    rfl
  | succ n ih =>
    have hne : parts ≠ [] := by
      rintro rfl
      simp at h
    rw [ancestors_cons hne, List.iterate]
    congr 1
    exact ih parts.dropLast (by simp [h])

/-- A path is its own parent exactly when it has no component left. -/
theorem parent_eq_self_iff (q : FsPath) : q.parent = q ↔ q.parts = [] := by
  obtain ⟨a, parts⟩ := q
  simp only [parent, mk.injEq, true_and]
  constructor
  · intro h
    have := congrArg List.length h
    simp only [List.length_dropLast] at this
    exact List.length_eq_zero_iff.1 (by omega)
  · rintro rfl
    rfl

theorem length_parts_iterate_parent (p : FsPath) (k : Nat) :
    (parent^[k] p).parts.length = p.parts.length - k := by
  induction k with
  | zero => rfl
  | succ k ih =>
    rw [Function.iterate_succ_apply', parent, List.length_dropLast, ih]
    omega

/-- Going up from `p`, the `k`-th path is its own parent exactly once `k` reaches the number of
components: the walk up stops at the anchor, and not before. -/
theorem parent_iterate_eq_self_iff (p : FsPath) (k : Nat) :
    (parent^[k] p).parent = parent^[k] p ↔ p.parts.length ≤ k := by
  rw [parent_eq_self_iff, ← List.length_eq_zero_iff, length_parts_iterate_parent]
  omega

end FsPath

/-! ### Searching the walk -/

namespace Workspace

/-- The answer of a search for an entry `name` in directories taken in order: the first candidate
the system says exists, or the refusal of the first candidate it cannot answer for, or nothing. -/
def search (ws : Workspace) (name : String) : List FsPath → Except LoadFailure (Option FsPath)
  | [] => .ok none
  | d :: ds =>
    match ws.pathExists (d.child name) with
    | .ok true => .ok (some (d.child name))
    | .ok false => ws.search name ds
    | .error e => .error (.system e (d.child name))

/-- The system says of every directory in `dirs` that it holds no entry `name`. -/
def Absent (ws : Workspace) (name : String) (dirs : List FsPath) : Prop :=
  ∀ d ∈ dirs, ws.pathExists (d.child name) = .ok false

/-- Directories the system says hold no such entry are passed over. -/
theorem search_append_of_absent {ws : Workspace} {name : String} {pre : List FsPath}
    (h : ws.Absent name pre) (rest : List FsPath) :
    ws.search name (pre ++ rest) = ws.search name rest := by
  induction pre with
  | nil => rfl
  | cons d ds ih =>
    rw [List.cons_append, search, h d (by simp)]
    exact ih fun d' hd' => h d' (by simp [hd'])

theorem search_of_absent {ws : Workspace} {name : String} {dirs : List FsPath}
    (h : ws.Absent name dirs) : ws.search name dirs = .ok none := by
  rw [← List.append_nil dirs, search_append_of_absent h]
  rfl

theorem search_found {ws : Workspace} {name : String} {pre : List FsPath} {d : FsPath}
    (hpre : ws.Absent name pre) (hd : ws.pathExists (d.child name) = .ok true)
    (post : List FsPath) : ws.search name (pre ++ d :: post) = .ok (some (d.child name)) := by
  rw [search_append_of_absent hpre, search, hd]

theorem search_refused {ws : Workspace} {name : String} {pre : List FsPath} {d : FsPath}
    {e : OsError} (hpre : ws.Absent name pre) (hd : ws.pathExists (d.child name) = .error e)
    (post : List FsPath) :
    ws.search name (pre ++ d :: post) = .error (.system e (d.child name)) := by
  rw [search_append_of_absent hpre, search, hd]

/-- What loading takes from a settings file: the file read as TOML and validated, with its path
as the location. -/
def settingsFrom (ws : Workspace) (path : FsPath) : List LogRecord × Except LoadFailure Settings :=
  match (readTomlFile path : StateM Workspace _).run' ws with
  | .error f => ([], .error f)
  | .ok t => decodeSettings t path.toText

/-- What loading takes from a project file it found: the file's `tool.symscan` table validated,
or no settings when it has no such table. -/
def projectSettingsFrom (ws : Workspace) (path : FsPath) :
    List LogRecord × Except LoadFailure Settings :=
  match (readTomlFile path : StateM Workspace _).run' ws with
  | .error f => ([], .error f)
  | .ok t =>
    match projectSettings t with
    | some s => decodeSettings s (path.toText ++ ":tool.symscan")
    | none => ([], .ok {})

/-- What loading takes from a file named on the command line: a project file must hold a
`tool.symscan` table, any other file is validated whole. -/
def namedSettingsFrom (ws : Workspace) (path : FsPath) :
    List LogRecord × Except LoadFailure Settings :=
  match (readTomlFile path : StateM Workspace _).run' ws with
  | .error f => ([], .error f)
  | .ok t =>
    if path.name = projectFileName then
      match projectSettings t with
      | none => ([], .error (.invalid ("Config validation failed for " ++ path.toText ++
          ": missing [tool.symscan] section.")))
      | some s => decodeSettings s (path.toText ++ ":tool.symscan")
    else decodeSettings t path.toText

end Workspace

/-! ### What the loader computes -/

/-- Asking whether a path exists, inside a search that may fail, answers as the workspace does. -/
theorem run_liftPathExists {ε : Type} (p : FsPath) (ws : Workspace) :
    ((liftM (FileSystem.pathExists p : StateM Workspace _) : ExceptT ε (StateM Workspace) _).run).run
      ws = (.ok (ws.pathExists p), ws) := rfl

theorem findUpwards_run (name : String) (start : FsPath) (ws : Workspace) :
    (findUpwards name start : StateM Workspace _).run ws = (ws.search name start.ancestors, ws) := by
  unfold findUpwards
  induction start.ancestors with
  | nil => rfl
  | cons d ds ih =>
    simp only [List.findSomeM?_cons, ExceptT.run_bind, StateT.run_bind, run_liftPathExists]
    rcases hpe : ws.pathExists (d.child name) with e | _ | _
    · simp only [Workspace.search, hpe]
      rfl
    · simp only [Workspace.search, hpe]
      exact ih
    · simp only [Workspace.search, hpe]
      rfl

theorem run_pathExists (p : FsPath) (ws : Workspace) :
    (FileSystem.pathExists p : StateM Workspace _).run ws = (ws.pathExists p, ws) := rfl

theorem run_readBytes (p : FsPath) (ws : Workspace) :
    (FileSystem.readBytes p : StateM Workspace _).run ws = (ws.readBytes p, ws) := rfl

theorem run'_eq_fst {α : Type} (x : StateM Workspace α) (ws : Workspace) :
    x.run' ws = (x.run ws).1 := rfl

theorem searchFrom_run (c : FsPath) (ws : Workspace) :
    (Settings.load.searchFrom (some c) : StateM Workspace _).run ws =
      (match ws.search settingsFileName c.ancestors with
      | .error f => ([], .error f)
      | .ok (some p) => ws.settingsFrom p
      | .ok none =>
        match ws.search projectFileName c.ancestors with
        | .error f => ([], .error f)
        | .ok (some p) => ws.projectSettingsFrom p
        | .ok none => ([], .ok {}), ws) := by
  unfold Settings.load.searchFrom
  simp only [pure_bind]
  rw [Workspace.ReadsOnly.run_bind (Workspace.findUpwards_readsOnly _ _), findUpwards_run]
  cases ws.search settingsFileName c.ancestors with
  | error f => rfl
  | ok o =>
    cases o with
    | some p =>
      simp only
      rw [Workspace.ReadsOnly.run_bind (Workspace.readTomlFile_readsOnly _)]
      unfold Workspace.settingsFrom
      rw [run'_eq_fst]
      cases (StateT.run (readTomlFile p : StateM Workspace _) ws).1 <;> rfl
    | none =>
      simp only
      rw [Workspace.ReadsOnly.run_bind (Workspace.findUpwards_readsOnly _ _), findUpwards_run]
      cases ws.search projectFileName c.ancestors with
      | error f => rfl
      | ok o =>
        cases o with
        | some p =>
          simp only
          rw [Workspace.ReadsOnly.run_bind (Workspace.readTomlFile_readsOnly _)]
          unfold Workspace.projectSettingsFrom
          rw [run'_eq_fst]
          cases (StateT.run (readTomlFile p : StateM Workspace _) ws).1 with
          | error f => rfl
          | ok t =>
            dsimp only
            cases projectSettings t <;> rfl
        | none => rfl

theorem load_named_run {text : String} (htext : text ≠ "") (start : Option FsPath)
    (ws : Workspace) :
    (Settings.load (some text) start : StateM Workspace _).run ws =
      (match ws.pathExists (FsPath.parse text) with
      | .error e => ([], .error (.system e (FsPath.parse text)))
      | .ok false => ([], .error (.invalid ("Config file not found: " ++ Literal.quote text ++ ".")))
      | .ok true => ws.namedSettingsFrom (FsPath.parse text), ws) := by
  unfold Settings.load
  simp only [if_pos htext]
  rw [Workspace.ReadsOnly.run_bind (Workspace.readsOnly_pathExists _), run_pathExists]
  cases ws.pathExists (FsPath.parse text) with
  | error e => rfl
  | ok b =>
    cases b with
    | false => rfl
    | true =>
      dsimp only
      rw [Workspace.ReadsOnly.run_bind (Workspace.readTomlFile_readsOnly _)]
      unfold Workspace.namedSettingsFrom
      rw [run'_eq_fst]
      cases (StateT.run (readTomlFile (FsPath.parse text) : StateM Workspace _) ws).1 with
      | error f => rfl
      | ok t =>
        dsimp only
        split
        · cases projectSettings t <;> rfl
        · rfl

theorem load_search_run {file : Option String} (hfile : file = none ∨ file = some "")
    (c : FsPath) (ws : Workspace) :
    (Settings.load file (some c) : StateM Workspace _).run ws =
      (Settings.load.searchFrom (some c) : StateM Workspace _).run ws := by
  rcases hfile with rfl | rfl
  · rfl
  · simp [Settings.load]

/-! ### Reading a file found -/

/-- Every way reading a settings file can fail is an invalid file, never a refusal of the
system: a file that cannot be read, that is not UTF-8, or that is no TOML. -/
theorem readTomlFile_fails_invalid {p : FsPath} {ws : Workspace} {f : LoadFailure}
    (h : (readTomlFile p : StateM Workspace _).run' ws = .error f) : ∃ msg, f = .invalid msg := by
  unfold readTomlFile at h
  rw [run'_eq_fst, Workspace.ReadsOnly.run_bind (Workspace.readsOnly_readBytes _),
    run_readBytes] at h
  dsimp only at h
  -- each of the three failures is reported as an invalid file
  split at h
  · cases h
    exact ⟨_, rfl⟩
  · split at h
    · cases h
      exact ⟨_, rfl⟩
    · split at h
      · cases h
        exact ⟨_, rfl⟩
      · cases h

/-- A directory is no settings file: reading it fails. -/
theorem readTomlFile_dir {p : FsPath} {ws : Workspace} {abs : List String}
    (hdir : ws.lookup p = .ok (abs, .dir)) :
    ∃ f, (readTomlFile p : StateM Workspace _).run' ws = .error f := by
  unfold readTomlFile
  rw [run'_eq_fst, Workspace.ReadsOnly.run_bind (Workspace.readsOnly_readBytes _),
    run_readBytes]
  have hbytes : ws.readBytes p = .error (.os .isADirectory) := by
    simp [Workspace.readBytes, hdir]
  rw [hbytes]
  exact ⟨_, rfl⟩

/-- Validation fails only as an invalid file. -/
theorem decodeSettings_fails_invalid {t : Toml.Table} {location : String} {f : LoadFailure}
    (h : (decodeSettings t location).2 = .error f) : ∃ msg, f = .invalid msg := by
  unfold decodeSettings at h
  split at h
  · cases h
    exact ⟨_, rfl⟩
  · cases h

namespace Workspace

/-- A file found or named fails to give settings only as an invalid file: it cannot be read,
holds no UTF-8 or no TOML, or its settings do not validate. -/
theorem fileSettings_fail_invalid {ws : Workspace} {p : FsPath} {f : LoadFailure}
    (h : (ws.settingsFrom p).2 = .error f ∨ (ws.projectSettingsFrom p).2 = .error f ∨
      (ws.namedSettingsFrom p).2 = .error f) : ∃ msg, f = .invalid msg := by
  rcases h with h | h | h
  case inl =>
    unfold settingsFrom at h
    split at h
    · cases h
      exact readTomlFile_fails_invalid (by assumption)
    · exact decodeSettings_fails_invalid h
  case inr.inl =>
    unfold projectSettingsFrom at h
    split at h
    · cases h
      exact readTomlFile_fails_invalid (by assumption)
    · split at h
      · exact decodeSettings_fails_invalid h
      · cases h
  case inr.inr =>
    unfold namedSettingsFrom at h
    split at h
    · cases h
      exact readTomlFile_fails_invalid (by assumption)
    · split at h
      · split at h
        · cases h
          exact ⟨_, rfl⟩
        · exact decodeSettings_fails_invalid h
      · exact decodeSettings_fails_invalid h

/-- A settings file that is a directory is an invalid file. -/
theorem settingsFrom_dir {ws : Workspace} {p : FsPath} {abs : List String}
    (hdir : ws.lookup p = .ok (abs, .dir)) : ∃ msg, (ws.settingsFrom p).2 = .error (.invalid msg) := by
  obtain ⟨f, hf⟩ := readTomlFile_dir hdir
  obtain ⟨msg, rfl⟩ := readTomlFile_fails_invalid hf
  exact ⟨msg, by rw [settingsFrom, hf]⟩

/-- The answer of loading the settings on a workspace, from an optional named file and a start
directory. -/
def loadAnswer (ws : Workspace) (file : Option String) (start : FsPath) :
    List LogRecord × Except LoadFailure Settings :=
  (Settings.load file (some start) : StateM Workspace _).run' ws

/-- With no file named, loading takes the nearest settings file, then the nearest project file. -/
theorem loadAnswer_search {file : Option String} (hfile : file = none ∨ file = some "")
    (ws : Workspace) (c : FsPath) :
    ws.loadAnswer file c =
      match ws.search settingsFileName c.ancestors with
      | .error f => ([], .error f)
      | .ok (some p) => ws.settingsFrom p
      | .ok none =>
        match ws.search projectFileName c.ancestors with
        | .error f => ([], .error f)
        | .ok (some p) => ws.projectSettingsFrom p
        | .ok none => ([], .ok {}) := by
  rw [loadAnswer, run'_eq_fst, load_search_run hfile, searchFrom_run]

/-- With no settings file on the walk, loading takes the nearest project file. -/
theorem loadAnswer_of_absent {ws : Workspace} {c : FsPath}
    (habsent : ws.Absent settingsFileName c.ancestors) :
    ws.loadAnswer none c =
      match ws.search projectFileName c.ancestors with
      | .error f => ([], .error f)
      | .ok (some p) => ws.projectSettingsFrom p
      | .ok none => ([], .ok {}) := by
  rw [loadAnswer_search (.inl rfl), search_of_absent habsent]

theorem loadAnswer_named {text : String} (htext : text ≠ "") (ws : Workspace) (c : FsPath) :
    ws.loadAnswer (some text) c =
      match ws.pathExists (FsPath.parse text) with
      | .error e => ([], .error (.system e (FsPath.parse text)))
      | .ok false => ([], .error (.invalid ("Config file not found: " ++ Literal.quote text ++ ".")))
      | .ok true => ws.namedSettingsFrom (FsPath.parse text) := by
  rw [loadAnswer, run'_eq_fst, load_named_run htext]

end Workspace

/-- **Where the settings come from.** Loading with no file named walks up from the start
directory through its parents to the anchor, and takes the nearest `symscan.toml` there is,
whatever project files stand nearer; the system refusing to answer for a nearer candidate stops
the walk there. With no settings file on the walk, the nearest `pyproject.toml` alone is read,
and with neither the settings are empty. A named file that does not exist is an error; one that
does is read, and its settings must be in `tool.symscan` exactly when it is a project file. A
file that is read but cannot be, or holds no UTF-8 or no TOML, is an invalid file. -/
theorem load_takes_nearest_settings (ws : Workspace) (c : FsPath) :
    (c.ancestors = List.iterate FsPath.parent c (c.parts.length + 1) ∧
      ∀ k, (FsPath.parent^[k] c).parent = FsPath.parent^[k] c ↔ c.parts.length ≤ k) ∧
    ws.loadAnswer (some "") c = ws.loadAnswer none c ∧
    (∀ pre d post, c.ancestors = pre ++ d :: post → ws.Absent settingsFileName pre →
      (ws.pathExists (d.child settingsFileName) = .ok true →
        ws.loadAnswer none c = ws.settingsFrom (d.child settingsFileName)) ∧
      (∀ e, ws.pathExists (d.child settingsFileName) = .error e →
        ws.loadAnswer none c = ([], .error (.system e (d.child settingsFileName))))) ∧
    (ws.Absent settingsFileName c.ancestors →
      (∀ pre d post, c.ancestors = pre ++ d :: post → ws.Absent projectFileName pre →
        (ws.pathExists (d.child projectFileName) = .ok true →
          ws.loadAnswer none c = ws.projectSettingsFrom (d.child projectFileName)) ∧
        (∀ e, ws.pathExists (d.child projectFileName) = .error e →
          ws.loadAnswer none c = ([], .error (.system e (d.child projectFileName))))) ∧
      (ws.Absent projectFileName c.ancestors → ws.loadAnswer none c = ([], .ok {}))) ∧
    (∀ text, text ≠ "" →
      (ws.pathExists (FsPath.parse text) = .ok false → ws.loadAnswer (some text) c =
        ([], .error (.invalid ("Config file not found: " ++ Literal.quote text ++ ".")))) ∧
      (ws.pathExists (FsPath.parse text) = .ok true →
        ws.loadAnswer (some text) c = ws.namedSettingsFrom (FsPath.parse text)) ∧
      (∀ e, ws.pathExists (FsPath.parse text) = .error e →
        ws.loadAnswer (some text) c = ([], .error (.system e (FsPath.parse text))))) ∧
    (∀ p f, (ws.settingsFrom p).2 = .error f ∨ (ws.projectSettingsFrom p).2 = .error f ∨
      (ws.namedSettingsFrom p).2 = .error f → ∃ msg, f = .invalid msg) ∧
    (∀ p abs, ws.lookup p = .ok (abs, .dir) →
      ∃ msg, (ws.settingsFrom p).2 = .error (.invalid msg)) := by
  have hnone := Workspace.loadAnswer_search (Or.inl rfl) ws c
  refine ⟨⟨FsPath.ancestors_eq_iterate c, FsPath.parent_iterate_eq_self_iff c⟩,
    by rw [hnone, Workspace.loadAnswer_search (Or.inr rfl)], ?settings, ?project,
    fun text htext => ?named, fun _ _ => Workspace.fileSettings_fail_invalid, fun _ _ => Workspace.settingsFrom_dir⟩
  case settings =>
    rintro pre d post hchain hpre
    refine ⟨fun hd => ?_, fun e hd => ?_⟩
    · rw [hnone, hchain, Workspace.search_found hpre hd]
    · rw [hnone, hchain, Workspace.search_refused hpre hd]
  case project =>
    intro habsent
    have hproject := Workspace.loadAnswer_of_absent habsent
    refine ⟨fun pre d post hchain hpre => ⟨fun hd => ?_, fun e hd => ?_⟩, fun hproj => ?_⟩
    · rw [hproject, hchain, Workspace.search_found hpre hd]
    · rw [hproject, hchain, Workspace.search_refused hpre hd]
    · rw [hproject, Workspace.search_of_absent hproj]
  case named =>
    rw [Workspace.loadAnswer_named htext]
    refine ⟨fun h => by rw [h], fun h => by rw [h], fun e h => by rw [h]⟩

/-! ### A candidate the system refuses -/

/-- Every character is written with one byte or more. -/
theorem Utf8.one_le_length_encodeChar (c : Char) : 1 ≤ (Utf8.encodeChar c).length := by
  unfold Utf8.encodeChar
  simp only
  split
  · simp
  split
  · simp
  split <;> simp

theorem Utf8.length_le_length_encode (s : String) : s.length ≤ (Utf8.encode s).length := by
  rw [Utf8.encode, ← String.length_toList]
  induction s.toList with
  | nil => simp
  | cons c cs ih =>
    rw [List.flatMap_cons, List.length_append, List.length_cons]
    have := Utf8.one_le_length_encodeChar c
    omega

/-- Each step `../a` out of a directory and back adds five bytes to a path's text. -/
theorem length_intercalate_backtracks (n : Nat) {l : List String} (hl : l ≠ []) :
    ("/".intercalate ((List.replicate n ["..", "a"]).flatten ++ l)).length =
      5 * n + ("/".intercalate l).length := by
  induction n with
  | zero => simp
  | succ n ih =>
    have hrest : (List.replicate n ["..", "a"]).flatten ++ l ≠ [] := by simp [hl]
    have hsplit : (List.replicate (n + 1) ["..", "a"]).flatten ++ l =
        ".." :: "a" :: ((List.replicate n ["..", "a"]).flatten ++ l) := by
      simp [List.replicate_succ]
    rw [hsplit, String.intercalate_cons_cons, String.intercalate_cons_of_ne_nil hrest]
    simp only [String.length_append, ih]
    have : "..".length = 2 := rfl
    have : "a".length = 1 := rfl
    have : "/".length = 1 := rfl
    omega

theorem hasNul_backtracks (n : Nat) (name : String) (h : Char.ofNat 0 ∉ name.toList) :
    (FsPath.child ⟨"", "a" :: (List.replicate n ["..", "a"]).flatten⟩ name).hasNul = false := by
  simp [FsPath.hasNul, FsPath.child, List.any_flatten, h]

/-- The system refuses a path of 4096 bytes or more before looking for it. -/
theorem Workspace.pathExists_of_long {ws : Workspace} {p : FsPath} (hnul : p.hasNul = false)
    (hlong : 4096 ≤ (Utf8.encode p.toText).length) : ws.pathExists p = .error .nameTooLong := by
  simp only [Workspace.pathExists, Workspace.lookup, Workspace.precheck, hnul, hlong]
  rfl

/-- A workspace with a settings file at its top and one directory `a` beside it. -/
def topSettings : Workspace :=
  ⟨["tmp", "run"], [(["a"], .dir), ([settingsFileName], .file (Utf8.encode "document = 'top'\n"))],
    fun _ => .ran true⟩

/-- The directory `a`, left and entered again 817 times: `a/../a/…/a`. -/
def farStart : FsPath :=
  ⟨"", "a" :: (List.replicate 817 ["..", "a"]).flatten⟩

theorem load_refused_before_top_settings :
    topSettings.pathExists (FsPath.child ⟨"", []⟩ settingsFileName) = .ok true ∧
    (⟨"", []⟩ : FsPath) ∈ farStart.ancestors ∧
    topSettings.loadAnswer none farStart =
      ([], .error (.system .nameTooLong (farStart.child settingsFileName))) ∧
    ∀ p, topSettings.loadAnswer none farStart ≠ topSettings.settingsFrom p := by
  -- the nearest candidate, `farStart/symscan.toml`, is 4099 bytes long
  have htext : (farStart.child settingsFileName).toText.length = 4099 := by
    have hne : (List.replicate 817 ["..", "a"]).flatten ++ [settingsFileName] ≠ [] :=
      List.append_ne_nil_of_right_ne_nil _ (List.cons_ne_nil _ _)
    rw [farStart, FsPath.child, FsPath.toText, if_neg (fun h => List.cons_ne_nil _ _ h.2),
      List.cons_append, String.intercalate_cons_of_ne_nil hne]
    simp only [String.length_append, length_intercalate_backtracks 817 (List.cons_ne_nil _ []),
      String.intercalate_singleton]
    rfl
  have hfar : topSettings.pathExists (farStart.child settingsFileName) = .error .nameTooLong :=
    Workspace.pathExists_of_long (hasNul_backtracks 817 settingsFileName (by decide))
      (by have := Utf8.length_le_length_encode (farStart.child settingsFileName).toText; omega)
  have hload : topSettings.loadAnswer none farStart =
      ([], .error (.system .nameTooLong (farStart.child settingsFileName))) := by
    rw [Workspace.loadAnswer_search (.inl rfl), FsPath.ancestors_cons (List.cons_ne_nil _ _),
      ← List.nil_append (farStart :: _),
      Workspace.search_refused (fun _ h => absurd h List.not_mem_nil) hfar]
  refine ⟨rfl, List.mem_map.2 ⟨0, by simp, rfl⟩, hload, fun p h => ?_⟩
  have hp : (topSettings.settingsFrom p).2 =
      .error (.system .nameTooLong (farStart.child settingsFileName)) := by
    rw [← h, hload]
  obtain ⟨msg, hmsg⟩ := Workspace.fileSettings_fail_invalid (Or.inl hp)
  cases hmsg

end OccurrenceScan
