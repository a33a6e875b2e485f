import OccurrenceScan.Config.Load
import OccurrenceScan.Index.Read
import OccurrenceScan.Workspace

/-!
# Runs that only read the workspace

Loading the settings and reading the index ask the file system whether paths exist, read files,
ask for the working directory and have the code of bindings run; they never write. On a
workspace held as a value this means: run from any workspace, they leave it as it is.
`Workspace.ReadsOnly x P` says so of a run `x`, together with a property `P` of its answer, and
it is built up as the runs are: a pure answer, each of the four requests, and sequencing
(`ReadsOnly.bind`).

Loading the settings also never fails with an empty text: every failure names its cause, which a
failed run prints after `error: `.

Main statements: `load_readsOnly` and `read_readsOnly`.
-/

namespace OccurrenceScan

theorem append_ne_empty {s : String} (t : String) (h : s ≠ "") : s ++ t ≠ "" :=
  fun h' => h (String.append_eq_empty_iff.1 h').1

theorem append_ne_empty_of_right (s : String) {t : String} (h : t ≠ "") : s ++ t ≠ "" :=
  fun h' => h (String.append_eq_empty_iff.1 h').2

namespace Workspace

/-- A run on a workspace that only reads it: from any workspace it leaves the workspace as it
found it, and its answer satisfies `P`. -/
def ReadsOnly {α : Type} (x : StateM Workspace α) (P : α → Prop) : Prop :=
  ∀ ws, (x.run ws).2 = ws ∧ P (x.run ws).1

section ReadsOnly

variable {α β : Type} {P Q : α → Prop}

/-- A run that only reads can be followed as if it left no trace. -/
theorem ReadsOnly.run_bind {x : StateM Workspace α} (hx : ReadsOnly x P)
    (f : α → StateM Workspace β) (ws : Workspace) :
    (x >>= f).run ws = (f (x.run ws).1).run ws := by
  show (f (x.run ws).1).run (x.run ws).2 = _
  rw [(hx ws).1]

theorem ReadsOnly.pure {a : α} (h : P a) : ReadsOnly (pure a : StateM Workspace α) P :=
  fun _ => ⟨rfl, h⟩

theorem ReadsOnly.bind {x : StateM Workspace α} {f : α → StateM Workspace β} {R : β → Prop}
    (hx : ReadsOnly x Q) (hf : ∀ a, Q a → ReadsOnly (f a) R) : ReadsOnly (x >>= f) R := by
  intro ws
  rw [hx.run_bind]
  exact hf _ (hx ws).2 ws

theorem readsOnly_readBytes (p : FsPath) :
    ReadsOnly (FileSystem.readBytes p : StateM Workspace _) fun _ => True :=
  fun _ => ⟨rfl, trivial⟩

theorem readsOnly_pathExists (p : FsPath) :
    ReadsOnly (FileSystem.pathExists p : StateM Workspace _) fun _ => True :=
  fun _ => ⟨rfl, trivial⟩

theorem readsOnly_workingDirectory :
    ReadsOnly (FileSystem.workingDirectory : StateM Workspace _) fun _ => True :=
  fun _ => ⟨rfl, trivial⟩

theorem readsOnly_runModule (p : FsPath) (source : List UInt8) :
    ReadsOnly (FileSystem.runModule p source : StateM Workspace _) fun _ => True :=
  fun _ => ⟨rfl, trivial⟩

/-- The existence question asked inside a run that may throw: it never throws itself. -/
theorem readsOnly_liftPathExists {ε : Type} (p : FsPath) :
    ReadsOnly (liftM (FileSystem.pathExists p : StateM Workspace _) :
      ExceptT ε (StateM Workspace) _).run fun r => ∀ e, r ≠ .error e :=
  fun _ => ⟨rfl, fun _ h => nomatch h⟩

end ReadsOnly

/-! ### Loading the settings -/

/-- A settings answer whose failure, if any, has a text. -/
def Named {α : Type} : Except LoadFailure α → Prop
  | .error f => f.message ≠ ""
  | .ok _ => True

theorem validationFailure_ne_empty (location message : String) :
    Settings.validationFailure location message ≠ "" := by
  unfold Settings.validationFailure
  exact append_ne_empty _ (append_ne_empty _ (append_ne_empty _ (by decide)))

theorem decodeSettings_named (t : Toml.Table) (location : String) :
    Named (decodeSettings t location).2 := by
  unfold decodeSettings
  split
  · exact validationFailure_ne_empty _ _
  · trivial

theorem readTomlFile_readsOnly (path : FsPath) : ReadsOnly (readTomlFile path) Named := by
  unfold readTomlFile
  refine (readsOnly_readBytes _).bind fun r _ => ?_
  split
  · exact .pure (by simp [Named, LoadFailure.message])
  · split
    · exact .pure (by simp [Named, LoadFailure.message])
    · split
      · exact .pure (by simp [Named, LoadFailure.message])
      · exact .pure trivial

theorem findUpwards_readsOnly (name : String) (start : FsPath) :
    ReadsOnly (findUpwards name start) Named := by
  unfold findUpwards
  -- induction on the directories above the start, asked from the nearest one up
  induction start.ancestors with
  | nil => exact .pure trivial
  | cons dir dirs ih =>
    simp only [List.findSomeM?_cons, ExceptT.run_bind]
    refine ReadsOnly.bind ?_ fun r (hr : Named r) => ?_
    · refine (readsOnly_liftPathExists _).bind fun r hr => ?_
      split
      · split
        · exact .pure trivial
        · exact .pure trivial
        · exact .pure (by
            simp [Named, LoadFailure.message, AccessError.describe, AccessError.describeText])
      · exact absurd rfl (hr _)
    · split
      · split
        · exact .pure trivial
        · exact ih
      · exact .pure hr

/-- Searching from no given start is searching from the working directory. -/
theorem searchFrom_none :
    (Settings.load.searchFrom none : StateM Workspace _) =
      FileSystem.workingDirectory >>= fun s => Settings.load.searchFrom (some s) := rfl

theorem searchFrom_some_readsOnly (s : FsPath) :
    ReadsOnly (Settings.load.searchFrom (some s) : StateM Workspace _) fun r => Named r.2 := by
  unfold Settings.load.searchFrom
  dsimp only
  rw [pure_bind]
  -- first the nearest settings file, then the nearest project file
  refine (findUpwards_readsOnly _ _).bind fun r hr => ?_
  split
  · exact .pure (by exact hr)
  · refine (readTomlFile_readsOnly _).bind fun r hr => ?_
    split
    · exact .pure (by exact hr)
    · exact .pure (decodeSettings_named _ _)
  · refine (findUpwards_readsOnly _ _).bind fun r hr => ?_
    split
    · exact .pure (by exact hr)
    · refine (readTomlFile_readsOnly _).bind fun r hr => ?_
      split
      · exact .pure (by exact hr)
      · split
        · exact .pure (decodeSettings_named _ _)
        · exact .pure trivial
    · exact .pure trivial

theorem searchFrom_readsOnly (start : Option FsPath) :
    ReadsOnly (Settings.load.searchFrom start : StateM Workspace _) fun r => Named r.2 := by
  cases start with
  | some s => exact searchFrom_some_readsOnly s
  | none =>
    rw [searchFrom_none]
    exact readsOnly_workingDirectory.bind fun s _ => searchFrom_some_readsOnly s

/-- **Loading the settings only reads the workspace**, and a failure to load has a text. -/
theorem load_readsOnly (file : Option String) (start : Option FsPath) :
    ReadsOnly (Settings.load file start : StateM Workspace _) fun r => Named r.2 := by
  unfold Settings.load
  split
  · split
    · -- a named file: it must exist, read as TOML, and hold valid settings
      refine (readsOnly_pathExists _).bind fun r _ => ?_
      split
      · exact .pure (by
          simp [Named, LoadFailure.message, AccessError.describe, AccessError.describeText])
      · exact .pure (by simp [Named, LoadFailure.message])
      · refine (readTomlFile_readsOnly _).bind fun r hr => ?_
        split
        · exact .pure (by exact hr)
        · split
          · split
            · exact .pure (by simp [Named, LoadFailure.message])
            · exact .pure (decodeSettings_named _ _)
          · exact .pure (decodeSettings_named _ _)
    · exact searchFrom_readsOnly start
  · exact searchFrom_readsOnly start

/-! ### Reading the index -/

/-- Loading bindings only reads the workspace: the system is asked, the file read, and its code
run, and nothing is written. -/
theorem loadBindings_readsOnly (dir : FsPath) :
    ReadsOnly (Index.loadBindings dir : StateM Workspace _) fun _ => True := by
  unfold Index.loadBindings
  refine (readsOnly_pathExists _).bind fun r _ => ?_
  split
  · exact .pure trivial
  · exact .pure trivial
  · refine (readsOnly_readBytes _).bind fun r _ => ?_
    split
    · exact readsOnly_workingDirectory.bind fun _ _ => .pure trivial
    · split
      · exact .pure trivial
      · exact .pure trivial
      · refine (readsOnly_runModule _ _).bind fun r _ => ?_
        split <;> exact .pure trivial

/-- **Reading the index only reads the workspace.** -/
theorem read_readsOnly (path : Option String) (bindings : Option FsPath) :
    ReadsOnly (Index.read path bindings : StateM Workspace _) fun _ => True := by
  unfold Index.read
  split
  · exact .pure trivial
  · split
    · exact .pure trivial
    · -- the index file is read last, after the bindings are loaded if a directory is named
      extract_lets p logs readIndex
      have hindex : ∀ u, ReadsOnly (readIndex u) fun _ => True := by
        intro u
        refine (readsOnly_readBytes _).bind fun r _ => ?_
        split
        · exact .pure trivial
        · split <;> exact .pure trivial
      split
      · refine (loadBindings_readsOnly _).bind fun r _ => ?_
        split
        · exact .pure trivial
        · exact hindex ()
      · exact hindex ()

end Workspace

end OccurrenceScan
