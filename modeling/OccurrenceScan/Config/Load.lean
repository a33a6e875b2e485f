import OccurrenceScan.Config.Settings
import OccurrenceScan.Config.Toml.Document
import OccurrenceScan.FileSystem
import OccurrenceScan.Log
import OccurrenceScan.Text.Utf8

namespace OccurrenceScan

/-!
# Loading settings

Settings come from an explicit file when one is named (a missing one is an error), and otherwise
from the nearest `symscan.toml` found walking up from the starting directory, and failing that
from the nearest `pyproject.toml`. A file named `pyproject.toml` holds its settings in the table
`tool.symscan`: an explicit one must have it, while a found one without it gives empty settings
and stops the search. With no file at all the settings are empty.

A file is read as UTF-8 text with its line ends made line feeds, then as TOML. When the system
cannot say whether a path exists, loading stops with its refusal.
-/

/-- Why settings could not be loaded. -/
inductive LoadFailure where
  /-- A file is missing, unreadable, no TOML, or holds no valid settings; the text says which. -/
  | invalid (message : String)
  /-- The system could not say whether a path exists. -/
  | system (error : OsError) (path : FsPath)
  deriving DecidableEq, Repr

namespace LoadFailure

/-- The text a failed load is reported with. -/
def message : LoadFailure → String
  | .invalid s => s
  | .system e p => AccessError.describe (.os e) p

end LoadFailure

/-- The name a settings file has. -/
def settingsFileName : String := "symscan.toml"

/-- The name a project file has. -/
def projectFileName : String := "pyproject.toml"

/-- The name the loader logs under. -/
def loaderSource : String := "symscan.cli.config_loader"

/-- Makes every carriage return, alone or before a line feed, a line feed. -/
def unifyLineEnds : List Char → List Char
  | '\r' :: '\n' :: rest => '\n' :: unifyLineEnds rest
  | '\r' :: rest => '\n' :: unifyLineEnds rest
  | c :: rest => c :: unifyLineEnds rest
  | [] => []

/-- The settings table of a project file: its `tool.symscan` table, if it has one. -/
def projectSettings (t : Toml.Table) : Option Toml.Table :=
  match t.get? "tool" with
  | some (.table tool) =>
    match Toml.Table.get? tool "symscan" with
    | some (.table s) => some s
    | _ => none
  | _ => none

/-- Reads a settings file as a TOML table. -/
def readTomlFile {m : Type → Type} [Monad m] [FileSystem m] (path : FsPath) :
    m (Except LoadFailure Toml.Table) := do
  let unreadable (reason : String) : LoadFailure :=
    .invalid ("Unable to read config file " ++ path.toText ++ ": " ++ reason)
  match ← FileSystem.readBytes path with
  | .error e => return .error (unreadable (e.describe path))
  | .ok bytes =>
    match Utf8.decode bytes with
    | .error e => return .error (unreadable e.message)
    | .ok chars =>
      match Toml.parse (String.ofList (unifyLineEnds chars)) with
      | .error msg => return .error (.invalid ("Invalid TOML in " ++ path.toText ++ ": " ++ msg))
      | .ok t => return .ok t

/-- Validates a table of settings found at a location, logging where they came from. -/
def decodeSettings (t : Toml.Table) (location : String) :
    List LogRecord × Except LoadFailure Settings :=
  match Settings.ofTable t with
  | .error msg => ([], .error (.invalid (Settings.validationFailure location msg)))
  | .ok s => ([⟨.debug, loaderSource, "Loaded scan config from " ++ location⟩], .ok s)

/-- The nearest directory, from `start` upwards, that holds an entry named `name`: that entry.
The search stops at the first path the system cannot say anything about. -/
def findUpwards {m : Type → Type} [Monad m] [FileSystem m] (name : String) (start : FsPath) :
    m (Except LoadFailure (Option FsPath)) :=
  ExceptT.run <| start.ancestors.findSomeM? fun dir => do
    let candidate := dir.child name
    match ← (FileSystem.pathExists candidate : m _) with
    | .ok true => return some candidate
    | .ok false => return none
    | .error e => throw (LoadFailure.system e candidate)

/-- Loads the settings of a run: from `file` when it is named, else by searching upwards from
`start`, or from the working directory when no start is given. -/
def Settings.load {m : Type → Type} [Monad m] [FileSystem m] (file : Option String)
    (start : Option FsPath) : m (List LogRecord × Except LoadFailure Settings) := do
  match file with
  | some text =>
    if text ≠ "" then
      let path := FsPath.parse text
      match ← FileSystem.pathExists path with
      | .error e => return ([], .error (.system e path))
      | .ok false =>
        return ([], .error (.invalid ("Config file not found: " ++ Literal.quote text ++ ".")))
      | .ok true =>
        match ← readTomlFile path with
        | .error f => return ([], .error f)
        | .ok t =>
          if path.name = projectFileName then
            match projectSettings t with
            | none => return ([], .error (.invalid ("Config validation failed for " ++
                path.toText ++ ": missing [tool.symscan] section.")))
            | some s => return decodeSettings s (path.toText ++ ":tool.symscan")
          else return decodeSettings t path.toText
    else searchFrom
  | none => searchFrom
where
  /-- The settings found by searching upwards. -/
  searchFrom : m (List LogRecord × Except LoadFailure Settings) := do
    let start ← match start with
      | some s => pure s
      | none => FileSystem.workingDirectory
    match ← findUpwards settingsFileName start with
    | .error f => return ([], .error f)
    | .ok (some path) =>
      match ← readTomlFile path with
      | .error f => return ([], .error f)
      | .ok t => return decodeSettings t path.toText
    | .ok none =>
      match ← findUpwards projectFileName start with
      | .error f => return ([], .error f)
      | .ok (some path) =>
        match ← readTomlFile path with
        | .error f => return ([], .error f)
        | .ok t =>
          match projectSettings t with
          | some s => return decodeSettings s (path.toText ++ ":tool.symscan")
          | none => return ([], .ok {})
      | .ok none => return ([], .ok {})

end OccurrenceScan
