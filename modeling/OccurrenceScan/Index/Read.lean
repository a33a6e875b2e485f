import OccurrenceScan.Index.Decode
import OccurrenceScan.Bindings.Source
import OccurrenceScan.FileSystem
import OccurrenceScan.Log

namespace OccurrenceScan

/-!
# Reading an index file

Reading an index checks, in this order: that a path was given at all (the empty text counts as
none); when a directory of generated bindings is named, that it holds `scip_pb2.py`; that the
file can be read; that its bytes decode. Messages show the path in its normal form, quoted.
When the system cannot say whether the bindings file exists, the read stops with its refusal.

Bindings are loaded from the file by its absolute path: the working directory joined to the
path. A bindings file that cannot be read fails to load, as does one whose source the compiler
refuses before any of it runs (`BindingsSource.examine`). One that holds nothing but blank lines
and comments defines no index message. What a source that holds code does is the system's
answer (`FileSystem.runModule`): an exception fails the load with its text, and a module that
runs to its end must define an index message. Such bindings are generated from the SCIP schema,
and read the same three messages as the built-in schema.
A successful read logs how many documents and occurrences the index has.
-/

/-- Why an index could not be read. -/
inductive ReadFailure where
  /-- No path was given. -/
  | noPath
  /-- The named bindings directory holds no `scip_pb2.py`. -/
  | noBindings (dir : FsPath)
  /-- The system could not say whether a path exists. -/
  | system (error : OsError) (path : FsPath)
  /-- The bindings file at `module` could not be read at its absolute path `absolute`. -/
  | bindingsUnreadable (module : FsPath) (absolute : String) (error : AccessError)
  /-- The bindings file at `module` fails to load: the compiler refuses its source, or running
  it raises, for `reason`. -/
  | bindingsRefused (module : FsPath) (reason : String)
  /-- The bindings file at `module` defines no index message. -/
  | bindingsWithoutIndex (module : FsPath)
  /-- The file could not be read. -/
  | unreadable (path : FsPath) (reason : String)
  /-- The bytes are no index. -/
  | undecodable (path : FsPath) (reason : String)
  deriving DecidableEq, Repr

namespace ReadFailure

/-- The text a failed read is reported with. -/
def message : ReadFailure → String
  | .noPath => "No SCIP index path supplied; pass the path to an index.scip file."
  | .noBindings dir => "scip_pb2.py not found under " ++ dir.toText ++ "."
  | .system e path => AccessError.describe (.os e) path
  | .bindingsUnreadable module absolute e =>
    "Unable to load SCIP bindings from " ++ module.toText ++ ": " ++ e.describeText absolute
  | .bindingsRefused module reason =>
    "Unable to load SCIP bindings from " ++ module.toText ++ ": " ++ reason
  | .bindingsWithoutIndex module =>
    "SCIP bindings at " ++ module.toText ++ " do not define an Index message."
  | .unreadable path reason => "Unable to read SCIP index " ++ Literal.quote path.toText ++ ": " ++ reason
  | .undecodable path reason => Literal.quote path.toText ++ " is not a valid SCIP index: " ++ reason

end ReadFailure

/-- The absolute form of a path, from the working directory `here`: the path itself when it is
absolute, else the two joined by `/`. -/
def absoluteText (here path : FsPath) : String :=
  if path.isAbsolute then path.toText
  else String.ofList ((here.toText.toList.reverse.dropWhile (· = '/')).reverse) ++ "/" ++ path.toText

/-- The name the reader logs under. -/
def readerSource : String := "symscan.extract.scip_reader"

namespace Index

/-- Loads the generated bindings of the directory `dir`: nothing when they load and define an
index message, else the failure that stops the read. -/
def loadBindings {m : Type → Type} [Monad m] [FileSystem m] (dir : FsPath) :
    m (Option ReadFailure) := do
  let module := dir.child "scip_pb2.py"
  match ← FileSystem.pathExists module with
  | .error e => return some (.system e module)
  | .ok false => return some (.noBindings dir)
  | .ok true =>
    match ← FileSystem.readBytes module with
    | .error e =>
      let here ← FileSystem.workingDirectory
      return some (.bindingsUnreadable module (absoluteText here module) e)
    | .ok source =>
      match BindingsSource.examine "scip_pb2.py" source with
      | .refused reason => return some (.bindingsRefused module reason)
      | .empty => return some (.bindingsWithoutIndex module)
      | .code =>
        match ← FileSystem.runModule module source with
        | .raised text => return some (.bindingsRefused module text)
        | .ran false => return some (.bindingsWithoutIndex module)
        | .ran true => return none

/-- Reads the index at a path, after loading the bindings of a directory if one is named; the
log records come first. Bindings that load decode the same three messages. -/
def read {m : Type → Type} [Monad m] [FileSystem m] (path : Option String)
    (bindings : Option FsPath) : m (List LogRecord × Except ReadFailure Index) := do
  match path with
  | none => return ([], .error .noPath)
  | some text =>
    if text = "" then return ([], .error .noPath)
    let p := FsPath.parse text
    let logs : List LogRecord :=
      match bindings with
      | some dir => [⟨.debug, readerSource, "Decoding with SCIP bindings from " ++ dir.toText⟩]
      | none => []
    if let some dir := bindings then
      match ← loadBindings dir with
      | some failure => return (logs, .error failure)
      | none => pure ()
    match ← FileSystem.readBytes p with
    | .error e => return (logs, .error (.unreadable p e.reason))
    | .ok bytes =>
      match decode bytes with
      | .error fault => return (logs, .error (.undecodable p (decodeFailureText fault)))
      | .ok ix =>
        let counted : LogRecord := ⟨.info, readerSource, "Decoded SCIP index " ++ p.toText ++ ": " ++
          Nat.repr ix.documentCount ++ " documents, " ++ Nat.repr ix.occurrenceCount ++ " occurrences"⟩
        return (logs ++ [counted], .ok ix)

end Index

end OccurrenceScan
