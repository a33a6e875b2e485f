import OccurrenceScan.FileSystem
import OccurrenceScan.Text.Utf8

namespace OccurrenceScan

/-!
# Workspaces

A workspace is a file system held as a value: the absolute location of the working directory and
the files and directories under it, by their paths relative to it, with what running a module
file's code gives, by the module's source. The directories above the location exist and hold
nothing else. A path is followed component by component: `..` goes one
level up, a missing component is not found, a file with components after it is not a directory,
and a component longer than 255 bytes, or a path of 4096 bytes or more, is too long.
-/

/-- What a path of a workspace holds. -/
inductive Entry where
  | file (content : List UInt8)
  | dir
  deriving DecidableEq, Repr

/-- A file system held as a value. -/
structure Workspace where
  /-- The components of the working directory's absolute path. -/
  location : List String
  /-- Files and directories by their components relative to the working directory; the
  directories that hold a listed path exist too. -/
  entries : List (List String × Entry)
  /-- What running the code of a module with a given source gives. -/
  runs : List UInt8 → ModuleRun

namespace Workspace

/-- What a path relative to the working directory holds. -/
def entryAt (ws : Workspace) (rel : List String) : Option Entry :=
  if rel = [] then some .dir
  else
    match ws.entries.find? (·.1 = rel) with
    | some (_, e) => some e
    | none => if ws.entries.any (fun (p, _) => rel.isPrefixOf p) then some .dir else none

/-- What an absolute path holds: the working directory's contents, the directories above it,
and nothing else. -/
def entryAtAbsolute (ws : Workspace) (abs : List String) : Option Entry :=
  if ws.location.isPrefixOf abs then ws.entryAt (abs.drop ws.location.length)
  else if abs.isPrefixOf ws.location then some .dir
  else none

/-- Follows components from the directory `here`: the absolute path reached and what it holds. -/
def walk (ws : Workspace) (here : List String) : List String → Except OsError (List String × Entry)
  | [] => .ok (here, .dir)
  | c :: rest =>
    if c = ".." then ws.walk here.dropLast rest
    else if 255 < (Utf8.encode c).length then .error .nameTooLong
    else
      match ws.entryAtAbsolute (here ++ [c]) with
      | none => .error .notFound
      | some .dir => ws.walk (here ++ [c]) rest
      | some (.file content) =>
        if rest = [] then .ok (here ++ [c], .file content) else .error .notADirectory

/-- The directory a path is followed from: the root for an absolute path, else the working
directory. -/
def start (ws : Workspace) (p : FsPath) : List String :=
  if p.isAbsolute then [] else ws.location

/-- Checks what is refused before the system is asked: a NUL character, an overlong path. -/
def precheck (p : FsPath) : Except AccessError Unit :=
  if p.hasNul then .error .embeddedNull
  else if 4096 ≤ (Utf8.encode p.toText).length then .error (.os .nameTooLong)
  else .ok ()

/-- What a path names: its absolute components and what it holds. -/
def lookup (ws : Workspace) (p : FsPath) : Except AccessError (List String × Entry) := do
  precheck p
  match ws.walk (ws.start p) p.parts with
  | .ok r => .ok r
  | .error e => .error (.os e)

/-- The bytes of the file at a path. -/
def readBytes (ws : Workspace) (p : FsPath) : Except AccessError (List UInt8) :=
  match ws.lookup p with
  | .error e => .error e
  | .ok (_, .dir) => .error (.os .isADirectory)
  | .ok (_, .file content) => .ok content

/-- Whether a path names a file or a directory; a refusal other than absence is passed on. -/
def pathExists (ws : Workspace) (p : FsPath) : Except OsError Bool :=
  match ws.lookup p with
  | .ok _ => .ok true
  | .error .embeddedNull => .ok false
  | .error (.os e) => if e.meansAbsent then .ok false else .error e

/-- Sets the content of a file, by its absolute components; a file outside the working
directory is not kept. -/
def setFile (ws : Workspace) (abs : List String) (content : List UInt8) : Workspace :=
  if ws.location.isPrefixOf abs then
    let rel := abs.drop ws.location.length
    if ws.entries.any (·.1 = rel) then
      { ws with entries := ws.entries.map fun (p, e) => if p = rel then (p, .file content) else (p, e) }
    else { ws with entries := ws.entries ++ [(rel, .file content)] }
  else ws

/-- Creates or truncates the file at a path and writes bytes to it. -/
def writeBytes (ws : Workspace) (p : FsPath) (content : List UInt8) :
    Except AccessError Workspace := do
  precheck p
  match p.parts.getLast? with
  | none => .error (.os .isADirectory)
  | some last =>
    match ws.walk (ws.start p) p.parts.dropLast with
    | .error e => .error (.os e)
    | .ok (_, .file _) => .error (.os .notADirectory)
    | .ok (dir, .dir) =>
      if last = ".." then .error (.os .isADirectory)
      else if 255 < (Utf8.encode last).length then .error (.os .nameTooLong)
      else
        match ws.entryAtAbsolute (dir ++ [last]) with
        | some .dir => .error (.os .isADirectory)
        | _ => .ok (ws.setFile (dir ++ [last]) content)

/-- The files whose content differs between two states of a workspace, or that are new, by
their relative path text, in the order of the later state. -/
def changedFiles (before after : Workspace) : List (String × List UInt8) :=
  after.entries.filterMap fun (rel, e) =>
    match e with
    | .dir => none
    | .file content =>
      if before.entryAt rel = some (.file content) then none
      else some ("/".intercalate rel, content)

end Workspace

instance : FileSystem (StateM Workspace) where
  workingDirectory := do
    let ws ← get
    pure ⟨"/", ws.location⟩
  readBytes p := do
    let ws ← get
    pure (ws.readBytes p)
  pathExists p := do
    let ws ← get
    pure (ws.pathExists p)
  writeText p text := do
    let ws ← get
    match ws.writeBytes p (Utf8.encode text) with
    | .ok ws' =>
      set ws'
      pure (.ok ())
    | .error e => pure (.error e)
  runModule _ source := do
    let ws ← get
    pure (ws.runs source)

end OccurrenceScan
