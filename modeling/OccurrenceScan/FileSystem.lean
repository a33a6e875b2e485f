import OccurrenceScan.Path
import OccurrenceScan.Text.Literal

namespace OccurrenceScan

/-!
# File system access

What the program asks of a file system: the bytes of a file, whether a path names anything, the
working directory, and writing a text file. A path whose text holds a NUL character is refused
before the system sees it; otherwise the system may refuse with one of a few reasons, each with
its number and its standard wording. Asking whether a path exists fails too when the refusal is
more than "nothing is there", as for a name too long.

The program also has the system run the code of a module file (`FileSystem.runModule`). What that
code does is not part of this library: the system answers with the exception the module raised,
or with whether the module, run to its end, defines an index message (`ModuleRun`).
-/

/-- Why the system refused a path. -/
inductive OsError where
  | notFound
  | notADirectory
  | isADirectory
  | nameTooLong
  /-- Any other refusal, by its number and wording. -/
  | other (errno : Nat) (text : String)
  deriving DecidableEq, Repr

namespace OsError

/-- The error number. -/
def errno : OsError → Nat
  | .notFound => 2
  | .notADirectory => 20
  | .isADirectory => 21
  | .nameTooLong => 36
  | .other n _ => n

/-- The standard wording of the error. -/
def text : OsError → String
  | .notFound => "No such file or directory"
  | .notADirectory => "Not a directory"
  | .isADirectory => "Is a directory"
  | .nameTooLong => "File name too long"
  | .other _ t => t

/-- The refusal with a given error number and wording. -/
def ofErrno (errno : Nat) (text : String) : OsError :=
  if errno = 2 then .notFound
  else if errno = 20 then .notADirectory
  else if errno = 21 then .isADirectory
  else if errno = 36 then .nameTooLong
  else .other errno text

/-- Whether the refusal says only that nothing is there: the path names no entry, or passes
through a file as if it were a directory. Asked whether such a path exists, the answer is no;
any other refusal leaves the question open. -/
def meansAbsent : OsError → Bool
  | .notFound => true
  | .notADirectory => true
  | _ => false

end OsError

/-- Why a file could not be opened. -/
inductive AccessError where
  /-- The system refused the path. -/
  | os (e : OsError)
  /-- The path holds a NUL character. -/
  | embeddedNull
  deriving DecidableEq, Repr

namespace AccessError

/-- The bare reason: the system's wording, or the NUL refusal. -/
def reason : AccessError → String
  | .os e => e.text
  | .embeddedNull => "embedded null byte"

/-- The full report of a failed open of a path written as `shown`: number, wording and the
quoted path. -/
def describeText (e : AccessError) (shown : String) : String :=
  match e with
  | .os e => "[Errno " ++ Nat.repr e.errno ++ "] " ++ e.text ++ ": " ++ Literal.quote shown
  | .embeddedNull => "embedded null byte"

/-- The full report of a failed open of `path`: number, wording and the quoted path. -/
def describe (e : AccessError) (path : FsPath) : String :=
  e.describeText path.toText

end AccessError

/-- Whether a path's text holds a NUL character, which no system call can take. -/
def FsPath.hasNul (p : FsPath) : Bool :=
  p.parts.any fun c => c.toList.contains (Char.ofNat 0)

/-- What running the code of a module gives. -/
inductive ModuleRun where
  /-- Compiling or running the module raised an exception with this text. -/
  | raised (text : String)
  /-- The module ran to its end; `definesIndex` says whether it defines an index message. -/
  | ran (definesIndex : Bool)
  deriving DecidableEq, Repr

/-- A file system the program runs against. -/
class FileSystem (m : Type → Type) where
  /-- The absolute path of the working directory. -/
  workingDirectory : m FsPath
  /-- The bytes of the file at a path. -/
  readBytes : FsPath → m (Except AccessError (List UInt8))
  /-- Whether a path names a file or a directory, or the system's refusal when it cannot say. A
  path holding a NUL character names nothing. -/
  pathExists : FsPath → m (Except OsError Bool)
  /-- Creates or truncates the file at a path and writes a text to it, as UTF-8. -/
  writeText : FsPath → String → m (Except AccessError Unit)
  /-- Runs the module file at a path, whose source `source` holds code. -/
  runModule : FsPath → List UInt8 → m ModuleRun

end OccurrenceScan
