import OccurrenceScan.Cli.Run

open OccurrenceScan

/-!
# The `symscan` command

The command runs against the process's own file system: paths are taken as the process sees
them, and a refusal of the system is reported by its error number and wording. The process has
no interpreter for the code of generated bindings, so a bindings module that holds code fails
to load, with a text that says so.
-/

/-- The error number and wording of a failed input or output operation. -/
def errnoOf : IO.Error → Nat × String
  | .alreadyExists _ code details => (code.toNat, details)
  | .otherError code details => (code.toNat, details)
  | .resourceBusy code details => (code.toNat, details)
  | .resourceVanished code details => (code.toNat, details)
  | .unsupportedOperation code details => (code.toNat, details)
  | .hardwareFault code details => (code.toNat, details)
  | .unsatisfiedConstraints code details => (code.toNat, details)
  | .illegalOperation code details => (code.toNat, details)
  | .protocolError code details => (code.toNat, details)
  | .timeExpired code details => (code.toNat, details)
  | .interrupted _ code details => (code.toNat, details)
  | .noFileOrDirectory _ code details => (code.toNat, details)
  | .invalidArgument _ code details => (code.toNat, details)
  | .permissionDenied _ code details => (code.toNat, details)
  | .resourceExhausted _ code details => (code.toNat, details)
  | .inappropriateType _ code details => (code.toNat, details)
  | .noSuchThing _ code details => (code.toNat, details)
  | .unexpectedEof => (0, "unexpected end of file")
  | .userError msg => (0, msg)

/-- The refusal of a failed operation. -/
def accessErrorOf (e : IO.Error) : AccessError :=
  let (errno, text) := errnoOf e
  .os (OsError.ofErrno errno text)

/-- The process's file system. -/
instance : FileSystem IO where
  workingDirectory := do
    let here ← IO.currentDir
    pure (FsPath.parse here.toString)
  readBytes p := do
    if p.hasNul then return .error .embeddedNull
    let here ← IO.currentDir
    match ← (IO.FS.readBinFile { here with toString := p.toText }).toBaseIO with
    | .ok bytes => return .ok bytes.toList
    | .error e => return .error (accessErrorOf e)
  pathExists p := do
    if p.hasNul then return .ok false
    let here ← IO.currentDir
    match ← ({ here with toString := p.toText }).metadata.toBaseIO with
    | .ok _ => return .ok true
    | .error e =>
      let (errno, text) := errnoOf e
      let refusal := OsError.ofErrno errno text
      return if refusal.meansAbsent then .ok false else .error refusal
  writeText p text := do
    if p.hasNul then return .error .embeddedNull
    let here ← IO.currentDir
    match ← (IO.FS.writeFile { here with toString := p.toText } text).toBaseIO with
    | .ok () => return .ok ()
    | .error e => return .error (accessErrorOf e)
  runModule p _ :=
    pure (.raised ("no interpreter to run the code of " ++ p.toText))

/-- Runs the command on the process's arguments and environment. -/
def main (args : List String) : IO UInt32 := do
  let level ← IO.getEnv "SYMSCAN_LOG_LEVEL"
  match ← runCommand args level with
  | .refused e =>
    IO.eprintln ("error: " ++ e.message)
    return 2
  | .finished code out err =>
    IO.print out
    IO.eprint err
    return (code % 256).toNat.toUInt32
