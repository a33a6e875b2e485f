import OccurrenceScan.Log
import OccurrenceScan.Report
import OccurrenceScan.Text.Numeral

namespace OccurrenceScan

/-!
# The command line

`symscan [INDEX_PATH | --index-path P] [--document D] [--symbol-suffix S]...
[--empty-symbol-suffix] [--format text|jsonl] [--output|-o FILE] [--bindings-dir DIR]
[--config FILE] [--log-level DEBUG|INFO|WARNING|ERROR]`, with `--help`/`-h` and
`--version`/`-V` answered wherever they stand before `--`.

An option takes its value from the next token or after `=` (`--document=src/a.ts`); the short
`-o` also takes one written right after it (`-oreport.txt`, `-o=report.txt`). A token that starts
with `-` and does not read as a number is an option, so it cannot be a value; after `--` every
token is an argument. Numbers here are real or complex, whole in any base with its prefix, or
slices of whole numbers such as `-1:2`; a dash and one letter, such as `-j`, is never one.

`--symbol-suffix` may repeat and collects its values in order. `--empty-symbol-suffix` gives the
empty list; written with a value it takes a truth value (`yes`, `y`, `1`, `true` or `t` to empty
the list, `no`, `n`, `0`, `false` or `f` to leave it alone, in any case). The list may not be both
given and emptied, nor emptied twice. Every other option may be given once. There is one
argument, the index path, which `--index-path` also gives. The format and log level must be one
of their choices exactly; the log level defaults to the environment's `SYMSCAN_LOG_LEVEL`, then
to `WARNING`.
-/

/-- What a scan is told on the command line; an option not given is `none`. -/
structure ScanOptions where
  indexPath : Option String := none
  document : Option String := none
  symbolSuffixes : Option (List String) := none
  bindingsDir : Option String := none
  outputFormat : Option ReportFormat := none
  output : Option String := none
  configFile : Option String := none
  logLevel : Option LogLevel := none
  deriving DecidableEq, Repr

/-- What a command line asks for. -/
inductive Invocation where
  | help
  | version
  | scan (opts : ScanOptions) (level : LogLevel)
  deriving DecidableEq, Repr

/-- Why a command line was refused. -/
inductive ArgsError where
  | unknownOption (token : String)
  | missingValue (option : String)
  | repeated (option : String)
  | extraArgument (token : String)
  | badChoice (option value : String)
  deriving DecidableEq, Repr

namespace ArgsError

/-- The text a refused command line is reported with. -/
def message : ArgsError → String
  | .unknownOption t => "Unknown option: " ++ t
  | .missingValue o => "Option " ++ o ++ " requires an argument."
  | .repeated o => "Option " ++ o ++ " was given more than once."
  | .extraArgument t => "Unused token: " ++ t
  | .badChoice o v => "Invalid value for " ++ o ++ ": " ++ v

end ArgsError

/-- The options a scan takes. -/
inductive ScanOption where
  | indexPath
  | document
  | symbolSuffix
  | emptySymbolSuffix
  | bindingsDir
  | format
  | output
  | config
  | logLevel
  deriving DecidableEq, Repr

namespace ScanOption

/-- The option a name stands for. -/
def ofName? : String → Option ScanOption
  | "--index-path" => some .indexPath
  | "--document" => some .document
  | "--symbol-suffix" => some .symbolSuffix
  | "--empty-symbol-suffix" => some .emptySymbolSuffix
  | "--bindings-dir" => some .bindingsDir
  | "--format" => some .format
  | "--output" => some .output
  | "-o" => some .output
  | "--config" => some .config
  | "--log-level" => some .logLevel
  | _ => none

end ScanOption

/-- Whether a token is a dash and one letter, the form of a short option. -/
def isShortForm (token : String) : Bool :=
  match token.toList with
  | ['-', c] => c.isAlpha
  | _ => false

/-- Whether a token reads as a number, and so is a value even when it starts with `-`: a real
or complex number, a whole number in the base its prefix names, or a slice of whole numbers. A
dash and one letter is the form of a short option and never a number, although `-j` alone would
read as the imaginary unit. -/
def isNumberLike (token : String) : Bool :=
  !isShortForm token &&
    (Numeral.isComplex token || Numeral.isWhole true token || Numeral.isSlice token)

/-- Whether a token is an option: it starts with `-` and does not read as a number. -/
def isOptionLike (token : String) : Bool :=
  token.startsWith "-" && !isNumberLike token

/-- The truth value a word stands for, in any case: `yes`, `y`, `1`, `true`, `t` or `no`, `n`,
`0`, `false`, `f`. -/
def truthValue? (word : String) : Option Bool :=
  let w := String.ofList (word.toList.map Char.toLower)
  if w = "yes" || w = "y" || w = "1" || w = "true" || w = "t" then some true
  else if w = "no" || w = "n" || w = "0" || w = "false" || w = "f" then some false
  else none

namespace ScanOptions

/-- Sets a value that may be given once. -/
def setOnce {α : Type} (name : String) (current : Option α) (v : α) : Except ArgsError (Option α) :=
  match current with
  | some _ => .error (.repeated name)
  | none => .ok (some v)

/-- Takes the value of an option. -/
def apply (opts : ScanOptions) (name : String) (o : ScanOption) (value : String) :
    Except ArgsError ScanOptions :=
  match o with
  | .indexPath => return { opts with indexPath := ← setOnce name opts.indexPath value }
  | .document => return { opts with document := ← setOnce name opts.document value }
  | .symbolSuffix =>
    match opts.symbolSuffixes with
    | some [] => .error (.repeated name)
    | current => return { opts with symbolSuffixes := some (current.getD [] ++ [value]) }
  | .emptySymbolSuffix =>
    match opts.symbolSuffixes with
    | none => return { opts with symbolSuffixes := some [] }
    | some _ => .error (.repeated name)
  | .bindingsDir => return { opts with bindingsDir := ← setOnce name opts.bindingsDir value }
  | .format =>
    match value with
    | "text" => return { opts with outputFormat := ← setOnce name opts.outputFormat .text }
    | "jsonl" => return { opts with outputFormat := ← setOnce name opts.outputFormat .jsonl }
    | _ => .error (.badChoice name value)
  | .output => return { opts with output := ← setOnce name opts.output value }
  | .config => return { opts with configFile := ← setOnce name opts.configFile value }
  | .logLevel =>
    match LogLevel.ofName? value with
    | some l => return { opts with logLevel := ← setOnce name opts.logLevel l }
    | none => .error (.badChoice name value)

/-- Takes an argument: the index path, which may be given once. -/
def argument (opts : ScanOptions) (token : String) : Except ArgsError ScanOptions :=
  match opts.indexPath with
  | some _ => .error (.extraArgument token)
  | none => .ok { opts with indexPath := some token }

/-- The name of a long option as it is looked up: an underscore in it reads as a hyphen. -/
def longName (name : List Char) : String :=
  String.ofList (name.map fun c => if c = '_' then '-' else c)

/-- An option token's name and the value written inside it, if any: after `=` in a long option,
or right after a short one, past an `=` if one stands there. -/
def splitOption (token : String) : String × Option String :=
  match token.toList with
  | '-' :: '-' :: _ =>
    match token.toList.splitOn '=' with
    | n :: v :: more => (longName n, some (String.ofList ("=".toList.intercalate (v :: more))))
    | _ => (longName token.toList, none)
  | '-' :: c :: more@(_ :: _) =>
    (String.ofList ['-', c], some (String.ofList (match more with | '=' :: v => v | v => v)))
  | _ => (token, none)

/-- Reads tokens into options; after `--` every token is an argument. -/
def readTokens : List String → Bool → ScanOptions → Except ArgsError ScanOptions
  | [], _, opts => .ok opts
  | token :: rest, true, opts => do readTokens rest true (← opts.argument token)
  | token :: rest, false, opts =>
    if token = "--" then readTokens rest true opts
    else if isOptionLike token then
      let (name, inline) := splitOption token
      match ScanOption.ofName? name with
      | none => .error (.unknownOption token)
      | some .emptySymbolSuffix =>
        match inline.map truthValue? with
        | none | some (some true) => do readTokens rest false (← opts.apply name .emptySymbolSuffix "")
        | some (some false) => readTokens rest false opts
        | some none => .error (.badChoice name (inline.getD ""))
      | some o =>
        match inline with
        | some v => do readTokens rest false (← opts.apply name o v)
        | none =>
          match rest with
          | v :: more =>
            if isOptionLike v then .error (.missingValue name)
            else do readTokens more false (← opts.apply name o v)
          | [] => .error (.missingValue name)
    else do readTokens rest false (← opts.argument token)

end ScanOptions

namespace Invocation

/-- Reads a command line, with the log level the environment sets, if any. -/
def parse (args : List String) (environmentLevel : Option String) : Except ArgsError Invocation :=
  let flags := args.takeWhile (· ≠ "--")
  if flags.any (fun t => t = "--help" || t = "-h") then .ok .help
  else if flags.any (fun t => t = "--version" || t = "-V") then .ok .version
  else do
    let opts ← ScanOptions.readTokens args false {}
    let level ← match opts.logLevel, environmentLevel with
      | some l, _ => pure l
      | none, some v =>
        match LogLevel.ofName? v with
        | some l => pure l
        | none => .error (.badChoice "--log-level" v)
      | none, none => pure .warning
    pure (.scan opts level)

end Invocation

end OccurrenceScan
