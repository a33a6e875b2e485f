import OccurrenceScan.Config.Toml.Value
import OccurrenceScan.Config.Payload
import OccurrenceScan.Report

namespace OccurrenceScan

/-!
# Scan settings

Settings give defaults for a scan: the document, the symbol suffixes, the report format and the
bindings directory, each possibly unset. They are read from a TOML table strictly: every key must
be one of the four, each value must have its type with no conversion (a string; an array of
strings; one of the strings `text` and `jsonl`; a string), and an array of suffixes is kept as it
is, empty, holding `""` or repeating itself. The first offending key in the table's order, and
within an array its first offending item, is reported.
-/

/-- Defaults for a scan; a setting that is absent is `none`. -/
structure Settings where
  document : Option String := none
  symbolSuffixes : Option (List String) := none
  outputFormat : Option ReportFormat := none
  bindingsDir : Option String := none
  deriving DecidableEq, Repr

namespace Toml.Value

/-- The name of a value's type in validation messages. -/
def typeName : Toml.Value → String
  | .string _ => "str"
  | .integer _ => "int"
  | .float => "float"
  | .boolean _ => "bool"
  | .dateTime => "datetime"
  | .date => "date"
  | .time => "time"
  | .array _ => "array"
  | .table _ => "object"

end Toml.Value

namespace Settings

/-- A validation message about a place: the summary, then ` - at ` and the place in backticks. -/
def placed (summary place : String) : String :=
  summary ++ " - at `" ++ place ++ "`"

/-- The strings of an array of suffixes, or the message about its first item that is not one. -/
def suffixStrings (items : List Toml.Value) : Except String (List String) :=
  let rec go (i : Nat) : List Toml.Value → Except String (List String)
    | [] => .ok []
    | .string s :: rest => (go (i + 1) rest).map (s :: ·)
    | v :: _ => .error (placed ("Expected `str`, got `" ++ v.typeName ++ "`")
        ("$.symbol_suffixes[" ++ Nat.repr i ++ "]"))
  go 0 items

/-- Sets one key of the settings from a table entry, or gives the validation message. -/
def setKey (s : Settings) (key : String) (v : Toml.Value) : Except String Settings :=
  let expectedText (place : String) : Except String Settings :=
    .error (placed ("Expected `str | null`, got `" ++ v.typeName ++ "`") place)
  match key with
  | "document" =>
    match v with
    | .string d => .ok { s with document := some d }
    | _ => expectedText "$.document"
  | "symbol_suffixes" =>
    match v with
    | .array items => (suffixStrings items).map fun xs => { s with symbolSuffixes := some xs }
    | _ => .error (placed ("Expected `array | null`, got `" ++ v.typeName ++ "`") "$.symbol_suffixes")
  | "output_format" =>
    match v with
    | .string "text" => .ok { s with outputFormat := some .text }
    | .string "jsonl" => .ok { s with outputFormat := some .jsonl }
    | .string other => .error (placed ("Invalid enum value " ++ Literal.quote other) "$.output_format")
    | _ => expectedText "$.output_format"
  | "bindings_dir" =>
    match v with
    | .string d => .ok { s with bindingsDir := some d }
    | _ => expectedText "$.bindings_dir"
  | other => .error ("Object contains unknown field `" ++ other ++ "`")

/-- The settings of a table, or the validation message of its first offending entry. -/
def ofTable (t : Toml.Table) : Except String Settings :=
  t.foldlM (fun s (k, v) => s.setKey k v) {}

/-- The report of settings that fail validation at a location. -/
def validationFailure (location message : String) : String :=
  "Config validation failed for " ++ location ++ ": " ++ (Payload.ofMessage message).render

end Settings

end OccurrenceScan
