import OccurrenceScan.Scan
import OccurrenceScan.Text.JsonString

namespace OccurrenceScan

/-!
# Reports

A report writes one line per match, in the order the scan found them. A text line is the range's
display, ` | ` and the symbol. A JSON line is a compact object with the keys `path`, `symbol`,
`range` and `display` in that order, whose range object has its `kind` first and then the
coordinates of its shape. When the scan stopped at a malformed range, the lines of the matches
before it stay written and the report fails with that range.
-/

/-- How a report writes its lines. -/
inductive ReportFormat where
  | text
  | jsonl
  deriving DecidableEq, Repr

/-- Why a report stopped before its end. -/
inductive ReportFailure where
  | suffixes (e : SuffixError)
  | malformed (m : MalformedRange)
  deriving DecidableEq, Repr

namespace ReportFailure

/-- The text a failed report is reported with. -/
def message : ReportFailure → String
  | .suffixes e => e.message
  | .malformed m => m.message

end ReportFailure

/-- What a report wrote, and either the number of lines or why it stopped. -/
structure Report where
  written : String
  outcome : Except ReportFailure Nat

/-- The JSON object of a range: its kind first, then its coordinates in order. -/
def rangeRecord : Range → String
  | .empty => "\x7b\"kind\":\"empty\"\x7d"
  | .point line char =>
    "\x7b\"kind\":\"point\",\"line\":" ++ decimal line ++ ",\"char\":" ++ decimal char ++ "\x7d"
  | .sameLine line startChar endChar =>
    "\x7b\"kind\":\"same_line\",\"line\":" ++ decimal line ++ ",\"start_char\":" ++
      decimal startChar ++ ",\"end_char\":" ++ decimal endChar ++ "\x7d"
  | .multiLine startLine startChar endLine endChar =>
    "\x7b\"kind\":\"multi_line\",\"start_line\":" ++ decimal startLine ++ ",\"start_char\":" ++
      decimal startChar ++ ",\"end_line\":" ++ decimal endLine ++ ",\"end_char\":" ++
      decimal endChar ++ "\x7d"

namespace ReportFormat

/-- The line a format writes for one match, its line feed included. -/
def line : ReportFormat → Match → String
  | .text, m => m.range.display ++ " | " ++ m.symbol ++ "\n"
  | .jsonl, m =>
    "\x7b\"path\":" ++ JsonString.quote m.path ++ ",\"symbol\":" ++ JsonString.quote m.symbol ++
      ",\"range\":" ++ rangeRecord m.range ++ ",\"display\":" ++
      JsonString.quote m.range.display ++ "\x7d\n"

end ReportFormat

namespace Scan

/-- Writes the report of a scan in the given format. -/
def report (fmt : ReportFormat) : Scan → Report
  | .refused e => ⟨"", .error (.suffixes e)⟩
  | .missing => ⟨"", .ok 0⟩
  | .found ms stop =>
    let written := String.join (ms.map fmt.line)
    match stop with
    | none => ⟨written, .ok ms.length⟩
    | some m => ⟨written, .error (.malformed m)⟩

end Scan

end OccurrenceScan
