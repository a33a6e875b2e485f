import OccurrenceScan.Range
import OccurrenceScan.Suffix
import OccurrenceScan.Index.Basic

namespace OccurrenceScan

/-!
# Scanning one document

A scan names a document path and a list of symbol suffixes. It first builds the suffix set, so
a refused suffix list is reported even when no document has the path. It then takes the first
document with that path and walks its occurrences in order: an occurrence whose symbol ends
with one of the suffixes is matched and its range classified. The walk stops at the first
matched occurrence whose range is malformed; the ranges of occurrences that do not match are
never looked at.
-/

/-- What a scan looks for: a document path and the symbol suffixes to report. -/
structure ScanSpec where
  document : String
  suffixes : List String
  deriving DecidableEq, Repr

namespace ScanSpec

/-- The document a scan looks at unless it is told another. -/
def defaultDocument : String :=
  "src/app/components/lender-qview-task-list-page/lender-qview-task-list-page/" ++
    "lender-qview-task-list-page.component.ts"

/-- The symbol suffixes a scan reports unless it is told others. -/
def defaultSuffixes : List String :=
  ["'launchdarkly-js-client-sdk'`/LDFlagSet#", "'launchdarkly-js-sdk-common'`/LDFlagSet#"]

/-- The scan of the default document for the default suffixes. -/
def default : ScanSpec :=
  ⟨defaultDocument, defaultSuffixes⟩

end ScanSpec

/-- A matched occurrence: the document's path, the symbol, and its classified range. -/
structure Match where
  path : String
  symbol : String
  range : Range
  deriving DecidableEq, Repr

/-- What a scan found, in the order a reader of its matches meets it. -/
inductive Scan where
  /-- The suffix list makes no suffix set. -/
  | refused (e : SuffixError)
  /-- No document has the path. -/
  | missing
  /-- The matches in order, and the malformed range that stopped the walk, if one did. -/
  | found (matched : List Match) (stop : Option MalformedRange)
  deriving DecidableEq, Repr

/-- Classifies the ranges of matched occurrences in order, up to the first malformed one. -/
def classifyMatches (path : String) : List Occurrence → List Match × Option MalformedRange
  | [] => ([], none)
  | o :: os =>
    match Range.classify o.rangeValues with
    | .error m => ([], some m)
    | .ok r =>
      let rest := classifyMatches path os
      (⟨path, o.symbol, r⟩ :: rest.1, rest.2)

namespace Index

/-- Scans the document `spec.document` of an index for the suffixes `spec.suffixes`. -/
def scan (ix : Index) (spec : ScanSpec) : Scan :=
  match SuffixSet.ofList spec.suffixes with
  | .error e => .refused e
  | .ok set =>
    match ix.document? spec.document with
    | none => .missing
    | some doc =>
      let (ms, stop) := classifyMatches doc.path (doc.occurrences.filter fun o => set.accepts o.symbol)
      .found ms stop

end Index

end OccurrenceScan
