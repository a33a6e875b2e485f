import OccurrenceScan.Index.Basic
import OccurrenceScan.Text.Utf8
import OccurrenceScan.Wire.Field

namespace OccurrenceScan

open Wire

/-!
# Writing an index to the wire

The standard serialisation: fields in number order, a field holding its default (the empty
string or the empty list) left out, range values packed into one run, each value written as its
64-bit sign extension.
-/

namespace Occurrence

/-- The bytes of an occurrence's message. -/
def encode (o : Occurrence) : List UInt8 :=
  (if o.range = [] then [] else delimitedField 1 (o.range.flatMap fun x => writeVarint (wordOfInt32 x))) ++
    (if o.symbol = "" then [] else delimitedField 2 (Utf8.encode o.symbol))

end Occurrence

namespace Document

/-- The bytes of a document's message. -/
def encode (d : Document) : List UInt8 :=
  (if d.path = "" then [] else delimitedField 1 (Utf8.encode d.path)) ++
    d.occurrences.flatMap fun o => delimitedField 2 o.encode

end Document

namespace Index

/-- The bytes of an index. -/
def encode (ix : Index) : List UInt8 :=
  ix.documents.flatMap fun d => delimitedField 2 d.encode

end Index

end OccurrenceScan
