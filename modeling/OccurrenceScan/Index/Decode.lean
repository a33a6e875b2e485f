import OccurrenceScan.Index.Basic
import OccurrenceScan.Text.Utf8
import OccurrenceScan.Wire.Field

namespace OccurrenceScan

open Wire

/-!
# Reading an index from the wire

An index is field 2 of the top message, repeated, each a document. A document has its path in
field 1 and its occurrences in field 2, repeated. An occurrence has its range in field 1, as
single varints or packed runs of them, mixed in any order, and its symbol in field 2. A field
arriving with another number, or with a wire type its number does not take, is skipped. A
repeated field appends; a string field keeps its last value, which must be UTF-8.

Messages nest: the index is at depth 0, a document at 1, an occurrence at 2, and groups may
nest inside a message as deep as `depthLimit` minus its depth.
-/

/-- How deep messages and groups may nest together. -/
def depthLimit : Nat := 100

namespace Occurrence

/-- Adds one field to an occurrence: range values from field 1, the symbol from field 2. -/
def applyField (o : Occurrence) : Field → Except DecodeFault Occurrence
  | ⟨1, .varint w⟩ => .ok { o with range := o.range ++ [int32OfWord w] }
  | ⟨1, .delimited p⟩ =>
    match readPacked p with
    | some ws => .ok { o with range := o.range ++ ws.map int32OfWord }
    | none => .error .corrupt
  | ⟨2, .delimited p⟩ =>
    match Utf8.decodeString? p with
    | some s => .ok { o with symbol := s }
    | none => .error .badUtf8
  | _ => .ok o

/-- Reads an occurrence from the bytes of its message. -/
def decode (bytes : List UInt8) : Except DecodeFault Occurrence :=
  decodeFields (depthLimit - 2) applyField {} bytes

end Occurrence

namespace Document

/-- Adds one field to a document: its path from field 1, an occurrence from field 2. -/
def applyField (d : Document) : Field → Except DecodeFault Document
  | ⟨1, .delimited p⟩ =>
    match Utf8.decodeString? p with
    | some s => .ok { d with path := s }
    | none => .error .badUtf8
  | ⟨2, .delimited p⟩ =>
    match Occurrence.decode p with
    | .ok o => .ok { d with occurrences := d.occurrences ++ [o] }
    | .error e => .error e
  | _ => .ok d

/-- Reads a document from the bytes of its message. -/
def decode (bytes : List UInt8) : Except DecodeFault Document :=
  decodeFields (depthLimit - 1) applyField {} bytes

end Document

namespace Index

/-- Adds one field to an index: a document from field 2. -/
def applyField (ix : Index) : Field → Except DecodeFault Index
  | ⟨2, .delimited p⟩ =>
    match Document.decode p with
    | .ok d => .ok { ix with documents := ix.documents ++ [d] }
    | .error e => .error e
  | _ => .ok ix

/-- Reads an index from its bytes. -/
def decode (bytes : List UInt8) : Except DecodeFault Index :=
  decodeFields depthLimit applyField {} bytes

/-- The text an index that does not decode is reported with. -/
def decodeFailureText (fault : DecodeFault) : String :=
  "Error parsing message with type 'scip.Index': " ++ fault.reason

end Index

end OccurrenceScan
