namespace OccurrenceScan

/-!
# Indexes, documents and occurrences

A code-intelligence index is a list of documents. A document has a relative path and a list of
occurrences; an occurrence names a symbol and carries its source range as 32-bit integers.
A field that was never set holds its default: the empty string or the empty list.

Documents are looked up by exact path, and the first document with that path wins.
-/

/-- A symbol at a place in a document; the range values are kept as the index stores them. -/
structure Occurrence where
  range : List Int32 := []
  symbol : String := ""
  deriving DecidableEq, Repr, Inhabited

/-- A source file of the index, named by its path relative to the project root. -/
structure Document where
  path : String := ""
  occurrences : List Occurrence := []
  deriving DecidableEq, Repr, Inhabited

/-- A code-intelligence index: its documents, in order. -/
structure Index where
  documents : List Document := []
  deriving DecidableEq, Repr, Inhabited

namespace Occurrence

/-- The range values as integers. -/
def rangeValues (o : Occurrence) : List Int :=
  o.range.map Int32.toInt

end Occurrence

namespace Index

/-- The position of the first document whose path is exactly `path`. -/
def locate (ix : Index) (path : String) : Option Nat :=
  ix.documents.findIdx? fun d => d.path == path

/-- The first document whose path is exactly `path`. -/
def document? (ix : Index) (path : String) : Option Document :=
  ix.documents.find? fun d => d.path == path

/-- How many documents the index has. -/
def documentCount (ix : Index) : Nat :=
  ix.documents.length

/-- How many occurrences the index has, over all its documents. -/
def occurrenceCount (ix : Index) : Nat :=
  (ix.documents.map fun d => d.occurrences.length).foldr (· + ·) 0

end Index

end OccurrenceScan
