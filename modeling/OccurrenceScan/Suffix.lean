namespace OccurrenceScan

/-!
# Suffix sets

A scan reports the occurrences whose symbol ends with one of a set of suffixes. The set is given
as a list: an empty list, or a list holding the empty string (which every symbol would end
with), is refused, the empty list first. A repeated suffix is kept once, at its first place, so
the set remembers the order in which its suffixes were first given.

Matching compares code points exactly: no normalisation and no case folding.
-/

/-- Why a list of suffixes makes no suffix set. -/
inductive SuffixError where
  /-- The list has no suffix at all. -/
  | noSuffix
  /-- The list holds the empty string. -/
  | emptySuffix
  deriving DecidableEq, Repr

namespace SuffixError

/-- The text a refused suffix list is reported with. -/
def message : SuffixError → String
  | .noSuffix => "SymbolMatcher requires at least one symbol suffix."
  | .emptySuffix => "Symbol suffixes must be non-empty strings."

end SuffixError

/-- The first occurrence of each string of `xs`, in order, skipping those already in `seen`. -/
def keepFirst (seen : List String) : List String → List String
  | [] => []
  | x :: xs => if x ∈ seen then keepFirst seen xs else x :: keepFirst (x :: seen) xs

/-- A non-empty set of non-empty suffixes, in the order they were first given. -/
structure SuffixSet where
  suffixes : List String
  deriving DecidableEq, Repr

namespace SuffixSet

/-- Builds the suffix set of a list, refusing an empty list, then one that holds `""`. -/
def ofList (xs : List String) : Except SuffixError SuffixSet :=
  if xs.isEmpty then .error .noSuffix
  else if xs.contains "" then .error .emptySuffix
  else .ok ⟨keepFirst [] xs⟩

/-- Whether `symbol` ends with one of the set's suffixes, comparing code points. -/
def accepts (m : SuffixSet) (symbol : String) : Bool :=
  m.suffixes.any fun suffix => suffix.toList.isSuffixOf symbol.toList

end SuffixSet

theorem keepFirst_sublist (seen xs : List String) : List.Sublist (keepFirst seen xs) xs := by
  induction xs generalizing seen with
  | nil => exact List.Sublist.slnil
  | cons x xs ih =>
    unfold keepFirst
    split
    · exact (ih seen).cons x
    · exact (ih (x :: seen)).cons_cons x

end OccurrenceScan
