namespace OccurrenceScan

namespace Charset

/-!
# Double-byte character sets

A double-byte character set gives characters for some pairs of a lead byte and a trail byte.
A table lists them as runs: a lead byte, the first trail byte of the run, and the characters
that this trail byte and the ones after it stand for, one each. The runs are sorted by lead
byte and then by trail byte and do not overlap, so the run that may hold a pair is the last one
that starts at or before it, found by halving. A few pairs stand for two characters, a letter
and a combining mark; a table lists them apart.
-/

/-- A run of consecutive trail bytes under one lead byte, with the characters they stand for. -/
structure Run where
  lead : Nat
  trail : Nat
  text : String
  deriving Repr

/-- A double-byte character set: its runs, sorted by lead byte and then by trail byte, and the
pairs of bytes that stand for two characters. -/
structure Table where
  runs : Array Run
  pairs : List (Nat × Nat × Nat × Nat)
  deriving Repr

namespace Run

/-- Whether the run starts at or before the pair of `lead` and `trail`. -/
def startsBy (r : Run) (lead trail : Nat) : Bool :=
  r.lead < lead || (r.lead = lead && r.trail ≤ trail)

/-- The character the run gives for the pair of `lead` and `trail`, if it covers the pair. -/
def find? (r : Run) (lead trail : Nat) : Option Nat :=
  if r.lead = lead && r.trail ≤ trail then
    (r.text.toList[trail - r.trail]?).map Char.toNat
  else none

end Run

namespace Table

/-- The number of runs, among those with index from `lo` up to `hi`, that start at or before the
pair, added to `lo`; the runs before `lo` are known to start at or before it. -/
def countBy (runs : Array Run) (lead trail : Nat) (lo hi : Nat) : Nat :=
  if lo < hi then
    let mid := (lo + hi) / 2
    if (runs.getD mid ⟨0, 0, ""⟩).startsBy lead trail then countBy runs lead trail (mid + 1) hi
    else countBy runs lead trail lo mid
  else lo
  termination_by hi - lo

/-- The characters the set gives for the pair of `lead` and `trail`: one from the run that covers
the pair, or two from the pairs listed apart. -/
def find? (t : Table) (lead trail : Nat) : Option (List Nat) :=
  let single :=
    match countBy t.runs lead trail 0 t.runs.size with
    | 0 => none
    | k + 1 => (t.runs.getD k ⟨0, 0, ""⟩).find? lead trail
  match single with
  | some c => some [c]
  | none => (t.pairs.find? fun (l, r, _, _) => l = lead && r = trail).map fun (_, _, x, y) => [x, y]

end Table

end Charset

end OccurrenceScan
