import OccurrenceScan.Proofs.ScanReport
import Mathlib.Data.List.Induction
import Mathlib.Tactic.SplitIfs
import Mathlib.Tactic.Tauto

/-!
# Suffix sets

A suffix set is built from a list of suffixes. The empty list is refused first, then a list
holding the empty string; any other list gives the set of its suffixes in the order they first
occur. This module says that order without the construction's walk: `firstOccurrences xs` keeps
the string at each place of `xs` that is the first place of that string.

Main statement: `SuffixSet.ofList_keeps_first_occurrences`. Its parts are the lemmas before it:
the walk keeps first occurrences (`keepFirst_eq_firstOccurrences`), keeps no string twice, loses
none, changes nothing on a list without repeats, and the set accepts a symbol exactly when the
symbol is some text followed by one of the listed suffixes.
-/

namespace OccurrenceScan

/-- The strings of `xs` at the places where each first occurs, in order. -/
def firstOccurrences (xs : List String) : List String :=
  (xs.zipIdx.filter fun p => xs.idxOf p.1 = p.2).map Prod.fst

/-! ### The walk with a seen list -/

/-- Appending a string to the walked list appends it to the result unless it was seen or met. -/
theorem keepFirst_append_singleton (seen xs : List String) (x : String) :
    keepFirst seen (xs ++ [x]) = keepFirst seen xs ++ if x ∈ seen ∨ x ∈ xs then [] else [x] := by
  induction xs generalizing seen with
  | nil => simp [keepFirst]
  | cons y ys ih =>
    by_cases hy : y ∈ seen
    · -- `y` was seen, so meeting it again adds nothing
      have same : (x ∈ seen ∨ x ∈ y :: ys) ↔ (x ∈ seen ∨ x ∈ ys) := by
        rw [List.mem_cons]
        constructor
        · rintro (h | rfl | h)
          · exact .inl h
          · exact .inl hy
          · exact .inr h
        · rintro (h | h)
          · exact .inl h
          · exact .inr (.inr h)
      simp only [List.cons_append, keepFirst, if_pos hy, ih, same]
    · have same : (x ∈ y :: seen ∨ x ∈ ys) ↔ (x ∈ seen ∨ x ∈ y :: ys) := by
        simp only [List.mem_cons, or_assoc, or_left_comm]
      simp only [List.cons_append, keepFirst, if_neg hy, ih, same, List.cons_append]

/-- First occurrences of a list with one more string: the new string counts only if it is new. -/
theorem firstOccurrences_append_singleton (xs : List String) (x : String) :
    firstOccurrences (xs ++ [x]) = firstOccurrences xs ++ if x ∈ xs then [] else [x] := by
  -- a string of `xs` has the same first place in `xs ++ [x]`
  have earlier : ∀ p ∈ xs.zipIdx, (xs ++ [x]).idxOf p.1 = xs.idxOf p.1 := fun p hp => by
    rw [List.idxOf_append, if_pos (List.fst_mem_of_mem_zipIdx hp)]
  have last : (xs ++ [x]).idxOf x = xs.length ↔ x ∉ xs := by
    rw [List.idxOf_append]
    by_cases hx : x ∈ xs
    · simp only [hx, if_true, not_true_eq_false, iff_false]
      exact Nat.ne_of_lt (List.idxOf_lt_length_of_mem hx)
    · simp [hx]
  unfold firstOccurrences
  rw [List.zipIdx_append, List.filter_append, List.filter_congr fun p hp => by rw [earlier p hp]]
  by_cases hx : x ∈ xs
  · simp [hx, last]
  · simp [hx, last]

/-- The walk from an empty seen list keeps exactly the first occurrences. -/
theorem keepFirst_eq_firstOccurrences (xs : List String) : keepFirst [] xs = firstOccurrences xs := by
  induction xs using List.reverseRecOn with
  | nil => rfl
  | append_singleton xs x ih =>
    rw [keepFirst_append_singleton, firstOccurrences_append_singleton, ih]
    simp

/-- The walk keeps no string twice. -/
theorem keepFirst_nodup (seen xs : List String) : (keepFirst seen xs).Nodup := by
  induction xs generalizing seen with
  | nil => exact List.nodup_nil
  | cons x xs ih =>
    unfold keepFirst
    split
    · exact ih seen
    · exact List.nodup_cons.2 ⟨fun h => (mem_keepFirst.1 h).2 (.head _), ih (x :: seen)⟩

/-- On a list without repeats and with nothing seen yet, the walk keeps everything. -/
theorem keepFirst_of_nodup {seen xs : List String} (hxs : xs.Nodup) (hseen : ∀ x ∈ xs, x ∉ seen) :
    keepFirst seen xs = xs := by
  induction xs generalizing seen with
  | nil => rfl
  | cons x xs ih =>
    obtain ⟨hx, hrest⟩ := List.nodup_cons.1 hxs
    rw [keepFirst, if_neg (hseen x (.head _))]
    congr 1
    apply ih hrest
    intro y hy hyseen
    rcases List.mem_cons.1 hyseen with rfl | h
    · exact hx hy
    · exact hseen y (.tail _ hy) h

/-! ### Suffixes -/

/-- A string ends with `p` exactly when it is some text followed by `p`. -/
theorem toList_suffix_iff {p s : String} : p.toList <:+ s.toList ↔ ∃ t, s = t ++ p := by
  constructor
  · rintro ⟨l, hl⟩
    exact ⟨String.ofList l, String.ext (by simp [hl])⟩
  · rintro ⟨t, rfl⟩
    exact ⟨t.toList, by simp⟩

namespace SuffixSet

/-- The set of first occurrences of a list accepts a symbol exactly when the symbol is some text
followed by a listed suffix. -/
theorem accepts_firstOccurrences_iff (xs : List String) (s : String) :
    accepts ⟨firstOccurrences xs⟩ s = true ↔ ∃ t, ∃ p ∈ xs, s = t ++ p := by
  simp only [accepts, List.any_eq_true, List.isSuffixOf_iff_suffix, toList_suffix_iff,
    ← keepFirst_eq_firstOccurrences, mem_keepFirst, List.not_mem_nil, not_false_eq_true, and_true]
  constructor
  · rintro ⟨p, hp, t, rfl⟩
    exact ⟨t, p, hp, rfl⟩
  · rintro ⟨t, p, hp, rfl⟩
    exact ⟨p, hp, t, rfl⟩

/-- A suffix list is refused with "SymbolMatcher requires at least one symbol suffix." exactly
when it is empty, and with "Symbol suffixes must be non-empty strings." exactly when it is not
empty but holds `""`. Otherwise its set is its first occurrences: no suffix twice, every listed
suffix kept, a second pass changing nothing, and a symbol accepted exactly when it is some text
followed by a listed suffix, so that lists with the same members accept the same symbols. -/
theorem ofList_keeps_first_occurrences (xs : List String) :
    ((∃ e, ofList xs = .error e ∧
        e.message = "SymbolMatcher requires at least one symbol suffix.") ↔ xs = []) ∧
    ((∃ e, ofList xs = .error e ∧
        e.message = "Symbol suffixes must be non-empty strings.") ↔ xs ≠ [] ∧ "" ∈ xs) ∧
    (∀ m, ofList xs = .ok m ↔ xs ≠ [] ∧ "" ∉ xs ∧ m.suffixes = firstOccurrences xs) ∧
    (firstOccurrences xs).Nodup ∧
    (∀ x, x ∈ firstOccurrences xs ↔ x ∈ xs) ∧
    firstOccurrences (firstOccurrences xs) = firstOccurrences xs ∧
    (∀ s, accepts ⟨firstOccurrences xs⟩ s = true ↔ ∃ t, ∃ p ∈ xs, s = t ++ p) ∧
    (∀ ys, (∀ x, x ∈ ys ↔ x ∈ xs) →
      ∀ s, accepts ⟨firstOccurrences ys⟩ s = accepts ⟨firstOccurrences xs⟩ s) := by
  have nodup : (firstOccurrences xs).Nodup := keepFirst_eq_firstOccurrences xs ▸ keepFirst_nodup [] xs
  have members : ∀ x, x ∈ firstOccurrences xs ↔ x ∈ xs := fun x => by
    simp [← keepFirst_eq_firstOccurrences, mem_keepFirst]
  refine ⟨?noSuffix, ?emptySuffix, ?built, nodup, members, ?again,
    accepts_firstOccurrences_iff xs, ?sameMembers⟩
  case noSuffix =>
    by_cases hxs : xs = []
    · subst hxs
      exact iff_of_true ⟨.noSuffix, rfl, rfl⟩ rfl
    · refine iff_of_false ?_ hxs
      rintro ⟨e, he, hmsg⟩
      unfold ofList at he
      split_ifs at he with hempty hcontains
      · exact hxs (List.isEmpty_iff.1 hempty)
      · cases he
        exact absurd hmsg (by decide)
  case emptySuffix =>
    unfold ofList
    by_cases hxs : xs = []
    · subst hxs
      simp [SuffixError.message]
    · have hempty : xs.isEmpty = false := List.isEmpty_eq_false_iff.2 hxs
      by_cases hmem : "" ∈ xs
      · simp [hempty, hmem, hxs, SuffixError.message]
      · simp [hempty, hmem]
  case built =>
    intro m
    unfold ofList
    by_cases hxs : xs = []
    · simp [hxs]
    · have hempty : xs.isEmpty = false := List.isEmpty_eq_false_iff.2 hxs
      by_cases hmem : "" ∈ xs
      · simp [hempty, hmem]
      · cases m
        simp [hempty, hmem, hxs, keepFirst_eq_firstOccurrences, eq_comm]
  case again =>
    rw [← keepFirst_eq_firstOccurrences (firstOccurrences xs)]
    exact keepFirst_of_nodup nodup (fun _ _ h => List.not_mem_nil h)
  case sameMembers =>
    intro ys hys s
    rw [Bool.eq_iff_iff, accepts_firstOccurrences_iff, accepts_firstOccurrences_iff]
    simp only [hys]

/-- A repeated suffix is kept once at its first place, and a reordered list accepts the same
symbols. -/
theorem ofList_repeated_suffix :
    ofList ["b#", "a#", "b#"] = .ok ⟨["b#", "a#"]⟩ ∧
      ∀ s, accepts ⟨firstOccurrences ["a#", "b#"]⟩ s =
        accepts ⟨firstOccurrences ["b#", "a#", "b#"]⟩ s :=
  ⟨(ofList_keeps_first_occurrences ["b#", "a#", "b#"]).2.2.1 _ |>.2 ⟨by simp, by simp, by decide⟩,
    (ofList_keeps_first_occurrences ["b#", "a#", "b#"]).2.2.2.2.2.2.2 ["a#", "b#"]
      fun x => by simp only [List.mem_cons, List.not_mem_nil, or_false]; tauto⟩

end SuffixSet

end OccurrenceScan
