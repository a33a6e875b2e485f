namespace OccurrenceScan

/-!
# Occurrence ranges

An occurrence carries its source range as a bare list of integers, and only the length of the
list says which coordinates it holds: two values are a point, three a span on one line, four a
span over several lines, and fewer than two no position at all. Five or more values fit no
shape and are refused as a `MalformedRange`.

A range is shown 1-indexed: every coordinate is printed plus one, in unbounded integers, so a
stored `-1` shows as `0` and `2147483647` as `2147483648`.
-/

/-- The shape of an occurrence's source range, read off the number of values it carries. -/
inductive Range where
  | empty
  | point (line char : Int)
  | sameLine (line startChar endChar : Int)
  | multiLine (startLine startChar endLine endChar : Int)
  deriving DecidableEq, Repr

/-- A range list with five or more values, which no shape fits. -/
structure MalformedRange where
  values : List Int
  deriving DecidableEq, Repr

/-- Decimal text of an integer, with a leading minus sign when it is negative. -/
def decimal (n : Int) : String :=
  if n < 0 then "-" ++ Nat.repr n.natAbs else Nat.repr n.natAbs

/-- Integers written as a bracketed list separated by a comma and a space: `[1, -2, 3]`. -/
def bracketedList (values : List Int) : String :=
  "[" ++ ", ".intercalate (values.map decimal) ++ "]"

namespace MalformedRange

/-- The text a malformed range is reported with. -/
def message (m : MalformedRange) : String :=
  "Malformed SCIP range " ++ bracketedList m.values ++ ": expected at most 4 integers, got " ++
    Nat.repr m.values.length ++ "."

end MalformedRange

namespace Range

/-- Classifies a list of range values by its length; five or more values are malformed. -/
def classify : List Int → Except MalformedRange Range
  | [] => .ok .empty
  | [_] => .ok .empty
  | [line, char] => .ok (.point line char)
  | [line, startChar, endChar] => .ok (.sameLine line startChar endChar)
  | [startLine, startChar, endLine, endChar] => .ok (.multiLine startLine startChar endLine endChar)
  | values => .error ⟨values⟩

/-- A coordinate as shown to a reader: one more than the stored value. -/
def coordinate (n : Int) : String :=
  decimal (n + 1)

/-- The 1-indexed text of a range: `l:c`, `l:s-e`, `a:b,c:d`, or `∅` for no position. -/
def display : Range → String
  | .empty => "∅"
  | .point line char => coordinate line ++ ":" ++ coordinate char
  | .sameLine line startChar endChar =>
    coordinate line ++ ":" ++ coordinate startChar ++ "-" ++ coordinate endChar
  | .multiLine startLine startChar endLine endChar =>
    coordinate startLine ++ ":" ++ coordinate startChar ++ "," ++
      coordinate endLine ++ ":" ++ coordinate endChar

/-- The text of a list of range values: its classification, displayed. -/
def format (vs : List Int) : Except MalformedRange String :=
  (classify vs).map display

/-- The values a range was classified from, in order. -/
def values : Range → List Int
  | .empty => []
  | .point line char => [line, char]
  | .sameLine line startChar endChar => [line, startChar, endChar]
  | .multiLine startLine startChar endLine endChar => [startLine, startChar, endLine, endChar]

theorem classify_values_of_length_le (vs : List Int) (h : 2 ≤ vs.length) (h' : vs.length ≤ 4) :
    (classify vs).map values = .ok vs := by
  match vs, h, h' with
  | [_, _], _, _ => rfl
  | [_, _, _], _, _ => rfl
  | [_, _, _, _], _, _ => rfl

theorem classify_eq_error_iff (vs : List Int) :
    (∃ m, classify vs = .error m) ↔ 5 ≤ vs.length := by
  match vs with
  | [] => simp [classify]
  | [_] => simp [classify]
  | [_, _] => simp [classify]
  | [_, _, _] => simp [classify]
  | [_, _, _, _] => simp [classify]
  | _ :: _ :: _ :: _ :: _ :: _ => simp [classify]

end Range

end OccurrenceScan
