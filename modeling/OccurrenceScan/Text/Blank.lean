namespace OccurrenceScan

namespace Blank

/-!
# Blank characters

The blanks are the characters with the Unicode whitespace property or the bidirectional class of
a separator (Unicode 14.0): the ASCII controls tab to carriage return and the file, group, record
and unit separators, the space, U+0085, the no-break space, the Ogham space mark, the spaces
U+2000 to U+200A, the line and paragraph separators, the narrow no-break space, the medium
mathematical space and the ideographic space. Stripping a text removes blanks at both ends.
-/

/-- The closed ranges of blank code points, in increasing order. -/
def blankRanges : List (Nat × Nat) :=
  [(0x9, 0xD), (0x1C, 0x20), (0x85, 0x85), (0xA0, 0xA0), (0x1680, 0x1680), (0x2000, 0x200A),
    (0x2028, 0x2029), (0x202F, 0x202F), (0x205F, 0x205F), (0x3000, 0x3000)]

/-- Whether a character is a blank. -/
def isBlank (c : Char) : Bool :=
  blankRanges.any fun (lo, hi) => lo ≤ c.toNat && c.toNat ≤ hi

/-- The characters without the blanks at both ends. -/
def trim (cs : List Char) : List Char :=
  ((cs.dropWhile isBlank).reverse.dropWhile isBlank).reverse

/-- The text without the blanks at both ends. -/
def strip (s : String) : String :=
  String.ofList (trim s.toList)

theorem isBlank_of_isWhitespace (c : Char) (h : c.isWhitespace = true) : isBlank c = true := by
  simp only [Char.isWhitespace, Bool.or_eq_true, decide_eq_true_eq] at h
  simp only [isBlank, blankRanges, List.any_cons, List.any_nil, Bool.or_false, Bool.or_eq_true,
    Bool.and_eq_true, decide_eq_true_eq]
  rcases h with ((h | h) | h) | h <;> subst h <;> decide

end Blank

end OccurrenceScan
