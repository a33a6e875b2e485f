import OccurrenceScan.Range

/-!
# Range texts

A range is shown as `l:c`, `l:s-e` or `a:b,c:d`, each coordinate one more than its stored value
and written in decimal with a minus sign when negative, or as `∅` when it has no position.

The text of a range can be read back. A coordinate is an optional minus sign and a run of
digits, and what follows it (`:`, `-`, `,` or the end) is never a digit, so the first run of
digits is always a whole coordinate. That holds even where the `-` separator is followed by a
negative coordinate's own sign, as in `1:1--2`. `Range.ofDisplay?` reads a text back, and
`ofDisplay?_display` says it gives back every range.

Main statements:

* `format_by_length`: what a list of values is classified as and how it is shown, by length;
* `display_injective`: the text of a range determines its shape and every coordinate;
* `format_eq_format_iff`: two lists of at most four values have the same text exactly when they
  are equal or both have no position.
-/

namespace OccurrenceScan

/-! ### Decimal numerals -/

/-- A text that does not go on with a decimal digit. -/
def NoDigitHead (cs : List Char) : Prop :=
  ∀ c ∈ cs.head?, c.isDigit = false

theorem noDigitHead_nil : NoDigitHead [] := by
  simp [NoDigitHead]

theorem noDigitHead_cons {c : Char} {cs : List Char} (h : c.isDigit = false) :
    NoDigitHead (c :: cs) := by
  simpa [NoDigitHead] using h

theorem isDigit_of_mem_toDigits {k : Nat} {c : Char} (h : c ∈ Nat.toDigits 10 k) :
    c.isDigit = true :=
  Nat.isDigit_of_mem_toDigits (by decide) (by decide) h

/-- The digit run at the front of a numeral followed by a non-digit is the numeral. -/
theorem takeWhile_isDigit_toDigits (k : Nat) {rest : List Char} (h : NoDigitHead rest) :
    (Nat.toDigits 10 k ++ rest).takeWhile Char.isDigit = Nat.toDigits 10 k := by
  rw [List.takeWhile_append_of_pos fun _ hc => isDigit_of_mem_toDigits hc]
  cases rest with
  | nil => simp
  | cons c cs => simp [h c (by simp)]

theorem dropWhile_isDigit_toDigits (k : Nat) {rest : List Char} (h : NoDigitHead rest) :
    (Nat.toDigits 10 k ++ rest).dropWhile Char.isDigit = rest := by
  rw [List.dropWhile_append_of_pos fun _ hc => isDigit_of_mem_toDigits hc]
  cases rest with
  | nil => simp
  | cons c cs => simp [h c (by simp)]

/-- The characters of `decimal n`: a minus sign when `n` is negative, then the digits of its
magnitude. -/
theorem toList_decimal (n : Int) :
    (decimal n).toList =
      if n < 0 then '-' :: Nat.toDigits 10 n.natAbs else Nat.toDigits 10 n.natAbs := by
  unfold decimal
  split <;> simp [Nat.toList_repr]

/-- `decimal` is the usual decimal text of an integer. -/
theorem decimal_eq_toString (n : Int) : decimal n = toString n := by
  rw [Int.toString_eq_repr, Int.repr_eq_if, decimal]
  by_cases h : n < 0
  · rw [if_pos h, if_neg (by omega)]
    congr 2
    omega
  · rw [if_neg h, if_pos (by omega)]
    congr 1
    omega

/-! ### Reading numerals -/

/-- Reads a natural number written in decimal digits from the front of a text. -/
def readNat (cs : List Char) : Option (Nat × List Char) :=
  let digits := cs.takeWhile Char.isDigit
  if digits.isEmpty then none else some (Nat.ofDigitChars 10 digits 0, cs.dropWhile Char.isDigit)

/-- Reads an integer written as an optional minus sign and decimal digits. -/
def readInt (cs : List Char) : Option (Int × List Char) :=
  if cs.head? = some '-' then (readNat cs.tail).map fun p => (-(p.1 : Int), p.2)
  else (readNat cs).map fun p => ((p.1 : Int), p.2)

theorem readNat_toDigits (k : Nat) {rest : List Char} (h : NoDigitHead rest) :
    readNat (Nat.toDigits 10 k ++ rest) = some (k, rest) := by
  have hne : (Nat.toDigits 10 k).isEmpty = false := List.isEmpty_eq_false_iff.2 Nat.toDigits_ne_nil
  simp [readNat, takeWhile_isDigit_toDigits k h, dropWhile_isDigit_toDigits k h, hne]

/-- A numeral never starts with a minus sign. -/
theorem head?_toDigits_ne_minus (k : Nat) (rest : List Char) :
    (Nat.toDigits 10 k ++ rest).head? ≠ some '-' := by
  obtain ⟨d, ds, hds⟩ := List.exists_cons_of_ne_nil (Nat.toDigits_ne_nil (b := 10) (n := k))
  have hd : d.isDigit = true := isDigit_of_mem_toDigits (k := k) (by simp [hds])
  rw [hds]
  rintro ⟨⟩
  exact absurd hd (by decide)

theorem readInt_decimal (n : Int) {rest : List Char} (h : NoDigitHead rest) :
    readInt ((decimal n).toList ++ rest) = some (n, rest) := by
  rw [toList_decimal]
  by_cases hn : n < 0
  · simp only [if_pos hn, readInt, List.cons_append, List.head?_cons, List.tail_cons,
      readNat_toDigits _ h, if_true, Option.map_some]
    rw [Int.ofNat_natAbs_of_nonpos (by omega), Int.neg_neg]
  · simp only [if_neg hn, readInt, if_neg (head?_toDigits_ne_minus _ _), readNat_toDigits _ h,
      Option.map_some]
    rw [Int.natAbs_of_nonneg (by omega)]

/-! ### Reading a range's text back -/

namespace Range

/-- Reads a coordinate as shown, one more than the stored value. -/
def readCoordinate (cs : List Char) : Option (Int × List Char) :=
  (readInt cs).map fun p => (p.1 - 1, p.2)

theorem readCoordinate_coordinate (n : Int) {rest : List Char} (h : NoDigitHead rest) :
    readCoordinate ((coordinate n).toList ++ rest) = some (n, rest) := by
  simp [readCoordinate, coordinate, readInt_decimal _ h]

theorem readCoordinate_coordinate_self (n : Int) :
    readCoordinate (coordinate n).toList = some (n, []) := by
  simpa using readCoordinate_coordinate n noDigitHead_nil

/-- Reads back the range a display text shows. -/
def ofDisplay? (cs : List Char) : Option Range :=
  match readCoordinate cs with
  | none => if cs = ['∅'] then some .empty else none
  | some (a, cs) =>
    match cs with
    | ':' :: cs => do
      let (b, cs) ← readCoordinate cs
      match cs with
      | [] => some (.point a b)
      | '-' :: cs => do
        let (c, cs) ← readCoordinate cs
        if cs.isEmpty then some (.sameLine a b c) else none
      | ',' :: cs => do
        let (c, cs) ← readCoordinate cs
        match cs with
        | ':' :: cs => do
          let (d, cs) ← readCoordinate cs
          if cs.isEmpty then some (.multiLine a b c d) else none
        | _ => none
      | _ => none
    | _ => none

/-- Every range is read back from its text. -/
theorem ofDisplay?_display (r : Range) : ofDisplay? (display r).toList = some r := by
  -- every separator of a range text is a non-digit that ends the coordinate before it
  have sep : ∀ c ∈ [':', '-', ','], ∀ cs, NoDigitHead (c :: cs) := by
    intro c hc cs
    exact noDigitHead_cons (by simp at hc; rcases hc with rfl | rfl | rfl <;> decide)
  cases r with
  | empty => rfl
  | point a b =>
    simp [display, ofDisplay?, readCoordinate_coordinate a (sep ':' (by simp) _),
      readCoordinate_coordinate_self b]
  | sameLine a b c =>
    simp [display, ofDisplay?, readCoordinate_coordinate a (sep ':' (by simp) _),
      readCoordinate_coordinate b (sep '-' (by simp) _),
      readCoordinate_coordinate_self c]
  | multiLine a b c d =>
    simp [display, ofDisplay?, readCoordinate_coordinate a (sep ':' (by simp) _),
      readCoordinate_coordinate b (sep ',' (by simp) _),
      readCoordinate_coordinate c (sep ':' (by simp) _),
      readCoordinate_coordinate_self d]

/-- The text of a range determines the range: its shape and every coordinate. -/
theorem display_injective : Function.Injective display := by
  intro r r' h
  have hr := ofDisplay?_display r
  rw [h, ofDisplay?_display r'] at hr
  exact (Option.some.inj hr).symm

/-! ### Classification and text by length -/

/-- What a list of range values is classified as and how it is shown, by its length: no position
for fewer than two values; a point, a span on one line or a span over lines for two, three or
four, each coordinate shown one more than stored in the usual decimal text; and five or more
values refused with a message that lists them all and counts them. -/
theorem format_by_length (v : List Int) :
    (v.length ≤ 1 ∧ classify v = .ok .empty ∧ format v = .ok "∅") ∨
    (∃ a b, v = [a, b] ∧ classify v = .ok (.point a b) ∧
      format v = .ok (toString (a + 1) ++ ":" ++ toString (b + 1))) ∨
    (∃ a b c, v = [a, b, c] ∧ classify v = .ok (.sameLine a b c) ∧
      format v = .ok (toString (a + 1) ++ ":" ++ toString (b + 1) ++ "-" ++ toString (c + 1))) ∨
    (∃ a b c d, v = [a, b, c, d] ∧ classify v = .ok (.multiLine a b c d) ∧
      format v = .ok (toString (a + 1) ++ ":" ++ toString (b + 1) ++ "," ++
        toString (c + 1) ++ ":" ++ toString (d + 1))) ∨
    (5 ≤ v.length ∧ classify v = .error ⟨v⟩ ∧ format v = .error ⟨v⟩ ∧
      MalformedRange.message ⟨v⟩ = "Malformed SCIP range " ++ "[" ++ ", ".intercalate (v.map toString) ++
        "]" ++ ": expected at most 4 integers, got " ++ toString v.length ++ ".") := by
  have shown : ∀ n : Int, coordinate n = toString (n + 1) := fun n => decimal_eq_toString _
  match v with
  | [] => exact .inl ⟨by simp, rfl, rfl⟩
  | [_] => exact .inl ⟨by simp, rfl, rfl⟩
  | [a, b] =>
    exact .inr <| .inl ⟨a, b, rfl, rfl, by simp only [format, classify, Except.map, display, shown]⟩
  | [a, b, c] =>
    exact .inr <| .inr <| .inl
      ⟨a, b, c, rfl, rfl, by simp only [format, classify, Except.map, display, shown]⟩
  | [a, b, c, d] =>
    exact .inr <| .inr <| .inr <| .inl
      ⟨a, b, c, d, rfl, rfl, by simp only [format, classify, Except.map, display, shown]⟩
  | a :: b :: c :: d :: e :: rest =>
    refine .inr <| .inr <| .inr <| .inr ⟨by simp, rfl, rfl, ?_⟩
    have listed : (a :: b :: c :: d :: e :: rest).map decimal =
        (a :: b :: c :: d :: e :: rest).map toString :=
      List.map_congr_left fun n _ => decimal_eq_toString n
    -- unfolded first: `simp` would try to close the goal by evaluating the string literals
    unfold MalformedRange.message bracketedList
    simp only [listed, Nat.toString_eq_repr, String.append_assoc]

example : format [2147483647, -1] = .ok "2147483648:0" := by rfl

example : format [0, 0, -3] = .ok "1:1--2" := by rfl

/-- A range is determined by the values it keeps. -/
theorem values_injective : Function.Injective values := by
  intro r r' h
  cases r <;> cases r' <;> simp_all [values]

/-- Up to four values are always classified, and the range keeps them all when there are at
least two. -/
theorem classify_values {v : List Int} (hv : v.length ≤ 4) :
    ∃ r, classify v = .ok r ∧ r.values = if v.length ≤ 1 then [] else v := by
  match v, hv with
  | [], _ => exact ⟨.empty, rfl, rfl⟩
  | [_], _ => exact ⟨.empty, rfl, rfl⟩
  | [a, b], _ => exact ⟨.point a b, rfl, rfl⟩
  | [a, b, c], _ => exact ⟨.sameLine a b c, rfl, rfl⟩
  | [a, b, c, d], _ => exact ⟨.multiLine a b c d, rfl, rfl⟩

/-- Two lists of at most four range values have the same text exactly when they are equal, or
when neither holds a position. -/
theorem format_eq_format_iff {v w : List Int} (hv : v.length ≤ 4) (hw : w.length ≤ 4) :
    format v = format w ↔ v = w ∨ (v.length ≤ 1 ∧ w.length ≤ 1) := by
  obtain ⟨r, hr, hrv⟩ := classify_values hv
  obtain ⟨r', hr', hrw⟩ := classify_values hw
  have same_text : format v = format w ↔ r = r' := by
    simp only [format, hr, hr', Except.map, Except.ok.injEq]
    exact display_injective.eq_iff
  rw [same_text]
  constructor
  · rintro rfl
    rw [hrv] at hrw
    by_cases h1 : v.length ≤ 1 <;> by_cases h2 : w.length ≤ 1
    · exact .inr ⟨h1, h2⟩
    · simp only [if_pos h1, if_neg h2] at hrw
      subst hrw
      simp at h2
    · simp only [if_neg h1, if_pos h2] at hrw
      subst hrw
      simp at h1
    · simp only [if_neg h1, if_neg h2] at hrw
      exact .inl hrw
  · rintro (rfl | ⟨h1, h2⟩)
    · exact Except.ok.inj (hr.symm.trans hr')
    · exact values_injective (by rw [hrv, hrw, if_pos h1, if_pos h2])

/-- A negative coordinate after the `-` separator and a negative coordinate at the start of a
text are told apart. -/
theorem format_sameLine_ne_point_negative :
    ([0, 0, -3] : List Int).length ≤ 4 ∧ ([-2, 0] : List Int).length ≤ 4 ∧
      (format [0, 0, -3] = format [-2, 0] ↔
        [0, 0, -3] = [-2, 0] ∨ (([0, 0, -3] : List Int).length ≤ 1 ∧ ([-2, 0] : List Int).length ≤ 1)) :=
  ⟨by decide, by decide, format_eq_format_iff (by decide) (by decide)⟩

end Range

end OccurrenceScan
