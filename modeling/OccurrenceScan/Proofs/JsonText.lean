import OccurrenceScan.Proofs.JsonValue
import OccurrenceScan.Proofs.RangeDisplay
import Mathlib.Tactic.SplitIfs

/-!
# Written JSON is read back

The reader gives back every value the compact writer writes (`parse_write`). The argument follows
the writer. A string literal is read back one escape at a time (`readChars_escapeChar`). A number
is read back through its decimal digits, which neither start with a needless `0` nor run on into
what follows (`readNumber_write`). Arrays and objects are read element by element and member by
member. The reader's fuel goes down by one for each nested value and each element or member, and
each of those takes at least one character, so a text's length is enough fuel for it. The
induction is on the fuel, as the reader's recursion is: `readsValues_succ`, `readsElements_succ`
and `readsMembers_succ` are its steps and `reads_all` the whole run.
-/

namespace OccurrenceScan

namespace JsonValue

/-! ### Blanks -/

theorem skipBlanks_cons {c : Char} (cs : List Char) (h : isBlank c = false) :
    skipBlanks (c :: cs) = c :: cs := by
  simp [skipBlanks, h]

/-! ### String literals -/

theorem hexValue?_hexDigit : ∀ n, n < 16 → hexValue? (JsonString.hexDigit n) = some n := by
  decide

/-- A character that is written as itself is read as itself. -/
theorem readChars_plain {c : Char} (rest : List Char) (hquote : c ≠ '"') (hslash : c ≠ '\\')
    (hcontrol : ¬c.toNat < 0x20) : readChars (c :: rest) = consRead c (readChars rest) := by
  rw [readChars.eq_5 c rest hquote (fun _ _ _ _ _ h _ => hslash h) (fun _ _ h _ => hslash h),
    if_neg hcontrol]

/-- A control character written as `\u00xx` is read back. -/
theorem readChars_controlEscape {c : Char} (rest : List Char) (hc : c.toNat < 0x20) :
    readChars ('\\' :: 'u' :: '0' :: '0' :: JsonString.hexDigit (c.toNat / 16) ::
      JsonString.hexDigit (c.toNat % 16) :: rest) = consRead c (readChars rest) := by
  have zero : hexValue? '0' = some 0 := by decide
  have hi := hexValue?_hexDigit (c.toNat / 16) (by omega)
  have lo := hexValue?_hexDigit (c.toNat % 16) (by omega)
  have value : ((0 * 16 + 0) * 16 + c.toNat / 16) * 16 + c.toNat % 16 = c.toNat := by omega
  have hex : hex4? '0' '0' (JsonString.hexDigit (c.toNat / 16))
      (JsonString.hexDigit (c.toNat % 16)) = some c.toNat := by
    simp only [hex4?, zero, hi, lo, value]
  rw [readChars.eq_3, hex]
  simp only [if_pos (Or.inl (show c.toNat < 0xD800 by omega)), Char.ofNat_toNat]

/-- Reading undoes the escape of one character. -/
theorem readChars_escapeChar (c : Char) (rest : List Char) :
    readChars (JsonString.escapeChar c ++ rest) = consRead c (readChars rest) := by
  unfold JsonString.escapeChar
  split_ifs with hquote hslash hb ht hn hf hr hcontrol
  all_goals try (subst_vars; simp [readChars, shortEscape?]; done)
  · exact readChars_controlEscape rest hcontrol
  · exact readChars_plain rest hquote hslash hcontrol

/-- The body of a string literal, then its closing quote, is read back. -/
theorem readChars_body (cs rest : List Char) :
    readChars (JsonString.body cs ++ '"' :: rest) = some (cs, rest) := by
  induction cs with
  | nil => simp [JsonString.body, readChars]
  | cons c cs ih =>
    rw [JsonString.body, List.flatMap_cons, List.append_assoc, readChars_escapeChar,
      ← JsonString.body, ih]
    rfl

theorem toList_quote (s : String) :
    (JsonString.quote s).toList = '"' :: JsonString.body s.toList ++ ['"'] := by
  simp [JsonString.quote]

/-! ### Numbers -/

/-- A text that does not go on with a digit, a decimal point or an exponent mark, so that a
number before it ends with its own last digit. -/
def NumberEnd (cs : List Char) : Prop :=
  ∀ c ∈ cs.head?, c.isDigit = false ∧ c ≠ '.' ∧ c ≠ 'e' ∧ c ≠ 'E'

theorem NumberEnd.noDigitHead {cs : List Char} (h : NumberEnd cs) : NoDigitHead cs :=
  fun c hc => (h c hc).1

/-- A numeral starts with a digit. -/
theorem head?_toDigits_append (k : Nat) (rest : List Char) :
    ∃ d, (Nat.toDigits 10 k ++ rest).head? = some d ∧ d.isDigit = true := by
  obtain ⟨d, ds, hds⟩ := List.exists_cons_of_ne_nil (Nat.toDigits_ne_nil (b := 10) (n := k))
  exact ⟨d, by simp [hds], isDigit_of_mem_toDigits (k := k) (by simp [hds])⟩

/-- The numeral of a positive number does not start with `0`. -/
theorem head?_toDigits_ne_zero {k : Nat} (hk : 0 < k) : (Nat.toDigits 10 k).head? ≠ some '0' := by
  by_cases hsmall : k < 10
  · have one_digit : ∀ j, j < 10 → 0 < j → j.digitChar ≠ '0' := by decide
    rw [Nat.toDigits_of_lt_base hsmall]
    simpa using one_digit k hsmall hk
  · -- the leading digit is the leading digit of `k / 10`
    have lead := head?_toDigits_ne_zero (k := k / 10) (by omega)
    obtain ⟨d, ds, hds⟩ :=
      List.exists_cons_of_ne_nil (Nat.toDigits_ne_nil (b := 10) (n := k / 10))
    rw [Nat.toDigits_of_base_le (by decide) (by omega), hds]
    rw [hds] at lead
    simpa using lead
termination_by k
decreasing_by omega

theorem readDigits_toDigits (k : Nat) {rest : List Char} (h : NoDigitHead rest) :
    readDigits (Nat.toDigits 10 k ++ rest) = some (Nat.toDigits 10 k, rest) := by
  have hne : (Nat.toDigits 10 k).isEmpty = false := List.isEmpty_eq_false_iff.2 Nat.toDigits_ne_nil
  simp [readDigits, takeWhile_isDigit_toDigits k h, dropWhile_isDigit_toDigits k h, hne]

theorem readIntegerPart_toDigits (k : Nat) {rest : List Char} (h : NoDigitHead rest) :
    readIntegerPart (Nat.toDigits 10 k ++ rest) = some (Nat.toDigits 10 k, rest) := by
  unfold readIntegerPart
  rcases Nat.eq_zero_or_pos k with rfl | hk
  · simp [Nat.toDigits_zero]
  · have lead : (Nat.toDigits 10 k ++ rest).head? ≠ some '0' := by
      obtain ⟨d, ds, hds⟩ := List.exists_cons_of_ne_nil (Nat.toDigits_ne_nil (b := 10) (n := k))
      have := head?_toDigits_ne_zero hk
      rw [hds] at this ⊢
      simpa using this
    rw [if_neg lead, readDigits_toDigits k h]

/-- The exponent a number is written with: none for zero, else `e` and its decimal. -/
def exponentText (e : Int) : List Char :=
  if e = 0 then [] else 'e' :: (decimal e).toList

theorem write_number (m e : Int) : write (.number m e) = (decimal m).toList ++ exponentText e := by
  rw [write, exponentText]

theorem noDigitHead_exponentText (e : Int) {rest : List Char} (h : NumberEnd rest) :
    NoDigitHead (exponentText e ++ rest) := by
  unfold exponentText
  split
  · exact h.noDigitHead
  · exact noDigitHead_cons (by decide)

theorem readFraction_exponentText (e : Int) {rest : List Char} (h : NumberEnd rest) :
    readFraction (exponentText e ++ rest) = some ([], exponentText e ++ rest) := by
  unfold readFraction exponentText
  split
  · cases rest with
    | nil => simp
    | cons c cs => simp [(h c (by simp)).2.1]
  · simp

theorem signedValue_true_toDigits {n : Int} (hn : n < 0) :
    signedValue true (Nat.toDigits 10 n.natAbs) = n := by
  rw [signedValue, if_pos rfl, Nat.ofDigitChars_ten_toDigits, Int.ofNat_natAbs_of_nonpos (by omega),
    Int.neg_neg]

theorem signedValue_false_toDigits {n : Int} (hn : ¬n < 0) :
    signedValue false (Nat.toDigits 10 n.natAbs) = n := by
  rw [signedValue, if_neg Bool.false_ne_true, Nat.ofDigitChars_ten_toDigits,
    Int.natAbs_of_nonneg (by omega)]

theorem readExponent_exponentText (e : Int) {rest : List Char} (h : NumberEnd rest) :
    readExponent (exponentText e ++ rest) = some (e, rest) := by
  unfold exponentText
  by_cases he : e = 0
  · subst he
    cases rest with
    | nil => simp [readExponent]
    | cons c cs =>
      have hc := h c (by simp)
      simp [readExponent, hc.2.2.1, hc.2.2.2]
  · -- after the mark: a minus sign for a negative exponent, then the digits of its magnitude
    simp only [if_neg he, readExponent, List.cons_append, List.head?_cons, List.tail_cons,
      true_or, if_true, toList_decimal]
    by_cases hn : e < 0
    · simp only [if_pos hn, List.cons_append, List.head?_cons, List.tail_cons, true_or, if_true,
        decide_true, readDigits_toDigits _ h.noDigitHead, Option.map_some,
        signedValue_true_toDigits hn]
    · obtain ⟨d, hd, hdigit⟩ := head?_toDigits_append e.natAbs rest
      have hminus : d ≠ '-' := by rintro rfl; exact absurd hdigit (by decide)
      have hplus : d ≠ '+' := by rintro rfl; exact absurd hdigit (by decide)
      simp only [if_neg hn, hd, Option.some.injEq, hminus, hplus, or_self, if_false,
        decide_false, readDigits_toDigits _ h.noDigitHead, Option.map_some,
        signedValue_false_toDigits hn]

/-- A written number is read back, whatever follows it that does not continue it. -/
theorem readNumber_write (m e : Int) {rest : List Char} (h : NumberEnd rest) :
    readNumber (write (.number m e) ++ rest) = some (.number m e, rest) := by
  have whole : readIntegerPart (Nat.toDigits 10 m.natAbs ++ (exponentText e ++ rest)) =
      some (Nat.toDigits 10 m.natAbs, exponentText e ++ rest) :=
    readIntegerPart_toDigits _ (noDigitHead_exponentText e h)
  rw [write_number, List.append_assoc, toList_decimal]
  unfold readNumber
  by_cases hm : m < 0
  · simp only [if_pos hm, List.cons_append, List.head?_cons, decide_true, if_true, List.tail_cons,
      whole, Option.bind_eq_bind, Option.bind_some, readFraction_exponentText e h,
      readExponent_exponentText e h, Option.pure_def, List.append_nil, List.length_nil,
      Int.natCast_zero, Int.sub_zero, signedValue_true_toDigits hm]
  · obtain ⟨d, hd, hdigit⟩ := head?_toDigits_append m.natAbs (exponentText e ++ rest)
    have hminus : d ≠ '-' := by rintro rfl; exact absurd hdigit (by decide)
    simp only [if_neg hm, hd, Option.some.injEq, hminus, decide_false,
      if_false, whole, Option.bind_eq_bind, Option.bind_some, readFraction_exponentText e h,
      readExponent_exponentText e h, Option.pure_def, List.append_nil, List.length_nil,
      Int.natCast_zero, Int.sub_zero, signedValue_false_toDigits hm]

/-! ### Values -/

/-- What may follow a written value: nothing, a comma, or a closing bracket or brace. -/
def ValueEnd (cs : List Char) : Prop :=
  ∀ c ∈ cs.head?, c = ',' ∨ c = ']' ∨ c = '}'

theorem ValueEnd.numberEnd {cs : List Char} (h : ValueEnd cs) : NumberEnd cs := by
  intro c hc
  rcases h c hc with rfl | rfl | rfl <;> decide

theorem valueEnd_writeElements (vs : List JsonValue) (rest : List Char) :
    ValueEnd (writeElements vs ++ rest) := by
  cases vs <;> simp [writeElements, ValueEnd]

theorem valueEnd_writeMembers (ms : List (String × JsonValue)) (rest : List Char) :
    ValueEnd (writeMembers ms ++ rest) := by
  cases ms <;> simp [writeMembers, ValueEnd]

/-- A digit is none of the other characters a reader looks for. -/
theorem ne_of_isDigit {d c : Char} (hd : d.isDigit = true) (hc : c.isDigit = false) : d ≠ c := by
  rintro rfl
  rw [hd] at hc
  exact Bool.noConfusion hc

theorem isBlank_of_isDigit {d : Char} (hd : d.isDigit = true) : isBlank d = false := by
  cases hb : isBlank d
  · rfl
  · simp only [isBlank, Bool.or_eq_true, decide_eq_true_eq] at hb
    rcases hb with ((rfl | rfl) | rfl) | rfl <;> exact absurd hd (by decide)

/-- A written number starts with a minus sign or a digit. -/
theorem write_number_cons (m e : Int) (rest : List Char) :
    ∃ c cs, write (.number m e) ++ rest = c :: cs ∧ (c = '-' ∨ c.isDigit = true) := by
  rw [write_number, List.append_assoc, toList_decimal]
  split
  · exact ⟨'-', _, rfl, .inl rfl⟩
  · obtain ⟨d, ds, hds⟩ :=
      List.exists_cons_of_ne_nil (Nat.toDigits_ne_nil (b := 10) (n := m.natAbs))
    have hdigit : d.isDigit = true := isDigit_of_mem_toDigits (k := m.natAbs) (by simp [hds])
    exact ⟨d, ds ++ (exponentText e ++ rest), by rw [hds, List.cons_append], .inr hdigit⟩

/-- The first character of a number is no blank, starts no other kind of value and closes
nothing. -/
theorem numberHead {c : Char} (hc : c = '-' ∨ c.isDigit = true) :
    isBlank c = false ∧ c ≠ '{' ∧ c ≠ '[' ∧ c ≠ '"' ∧ c ≠ 't' ∧ c ≠ 'f' ∧ c ≠ 'n' ∧
      c ≠ ']' ∧ c ≠ '}' := by
  rcases hc with rfl | hdigit
  · decide
  · have other : ∀ d : Char, d.isDigit = false → c ≠ d := fun d hd => ne_of_isDigit hdigit hd
    exact ⟨isBlank_of_isDigit hdigit, other _ (by decide), other _ (by decide),
      other _ (by decide), other _ (by decide), other _ (by decide), other _ (by decide),
      other _ (by decide), other _ (by decide)⟩

/-- A written value starts with a character that is no blank and closes nothing. -/
theorem head?_write (v : JsonValue) (rest : List Char) :
    ∃ c, (write v ++ rest).head? = some c ∧ isBlank c = false ∧ c ≠ ']' ∧ c ≠ '}' := by
  cases v with
  | null => exact ⟨'n', rfl, by decide, by decide, by decide⟩
  | bool b => cases b <;> exact ⟨_, rfl, by decide, by decide, by decide⟩
  | number m e =>
    obtain ⟨c, cs, hcs, hc⟩ := write_number_cons m e rest
    obtain ⟨hblank, -, -, -, -, -, -, hclose, hbrace⟩ := numberHead hc
    exact ⟨c, by rw [hcs, List.head?_cons], hblank, hclose, hbrace⟩
  | string s => exact ⟨'"', by simp [write, toList_quote], by decide, by decide, by decide⟩
  | array vs => cases vs <;> exact ⟨'[', rfl, by decide, by decide, by decide⟩
  | object ms =>
    rcases ms with _ | ⟨⟨k, v⟩, ms⟩ <;>
      exact ⟨'{', rfl, by decide, by decide, by decide⟩

theorem length_write_pos (v : JsonValue) : 0 < (write v).length := by
  obtain ⟨c, hc, -⟩ := head?_write v []
  rw [List.append_nil] at hc
  exact List.length_pos_iff_exists_mem.2 ⟨c, List.mem_of_mem_head? hc⟩

/-- What follows an opening bracket that does not close at once is read as elements. -/
theorem readValue_bracket (fuel : Nat) {cs : List Char}
    (h : ∀ rest, skipBlanks cs ≠ ']' :: rest) :
    readValue (fuel + 1) ('[' :: cs) = (readElements fuel cs).map fun p => (.array p.1, p.2) := by
  rw [readValue, skipBlanks_cons _ (by decide)]
  dsimp only
  rw [if_neg (show '[' ≠ '{' by decide), if_pos rfl]
  split
  · next rest hrest => exact absurd hrest (h rest)
  · rfl

/-- What follows an opening brace that does not close at once is read as members. -/
theorem readValue_brace (fuel : Nat) {cs : List Char}
    (h : ∀ rest, skipBlanks cs ≠ '}' :: rest) :
    readValue (fuel + 1) ('{' :: cs) = (readMembers fuel cs).map fun p => (.object p.1, p.2) := by
  rw [readValue, skipBlanks_cons _ (by decide)]
  dsimp only
  rw [if_pos rfl]
  split
  · next rest hrest => exact absurd hrest (h rest)
  · rfl

/-- A written number is left to the number reader. -/
theorem readValue_number (fuel : Nat) (m e : Int) (rest : List Char) :
    readValue (fuel + 1) (write (.number m e) ++ rest) =
      readNumber (write (.number m e) ++ rest) := by
  -- the text starts with a minus sign or a digit, which no other kind of value starts with
  obtain ⟨c, cs, hcs, hc⟩ := write_number_cons m e rest
  obtain ⟨hblank, h1, h2, h3, h4, h5, h6, -, -⟩ := numberHead hc
  rw [hcs, readValue, skipBlanks_cons cs hblank]
  simp only [if_neg h1, if_neg h2, if_neg h3, if_neg h4, if_neg h5, if_neg h6]

/-- Reading with `fuel` gives back every written value whose text is no longer than the fuel. -/
def ReadsValues (fuel : Nat) : Prop :=
  ∀ v rest, (write v).length ≤ fuel → ValueEnd rest →
    readValue fuel (write v ++ rest) = some (v, rest)

/-- Reading elements with `fuel` gives back every written run of elements, closing bracket
included, whose text is no longer than the fuel. -/
def ReadsElements (fuel : Nat) : Prop :=
  ∀ v vs rest, (write v ++ writeElements vs).length ≤ fuel → ValueEnd rest →
    readElements fuel (write v ++ writeElements vs ++ rest) = some (v :: vs, rest)

/-- Reading members with `fuel` gives back every written run of members, closing brace included,
whose text is no longer than the fuel. -/
def ReadsMembers (fuel : Nat) : Prop :=
  ∀ k v ms rest,
    ((JsonString.quote k).toList ++ ':' :: write v ++ writeMembers ms).length ≤ fuel →
    ValueEnd rest →
    readMembers fuel ((JsonString.quote k).toList ++ ':' :: write v ++ writeMembers ms ++ rest) =
      some ((k, v) :: ms, rest)

theorem reads_zero : ReadsValues 0 ∧ ReadsElements 0 ∧ ReadsMembers 0 := by
  refine ⟨fun v _ h _ => ?_, fun v _ _ h _ => ?_, fun k _ _ _ h _ => ?_⟩
  · have := length_write_pos v
    omega
  · have := length_write_pos v
    simp only [List.length_append] at h
    omega
  · simp [toList_quote] at h

theorem readsValues_succ {fuel : Nat} (elements : ReadsElements fuel)
    (members : ReadsMembers fuel) :
    ReadsValues (fuel + 1) := by
  intro v rest hlen hend
  cases v with
  | null => simp [write, readValue, skipBlanks, isBlank]
  | bool b => cases b <;> simp [write, readValue, skipBlanks, isBlank]
  | number m e => rw [readValue_number, readNumber_write m e hend.numberEnd]
  | string s =>
    simp [write, toList_quote, readValue, skipBlanks, isBlank, List.append_assoc, readChars_body]
  | array vs =>
    cases vs with
    | nil => simp [write, readValue, skipBlanks, isBlank]
    | cons v vs =>
      -- the opening bracket, then the elements, the first of which closes nothing
      have opens : ∀ r, skipBlanks (write v ++ (writeElements vs ++ rest)) ≠ ']' :: r := by
        obtain ⟨c, hc, hblank, hclose, -⟩ := head?_write v (writeElements vs ++ rest)
        intro r hr
        cases h : write v ++ (writeElements vs ++ rest) with
        | nil => simp [h] at hc
        | cons d cs =>
          simp only [h, List.head?_cons, Option.some.injEq] at hc
          subst hc
          rw [h, skipBlanks_cons cs hblank, List.cons.injEq] at hr
          exact hclose hr.1
      have read := elements v vs rest (by simp [write] at hlen; simp; omega) hend
      simp only [write, List.cons_append, List.append_assoc] at read ⊢
      rw [readValue_bracket fuel opens, read]
      rfl
  | object ms =>
    rcases ms with _ | ⟨⟨k, v⟩, ms⟩
    · simp [write, readValue, skipBlanks, isBlank]
    · -- the opening brace, then the members, the first starting with its key's quote
      have read := members k v ms rest (by simp [write] at hlen; simp; omega) hend
      simp only [write, toList_quote, List.cons_append, List.append_assoc] at read ⊢
      rw [readValue_brace fuel (by rw [skipBlanks_cons _ (by decide)]; simp), read]
      rfl

theorem readsElements_succ {fuel : Nat} (values : ReadsValues fuel)
    (elements : ReadsElements fuel) :
    ReadsElements (fuel + 1) := by
  intro v vs rest hlen hend
  have hv := values v (writeElements vs ++ rest)
    (by cases vs <;> simp [writeElements] at hlen ⊢ <;> omega) (valueEnd_writeElements vs rest)
  rw [List.append_assoc, readElements, hv]
  cases vs with
  | nil => simp [writeElements, skipBlanks, isBlank]
  | cons w ws =>
    have read := elements w ws rest (by simp [writeElements] at hlen ⊢; omega) hend
    simp only [writeElements, List.cons_append, List.append_assoc] at read ⊢
    rw [skipBlanks_cons _ (by decide)]
    simp [read]

theorem readsMembers_succ {fuel : Nat} (values : ReadsValues fuel) (members : ReadsMembers fuel) :
    ReadsMembers (fuel + 1) := by
  intro k v ms rest hlen hend
  have hv := values v (writeMembers ms ++ rest)
    (by cases ms <;> simp [writeMembers, toList_quote] at hlen ⊢ <;> omega)
    (valueEnd_writeMembers ms rest)
  -- the key's literal and the colon, then the value, then the other members
  have text : (JsonString.quote k).toList ++ ':' :: write v ++ writeMembers ms ++ rest =
      '"' :: (JsonString.body k.toList ++
        '"' :: ':' :: (write v ++ (writeMembers ms ++ rest))) := by
    simp [toList_quote]
  rw [text, readMembers, skipBlanks_cons _ (by decide)]
  simp only
  rw [readChars_body]
  simp only
  rw [skipBlanks_cons _ (by decide)]
  simp only
  rw [hv]
  simp only
  rcases ms with _ | ⟨⟨k', v'⟩, ms⟩
  · rw [writeMembers, List.singleton_append, skipBlanks_cons _ (by decide), String.ofList_toList]
    rfl
  · have read :=
      members k' v' ms rest (by simp [writeMembers, toList_quote] at hlen ⊢; omega) hend
    simp only [writeMembers, List.cons_append, List.append_assoc] at read ⊢
    rw [skipBlanks_cons _ (by decide)]
    simp only
    rw [read, String.ofList_toList]
    rfl

/-- With any fuel, every written value, run of elements and run of members that fits is read
back. -/
theorem reads_all (fuel : Nat) : ReadsValues fuel ∧ ReadsElements fuel ∧ ReadsMembers fuel := by
  induction fuel with
  | zero => exact reads_zero
  | succ fuel ih =>
    obtain ⟨values, elements, members⟩ := ih
    exact ⟨readsValues_succ elements members, readsElements_succ values elements,
      readsMembers_succ values members⟩

/-- Every written value is read back. -/
theorem parse_write (v : JsonValue) : parse (String.ofList (write v)) = some v := by
  have read := (reads_all ((String.ofList (write v)).length + 1)).1 v []
    (by simp) (by simp [ValueEnd])
  rw [List.append_nil, String.length_ofList] at read
  simp [parse, read, skipBlanks]

end JsonValue

end OccurrenceScan
