import OccurrenceScan.Text.Literal
import OccurrenceScan.Bindings.Escapes
import Mathlib

/-!
# Quoted literals read back

A quoted literal is its quote, a body and the quote again. The body is read back one piece at a
time (`readBody`): a backslash must begin an escape, which is one of `\\`, the quote, `\t`,
`\n`, `\r`, or `\x`, `\u` or `\U` with two, four or eight hexadecimal digits of a code point, and
the quote may stand only after a backslash; any other character stands for itself. The reader
does not ask which characters are printable.

Each character's escape reads back as the character (`readPiece_escapeChar`): the escapes are
tried in the writer's order, and since the quote is an apostrophe or a double quote it is none
of the escape letters. So the body of a literal reads back as its text
(`readBody_flatMap_escapeChar`), the literal's first character gives its quote, and the literal
determines the text, whatever test of printable characters it was written with.

Main statement: `quoteWith_reads_back`. Messages quote with `quote`, which is `quoteWith` at the
Unicode table of printable characters.
-/

namespace OccurrenceScan

namespace Literal

/-! ### The reader -/

/-- Reads `width` hexadecimal digits from the front, the most significant first: their value
and what follows them. -/
def readHex : Nat → List Char → Option (Nat × List Char)
  | 0, cs => some (0, cs)
  | _ + 1, [] => none
  | width + 1, c :: cs =>
    match Decoding.hexValue? c.toNat, readHex width cs with
    | some d, some (v, rest) => some (d * 16 ^ width + v, rest)
    | _, _ => none

/-- Reads the character whose code point is written in `width` hexadecimal digits; a number that
is no code point of a character is refused. -/
def readCode (width : Nat) (cs : List Char) : Option (Char × List Char) :=
  match readHex width cs with
  | some (v, rest) => if (Char.ofNat v).toNat = v then some (Char.ofNat v, rest) else none
  | none => none

/-- The character a one-letter escape stands for in a literal quoted with `q`: the quote and the
backslash stand for themselves, `t`, `n` and `r` for tab, line feed and carriage return. -/
def shortEscape? (q e : Char) : Option Char :=
  if e = q ∨ e = '\\' then some e
  else if e = 't' then some '\t'
  else if e = 'n' then some '\n'
  else if e = 'r' then some '\r'
  else none

/-- The number of hexadecimal digits of a code point after an escape letter. -/
def codeWidth? (e : Char) : Option Nat :=
  if e = 'x' then some 2 else if e = 'u' then some 4 else if e = 'U' then some 8 else none

/-- Reads what follows a backslash in a literal quoted with `q`: a one-letter escape, or `x`, `u`
or `U` and the digits of a code point. Anything else is no escape. -/
def readEscape (q : Char) : List Char → Option (Char × List Char)
  | [] => none
  | e :: rest =>
    match shortEscape? q e, codeWidth? e with
    | some c, _ => some (c, rest)
    | none, some width => readCode width rest
    | none, none => none

/-- Reads one character of a literal's body: an escape, or a character that is neither the quote
nor a backslash and stands for itself. -/
def readPiece (q : Char) : List Char → Option (Char × List Char)
  | [] => none
  | c :: rest =>
    if c = '\\' then readEscape q rest
    else if c = q then none
    else some (c, rest)

theorem readHex_length_le {width : Nat} {cs rest : List Char} {v : Nat}
    (h : readHex width cs = some (v, rest)) : rest.length ≤ cs.length := by
  induction width generalizing cs v with
  | zero =>
    simp only [readHex, Option.some.injEq, Prod.mk.injEq] at h
    obtain ⟨-, rfl⟩ := h
    exact Nat.le_refl _
  | succ width ih =>
    cases cs with
    | nil => simp [readHex] at h
    | cons c cs =>
      rw [readHex] at h
      split at h
      · cases h
        have := ih (by assumption)
        simp only [List.length_cons]
        omega
      · cases h

theorem readCode_length_le {width : Nat} {cs rest : List Char} {c : Char}
    (h : readCode width cs = some (c, rest)) : rest.length ≤ cs.length := by
  unfold readCode at h
  split at h
  · split at h
    · cases h
      exact readHex_length_le (by assumption)
    · cases h
  · cases h

theorem readEscape_length_lt {q : Char} {cs rest : List Char} {c : Char}
    (h : readEscape q cs = some (c, rest)) : rest.length < cs.length := by
  cases cs with
  | nil => cases h
  | cons e more =>
    rw [readEscape] at h
    split at h
    · cases h
      simp
    · exact Nat.lt_succ_of_le (readCode_length_le h)
    · cases h

theorem readPiece_length_lt {q : Char} {cs rest : List Char} {c : Char}
    (h : readPiece q cs = some (c, rest)) : rest.length < cs.length := by
  cases cs with
  | nil => cases h
  | cons d more =>
    rw [readPiece] at h
    split at h
    · exact Nat.lt_succ_of_lt (readEscape_length_lt h)
    · split at h
      · cases h
      · cases h
        simp

/-- Reads the body of a literal quoted with `q` into the characters it stands for, one piece
at a time. A quote that is not escaped, or a backslash that begins no escape, is refused. -/
def readBody (q : Char) (cs : List Char) : Option (List Char) :=
  if cs = [] then some []
  else
    match h : readPiece q cs with
    | none => none
    | some (c, rest) =>
      have : rest.length < cs.length := readPiece_length_lt h
      (readBody q rest).map (c :: ·)
termination_by cs.length

theorem readBody_nil (q : Char) : readBody q [] = some [] := by
  rw [readBody, if_pos rfl]

theorem readBody_of_readPiece {q : Char} {cs rest : List Char} {c : Char}
    (h : readPiece q cs = some (c, rest)) : readBody q cs = (readBody q rest).map (c :: ·) := by
  have hne : cs ≠ [] := by
    rintro rfl
    cases h
  rw [readBody, if_neg hne]
  split
  · rename_i hnone
    rw [h] at hnone
    cases hnone
  · rename_i c' rest' hsome
    rw [h] at hsome
    cases hsome
    rfl

theorem readPiece_backslash (q : Char) (rest : List Char) :
    readPiece q ('\\' :: rest) = readEscape q rest := by
  simp [readPiece]

theorem readEscape_short {q e c : Char} (h : shortEscape? q e = some c) (rest : List Char) :
    readEscape q (e :: rest) = some (c, rest) := by
  simp [readEscape, h]

theorem readEscape_code {q e : Char} {width : Nat} (hshort : shortEscape? q e = none)
    (hwidth : codeWidth? e = some width) (rest : List Char) :
    readEscape q (e :: rest) = readCode width rest := by
  simp [readEscape, hshort, hwidth]

/-! ### Code points read back -/

theorem hexValue?_digit : ∀ d, d < 16 →
    Decoding.hexValue? (if d < 10 then Char.ofNat (48 + d) else Char.ofNat (87 + d)).toNat =
      some d := by
  decide

theorem hexDigits_succ (width n : Nat) :
    hexDigits (width + 1) n =
      (if n / 16 ^ width % 16 < 10 then Char.ofNat (48 + n / 16 ^ width % 16)
        else Char.ofNat (87 + n / 16 ^ width % 16)) :: hexDigits width n := by
  simp [hexDigits, List.range_succ]

/-- The digits of a number read back as the number modulo `16 ^ width`. -/
theorem readHex_hexDigits (width n : Nat) (rest : List Char) :
    readHex width (hexDigits width n ++ rest) = some (n % 16 ^ width, rest) := by
  induction width with
  | zero => simp [hexDigits, readHex, Nat.mod_one]
  | succ width ih =>
    rw [hexDigits_succ, List.cons_append]
    simp only [readHex, hexValue?_digit _ (Nat.mod_lt _ (by decide)), ih, Nat.mod_pow_succ]
    rw [Nat.mul_comm, Nat.add_comm]

theorem readCode_hexDigits {width : Nat} {c : Char} (h : c.toNat < 16 ^ width)
    (rest : List Char) : readCode width (hexDigits width c.toNat ++ rest) = some (c, rest) := by
  simp [readCode, readHex_hexDigits, Nat.mod_eq_of_lt h, Char.ofNat_toNat]

/-! ### Escapes read back -/

theorem quoteFor_cases (cs : List Char) : quoteFor cs = '\'' ∨ quoteFor cs = '"' := by
  unfold quoteFor
  split
  · exact .inr rfl
  · exact .inl rfl

section Quote

variable {q : Char} (hq : q = '\'' ∨ q = '"') (printable : Char → Bool)
include hq

/-- Each character's escape reads back as the character, whatever `printable` says. -/
theorem readPiece_escapeChar (c : Char) (rest : List Char) :
    readPiece q (escapeChar printable q c ++ rest) = some (c, rest) := by
  have hshort : ∀ e, shortEscape? q e = some c → readPiece q (['\\', e] ++ rest) = some (c, rest) :=
    fun e he => by
      rw [List.cons_append, List.cons_append, List.nil_append, readPiece_backslash,
        readEscape_short he]
  have hcode : ∀ e width, shortEscape? q e = none → codeWidth? e = some width →
      c.toNat < 16 ^ width → readPiece q (('\\' :: e :: hexDigits width c.toNat) ++ rest) =
        some (c, rest) := by
    intro e width hshort hwidth hlt
    rw [List.cons_append, List.cons_append, readPiece_backslash, readEscape_code hshort hwidth,
      readCode_hexDigits hlt]
  unfold escapeChar
  by_cases hqb : c = q ∨ c = '\\'
  · rw [if_pos hqb]
    exact hshort c (by simp [shortEscape?, hqb])
  rw [if_neg hqb]
  obtain ⟨hcq, hcb⟩ := not_or.1 hqb
  -- the one-letter escapes: their letters are not the quote, which is one of the two quotes
  by_cases htab : c = '\t'
  · subst htab
    exact hshort 't' (by rcases hq with rfl | rfl <;> decide)
  rw [if_neg htab]
  by_cases hlf : c = '\n'
  · subst hlf
    exact hshort 'n' (by rcases hq with rfl | rfl <;> decide)
  rw [if_neg hlf]
  by_cases hcr : c = '\r'
  · subst hcr
    exact hshort 'r' (by rcases hq with rfl | rfl <;> decide)
  rw [if_neg hcr]
  by_cases hprint : printable c = true
  · rw [if_pos hprint]
    simp [readPiece, hcq, hcb]
  rw [if_neg hprint]
  -- the code point escapes: a character is below U+110000, so eight digits always suffice
  have hvalid : c.toNat < 0xd800 ∨ (0xdfff < c.toNat ∧ c.toNat < 0x110000) := c.valid
  by_cases hbyte : c.toNat < 0x100
  · rw [if_pos hbyte]
    exact hcode 'x' 2 (by rcases hq with rfl | rfl <;> decide) rfl (by omega)
  rw [if_neg hbyte]
  by_cases hbmp : c.toNat < 0x10000
  · rw [if_pos hbmp]
    exact hcode 'u' 4 (by rcases hq with rfl | rfl <;> decide) rfl (by omega)
  rw [if_neg hbmp]
  exact hcode 'U' 8 (by rcases hq with rfl | rfl <;> decide) rfl (by omega)

/-- The escaped characters of a text read back as the text. -/
theorem readBody_flatMap_escapeChar (cs : List Char) :
    readBody q (cs.flatMap (escapeChar printable q)) = some cs := by
  induction cs with
  | nil => exact readBody_nil q
  | cons c cs ih =>
    rw [List.flatMap_cons, readBody_of_readPiece (readPiece_escapeChar hq printable c _), ih]
    rfl

end Quote

/-! ### Literals -/

theorem toList_quoteWith (printable : Char → Bool) (s : String) :
    (quoteWith printable s).toList =
      quoteFor s.toList :: s.toList.flatMap (escapeChar printable (quoteFor s.toList)) ++
        [quoteFor s.toList] := by
  simp only [quoteWith, String.toList_ofList]

/-- Two texts with the same literal are the same text, whatever `printable` says: the first
character gives the quote, and the body before the closing quote reads back as the text. -/
theorem quoteWith_injective (printable : Char → Bool) :
    Function.Injective (quoteWith printable) := by
  intro s t h
  have hs := toList_quoteWith printable s
  rw [h, toList_quoteWith printable t] at hs
  obtain ⟨hq, hbody⟩ := List.cons.inj hs
  rw [hq] at hbody
  have hread := readBody_flatMap_escapeChar (quoteFor_cases s.toList) printable t.toList
  rw [List.append_cancel_right hbody, readBody_flatMap_escapeChar (quoteFor_cases s.toList)]
    at hread
  exact String.toList_inj.1 (Option.some.inj hread)

/-- **A quoted literal reads back as its text.** For every test of printable characters and
every text, the literal is a quote, a body and the same quote; the quote is the double quote
exactly when the text holds an apostrophe and no double quote. The body reads back
(`readBody`: no quote stands unescaped, every backslash begins an escape) as exactly the text.
So no two texts have the same literal. -/
theorem quoteWith_reads_back (printable : Char → Bool) :
    (∀ s : String,
      let q := if '\'' ∈ s.toList ∧ '"' ∉ s.toList then '"' else '\''
      ∃ body, (quoteWith printable s).toList = q :: body ++ [q] ∧
        readBody q body = some s.toList) ∧
    Function.Injective (quoteWith printable) :=
  ⟨fun s => ⟨_, toList_quoteWith printable s,
    readBody_flatMap_escapeChar (quoteFor_cases s.toList) printable s.toList⟩,
    quoteWith_injective printable⟩

end Literal

end OccurrenceScan
