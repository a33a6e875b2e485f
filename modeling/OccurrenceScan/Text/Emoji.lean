import OccurrenceScan.Text.Blank
import OccurrenceScan.Text.EmojiNames

namespace OccurrenceScan

namespace Emoji

/-!
# Emoji codes

Console text may name an emoji by a code. A code is a colon, a name, an optional variant
(`-emoji` or `-text`) and a colon, as in `:smile:` or `:smile-text:`. A name found in the table
of names, in any case, is replaced by its emoji. The variant adds a variation selector after it:
U+FE0F for `-emoji`, U+FE0E for `-text`. A code whose name is not in the table stays as written.

Codes are found from left to right. Each starts at a colon; its name is the shortest run of
non-blank characters that is followed by `:`, `-emoji:` or `-text:`. Scanning resumes after a
code, whether or not it was replaced. So `:a::b:` holds two codes, while in `:smile:smile:` the
second `smile` has lost its opening colon to the first code.
-/

/-- The variation a code asks for. -/
inductive Variant where
  /-- Drawn as a picture, with U+FE0F. -/
  | emoji
  /-- Drawn as text, with U+FE0E. -/
  | text
  deriving DecidableEq, Repr

namespace Variant

/-- The suffix a variant is written with inside a code, before its closing colon. -/
def suffix : Variant → List Char
  | .emoji => "-emoji".toList
  | .text => "-text".toList

/-- The variation selector that follows the emoji. -/
def selector : Variant → Char
  | .emoji => Char.ofNat 0xFE0F
  | .text => Char.ofNat 0xFE0E

end Variant

/-- A code found in text: its name as written and its variant. -/
structure Code where
  name : List Char
  variant : Option Variant
  deriving DecidableEq, Repr

namespace Code

/-- The text of a code, colons included. -/
def written (code : Code) : List Char :=
  ':' :: code.name ++ (code.variant.map Variant.suffix).getD [] ++ [':']

end Code

/-- The lowercase of a character as far as names go: the capitals whose lowercase occurs in
names (ASCII letters, `Ã Å Ç É Í Ô`, and the Kelvin and Angstrom signs) are lowered, and every
other character stays, since neither it nor its lowercase occurs in any name. -/
def foldCase (c : Char) : Char :=
  if 'A' ≤ c ∧ c ≤ 'Z' then Char.ofNat (c.toNat + 32)
  else if c.toNat = 0xC3 ∨ c.toNat = 0xC5 ∨ c.toNat = 0xC7 ∨ c.toNat = 0xC9 ∨ c.toNat = 0xCD ∨
      c.toNat = 0xD4 then Char.ofNat (c.toNat + 32)
  else if c.toNat = 0x212A then 'k'
  else if c.toNat = 0x212B then Char.ofNat 0xE5
  else c

/-- The emoji a name stands for, in any case. -/
def lookup? (name : List Char) : Option String :=
  let key := String.ofList (name.map foldCase)
  (names.find? (·.1 = key)).map (·.2)

/-- The end of a code that asks for the emoji variation. -/
def emojiClose : List Char := ['-', 'e', 'm', 'o', 'j', 'i', ':']

/-- The end of a code that asks for the text variation. -/
def textClose : List Char := ['-', 't', 'e', 'x', 't', ':']

/-- Reads the rest of a code after its opening colon, `name` holding the name read so far: the
code and what follows its closing colon, for the shortest name that closes. -/
def readCode (name : List Char) : List Char → Option (Code × List Char)
  | [] => none
  | c :: rest =>
    match emojiClose.isPrefixOf? (c :: rest) with
    | some after => some (⟨name, some .emoji⟩, after)
    | none =>
      match textClose.isPrefixOf? (c :: rest) with
      | some after => some (⟨name, some .text⟩, after)
      | none =>
        if c = ':' then some (⟨name, none⟩, rest)
        else if Blank.isBlank c then none
        else readCode (name ++ [c]) rest

/-- What a code is displayed as: its emoji and variation selector when its name is known, else
the code as written. -/
def display (code : Code) : List Char :=
  match lookup? code.name with
  | some e => e.toList ++ (code.variant.map fun v => [v.selector]).getD []
  | none => code.written

-- The steps of `isPrefixOf?` are taken by `rfl`, so that this module declares no equation lemmas
-- of the library's function.
theorem isPrefixOf?_length {p input after : List Char} (h : p.isPrefixOf? input = some after) :
    after.length + p.length = input.length := by
  induction p generalizing input with
  | nil =>
    have hnil : ([] : List Char).isPrefixOf? input = some input := rfl
    rw [hnil, Option.some.injEq] at h
    subst h
    simp
  | cons x xs ih =>
    cases input with
    | nil =>
      have hnone : (x :: xs).isPrefixOf? [] = none := rfl
      rw [hnone] at h
      cases h
    | cons y ys =>
      have hstep : (x :: xs).isPrefixOf? (y :: ys) = if x == y then xs.isPrefixOf? ys else none :=
        rfl
      rw [hstep] at h
      split at h
      · have := ih h
        simp only [List.length_cons]
        omega
      · cases h

theorem readCode_length_lt {name : List Char} {input after : List Char} {code : Code}
    (h : readCode name input = some (code, after)) : after.length < input.length := by
  induction input generalizing name with
  | nil => simp [readCode] at h
  | cons c rest ih =>
    simp only [readCode] at h
    split at h
    · next after' hp =>
      simp only [Option.some.injEq, Prod.mk.injEq] at h
      obtain ⟨-, rfl⟩ := h
      have := isPrefixOf?_length hp
      simp only [emojiClose, List.length_cons, List.length_nil] at this ⊢
      omega
    · split at h
      · next after' hp =>
        simp only [Option.some.injEq, Prod.mk.injEq] at h
        obtain ⟨-, rfl⟩ := h
        have := isPrefixOf?_length hp
        simp only [textClose, List.length_cons, List.length_nil] at this ⊢
        omega
      · split at h
        · simp only [Option.some.injEq, Prod.mk.injEq] at h
          obtain ⟨-, rfl⟩ := h
          simp
        · split at h
          · simp at h
          · have := ih h
            simp only [List.length_cons]
            omega

/-- Replaces every emoji code of a text by what it is displayed as. -/
def replace (input : List Char) : List Char :=
  match input with
  | [] => []
  | c :: rest =>
    if c = ':' then
      match h : readCode [] rest with
      | some (code, after) =>
        have : after.length < rest.length + 1 := by
          have := readCode_length_lt h
          omega
        display code ++ replace after
      | none => c :: replace rest
    else c :: replace rest
termination_by input.length

end Emoji

end OccurrenceScan
