import OccurrenceScan.Bindings.Multibyte
import OccurrenceScan.Bindings.Charset.Ksx1001
import OccurrenceScan.Bindings.Charset.Uhc

namespace OccurrenceScan

namespace Multibyte

/-!
# Korean codecs

EUC-KR writes a KS X 1001 character as its row and cell with the high bit set. It also reads the
make-up sequences of KS X 1001 annex 3: the hangul filler `A4D4` and three jamo, an initial, a
medial and a final (or the filler again), each as `A4` and a cell, which together spell one
hangul syllable. Code page 949 adds the syllables KS X 1001 leaves out. Johab writes every
syllable by the five-bit indices of its three jamo, below lead `D8`, and the rest of KS X 1001
in a rearranged two-byte form from lead `D9` on.

A syllable is U+AC00 moved on by 588 for each initial, 28 for each medial and one for each final
before its own.
-/

/-- The hangul syllable of the initial, medial and final jamo indices (final `0` for none). -/
def syllable (initial medial final : Nat) : Nat :=
  0xAC00 + initial * 588 + medial * 28 + final

/-- The initial jamo index of the cells `A1`..`BE` of row 4 of KS X 1001, where it has one. -/
def makeUpInitials : List (Option Nat) :=
  [some 0, some 1, none, some 2, none, none, some 3, some 4, some 5, none, none, none, none, none,
    none, none, some 6, some 7, some 8, none, some 9, some 10, some 11, some 12, some 13, some 14,
    some 15, some 16, some 17, some 18]

/-- The final jamo index of the cells `A1`..`BE` of row 4 of KS X 1001, where it has one. -/
def makeUpFinals : List (Option Nat) :=
  [some 1, some 2, some 3, some 4, some 5, some 6, some 7, none, some 8, some 9, some 10, some 11,
    some 12, some 13, some 14, some 15, some 16, some 17, none, some 18, some 19, some 20, some 21,
    some 22, none, some 23, some 24, some 25, some 26, some 27]

/-- The syllable a KS X 1001 make-up sequence spells, given the cells of its three jamo. -/
def makeUp? (initial medial final : Nat) : Option Nat := do
  let i ← if 0xA1 ≤ initial && initial ≤ 0xBE then (makeUpInitials.getD (initial - 0xA1) none) else none
  let m ← if 0xBF ≤ medial && medial ≤ 0xD3 then some (medial - 0xBF) else none
  let f ← if final = 0xD4 then some 0
    else if 0xA1 ≤ final && final ≤ 0xBE then (makeUpFinals.getD (final - 0xA1) none) else none
  pure (syllable i m f)

/-- One unit of EUC-KR. -/
def eucKrStep (bytes : Array UInt8) (i : Nat) : Step :=
  let c := byteAt bytes i
  let left := bytes.size - i
  if c < 0x80 then .chars [c] 1
  else if left < 2 then .short
  else
    let c2 := byteAt bytes (i + 1)
    if c = 0xA4 && c2 = 0xD4 then
      if left < 8 then .short
      else if byteAt bytes (i + 2) ≠ 0xA4 || byteAt bytes (i + 4) ≠ 0xA4 || byteAt bytes (i + 6) ≠ 0xA4 then
        .illegal 1
      else
        match makeUp? (byteAt bytes (i + 3)) (byteAt bytes (i + 5)) (byteAt bytes (i + 7)) with
        | some s => .chars [s] 8
        | none => .illegal 1
    else found 2 (Charset.ksx1001.find? (c ^^^ 0x80) (c2 ^^^ 0x80))

/-- One unit of code page 949. -/
def cp949Step (bytes : Array UInt8) (i : Nat) : Step :=
  let c := byteAt bytes i
  if c < 0x80 then .chars [c] 1
  else if bytes.size - i < 2 then .short
  else
    let c2 := byteAt bytes (i + 1)
    let euc := if 0x80 ≤ c2 then Charset.ksx1001.find? (c - 0x80) (c2 - 0x80) else none
    found 2 (euc.orElse fun _ => Charset.uhcExtension.find? c c2)

/-- How Johab reads a five-bit jamo index: a letter with its index, the filler, or nothing. -/
inductive Jamo where
  | letter (index : Nat)
  | filler
  | none
  deriving DecidableEq, Repr

/-- The Johab initials by five-bit index. -/
def johabInitial (k : Nat) : Jamo :=
  if k = 1 then .filler else if 2 ≤ k && k ≤ 20 then .letter (k - 2) else .none

/-- The Johab medials by five-bit index: four runs of letters, the filler at 2. -/
def johabMedial (k : Nat) : Jamo :=
  if k = 2 then .filler
  else if 3 ≤ k && k ≤ 7 then .letter (k - 3)
  else if 10 ≤ k && k ≤ 15 then .letter (k - 5)
  else if 18 ≤ k && k ≤ 23 then .letter (k - 7)
  else if 26 ≤ k && k ≤ 29 then .letter (k - 9)
  else .none

/-- The Johab finals by five-bit index: the filler at 1, 18 unused. -/
def johabFinal (k : Nat) : Jamo :=
  if k = 1 then .filler
  else if 2 ≤ k && k ≤ 17 then .letter (k - 1)
  else if 19 ≤ k && k ≤ 29 then .letter (k - 2)
  else .none

/-- The compatibility jamo (less U+3100) of the Johab initials, medials and finals by five-bit
index, for the syllables that hold one jamo alone. -/
def johabAlone : List (List Nat) :=
  [[0, 0, 0x31, 0x32, 0x34, 0x37, 0x38, 0x39, 0x41, 0x42, 0x43, 0x45, 0x46, 0x47, 0x48, 0x49,
      0x4A, 0x4B, 0x4C, 0x4D, 0x4E],
    [0, 0, 0, 0x4F, 0x50, 0x51, 0x52, 0x53, 0, 0, 0x54, 0x55, 0x56, 0x57, 0x58, 0x59, 0, 0, 0x5A,
      0x5B, 0x5C, 0x5D, 0x5E, 0x5F, 0, 0, 0x60, 0x61, 0x62, 0x63],
    [0, 0, 0x31, 0x32, 0x33, 0x34, 0x35, 0x36, 0x37, 0x39, 0x3A, 0x3B, 0x3C, 0x3D, 0x3E, 0x3F,
      0x40, 0x41, 0, 0x42, 0x44, 0x45, 0x46, 0x47, 0x48, 0x4A, 0x4B, 0x4C, 0x4D, 0x4E]]

/-- The compatibility jamo of the `which`-th kind (initial, medial, final) at index `k`. -/
def johabJamo (which k : Nat) : Nat :=
  0x3100 + (johabAlone.getD which []).getD k 0

/-- One unit of Johab. -/
def johabStep (bytes : Array UInt8) (i : Nat) : Step :=
  let c := byteAt bytes i
  if c < 0x80 then .chars [c] 1
  else if bytes.size - i < 2 then .short
  else
    let c2 := byteAt bytes (i + 1)
    if c < 0xD8 then
      let x := c / 4 % 32
      let y := (c * 8 + c2 / 32) % 32
      let z := c2 % 32
      match johabInitial x, johabMedial y, johabFinal z with
      | .none, _, _ | _, .none, _ | _, _, .none => .illegal 1
      | .filler, .filler, .filler => .chars [0x3000] 2
      | .filler, .filler, .letter _ => .chars [johabJamo 2 z] 2
      | .filler, .letter _, .filler => .chars [johabJamo 1 y] 2
      | .filler, .letter _, .letter _ => .illegal 1
      | .letter _, .filler, .filler => .chars [johabJamo 0 x] 2
      | .letter _, .filler, .letter _ => .illegal 1
      | .letter a, .letter b, .filler => .chars [syllable a b 0] 2
      | .letter a, .letter b, .letter f => .chars [syllable a b f] 2
    else if c = 0xD8 || c = 0xDF || 0xF9 < c || c2 < 0x31 || (0x80 ≤ c2 && c2 < 0x91) ||
        c2 % 128 = 0x7F || (c = 0xDA && 0xA1 ≤ c2 && c2 ≤ 0xD3) then .illegal 1
    else
      let t1 := if c < 0xE0 then 2 * (c - 0xD9) else 2 * c - 0x197
      let t2 := if c2 < 0x91 then c2 - 0x31 else c2 - 0x43
      let row := t1 + (if t2 < 0x5E then 0 else 1) + 0x21
      let cell := (if t2 < 0x5E then t2 else t2 - 0x5E) + 0x21
      found 2 (Charset.ksx1001.find? row cell)

end Multibyte

end OccurrenceScan
