import OccurrenceScan.Bindings.Multibyte
import OccurrenceScan.Bindings.Charset.Jis0208
import OccurrenceScan.Bindings.Charset.Jis0212
import OccurrenceScan.Bindings.Charset.Jis0213
import OccurrenceScan.Bindings.Charset.Cp932

namespace OccurrenceScan

namespace Multibyte

/-!
# Japanese codecs

EUC-JP writes a JIS X 0208 character as its row and cell with the high bit set, a half-width
katakana after `8E`, and a JIS X 0212 character after `8F`. Shift JIS folds two rows of JIS X
0208 into each lead byte of `81`..`9F` and `E0`..`EA`, with trail bytes `40`..`7E` and
`80`..`FC`, and writes half-width katakana as single bytes `A1`..`DF`. Code page 932 is Shift JIS
with vendor extensions, user-defined characters at leads `F0`..`F9`, and a few single bytes of
its own.

The JIS X 0213 codecs read the two planes of JIS X 0213 in the same two forms: EUC puts the
second plane after `8F` (where JIS X 0212 fills the cells JIS X 0213 leaves empty), and Shift JIS
maps the lead bytes from `F0` onto the rows of the second plane. Their 2000 editions leave out ten
cells of the first plane added in 2004, and read one cell of the second plane otherwise.
-/

/-- The half-width katakana JIS X 0201 writes as `A1`..`DF`. -/
def halfWidthKana? (c : Nat) : Option Nat :=
  if 0xA1 ≤ c && c ≤ 0xDF then some (0xFEC0 + c) else none

/-- JIS X 0201 Roman, which puts the yen sign and the overline where ASCII has the backslash and
the tilde. -/
def jisRoman? (c : Nat) : Option Nat :=
  if c = 0x5C then some 0xA5 else if c = 0x7E then some 0x203E
  else if c < 0x80 then some c else none

/-- JIS X 0208 as most codecs read it: row 1, cell 32 is the full-width reverse solidus. -/
def jis0208? (row cell : Nat) : Option (List Nat) :=
  if row = 0x21 && cell = 0x40 then some [0xFF3C] else Charset.jis0208.find? row cell

/-- The ten cells of the first plane of JIS X 0213 that its 2000 edition leaves empty. -/
def addedIn2004 : List (Nat × Nat) :=
  [(0x2E, 0x21), (0x2F, 0x7E), (0x4F, 0x54), (0x4F, 0x7E), (0x74, 0x27), (0x7E, 0x7A),
    (0x7E, 0x7B), (0x7E, 0x7C), (0x7E, 0x7D), (0x7E, 0x7E)]

/-- The first plane of JIS X 0213: JIS X 0208 and the cells JIS X 0213 adds to it. The EUC and
ISO-2022 forms read row 1, cell 32 as the full-width reverse solidus (`fullWidthSolidus`), and
the EUC form also reads row 2, cell 18 as the full-width tilde (`fullWidthTilde`). -/
def plane1? (fullWidthSolidus fullWidthTilde : Bool) (row cell : Nat) : Option (List Nat) :=
  if fullWidthSolidus && row = 0x21 && cell = 0x40 then some [0xFF3C]
  else if fullWidthTilde && row = 0x22 && cell = 0x32 then some [0xFF5E]
  else (Charset.jis0208.find? row cell).orElse fun _ => Charset.jis0213Plane1.find? row cell

/-- The second plane of JIS X 0213, with JIS X 0212 in the cells it leaves empty when
`withJis0212`; the 2000 edition reads row 93, cell 27 as U+9B1D. -/
def plane2? (edition2000 withJis0212 : Bool) (row cell : Nat) : Option (List Nat) :=
  if edition2000 && row = 0x7D && cell = 0x3B then some [0x9B1D]
  else (Charset.jis0213Plane2.find? row cell).orElse fun _ =>
    if withJis0212 then Charset.jis0212.find? row cell else none

/-- One unit of EUC-JP. -/
def eucJpStep (bytes : Array UInt8) (i : Nat) : Step :=
  let c := byteAt bytes i
  let left := bytes.size - i
  if c < 0x80 then .chars [c] 1
  else if c = 0x8E then
    if left < 2 then .short
    else match halfWidthKana? (byteAt bytes (i + 1)) with
      | some k => .chars [k] 2
      | none => .illegal 1
  else if c = 0x8F then
    if left < 3 then .short
    else found 3 (Charset.jis0212.find? (byteAt bytes (i + 1) ^^^ 0x80) (byteAt bytes (i + 2) ^^^ 0x80))
  else if left < 2 then .short
  else found 2 (jis0208? (c ^^^ 0x80) (byteAt bytes (i + 1) ^^^ 0x80))

/-- One unit of EUC-JIS-2004, or of its 2000 edition. -/
def eucJis2004Step (edition2000 : Bool) (bytes : Array UInt8) (i : Nat) : Step :=
  let c := byteAt bytes i
  let left := bytes.size - i
  if c < 0x80 then .chars [c] 1
  else if c = 0x8E then
    if left < 2 then .short
    else match halfWidthKana? (byteAt bytes (i + 1)) with
      | some k => .chars [k] 2
      | none => .illegal 1
  else if c = 0x8F then
    if left < 3 then .short
    else found 3 (plane2? edition2000 true (byteAt bytes (i + 1) ^^^ 0x80) (byteAt bytes (i + 2) ^^^ 0x80))
  else if left < 2 then .short
  else
    let row := c ^^^ 0x80
    let cell := byteAt bytes (i + 1) ^^^ 0x80
    if edition2000 && addedIn2004.contains (row, cell) then .illegal 2
    else found 2 (plane1? true true row cell)

/-- Whether a byte may follow a lead byte of Shift JIS. -/
def isShiftJisTrail (c2 : Nat) : Bool :=
  !(c2 < 0x40 || (0x7E < c2 && c2 < 0x80) || 0xFC < c2)

/-- The row, counted from 0, and the cell of the pair of a Shift JIS lead and trail byte. -/
def fromShiftJis (c c2 : Nat) : Nat × Nat :=
  let lead := if c < 0xE0 then c - 0x81 else c - 0xC1
  let t := if c2 < 0x80 then c2 - 0x40 else c2 - 0x41
  (2 * lead + (if t < 0x5E then 0 else 1), (if t < 0x5E then t else t - 0x5E) + 0x21)

/-- One unit of Shift JIS. -/
def shiftJisStep (bytes : Array UInt8) (i : Nat) : Step :=
  let c := byteAt bytes i
  if c < 0x80 then .chars [c] 1
  else match halfWidthKana? c with
    | some k => .chars [k] 1
    | none =>
      if (0x81 ≤ c && c ≤ 0x9F) || (0xE0 ≤ c && c ≤ 0xEA) then
        if bytes.size - i < 2 then .short
        else
          let c2 := byteAt bytes (i + 1)
          if !isShiftJisTrail c2 then .illegal 1
          else
            let (row, cell) := fromShiftJis c c2
            found 2 (jis0208? (row + 0x21) cell)
      else .illegal 1

/-- One unit of code page 932. -/
def cp932Step (bytes : Array UInt8) (i : Nat) : Step :=
  let c := byteAt bytes i
  if c ≤ 0x80 then .chars [c] 1
  else if 0xA0 ≤ c && c ≤ 0xDF then .chars [if c = 0xA0 then 0xF8F0 else 0xFEC0 + c] 1
  else if 0xFD ≤ c then .chars [0xF8F1 - 0xFD + c] 1
  else if bytes.size - i < 2 then .short
  else
    let c2 := byteAt bytes (i + 1)
    match Charset.cp932Extension.find? c c2 with
    | some points => .chars points 2
    | none =>
      if (0x81 ≤ c && c ≤ 0x9F) || (0xE0 ≤ c && c ≤ 0xEA) then
        if !isShiftJisTrail c2 then .illegal 1
        else
          let (row, cell) := fromShiftJis c c2
          found 2 (jis0208? (row + 0x21) cell)
      else if 0xF0 ≤ c && c ≤ 0xF9 then
        if (0x40 ≤ c2 && c2 ≤ 0x7E) || (0x80 ≤ c2 && c2 ≤ 0xFC) then
          .chars [0xE000 + 188 * (c - 0xF0) + (if c2 < 0x80 then c2 - 0x40 else c2 - 0x41)] 2
        else .illegal 1
      else .illegal 1

/-- One unit of Shift_JIS-2004, or of its 2000 edition. -/
def shiftJis2004Step (edition2000 : Bool) (bytes : Array UInt8) (i : Nat) : Step :=
  let c := byteAt bytes i
  if c < 0x80 then .chars [(jisRoman? c).getD c] 1
  else match halfWidthKana? c with
    | some k => .chars [k] 1
    | none =>
      if (0x81 ≤ c && c ≤ 0x9F) || (0xE0 ≤ c && c ≤ 0xFC) then
        if bytes.size - i < 2 then .short
        else
          let c2 := byteAt bytes (i + 1)
          if !isShiftJisTrail c2 then .illegal 1
          else
            let (r, cell) := fromShiftJis c c2
            if r < 0x5E then
              let row := r + 0x21
              if edition2000 && addedIn2004.contains (row, cell) then .illegal 2
              else found 2 (plane1? false false row cell)
            else
              let row :=
                if 0x67 ≤ r then r + 0x07
                else if 0x63 ≤ r || r = 0x5F then r - 0x37
                else r - 0x3D
              found 2 (plane2? edition2000 false row cell)
      else .illegal 1

end Multibyte

end OccurrenceScan
