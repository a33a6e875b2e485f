import OccurrenceScan.Bindings.Multibyte.Japanese
import OccurrenceScan.Bindings.Charset.Ksx1001
import OccurrenceScan.Bindings.Charset.Gb2312

namespace OccurrenceScan

namespace Multibyte

/-!
# ISO-2022 codecs

An ISO-2022 codec keeps three graphic sets, G0, G1 and G2, all ASCII at the start. An escape
sequence designates a set into one of them: `ESC ( F` a one-byte set into G0 (`)` for G1, and
`.` for G2 where the codec has one), `ESC $ F` or `ESC $ ( F` a two-byte set into G0 and `ESC $ ) F`
into G1, where `F` is the final byte that names the set. A sequence runs to its final byte, a
capital letter or `@`, at most sixteen bytes on; the Japanese codecs let `ESC & @` stand before
`ESC $ B`. A codec refuses a sequence of another shape, or one that names a set it does not know.
An escape byte that starts no sequence is kept, and the bytes after it pass as Latin-1 up to the
next final byte.

Printable bytes are read in G0, or in G1 after a shift out (only the Korean codec shifts; a line
feed shifts back in). `ESC N` reads one character from G2. Control bytes pass as they are, and a
byte from `80` up is refused.
-/

/-- A graphic set an ISO-2022 escape sequence can designate. -/
inductive Graphic where
  | ascii
  | jisRoman
  | jisKana
  | latin1
  | greek
  | jis0208
  | jis0208Old
  | jis0212
  | ksx1001
  | gb2312
  | jis0213Edition2000
  | jis0213
  | jis0213Plane2
  deriving DecidableEq, Repr

namespace Graphic

/-- The set that a final byte names, among the one-byte sets or the two-byte ones. -/
def ofFinal? (final : Nat) (double : Bool) : Option Graphic :=
  if double then
    if final = 0x42 then some .jis0208 else if final = 0x40 then some .jis0208Old
    else if final = 0x44 then some .jis0212 else if final = 0x43 then some .ksx1001
    else if final = 0x41 then some .gb2312 else if final = 0x4F then some .jis0213Edition2000
    else if final = 0x51 then some .jis0213 else if final = 0x50 then some .jis0213Plane2
    else none
  else
    if final = 0x42 then some .ascii else if final = 0x4A then some .jisRoman
    else if final = 0x49 then some .jisKana else if final = 0x41 then some .latin1
    else if final = 0x46 then some .greek
    else none

/-- How many bytes a character of the set takes. -/
def width : Graphic → Nat
  | .ascii | .jisRoman | .jisKana | .latin1 | .greek => 1
  | _ => 2

end Graphic

/-- An ISO-2022 codec: its name, the sets it knows besides ASCII, whether it shifts between G0
and G1, whether it reads from G2, and whether its second plane of JIS X 0213 is the 2000 edition. -/
structure Iso2022 where
  name : String
  sets : List Graphic
  shifts : Bool
  usesG2 : Bool
  edition2000 : Bool
  deriving Repr

namespace Iso2022

/-- ISO-2022-KR. -/
def korean : Iso2022 := ⟨"iso2022_kr", [.ksx1001], true, false, false⟩

/-- ISO-2022-JP. -/
def japanese : Iso2022 := ⟨"iso2022_jp", [.jis0208, .jisRoman, .jis0208Old], false, false, false⟩

/-- ISO-2022-JP-1. -/
def japanese1 : Iso2022 :=
  ⟨"iso2022_jp_1", [.jis0208, .jis0212, .jisRoman, .jis0208Old], false, false, false⟩

/-- ISO-2022-JP-2. -/
def japanese2 : Iso2022 :=
  ⟨"iso2022_jp_2", [.jis0208, .jis0212, .ksx1001, .gb2312, .jisRoman, .jis0208Old, .latin1, .greek],
    false, true, false⟩

/-- ISO-2022-JP-2004. -/
def japanese2004 : Iso2022 :=
  ⟨"iso2022_jp_2004", [.jis0213, .jis0208, .jis0213Plane2], false, false, false⟩

/-- ISO-2022-JP-3. -/
def japanese3 : Iso2022 :=
  ⟨"iso2022_jp_3", [.jis0213Edition2000, .jis0208, .jis0213Plane2], false, false, true⟩

/-- ISO-2022-JP-EXT. -/
def japaneseExt : Iso2022 :=
  ⟨"iso2022_jp_ext", [.jis0208, .jis0212, .jisRoman, .jisKana, .jis0208Old], false, false, false⟩

/-- Whether the Japanese prefix `ESC & @` may stand before `ESC $ B`. -/
def hasPrefix (codec : Iso2022) : Bool := !codec.shifts

/-- The characters a set gives for the bytes `b1` and `b2` (the latter unused by one-byte sets). -/
def decodeIn (codec : Iso2022) (g : Graphic) (b1 b2 : Nat) : Option (List Nat) :=
  match g with
  | .ascii => some [b1]
  | .jisRoman => (jisRoman? b1).map fun c => [c]
  | .jisKana => (halfWidthKana? (b1 ^^^ 0x80)).map fun c => [c]
  | .latin1 | .greek => none
  | .jis0208 | .jis0208Old => jis0208? b1 b2
  | .jis0212 => Charset.jis0212.find? b1 b2
  | .ksx1001 => Charset.ksx1001.find? b1 b2
  | .gb2312 => Charset.gb2312.find? b1 b2
  | .jis0213Edition2000 => if addedIn2004.contains (b1, b2) then none else plane1? true false b1 b2
  | .jis0213 => plane1? true false b1 b2
  | .jis0213Plane2 => plane2? codec.edition2000 false b1 b2

end Iso2022

/-- Whether a byte ends an escape sequence: a capital letter or `@`. -/
def isFinal (c : Nat) : Bool :=
  (0x41 ≤ c && c ≤ 0x5A) || c = 0x40

/-- The length of the escape sequence at index `i`, looking from its `k`-th byte: `some (some n)`
when its final byte ends it at length `n`, `some none` when the input ends first, and `none`
when no final byte comes within sixteen bytes. With `prefixed`, the pair `& @` is passed over. -/
def escapeLength (prefixed : Bool) (bytes : Array UInt8) (i k : Nat) : Option (Option Nat) :=
  if k < 16 then
    if bytes.size ≤ i + k then some none
    else if isFinal (byteAt bytes (i + k)) then some (some (k + 1))
    else if prefixed && i + k + 1 < bytes.size && byteAt bytes (i + k) = 0x26 &&
        byteAt bytes (i + k + 1) = 0x40 then escapeLength prefixed bytes i (k + 3)
    else escapeLength prefixed bytes i (k + 1)
  else none
  termination_by 16 - k

/-- What an escape sequence does: designates a set into G0, G1 or G2 (`slot` 0, 1 or 2) and
takes `length` bytes, or is refused over `width` bytes, or is cut off by the end of the input. -/
inductive Escape where
  | designate (slot : Nat) (g : Graphic) (length : Nat)
  | refused (width : Nat)
  | short
  deriving DecidableEq, Repr

/-- Reads the escape sequence of length `n` at index `i`. -/
def readDesignation (codec : Iso2022) (bytes : Array UInt8) (i n : Nat) : Escape :=
  let b := fun k => byteAt bytes (i + k)
  let named : Option (Nat × Option Graphic) :=
    if n = 3 then
      if b 1 = 0x24 then some (0, Graphic.ofFinal? (b 2) true)
      else if b 1 = 0x28 then some (0, Graphic.ofFinal? (b 2) false)
      else if b 1 = 0x29 then some (1, Graphic.ofFinal? (b 2) false)
      else if codec.usesG2 && b 1 = 0x2E then some (2, Graphic.ofFinal? (b 2) false)
      else none
    else if n = 4 then
      if b 1 ≠ 0x24 then none
      else if b 2 = 0x28 then some (0, Graphic.ofFinal? (b 3) true)
      else if b 2 = 0x29 then some (1, Graphic.ofFinal? (b 3) true)
      else none
    else if n = 6 && codec.hasPrefix && b 3 = 0x1B && b 4 = 0x24 && b 5 = 0x42 then
      some (0, some .jis0208)
    else none
  match named with
  | some (slot, some g) =>
    if g = .ascii || codec.sets.contains g then .designate slot g n else .refused n
  | _ => .refused n

/-- Reads the escape sequence that starts at index `i`. -/
def readEscape (codec : Iso2022) (bytes : Array UInt8) (i : Nat) : Escape :=
  match escapeLength codec.hasPrefix bytes i 1 with
  | some none => .short
  | none => .refused 1
  | some (some n) => readDesignation codec bytes i n

/-- The Greek of ISO 8859-7 for a byte from `A0` up, where it has a character. -/
def greek? (c : Nat) : Option Nat :=
  if c < 0xA0 then some c
  else if c < 0xC0 && (0x288F3BC9 >>> (c - 0xA0)) % 2 = 1 then some c
  else if 0xB4 ≤ c && c ≤ 0xFE && (0xD4 ≤ c || (0xBFFFFD77 >>> (c - 0xB4)) % 2 = 1) then
    some (0x02D0 + c)
  else if c = 0xA1 then some 0x2018 else if c = 0xA2 then some 0x2019
  else if c = 0xAF then some 0x2015 else none

/-- Where an ISO-2022 decoder stands: its three sets, whether it is shifted out to G1, and
whether bytes pass through after an escape byte that started no sequence. -/
structure Designations where
  g0 : Graphic
  g1 : Graphic
  g2 : Graphic
  shifted : Bool
  passing : Bool
  deriving DecidableEq, Repr

namespace Designations

/-- The start: every set ASCII, not shifted, not passing through. -/
def initial : Designations := ⟨.ascii, .ascii, .ascii, false, false⟩

/-- Designates a set into a slot. -/
def set (d : Designations) (slot : Nat) (g : Graphic) : Designations :=
  if slot = 0 then { d with g0 := g } else if slot = 1 then { d with g1 := g } else { d with g2 := g }

end Designations

/-- Decodes with an ISO-2022 codec from index `i`, the code points so far in `acc`. -/
def iso2022From (codec : Iso2022) (bytes : Array UInt8) (i : Nat) (d : Designations)
    (acc : Array Nat) : Except Decoding.Failure (Array Nat) :=
  let stop (width : Nat) : Except Decoding.Failure (Array Nat) :=
    .error (Decoding.Failure.span codec.name bytes i (i + width) illegalReason)
  let short : Except Decoding.Failure (Array Nat) :=
    .error (Decoding.Failure.span codec.name bytes i bytes.size shortReason)
  if i < bytes.size then
    let c := byteAt bytes i
    if d.passing then
      iso2022From codec bytes (i + 1) { d with passing := !isFinal c } (acc.push c)
    else if c = 0x1B then
      if bytes.size - i < 2 then short
      else
        let c2 := byteAt bytes (i + 1)
        if c2 = 0x28 || c2 = 0x29 || c2 = 0x24 || c2 = 0x2E || c2 = 0x26 then
          match readEscape codec bytes i with
          | .short => short
          | .refused width => stop width
          | .designate slot g n => iso2022From codec bytes (i + max n 1) (d.set slot g) acc
        else if codec.usesG2 && c2 = 0x4E then
          if bytes.size - i < 3 then short
          else
            let c3 := byteAt bytes (i + 2)
            let single : Option (Option Nat) :=
              match d.g2 with
              | .latin1 => some (if c3 < 0x80 then some (c3 + 0x80) else none)
              | .greek => some (greek? (c3 ^^^ 0x80))
              | .ascii => some (if c3 < 0x80 then some c3 else none)
              | _ => none
            match single with
            | some (some v) => iso2022From codec bytes (i + 3) d (acc.push v)
            | some none => stop 3
            | none => .error (.internal codec.name)
        else iso2022From codec bytes (i + 1) { d with passing := true } (acc.push 0x1B)
    else if codec.shifts && c = 0x0F then iso2022From codec bytes (i + 1) { d with shifted := false } acc
    else if codec.shifts && c = 0x0E then iso2022From codec bytes (i + 1) { d with shifted := true } acc
    else if c = 0x0A then iso2022From codec bytes (i + 1) { d with shifted := false } (acc.push c)
    else if c < 0x20 then iso2022From codec bytes (i + 1) d (acc.push c)
    else if 0x80 ≤ c then stop 1
    else
      let g := if d.shifted then d.g1 else d.g0
      if g = .ascii then iso2022From codec bytes (i + 1) d (acc.push c)
      else if bytes.size - i < g.width then short
      else
        match codec.decodeIn g c (byteAt bytes (i + 1)) with
        | some points => iso2022From codec bytes (i + max g.width 1) d (acc ++ points.toArray)
        | none => stop g.width
  else .ok acc
  termination_by bytes.size - i

/-- Decodes with an ISO-2022 codec. -/
def iso2022 (codec : Iso2022) (bytes : Array UInt8) : Except Decoding.Failure (Array Nat) :=
  iso2022From codec bytes 0 .initial #[]

end Multibyte

end OccurrenceScan
