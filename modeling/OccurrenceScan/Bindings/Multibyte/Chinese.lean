import OccurrenceScan.Bindings.Multibyte
import OccurrenceScan.Bindings.Charset.Gb2312
import OccurrenceScan.Bindings.Charset.Gbk
import OccurrenceScan.Bindings.Charset.Gb18030
import OccurrenceScan.Bindings.Charset.Big5
import OccurrenceScan.Bindings.Charset.Cp950
import OccurrenceScan.Bindings.Charset.Hkscs

namespace OccurrenceScan

namespace Multibyte

/-!
# Chinese codecs

EUC-CN writes a GB 2312 character as its row and cell with the high bit set. GBK keeps these
pairs, adds pairs with other lead and trail bytes, and reads three of them otherwise. GB 18030
adds more pairs and four-byte sequences: a lead, a digit, a byte of `81`..`FE` and a digit
number the code points, those below U+10000 through a table of ranges and the others directly
from U+10000 on. HZ is GB 2312 in seven bits between `~{` and `~}`, with `~~` for a tilde and
`~` before a line feed dropped.

Big5 is read through its table; code page 950 first through its own extensions, and Big5-HKSCS
through its supplement wherever Big5 gives nothing or is not consulted (most of the leads
`C6`..`C8`).
-/

/-- GBK: three pairs of its own, then GB 2312 with the high bits set, then its extension. -/
def gbk? (c c2 : Nat) : Option (List Nat) :=
  if c = 0xA1 && c2 = 0xAA then some [0x2014]
  else if c = 0xA1 && c2 = 0xA4 then some [0xB7]
  else if c = 0xA8 && c2 = 0x44 then some [0x2015]
  else
    let euc := if 0xA1 ≤ c && 0xA1 ≤ c2 then Charset.gb2312.find? (c - 0x80) (c2 - 0x80) else none
    euc.orElse fun _ => Charset.gbkExtension.find? c c2

/-- One unit of EUC-CN. -/
def gb2312Step (bytes : Array UInt8) (i : Nat) : Step :=
  let c := byteAt bytes i
  if c < 0x80 then .chars [c] 1
  else if bytes.size - i < 2 then .short
  else found 2 (Charset.gb2312.find? (c ^^^ 0x80) (byteAt bytes (i + 1) ^^^ 0x80))

/-- One unit of GBK. -/
def gbkStep (bytes : Array UInt8) (i : Nat) : Step :=
  let c := byteAt bytes i
  if c < 0x80 then .chars [c] 1
  else if bytes.size - i < 2 then .short
  else found 2 (gbk? c (byteAt bytes (i + 1)))

/-- The code point of a four-byte GB 18030 sequence number below 39420. -/
def gb18030Bmp (n : Nat) : Nat :=
  let (base, first) := Charset.gb18030Ranges.foldl
    (fun acc (b, f) => if b ≤ n then (b, f) else acc) (0, 0x80)
  first + (n - base)

/-- One unit of GB 18030. -/
def gb18030Step (bytes : Array UInt8) (i : Nat) : Step :=
  let c := byteAt bytes i
  let left := bytes.size - i
  if c < 0x80 then .chars [c] 1
  else if left < 2 then .short
  else
    let c2 := byteAt bytes (i + 1)
    if 0x30 ≤ c2 && c2 ≤ 0x39 then
      if left < 4 then .short
      else
        let c3 := byteAt bytes (i + 2)
        let c4 := byteAt bytes (i + 3)
        if !(0x81 ≤ c && c ≤ 0xFE && 0x81 ≤ c3 && c3 ≤ 0xFE && 0x30 ≤ c4 && c4 ≤ 0x39) then .illegal 1
        else
          let b1 := c - 0x81
          let tail := (c2 - 0x30) * 1260 + (c3 - 0x81) * 10 + (c4 - 0x30)
          if b1 < 4 then
            let n := b1 * 12600 + tail
            if n < 39420 then .chars [gb18030Bmp n] 4 else .illegal 1
          else if 15 ≤ b1 then
            let n := 0x10000 + (b1 - 15) * 12600 + tail
            if n ≤ 0x10FFFF then .chars [n] 4 else .illegal 1
          else .illegal 1
    else found 2 ((gbk? c c2).orElse fun _ => Charset.gb18030Extension.find? c c2)

/-- One unit of Big5. -/
def big5Step (bytes : Array UInt8) (i : Nat) : Step :=
  let c := byteAt bytes i
  if c < 0x80 then .chars [c] 1
  else if bytes.size - i < 2 then .short
  else found 2 (Charset.big5.find? c (byteAt bytes (i + 1)))

/-- One unit of code page 950. -/
def cp950Step (bytes : Array UInt8) (i : Nat) : Step :=
  let c := byteAt bytes i
  if c < 0x80 then .chars [c] 1
  else if bytes.size - i < 2 then .short
  else
    let c2 := byteAt bytes (i + 1)
    found 2 ((Charset.cp950Extension.find? c c2).orElse fun _ => Charset.big5.find? c c2)

/-- One unit of Big5-HKSCS. -/
def big5hkscsStep (bytes : Array UInt8) (i : Nat) : Step :=
  let c := byteAt bytes i
  if c < 0x80 then .chars [c] 1
  else if bytes.size - i < 2 then .short
  else
    let c2 := byteAt bytes (i + 1)
    let big5Consulted := !(0xC6 ≤ c && c ≤ 0xC8 && !(c = 0xC6 && c2 < 0xA1))
    let fromBig5 := if big5Consulted then Charset.big5.find? c c2 else none
    found 2 (fromBig5.orElse fun _ => Charset.hkscs.find? c c2)

/-- Decodes HZ from index `i`, in GB 2312 mode when `gb`, the code points so far in `acc`. -/
def hzFrom (bytes : Array UInt8) (i : Nat) (gb : Bool) (acc : Array Nat) :
    Except Decoding.Failure (Array Nat) :=
  let stop (width : Nat) : Except Decoding.Failure (Array Nat) :=
    .error (Decoding.Failure.span "hz" bytes i (i + width) illegalReason)
  let short : Except Decoding.Failure (Array Nat) :=
    .error (Decoding.Failure.span "hz" bytes i bytes.size shortReason)
  if i < bytes.size then
    let c := byteAt bytes i
    if c = 0x7E then
      if bytes.size - i < 2 then short
      else
        let c2 := byteAt bytes (i + 1)
        if c2 = 0x7E && !gb then hzFrom bytes (i + 2) gb (acc.push 0x7E)
        else if c2 = 0x7B && !gb then hzFrom bytes (i + 2) true acc
        else if c2 = 0x0A && !gb then hzFrom bytes (i + 2) gb acc
        else if c2 = 0x7D && gb then hzFrom bytes (i + 2) false acc
        else stop 1
    else if 0x80 ≤ c then stop 1
    else if !gb then hzFrom bytes (i + 1) gb (acc.push c)
    else if bytes.size - i < 2 then short
    else
      match Charset.gb2312.find? c (byteAt bytes (i + 1)) with
      | some points => hzFrom bytes (i + 2) gb (acc ++ points.toArray)
      | none => stop 1
  else .ok acc
  termination_by bytes.size - i

/-- Decodes HZ, which starts in ASCII mode. -/
def hz (bytes : Array UInt8) : Except Decoding.Failure (Array Nat) :=
  hzFrom bytes 0 false #[]

end Multibyte

end OccurrenceScan
