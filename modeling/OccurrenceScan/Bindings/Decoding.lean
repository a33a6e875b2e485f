import OccurrenceScan.Text.Utf8

namespace OccurrenceScan

namespace Decoding

/-!
# Decoding a source

A codec turns the bytes of a source into code points, or stops at the first bytes it cannot
decode. This module holds how such a stop is reported and the codecs that need no table:
ASCII, Latin-1, UTF-8, UTF-16, UTF-32 and UTF-7. Each decoder reads an array of bytes by index,
so a stop names the positions of the bytes it covers; the decoded text may hold surrogate code
points, which only UTF-16 pairs and UTF-7 can produce and which a later step refuses.
-/

/-- Why a codec could not decode a source. -/
inductive Failure where
  /-- The codec `codec` stopped at the bytes from `start` up to but not including `stop`, the
  first of them being `first`, for `reason`. -/
  | bytes (codec : String) (start stop : Nat) (first : UInt8) (reason : String)
  /-- The codec named `name` failed as a whole, for `detail`. -/
  | whole (name detail : String)
  /-- The codec failed with a report that names no codec: `text` is the whole report. -/
  | bare (text : String)
  /-- The codec named `name` reached a state its tables do not provide for; this failure is not
  a decoding error of the source, so its report names no line. -/
  | internal (name : String)
  deriving DecidableEq, Repr

namespace Failure

/-- The report of a failure: one byte by value, a longer run by its positions. -/
def message : Failure → String
  | .bytes codec start stop first reason =>
    if stop = start + 1 then
      "'" ++ codec ++ "' codec can't decode byte 0x" ++ Utf8.hexByte first ++ " in position " ++
        Nat.repr start ++ ": " ++ reason
    else
      "'" ++ codec ++ "' codec can't decode bytes in position " ++ Nat.repr start ++ "-" ++
        Nat.repr (stop - 1) ++ ": " ++ reason
  | .whole name detail => "decoding with '" ++ name ++ "' codec failed (UnicodeError: " ++ detail ++ ")"
  | .bare text => text
  | .internal name => "decoding with '" ++ name ++ "' codec failed (RuntimeError: internal codec error)"

/-- Whether a report of the failure is placed in the source: all are but an internal one. -/
def placed : Failure → Bool
  | .internal _ => false
  | _ => true

/-- A stop of `codec` over the bytes from `start` to `stop` of `bytes`, for `reason`. -/
def span (codec : String) (bytes : Array UInt8) (start stop : Nat) (reason : String) : Failure :=
  .bytes codec start stop (bytes.getD start 0) reason

end Failure

/-- The code point of a byte read as Latin-1, which every byte is. -/
def latin1 (bytes : Array UInt8) : Array Nat :=
  bytes.map UInt8.toNat

/-- Decodes ASCII under the name `codec`: a byte from `80` up stops it. -/
def ascii (codec : String) (bytes : Array UInt8) : Except Failure (Array Nat) :=
  go 0 #[]
where
  /-- Decodes from index `i`, the code points so far in `acc`. -/
  go (i : Nat) (acc : Array Nat) : Except Failure (Array Nat) :=
    if h : i < bytes.size then
      if bytes[i].toNat < 128 then go (i + 1) (acc.push bytes[i].toNat)
      else .error (.bytes codec i (i + 1) bytes[i] "ordinal not in range(128)")
    else .ok acc
  termination_by bytes.size - i

/-- Decodes strict UTF-8. -/
def utf8 (bytes : Array UInt8) : Except Failure (Array Nat) :=
  match Utf8.decode bytes.toList with
  | .ok cs => .ok (cs.map Char.toNat).toArray
  | .error e => .error (.bytes "utf-8" e.position (e.position + e.length) e.lead e.fault.text)

/-- Decodes through a table of 256 characters, where U+FFFE marks a byte with no character. -/
def charmap (table : Array Char) (bytes : Array UInt8) : Except Failure (Array Nat) :=
  go 0 #[]
where
  /-- Decodes from index `i`, the code points so far in `acc`. -/
  go (i : Nat) (acc : Array Nat) : Except Failure (Array Nat) :=
    if h : i < bytes.size then
      let c := (table.getD bytes[i].toNat (Char.ofNat 0xFFFE)).toNat
      if c = 0xFFFE then .error (.bytes "charmap" i (i + 1) bytes[i] "character maps to <undefined>")
      else go (i + 1) (acc.push c)
    else .ok acc
  termination_by bytes.size - i

/-- Which byte of a code unit comes first. -/
inductive Order where
  | little
  | big
  deriving DecidableEq, Repr

namespace Order

/-- The suffix of the codec's name for this order. -/
def suffix : Order → String
  | .little => "le"
  | .big => "be"

end Order

/-- The code unit of `width` bytes at index `i`, read in the given order. -/
def unitAt (order : Order) (bytes : Array UInt8) (i width : Nat) : Nat :=
  (List.range width).foldl (fun acc k =>
    let b := (bytes.getD (i + k) 0).toNat
    match order with
    | .little => acc + b * Nat.pow 256 k
    | .big => acc * 256 + b) 0

/-- Whether a code point is a surrogate. -/
def isSurrogate (n : Nat) : Bool := 0xD800 ≤ n && n ≤ 0xDFFF

/-- Decodes UTF-16 from index `start` in the given order, under the name `codec`: a pair of
surrogates makes one code point, a low surrogate alone or a high one without its low one stops
it, and so does an odd byte at the end. -/
def utf16From (codec : String) (order : Order) (bytes : Array UInt8) (start : Nat) :
    Except Failure (Array Nat) :=
  go start #[]
where
  /-- Decodes from index `q`, the code points so far in `acc`. -/
  go (q : Nat) (acc : Array Nat) : Except Failure (Array Nat) :=
    if h : q + 2 ≤ bytes.size then
      let u := unitAt order bytes q 2
      if !isSurrogate u then go (q + 2) (acc.push u)
      else if 0xDC00 ≤ u then .error (Failure.span codec bytes q (q + 2) "illegal encoding")
      else if q + 4 ≤ bytes.size then
        let v := unitAt order bytes (q + 2) 2
        if 0xDC00 ≤ v && v ≤ 0xDFFF then
          go (q + 4) (acc.push (0x10000 + (u - 0xD800) * 1024 + (v - 0xDC00)))
        else .error (Failure.span codec bytes q (q + 2) "illegal UTF-16 surrogate")
      else .error (Failure.span codec bytes q bytes.size "unexpected end of data")
    else if q < bytes.size then .error (Failure.span codec bytes q bytes.size "truncated data")
    else .ok acc
  termination_by bytes.size - q

/-- Decodes UTF-16 in a fixed order, or, without one, in the order a byte order mark at the
start gives (little-endian when there is none). -/
def utf16 (order : Option Order) (bytes : Array UInt8) : Except Failure (Array Nat) :=
  match order with
  | some o => utf16From ("utf-16-" ++ o.suffix) o bytes 0
  | none =>
    let b0 := bytes.getD 0 0
    let b1 := bytes.getD 1 0
    if 2 ≤ bytes.size && b0 = 0xFF && b1 = 0xFE then utf16From "utf-16-le" .little bytes 2
    else if 2 ≤ bytes.size && b0 = 0xFE && b1 = 0xFF then utf16From "utf-16-be" .big bytes 2
    else utf16From "utf-16-le" .little bytes 0

/-- Decodes UTF-32 from index `start` in the given order, under the name `codec`. -/
def utf32From (codec : String) (order : Order) (bytes : Array UInt8) (start : Nat) :
    Except Failure (Array Nat) :=
  go start #[]
where
  /-- Decodes from index `q`, the code points so far in `acc`. -/
  go (q : Nat) (acc : Array Nat) : Except Failure (Array Nat) :=
    if h : q + 4 ≤ bytes.size then
      let v := unitAt order bytes q 4
      if isSurrogate v then
        .error (Failure.span codec bytes q (q + 4)
          "code point in surrogate code point range(0xd800, 0xe000)")
      else if 0x110000 ≤ v then
        .error (Failure.span codec bytes q (q + 4) "code point not in range(0x110000)")
      else go (q + 4) (acc.push v)
    else if q < bytes.size then .error (Failure.span codec bytes q bytes.size "truncated data")
    else .ok acc
  termination_by bytes.size - q

/-- Decodes UTF-32 in a fixed order, or in the order a byte order mark at the start gives. -/
def utf32 (order : Option Order) (bytes : Array UInt8) : Except Failure (Array Nat) :=
  match order with
  | some o => utf32From ("utf-32-" ++ o.suffix) o bytes 0
  | none =>
    let head := (List.range 4).map fun k => bytes.getD k 0
    if 4 ≤ bytes.size && head = [0xFF, 0xFE, 0, 0] then utf32From "utf-32-le" .little bytes 4
    else if 4 ≤ bytes.size && head = [0, 0, 0xFE, 0xFF] then utf32From "utf-32-be" .big bytes 4
    else utf32From "utf-32-le" .little bytes 0

/-- Whether a byte is a base-64 digit of UTF-7. -/
def isBase64 (c : Nat) : Bool :=
  (65 ≤ c && c ≤ 90) || (97 ≤ c && c ≤ 122) || (48 ≤ c && c ≤ 57) || c = 43 || c = 47

/-- The value of a base-64 digit. -/
def base64Value (c : Nat) : Nat :=
  if 65 ≤ c && c ≤ 90 then c - 65
  else if 97 ≤ c && c ≤ 122 then c - 71
  else if 48 ≤ c && c ≤ 57 then c + 4
  else if c = 43 then 62 else 63

/-- Where a UTF-7 decoder stands inside a shift sequence: the bits gathered and not yet used,
their number, a high surrogate waiting for its low one (`0` when none), and where the sequence
began. -/
structure Shift where
  bits : Nat
  buffer : Nat
  pending : Nat
  start : Nat
  deriving DecidableEq, Repr

/-- Decodes UTF-7: ASCII other than `+` stands for itself, `+-` for `+`, and `+` opens a shift
sequence of base-64 digits holding UTF-16 code units, closed by any other byte (a closing `-`
is dropped). A sequence may not end inside a code unit except on zero padding bits. -/
def utf7 (bytes : Array UInt8) : Except Failure (Array Nat) :=
  go 0 none #[]
where
  /-- Decodes from index `s`, inside a shift sequence when `shift` is given. -/
  go (s : Nat) (shift : Option Shift) (acc : Array Nat) : Except Failure (Array Nat) :=
    if h : s < bytes.size then
      let ch := bytes[s].toNat
      match shift with
      | some sh =>
        if isBase64 ch then
          let buffer := sh.buffer * 64 + base64Value ch
          let bits := sh.bits + 6
          if 16 ≤ bits then
            let o := buffer / Nat.pow 2 (bits - 16)
            let rest := bits - 16
            let buffer := buffer % Nat.pow 2 rest
            if sh.pending ≠ 0 && 0xDC00 ≤ o && o ≤ 0xDFFF then
              go (s + 1) (some ⟨rest, buffer, 0, sh.start⟩)
                (acc.push (0x10000 + (sh.pending - 0xD800) * 1024 + (o - 0xDC00)))
            else
              let acc := if sh.pending ≠ 0 then acc.push sh.pending else acc
              if 0xD800 ≤ o && o ≤ 0xDBFF then go (s + 1) (some ⟨rest, buffer, o, sh.start⟩) acc
              else go (s + 1) (some ⟨rest, buffer, 0, sh.start⟩) (acc.push o)
          else go (s + 1) (some ⟨bits, buffer, sh.pending, sh.start⟩) acc
        else if 6 ≤ sh.bits then
          .error (Failure.span "utf7" bytes sh.start (s + 1) "partial character in shift sequence")
        else if 0 < sh.bits && sh.buffer ≠ 0 then
          .error (Failure.span "utf7" bytes sh.start (s + 1) "non-zero padding bits in shift sequence")
        else
          let acc := if sh.pending ≠ 0 && ch ≤ 127 && ch ≠ 43 then acc.push sh.pending else acc
          if ch = 45 then go (s + 1) none acc else go s none acc
      | none =>
        if ch = 43 then
          if s + 1 < bytes.size && bytes.getD (s + 1) 0 = 45 then go (s + 2) none (acc.push 43)
          else if s + 1 < bytes.size && !isBase64 (bytes.getD (s + 1) 0).toNat then
            .error (Failure.span "utf7" bytes s (s + 2) "ill-formed sequence")
          else go (s + 1) (some ⟨0, 0, 0, s⟩) acc
        else if ch ≤ 127 then go (s + 1) none (acc.push ch)
        else .error (Failure.span "utf7" bytes s (s + 1) "unexpected special character")
    else
      match shift with
      | some sh =>
        if sh.pending ≠ 0 || 6 ≤ sh.bits || (0 < sh.bits && sh.buffer ≠ 0) then
          .error (Failure.span "utf7" bytes sh.start bytes.size "unterminated shift sequence")
        else .ok acc
      | none => .ok acc
  termination_by (bytes.size - s, if shift.isSome then 1 else 0)

end Decoding

end OccurrenceScan
