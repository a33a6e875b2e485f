import OccurrenceScan.Bindings.Decoding

namespace OccurrenceScan

namespace Decoding

/-!
# Escape codecs

Two codecs read a source as Latin-1 text with backslash escapes. The full one knows the escapes
of a string literal: the one-letter escapes, up to three octal digits, `\x`, `\u` and `\U` with
two, four and eight hexadecimal digits, and `\N{name}`; any other backslash stays as it is. The
raw one knows only `\u` and `\U`, and only after an odd run of backslashes. A stop covers the
escape from its backslash (for the raw codec, the first backslash of its run) up to where the
escape went wrong.
-/

/-- The value of a hexadecimal digit. -/
def hexValue? (c : Nat) : Option Nat :=
  if 48 ≤ c && c ≤ 57 then some (c - 48)
  else if 97 ≤ c && c ≤ 102 then some (c - 87)
  else if 65 ≤ c && c ≤ 70 then some (c - 55)
  else none

/-- The value of `count` hexadecimal digits from index `s`, or the index where the digits stop:
the first byte that is not a digit, or the end. -/
def hexRun (bytes : Array UInt8) : Nat → Nat → Nat → Except Nat Nat
  | 0, _, acc => .ok acc
  | count + 1, s, acc =>
    if s < bytes.size then
      match hexValue? (bytes.getD s 0).toNat with
      | some h => hexRun bytes count (s + 1) (acc * 16 + h)
      | none => .error s
    else .error s

/-- Whether a byte is an octal digit. -/
def isOctal (c : Nat) : Bool := 48 ≤ c && c ≤ 55

/-- The character a one-letter escape stands for: `none` inside for an escaped line feed,
which stands for nothing. -/
def letterEscape? (c : Nat) : Option (Option Nat) :=
  match c with
  | 10 => some none
  | 92 => some (some 92)
  | 39 => some (some 39)
  | 34 => some (some 34)
  | 98 => some (some 8)
  | 102 => some (some 12)
  | 116 => some (some 9)
  | 110 => some (some 10)
  | 114 => some (some 13)
  | 118 => some (some 11)
  | 97 => some (some 7)
  | _ => none

/-- The number of hexadecimal digits an escape letter takes, with the reason a short escape
gives. -/
def hexEscape? (c : Nat) : Option (Nat × String) :=
  if c = 120 then some (2, "truncated \\xXX escape")
  else if c = 117 then some (4, "truncated \\uXXXX escape")
  else if c = 85 then some (8, "truncated \\UXXXXXXXX escape")
  else none

/-- The number of bytes from index `s` before the first `}`, or before the end. -/
def untilBrace (bytes : Array UInt8) (s : Nat) : Nat :=
  ((bytes.extract s bytes.size).toList.takeWhile (· ≠ 125)).length

/-- Decodes a source with the escapes of a string literal, where `named` gives the code point
of a character name. -/
def unicodeEscape (named : List UInt8 → Option Nat) (bytes : Array UInt8) :
    Except Failure (Array Nat) :=
  go 0 #[]
where
  /-- Decodes from index `s`, the code points so far in `acc`. -/
  go (s : Nat) (acc : Array Nat) : Except Failure (Array Nat) :=
    if h : s < bytes.size then
      let c := bytes[s].toNat
      let stop (t : Nat) (reason : String) : Except Failure (Array Nat) :=
        .error (Failure.span "unicodeescape" bytes s t reason)
      if c ≠ 92 then go (s + 1) (acc.push c)
      else if s + 1 < bytes.size then
        let e := (bytes.getD (s + 1) 0).toNat
        match letterEscape? e with
        | some none => go (s + 2) acc
        | some (some v) => go (s + 2) (acc.push v)
        | none =>
          if isOctal e then
            let d1 := (bytes.getD (s + 2) 0).toNat
            let d2 := (bytes.getD (s + 3) 0).toNat
            if s + 2 < bytes.size && isOctal d1 then
              if s + 3 < bytes.size && isOctal d2 then
                go (s + 4) (acc.push (((e - 48) * 8 + (d1 - 48)) * 8 + (d2 - 48)))
              else go (s + 3) (acc.push ((e - 48) * 8 + (d1 - 48)))
            else go (s + 2) (acc.push (e - 48))
          else
            match hexEscape? e with
            | some (count, reason) =>
              match hexRun bytes count (s + 2) 0 with
              | .error t => stop t reason
              | .ok v =>
                if 0x10FFFF < v then stop (s + 2 + count) "illegal Unicode character"
                else go (s + 2 + count) (acc.push v)
            | none =>
              if e = 78 then
                let reason := "malformed \\N character escape"
                if bytes.size ≤ s + 2 then stop bytes.size reason
                else if bytes.getD (s + 2) 0 ≠ 123 then stop (s + 2) reason
                else
                  let k := untilBrace bytes (s + 3)
                  if bytes.size ≤ s + 3 + k then stop bytes.size reason
                  else if k = 0 then stop (s + 3) reason
                  else
                    match named (bytes.extract (s + 3) (s + 3 + k)).toList with
                    | some v => go (s + 4 + k) (acc.push v)
                    | none => stop (s + 4 + k) "unknown Unicode character name"
              else go (s + 2) ((acc.push 92).push e)
      else stop bytes.size "\\ at end of string"
    else .ok acc
  termination_by bytes.size - s

/-- The number of backslashes from index `s` on. -/
def backslashRun (bytes : Array UInt8) (s : Nat) : Nat :=
  ((bytes.extract s bytes.size).toList.takeWhile (· = 92)).length

/-- Decodes a source whose only escapes are `\u` and `\U` after an odd run of backslashes. -/
def rawUnicodeEscape (bytes : Array UInt8) : Except Failure (Array Nat) :=
  go 0 #[]
where
  /-- Decodes from index `s`, the code points so far in `acc`. -/
  go (s : Nat) (acc : Array Nat) : Except Failure (Array Nat) :=
    if h : s < bytes.size then
      let c := bytes[s].toNat
      if c ≠ 92 then go (s + 1) (acc.push c)
      else
        let r := backslashRun bytes (s + 1) + 1
        let e := (bytes.getD (s + r) 0).toNat
        let backslashes := (List.replicate r 92).toArray
        if r % 2 = 0 || bytes.size ≤ s + r || (e ≠ 117 && e ≠ 85) then
          go (s + r) (acc ++ backslashes)
        else
          let (count, reason) :=
            if e = 117 then (4, "truncated \\uXXXX escape") else (8, "truncated \\UXXXXXXXX escape")
          match hexRun bytes count (s + r + 1) 0 with
          | .error t => .error (Failure.span "rawunicodeescape" bytes s t reason)
          | .ok v =>
            if 0x10FFFF < v then
              .error (Failure.span "rawunicodeescape" bytes s (s + r + 1 + count)
                "\\Uxxxxxxxx out of range")
            else go (s + r + 1 + count) ((acc ++ backslashes.pop).push v)
    else .ok acc
  termination_by bytes.size - s

end Decoding

end OccurrenceScan
