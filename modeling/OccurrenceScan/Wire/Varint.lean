namespace OccurrenceScan

namespace Wire

/-!
# Base-128 varints

A varint writes a number seven bits to a byte, least significant group first, and sets the top
bit of every byte but the last. A reader takes at most `limit` bytes; when the last byte it may
take still has its top bit set, or the bytes end first, there is no varint.

A 64-bit reader takes ten bytes at most and keeps the value modulo `2^64`, so of the tenth byte
only the lowest bit counts, at bit 63. Padded forms with redundant continuation bytes read like
the short form. A 32-bit signed value is the low 32 bits of the 64-bit value, read as two's
complement, and a negative one is written as its 64-bit sign extension, in ten bytes.

Main statement: `readGroups_length_lt` (a read always consumes a byte). That reading what was
written gives the number back is `readGroups_writeVarint`, among the wire proofs.
-/

/-- Reads the seven-bit groups of a varint from at most `limit` bytes, as an unbounded number. -/
def readGroups : Nat → List UInt8 → Option (Nat × List UInt8)
  | 0, _ => none
  | _ + 1, [] => none
  | limit + 1, b :: rest =>
    if b.toNat < 128 then some (b.toNat, rest)
    else (readGroups limit rest).map fun (v, r) => (b.toNat - 128 + 128 * v, r)

/-- Reads a varint of at most ten bytes as a 64-bit word. -/
def readVarint (bytes : List UInt8) : Option (UInt64 × List UInt8) :=
  (readGroups 10 bytes).map fun (v, r) => (UInt64.ofNat v, r)

/-- Writes a number as a varint, in the fewest bytes. -/
def writeVarint (n : Nat) : List UInt8 :=
  if n < 128 then [UInt8.ofNat n]
  else UInt8.ofNat (n % 128 + 128) :: writeVarint (n / 128)
termination_by n
decreasing_by omega

/-- The 32-bit signed value of a 64-bit varint: its low 32 bits, read as two's complement. -/
def int32OfWord (w : UInt64) : Int32 :=
  Int32.ofInt w.toNat

/-- The number a 32-bit signed value is written as: its 64-bit sign extension. -/
def wordOfInt32 (x : Int32) : Nat :=
  if x.toInt < 0 then (18446744073709551616 + x.toInt).toNat else x.toInt.toNat

theorem readGroups_length_lt {limit : Nat} {bytes rest : List UInt8} {v : Nat}
    (h : readGroups limit bytes = some (v, rest)) : rest.length < bytes.length := by
  induction limit generalizing bytes v with
  | zero => simp [readGroups] at h
  | succ limit ih =>
    match bytes, h with
    | b :: bs, h =>
      simp only [readGroups] at h
      split at h
      · simp only [Option.some.injEq, Prod.mk.injEq] at h
        obtain ⟨-, rfl⟩ := h
        simp
      · obtain ⟨⟨v', r⟩, hr, he⟩ := Option.map_eq_some_iff.1 h
        simp only [Prod.mk.injEq] at he
        obtain ⟨-, rfl⟩ := he
        have := ih hr
        simp only [List.length_cons]
        omega

theorem readVarint_length_lt {bytes rest : List UInt8} {w : UInt64}
    (h : readVarint bytes = some (w, rest)) : rest.length < bytes.length := by
  obtain ⟨⟨v, r⟩, hr, he⟩ := Option.map_eq_some_iff.1 h
  simp only [Prod.mk.injEq] at he
  obtain ⟨-, rfl⟩ := he
  exact readGroups_length_lt hr

end Wire

end OccurrenceScan
