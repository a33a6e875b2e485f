import OccurrenceScan.Text.Utf8
import Mathlib

/-!
# The UTF-8 decoder reads back what the encoder writes

Every character is written in one to four bytes by `encodeChar`, and the decoder's step `next`
takes exactly those bytes back to the character, whatever follows them. The four widths are
the four cases of the proof: the lead byte carries the high bits and selects a shape of
`leadShape`, whose bounds on the first continuation byte (`A0..BF` after `E0`, `80..9F` after
`ED`, `90..BF` after `F0`, `80..8F` after `F4`) hold because a character is a scalar value: at
least the width's least code point, below `D800` or above `DFFF`, and below `110000`.

Conversely, every byte sequence the decoder accepts is the encoding of what it returns: the
step's shape bounds rule out overlong forms, surrogates and values above `10FFFF`, so the value
bits it gathers re-encode to the very bytes it read. Together the two directions say that a
string field is accepted exactly when it holds the UTF-8 encoding of a string.

Main statements: `decodeFrom_encodeChar` (one character, any bytes after it),
`decodeString?_encode` (a whole string, `U+0000` included) and `decodeString?_eq_some_iff`.
-/

namespace OccurrenceScan
namespace Utf8

/-- A byte built from a number below 256 keeps it. -/
theorem toNat_ofNat_of_lt {n : Nat} (h : n < 256) : (UInt8.ofNat n).toNat = n := by
  rw [UInt8.toNat_ofNat']
  omega

/-- The character of a number is `c` when the number is `c`'s code point. -/
theorem ofNat_eq_of_toNat {n : Nat} {c : Char} (h : n = c.toNat) : Char.ofNat n = c := by
  rw [h, Char.ofNat_toNat]

/-- The decoder's step reads the bytes of a character back to it and leaves what follows. -/
theorem next_encodeChar (c : Char) (rest : List UInt8) :
    ∃ b bs, encodeChar c = b :: bs ∧
      next b (bs ++ rest) = .ok (c, (encodeChar c).length, rest) := by
  -- a code point is below `D800`, or between `E000` and `10FFFF`
  have hvalid : c.toNat < 0xd800 ∨ (0xdfff < c.toNat ∧ c.toNat < 0x110000) := c.valid
  unfold encodeChar
  simp only
  split
  · rename_i h1
    refine ⟨_, [], rfl, ?_⟩
    simp [next, toNat_ofNat_of_lt (by omega : c.toNat < 256), h1, Char.ofNat_toNat]
  · split
    · rename_i h1 h2
      refine ⟨_, _, rfl, ?_⟩
      have hb0 := toNat_ofNat_of_lt (n := 0xC0 + c.toNat / 64) (by omega)
      have hb1 := toNat_ofNat_of_lt (n := 0x80 + c.toNat % 64) (by omega)
      simp only [next, hb0, List.cons_append, List.nil_append]
      rw [if_neg (by omega)]
      have hshape : leadShape (0xC0 + c.toNat / 64) =
          some ⟨1, 0xC0 + c.toNat / 64 - 0xC0, 0x80, 0xBF⟩ := by
        unfold leadShape
        rw [if_neg (by omega), if_pos (by omega)]
      rw [hshape]
      simp only [continuation, hb1]
      rw [if_pos (by omega)]
      simp only [Except.ok.injEq, Prod.mk.injEq, List.length_cons, List.length_nil, and_true]
      apply ofNat_eq_of_toNat
      omega
    · split
      · rename_i h1 h2 h3
        refine ⟨_, _, rfl, ?_⟩
        have hb0 := toNat_ofNat_of_lt (n := 0xE0 + c.toNat / 4096) (by omega)
        have hb1 := toNat_ofNat_of_lt (n := 0x80 + c.toNat / 64 % 64) (by omega)
        have hb2 := toNat_ofNat_of_lt (n := 0x80 + c.toNat % 64) (by omega)
        simp only [next, hb0, List.cons_append, List.nil_append]
        rw [if_neg (by omega)]
        -- `E0` and `ED` narrow the first continuation byte; neither bound excludes `c`
        have hshape : ∃ low high bits,
            leadShape (0xE0 + c.toNat / 4096) = some ⟨2, bits, low, high⟩ ∧
              bits = c.toNat / 4096 ∧ low ≤ 0x80 + c.toNat / 64 % 64 ∧
              0x80 + c.toNat / 64 % 64 ≤ high := by
          unfold leadShape
          rw [if_neg (by omega), if_neg (by omega)]
          split
          · exact ⟨_, _, _, rfl, by omega, by omega, by omega⟩
          · split
            · exact ⟨_, _, _, rfl, by omega, by omega, by omega⟩
            · rw [if_pos (by omega)]
              exact ⟨_, _, _, rfl, by omega, by omega, by omega⟩
        obtain ⟨low, high, bits, hs, hbits, hlow, hhigh⟩ := hshape
        rw [hs]
        simp only [continuation, hb1, hb2]
        rw [if_pos ⟨hlow, hhigh⟩, if_pos (by omega)]
        simp only [Except.ok.injEq, Prod.mk.injEq, List.length_cons, List.length_nil, and_true]
        apply ofNat_eq_of_toNat
        omega
      · rename_i h1 h2 h3
        refine ⟨_, _, rfl, ?_⟩
        have hb0 := toNat_ofNat_of_lt (n := 0xF0 + c.toNat / 262144) (by omega)
        have hb1 := toNat_ofNat_of_lt (n := 0x80 + c.toNat / 4096 % 64) (by omega)
        have hb2 := toNat_ofNat_of_lt (n := 0x80 + c.toNat / 64 % 64) (by omega)
        have hb3 := toNat_ofNat_of_lt (n := 0x80 + c.toNat % 64) (by omega)
        simp only [next, hb0, List.cons_append, List.nil_append]
        rw [if_neg (by omega)]
        -- `F0` and `F4` narrow the first continuation byte; neither bound excludes `c`
        have hshape : ∃ low high bits,
            leadShape (0xF0 + c.toNat / 262144) = some ⟨3, bits, low, high⟩ ∧
              bits = c.toNat / 262144 ∧ low ≤ 0x80 + c.toNat / 4096 % 64 ∧
              0x80 + c.toNat / 4096 % 64 ≤ high := by
          unfold leadShape
          rw [if_neg (by omega), if_neg (by omega), if_neg (by omega), if_neg (by omega),
            if_neg (by omega)]
          split
          · exact ⟨_, _, _, rfl, by omega, by omega, by omega⟩
          · split
            · exact ⟨_, _, _, rfl, by omega, by omega, by omega⟩
            · rw [if_pos (by omega)]
              exact ⟨_, _, _, rfl, by omega, by omega, by omega⟩
        obtain ⟨low, high, bits, hs, hbits, hlow, hhigh⟩ := hshape
        rw [hs]
        simp only [continuation, hb1, hb2, hb3]
        rw [if_pos ⟨hlow, hhigh⟩, if_pos (by omega), if_pos (by omega)]
        simp only [Except.ok.injEq, Prod.mk.injEq, List.length_cons, List.length_nil, and_true]
        apply ofNat_eq_of_toNat
        omega

/-- A step that reads a character continues the decoding after it. -/
theorem decodeFrom_cons_of_next {position width : Nat} {b : UInt8} {rest after : List UInt8}
    {c : Char} (h : next b rest = .ok (c, width, after)) :
    decodeFrom position (b :: rest) = (decodeFrom (position + width) after).map (c :: ·) := by
  rw [decodeFrom.eq_2]
  split
  · rename_i heq
    rw [h] at heq
    cases heq
  · rename_i heq
    rw [h] at heq
    cases heq
    cases decodeFrom (position + width) after <;> rfl

/-- Decoding reads one encoded character and goes on with the bytes after it. -/
theorem decodeFrom_encodeChar (position : Nat) (c : Char) (rest : List UInt8) :
    decodeFrom position (encodeChar c ++ rest) =
      (decodeFrom (position + (encodeChar c).length) rest).map (c :: ·) := by
  obtain ⟨b, bs, he, hn⟩ := next_encodeChar c rest
  rw [he, List.cons_append, decodeFrom_cons_of_next hn, he]

/-- Decoding reads encoded characters back, from any position. -/
theorem decodeFrom_flatMap_encodeChar (position : Nat) (cs : List Char) :
    decodeFrom position (cs.flatMap encodeChar) = .ok cs := by
  induction cs generalizing position with
  | nil => rw [List.flatMap_nil, decodeFrom.eq_1]
  | cons c cs ih =>
    rw [List.flatMap_cons, decodeFrom_encodeChar, ih]
    rfl

/-- **The decoder reads back every string the encoder writes**, `U+0000` and the empty string
included. -/
theorem decodeString?_encode (s : String) : decodeString? (encode s) = some s := by
  unfold decodeString? decode encode
  rw [decodeFrom_flatMap_encodeChar]
  simp

/-! ### The decoder accepts only encodings -/

/-- A scalar value is the code point of its character. -/
theorem toNat_ofNat_of_valid {n : Nat} (h : n.isValidChar) : (Char.ofNat n).toNat = n := by
  simp [Char.ofNat, h, Char.ofNatAux, Char.toNat]

/-- The byte of a number is `b` when the number is `b`'s value. -/
theorem byte_ofNat_eq {n : Nat} {b : UInt8} (h : n = b.toNat) : UInt8.ofNat n = b := by
  rw [h, UInt8.ofNat_toNat]

/-- One byte below `80` is the encoding of its character. -/
theorem encodeChar_one {b0 : UInt8} (h0 : b0.toNat < 0x80) :
    encodeChar (Char.ofNat b0.toNat) = [b0] := by
  have hv := toNat_ofNat_of_valid (n := b0.toNat) (by unfold Nat.isValidChar; omega)
  unfold encodeChar
  simp only [hv]
  rw [if_pos h0, UInt8.ofNat_toNat]

/-- A lead of `C2..DF` and a continuation byte encode the character of their value bits. -/
theorem encodeChar_two {v : Nat} {b0 b1 : UInt8} (h0 : 0xC2 ≤ b0.toNat ∧ b0.toNat ≤ 0xDF)
    (h1 : 0x80 ≤ b1.toNat ∧ b1.toNat ≤ 0xBF) (hv : v = (b0.toNat - 0xC0) * 64 + (b1.toNat - 0x80)) :
    encodeChar (Char.ofNat v) = [b0, b1] := by
  have hc := toNat_ofNat_of_valid (n := v) (by unfold Nat.isValidChar; omega)
  unfold encodeChar
  simp only [hc]
  rw [if_neg (by omega), if_pos (by omega)]
  simp only [List.cons.injEq, and_true]
  exact ⟨byte_ofNat_eq (by omega), byte_ofNat_eq (by omega)⟩

/-- A lead of `E0..EF` and two continuation bytes encode the character of their value bits, when
the value needs three bytes and is no surrogate. -/
theorem encodeChar_three {v : Nat} {b0 b1 b2 : UInt8} (h0 : 0xE0 ≤ b0.toNat ∧ b0.toNat ≤ 0xEF)
    (h1 : 0x80 ≤ b1.toNat ∧ b1.toNat ≤ 0xBF) (h2 : 0x80 ≤ b2.toNat ∧ b2.toNat ≤ 0xBF)
    (hv : v = ((b0.toNat - 0xE0) * 64 + (b1.toNat - 0x80)) * 64 + (b2.toNat - 0x80))
    (hlow : 0x800 ≤ v) (hsur : v < 0xD800 ∨ 0xDFFF < v) :
    encodeChar (Char.ofNat v) = [b0, b1, b2] := by
  have hc := toNat_ofNat_of_valid (n := v) (by unfold Nat.isValidChar; omega)
  unfold encodeChar
  simp only [hc]
  rw [if_neg (by omega), if_neg (by omega), if_pos (by omega)]
  simp only [List.cons.injEq, and_true]
  exact ⟨byte_ofNat_eq (by omega), byte_ofNat_eq (by omega), byte_ofNat_eq (by omega)⟩

/-- A lead of `F0..F4` and three continuation bytes encode the character of their value bits,
when the value needs four bytes and is at most `10FFFF`. -/
theorem encodeChar_four {v : Nat} {b0 b1 b2 b3 : UInt8} (h0 : 0xF0 ≤ b0.toNat ∧ b0.toNat ≤ 0xF4)
    (h1 : 0x80 ≤ b1.toNat ∧ b1.toNat ≤ 0xBF) (h2 : 0x80 ≤ b2.toNat ∧ b2.toNat ≤ 0xBF)
    (h3 : 0x80 ≤ b3.toNat ∧ b3.toNat ≤ 0xBF)
    (hv : v = (((b0.toNat - 0xF0) * 64 + (b1.toNat - 0x80)) * 64 + (b2.toNat - 0x80)) * 64 +
      (b3.toNat - 0x80))
    (hlow : 0x10000 ≤ v) (hhigh : v < 0x110000) :
    encodeChar (Char.ofNat v) = [b0, b1, b2, b3] := by
  have hc := toNat_ofNat_of_valid (n := v) (by unfold Nat.isValidChar; omega)
  unfold encodeChar
  simp only [hc]
  rw [if_neg (by omega), if_neg (by omega), if_neg (by omega)]
  simp only [List.cons.injEq, and_true]
  exact ⟨byte_ofNat_eq (by omega), byte_ofNat_eq (by omega), byte_ofNat_eq (by omega),
    byte_ofNat_eq (by omega)⟩

/-- A continuation read that succeeds took one byte in the bounds and read the rest. -/
theorem continuation_succ {count acc low high taken v : Nat} {bytes after : List UInt8}
    (h : continuation (count + 1) acc low high taken bytes = .ok (v, after)) :
    ∃ b rest, bytes = b :: rest ∧ low ≤ b.toNat ∧ b.toNat ≤ high ∧
      continuation count (acc * 64 + (b.toNat - 0x80)) 0x80 0xBF (taken + 1) rest =
        .ok (v, after) := by
  match bytes, h with
  | [], h => simp [continuation] at h
  | b :: rest, h =>
    simp only [continuation] at h
    split at h
    · rename_i hb
      exact ⟨b, rest, rfl, hb.1, hb.2, h⟩
    · cases h

theorem continuation_zero {acc low high taken v : Nat} {bytes after : List UInt8}
    (h : continuation 0 acc low high taken bytes = .ok (v, after)) : v = acc ∧ after = bytes := by
  simp only [continuation, Except.ok.injEq, Prod.mk.injEq] at h
  exact ⟨h.1.symm, h.2.symm⟩

/-- The shapes a lead byte can start, by width, with the narrowed bounds of `E0`, `ED`, `F0`
and `F4`. -/
theorem leadShape_eq_some {b : Nat} {s : LeadShape} (h : leadShape b = some s) :
    (0xC2 ≤ b ∧ b ≤ 0xDF ∧ s = ⟨1, b - 0xC0, 0x80, 0xBF⟩) ∨
    (0xE0 ≤ b ∧ b ≤ 0xEF ∧ ∃ bits low high, s = ⟨2, bits, low, high⟩ ∧ bits = b - 0xE0 ∧
      0x80 ≤ low ∧ high ≤ 0xBF ∧ (b = 0xE0 → low = 0xA0) ∧ (b = 0xED → high = 0x9F)) ∨
    (0xF0 ≤ b ∧ b ≤ 0xF4 ∧ ∃ bits low high, s = ⟨3, bits, low, high⟩ ∧ bits = b - 0xF0 ∧
      0x80 ≤ low ∧ high ≤ 0xBF ∧ (b = 0xF0 → low = 0x90) ∧ (b = 0xF4 → high = 0x8F)) := by
  unfold leadShape at h
  split_ifs at h <;> cases h
  · exact .inl ⟨by omega, by omega, rfl⟩
  -- three-byte leads: `E0`, `ED`, and the other leads of `E1..EF`
  iterate 3
    exact .inr (.inl ⟨by omega, by omega, _, _, _, rfl, by omega, by omega, by omega, by omega,
      by omega⟩)
  -- four-byte leads: `F0`, `F1..F3`, `F4`
  iterate 3
    exact .inr (.inr ⟨by omega, by omega, _, _, _, rfl, by omega, by omega, by omega, by omega,
      by omega⟩)

/-- **The decoder's step reads only encodings**: the bytes it takes are those of the character
it returns. -/
theorem encodeChar_of_next {b : UInt8} {rest after : List UInt8} {c : Char} {width : Nat}
    (h : next b rest = .ok (c, width, after)) :
    ∃ bs, rest = bs ++ after ∧ encodeChar c = b :: bs := by
  unfold next at h
  split at h
  · rename_i hb
    simp only [Except.ok.injEq, Prod.mk.injEq] at h
    obtain ⟨rfl, -, rfl⟩ := h
    exact ⟨[], rfl, encodeChar_one hb⟩
  · split at h
    · cases h
    · rename_i s hs
      split at h
      · cases h
      · rename_i v after' hc
        simp only [Except.ok.injEq, Prod.mk.injEq] at h
        obtain ⟨rfl, -, rfl⟩ := h
        rcases leadShape_eq_some hs with ⟨l0, u0, rfl⟩ |
            ⟨l0, u0, bits, low, high, rfl, hbits, hl, hh, he0, hed⟩ |
            ⟨l0, u0, bits, low, high, rfl, hbits, hl, hh, hf0, hf4⟩ <;>
          simp only at hc
        · obtain ⟨b1, r1, rfl, l1, u1, hc⟩ := continuation_succ hc
          obtain ⟨hv, ha⟩ := continuation_zero hc
          exact ⟨[b1], by rw [ha]; rfl, encodeChar_two ⟨l0, u0⟩ ⟨l1, u1⟩ hv⟩
        · obtain ⟨b1, r1, rfl, l1, u1, hc⟩ := continuation_succ hc
          obtain ⟨b2, r2, rfl, l2, u2, hc⟩ := continuation_succ hc
          obtain ⟨hv, ha⟩ := continuation_zero hc
          -- after `E0` the value needs three bytes; after `ED` it stays below the surrogates
          have hlow : 0x800 ≤ v := by
            by_cases h : b.toNat = 0xE0
            · have := he0 h
              omega
            · omega
          have hsur : v < 0xD800 ∨ 0xDFFF < v := by
            by_cases h : b.toNat = 0xED
            · have := hed h
              omega
            · omega
          exact ⟨[b1, b2], by rw [ha]; rfl,
            encodeChar_three ⟨l0, u0⟩ ⟨by omega, by omega⟩ ⟨l2, u2⟩ (by omega) hlow hsur⟩
        · obtain ⟨b1, r1, rfl, l1, u1, hc⟩ := continuation_succ hc
          obtain ⟨b2, r2, rfl, l2, u2, hc⟩ := continuation_succ hc
          obtain ⟨b3, r3, rfl, l3, u3, hc⟩ := continuation_succ hc
          obtain ⟨hv, ha⟩ := continuation_zero hc
          -- after `F0` the value needs four bytes; after `F4` it stays below `110000`
          have hlow : 0x10000 ≤ v := by
            by_cases h : b.toNat = 0xF0
            · have := hf0 h
              omega
            · omega
          have hhigh : v < 0x110000 := by
            by_cases h : b.toNat = 0xF4
            · have := hf4 h
              omega
            · omega
          exact ⟨[b1, b2, b3], by rw [ha]; rfl,
            encodeChar_four ⟨l0, u0⟩ ⟨by omega, by omega⟩ ⟨l2, u2⟩ ⟨l3, u3⟩ (by omega) hlow hhigh⟩

/-- What the decoder accepts is the encoding of what it returns. -/
theorem eq_flatMap_of_decodeFrom {position : Nat} {bytes : List UInt8} {cs : List Char}
    (h : decodeFrom position bytes = .ok cs) : bytes = cs.flatMap encodeChar := by
  fun_induction decodeFrom position bytes generalizing cs with
  | case1 =>
    cases h
    rfl
  | case2 => cases h
  | case3 => cases h
  | case4 position b rest c width after hn _ tail htail ih =>
    cases h
    obtain ⟨bs, rfl, henc⟩ := encodeChar_of_next hn
    rw [List.flatMap_cons, henc, ih htail]
    rfl

/-- **A string field's bytes decode exactly when they are the UTF-8 encoding of a string**, and
then to that string. -/
theorem decodeString?_eq_some_iff {bytes : List UInt8} {s : String} :
    decodeString? bytes = some s ↔ bytes = encode s := by
  constructor
  · intro h
    unfold decodeString? at h
    split at h
    · rename_i cs hcs
      cases h
      rw [eq_flatMap_of_decodeFrom hcs, encode, String.toList_ofList]
    · cases h
  · rintro rfl
    exact decodeString?_encode s

end Utf8
end OccurrenceScan
