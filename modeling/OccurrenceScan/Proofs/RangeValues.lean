import OccurrenceScan.Proofs.RoundTrip
import OccurrenceScan.Proofs.WireGrammar

/-!
# Range values are the low 32 bits of their varints

An occurrence's range holds 32-bit signed values, each read from a varint: a single varint of
field 1, or one varint of a packed run in a length-delimited field 1. Whatever form the varint
takes (one to ten bytes, padded with redundant continuation bytes, or with bits past bit 63 in
its tenth byte), the reader first makes it a 64-bit word, dropping those bits, and the range
value is the word's low 32 bits read as two's complement. So every range value lies in
`[-2^31, 2^31)`, and a negative value, written as its 64-bit sign extension in ten bytes, reads
back as itself.

Main statement: `rangeValue_lowSigned32`.
-/

namespace OccurrenceScan

open Wire

namespace Wire

/-- The low 32 bits of a number, read as a two's-complement value. -/
def lowSigned32 (v : Nat) : Int :=
  if v % 2 ^ 32 < 2 ^ 31 then ((v % 2 ^ 32 : Nat) : Int) else ((v % 2 ^ 32 : Nat) : Int) - 2 ^ 32

/-- A 32-bit value of a word is the word's low 32 bits, read as two's complement. -/
theorem toInt_int32OfWord (w : UInt64) : (int32OfWord w).toInt = lowSigned32 w.toNat := by
  have hsize : Int32.size = 2 ^ 32 := rfl
  unfold int32OfWord lowSigned32
  rw [Int32.toInt_ofInt, hsize, Int.bmod]
  -- `bmod` centres the residue: below `2^31` it stays, from `2^31` on it drops by `2^32`
  split <;> split <;> omega

/-- A varint of at most ten bytes reads as its value modulo `2^64`, leaving what follows. -/
theorem readVarint_of_varint {e : List UInt8} {n : Nat} (he : Varint 10 e n) (rest : List UInt8) :
    readVarint (e ++ rest) = some (UInt64.ofNat n, rest) := by
  simp [readVarint, readGroups_eq_some_iff.2 ⟨e, rfl, he⟩]

/-- A packed run that starts with a varint reads as the varint's word, then the rest of the run. -/
theorem readPacked_of_readVarint {bytes rest : List UInt8} {w : UInt64} (hne : bytes ≠ [])
    (h : readVarint bytes = some (w, rest)) : readPacked bytes = (readPacked rest).map (w :: ·) := by
  rw [readPacked, if_neg hne]
  split
  · rename_i hr
    rw [h] at hr
    cases hr
  · rename_i hr
    rw [h] at hr
    cases hr
    rfl

/-- A packed run of whole varints reads as its words, and bytes after it read on from there. -/
theorem readPacked_append {a : List UInt8} (ha : PackedRun a) :
    ∃ ws, readPacked a = some ws ∧ ∀ b, readPacked (a ++ b) = (readPacked b).map (ws ++ ·) := by
  induction ha with
  | nil =>
    refine ⟨[], by simp [readPacked], fun b => ?_⟩
    rw [List.nil_append]
    cases readPacked b <;> rfl
  | @cons v pre rest hpre _ ih =>
    obtain ⟨ws, hws, happ⟩ := ih
    have hne : pre ≠ [] := hpre.ne_nil
    refine ⟨UInt64.ofNat v :: ws, ?_, fun b => ?_⟩
    · rw [readPacked_of_readVarint (by simp [hne]) (readVarint_of_varint hpre rest), hws]
      rfl
    · rw [List.append_assoc, readPacked_of_readVarint (by simp [hne]) (readVarint_of_varint hpre _),
        happ b]
      cases readPacked b <;> rfl

/-- The ten-byte writer reaches ten bytes from `128^9` on. -/
theorem length_writeVarint_ge (k n : Nat) (h : 128 ^ k ≤ n) : k + 1 ≤ (writeVarint n).length := by
  induction k generalizing n with
  | zero =>
    have := writeVarint_ne_nil n
    cases hw : writeVarint n with
    | nil => exact absurd hw this
    | cons b bs => simp
  | succ k ih =>
    have h128 : 128 ≤ n := Nat.le_trans (Nat.le_self_pow (by omega) 128) h
    rw [writeVarint, if_neg (by omega), List.length_cons]
    have : 128 ^ k ≤ n / 128 := by
      rw [Nat.le_div_iff_mul_le (by omega), ← Nat.pow_succ]
      exact h
    exact Nat.succ_le_succ (ih (n / 128) this)

/-- A negative 32-bit value is written in ten bytes: its sign extension fills all 64 bits. -/
theorem length_writeVarint_wordOfInt32 {x : Int32} (hx : x.toInt < 0) :
    (writeVarint (wordOfInt32 x)).length = 10 := by
  have hlow := Int32.le_toInt x
  have hword : wordOfInt32 x = (18446744073709551616 + x.toInt).toNat := by
    unfold wordOfInt32
    rw [if_pos hx]
  have hge : 128 ^ 9 ≤ wordOfInt32 x := by
    rw [hword]
    omega
  have hle := writeVarint_length_le (wordOfInt32 x) 9 (by have := wordOfInt32_lt x; omega)
  have hge' := length_writeVarint_ge 9 _ hge
  omega

/-- The standard encoding of a 32-bit value is a varint of at most ten bytes of its sign
extension. -/
theorem varint_writeVarint_wordOfInt32 (x : Int32) :
    Varint 10 (writeVarint (wordOfInt32 x)) (wordOfInt32 x) := by
  have hread := readGroups_writeVarint (wordOfInt32 x) 9 [] (by have := wordOfInt32_lt x; omega)
  obtain ⟨pre, hpre, hv⟩ := readGroups_eq_some_iff.1 hread
  rw [List.append_nil, List.append_nil] at hpre
  rw [hpre]
  exact hv

end Wire

namespace Occurrence

/-- A single varint of field 1 appends its value to the range, and reading goes on after it. -/
theorem decodeFields_varint (o : Occurrence) {tag e : List UInt8} {n : Nat}
    (htag : TagBytes false tag ⟨1, .varint⟩) (he : Varint 10 e n) (rest : List UInt8) :
    decodeFields (depthLimit - 2) applyField o (tag ++ e ++ rest) =
      decodeFields (depthLimit - 2) applyField
        { o with range := o.range ++ [int32OfWord (UInt64.ofNat n)] } rest := by
  rw [decodeFields_of_next (nextField_complete (.scalar htag (.varint he)) rest)]
  rfl

/-- A packed run appends the values of its varints to the range, in order. -/
theorem applyField_packedRun (o : Occurrence) {p : List UInt8} {ws : List UInt64}
    (hp : readPacked p = some ws) :
    o.applyField ⟨1, .delimited p⟩ = .ok { o with range := o.range ++ ws.map int32OfWord } := by
  simp [applyField, hp]

/-- A varint among whole varints of a packed run appends its value at its place in the run. -/
theorem applyField_packedRun_middle (o : Occurrence) {pre e post : List UInt8} {n : Nat}
    (hpre : PackedRun pre) (he : Varint 10 e n) (hpost : PackedRun post) :
    ∃ xs ys, o.applyField ⟨1, .delimited pre⟩ = .ok { o with range := o.range ++ xs } ∧
      o.applyField ⟨1, .delimited (pre ++ e ++ post)⟩ =
        .ok { o with range := o.range ++ xs ++ int32OfWord (UInt64.ofNat n) :: ys } := by
  obtain ⟨ws₁, hws₁, happ⟩ := readPacked_append hpre
  obtain ⟨ws₂, hws₂⟩ := Option.isSome_iff_exists.1 (readPacked_isSome_iff.2 hpost)
  -- the run before the varint reads on into it, and it into the run after it
  have hrun : readPacked (pre ++ e ++ post) = some (ws₁ ++ UInt64.ofNat n :: ws₂) := by
    rw [List.append_assoc, happ, readPacked_of_readVarint (by simp [he.ne_nil])
      (readVarint_of_varint he post), hws₂]
    rfl
  refine ⟨ws₁.map int32OfWord, ws₂.map int32OfWord, applyField_packedRun o hws₁, ?_⟩
  rw [applyField_packedRun o hrun]
  simp

/-- The standard encoding of a value as a packed run of field 1 decodes to that value. -/
theorem decode_packed_wordOfInt32 (x : Int32) :
    decode (delimitedField 1 (writeVarint (wordOfInt32 x))) = .ok { range := [x] } := by
  have hlen : (writeVarint (wordOfInt32 x)).length < 2 ^ 35 := by
    have := writeVarint_length_le (wordOfInt32 x) 9 (by have := wordOfInt32_lt x; omega)
    omega
  have hpacked : readPacked (writeVarint (wordOfInt32 x)) = some [UInt64.ofNat (wordOfInt32 x)] := by
    simpa using readPacked_flatMap [wordOfInt32 x] (by simpa using wordOfInt32_lt x)
  unfold decode
  rw [← List.append_nil (delimitedField 1 _), decodeFields_delimitedField _ _ (by omega)
    (by omega) hlen, applyField_packedRun _ hpacked]
  simp only [decodeFields_nil, int32OfWord_wordOfInt32, List.map_cons, List.map_nil]
  rfl

/-- The standard encoding of a value as a single varint of field 1 decodes to that value. -/
theorem decode_varint_wordOfInt32 (x : Int32) :
    decode ([0x08] ++ writeVarint (wordOfInt32 x)) = .ok { range := [x] } := by
  have htag : TagBytes false [0x08] ⟨1, .varint⟩ := ⟨.last (by decide), by decide, .inr (by decide)⟩
  unfold decode
  rw [← List.append_nil ([0x08] ++ _), decodeFields_varint _ htag (varint_writeVarint_wordOfInt32 x),
    decodeFields_nil, int32OfWord_wordOfInt32]
  rfl

end Occurrence

/-- **A range value is the low 32 bits of its varint's 64-bit word, read as two's complement.**
For any varint the decoder accepts, of one to ten bytes, the reader takes its 64-bit word, the
value modulo `2^64`. Written as a single varint of field 1, it appends one range value, the word's
low 32 bits read as two's complement; written as one varint of a packed run of field 1, among
whole varints before and after it, it appends the same value at its place in the run. So every
range value lies in `[-2^31, 2^31)`, and the standard encoding of a 32-bit value, ten bytes for a
negative one, packed or not, reads back as that value. -/
theorem rangeValue_lowSigned32 :
    (∀ (o : Occurrence) (tag e rest : List UInt8) (n : Nat), TagBytes false tag ⟨1, .varint⟩ →
      Varint 10 e n →
        ∃ (w : UInt64) (x : Int32), readVarint (e ++ rest) = some (w, rest) ∧
          w.toNat = n % 2 ^ 64 ∧ x.toInt = lowSigned32 w.toNat ∧
          decodeFields (depthLimit - 2) Occurrence.applyField o (tag ++ e ++ rest) =
            decodeFields (depthLimit - 2) Occurrence.applyField
              { o with range := o.range ++ [x] } rest) ∧
    (∀ (o : Occurrence) (pre e post : List UInt8) (n : Nat), PackedRun pre → Varint 10 e n →
      PackedRun post →
        ∃ (xs ys : List Int32) (x : Int32), x.toInt = lowSigned32 (n % 2 ^ 64) ∧
          o.applyField ⟨1, .delimited pre⟩ = .ok { o with range := o.range ++ xs } ∧
          o.applyField ⟨1, .delimited (pre ++ e ++ post)⟩ =
            .ok { o with range := o.range ++ xs ++ x :: ys }) ∧
    (∀ (o : Occurrence), ∀ v ∈ o.rangeValues, -2 ^ 31 ≤ v ∧ v < 2 ^ 31) ∧
    (∀ x : Int32, (x.toInt < 0 → (writeVarint (wordOfInt32 x)).length = 10) ∧
      Occurrence.decode (delimitedField 1 (writeVarint (wordOfInt32 x))) = .ok { range := [x] } ∧
      Occurrence.decode ([0x08] ++ writeVarint (wordOfInt32 x)) = .ok { range := [x] }) := by
  refine ⟨?_, ?_, ?_, fun x => ⟨length_writeVarint_wordOfInt32,
    Occurrence.decode_packed_wordOfInt32 x, Occurrence.decode_varint_wordOfInt32 x⟩⟩
  · -- a single varint
    intro o tag e rest n htag he
    refine ⟨UInt64.ofNat n, int32OfWord (UInt64.ofNat n), readVarint_of_varint he rest,
      UInt64.toNat_ofNat', toInt_int32OfWord _, Occurrence.decodeFields_varint o htag he rest⟩
  · -- one varint of a packed run
    intro o pre e post n hpre he hpost
    obtain ⟨xs, ys, hxs, hrun⟩ := Occurrence.applyField_packedRun_middle o hpre he hpost
    refine ⟨xs, ys, int32OfWord (UInt64.ofNat n), ?_, hxs, hrun⟩
    rw [toInt_int32OfWord, UInt64.toNat_ofNat']
  · -- every value of a range is a 32-bit value
    intro o v hv
    obtain ⟨x, -, rfl⟩ := List.mem_map.1 hv
    exact ⟨Int32.le_toInt x, Int32.toInt_lt x⟩

/-- Ten bytes of all-ones groups, a varint of `2^70 - 1`, give the word `2^64 - 1` and so the
range value `-1`. -/
theorem rangeValue_lowSigned32_overlong :
    Occurrence.decode [0x08, 0xff, 0xff, 0xff, 0xff, 0xff, 0xff, 0xff, 0xff, 0xff, 0x7f] =
      .ok { range := [-1] } := by
  have htag : TagBytes false [0x08] ⟨1, .varint⟩ := ⟨.last (by decide), by decide, .inr (by decide)⟩
  have he : Varint 10 [0xff, 0xff, 0xff, 0xff, 0xff, 0xff, 0xff, 0xff, 0xff, 0x7f] (2 ^ 70 - 1) :=
    .more (by decide) (.more (by decide) (.more (by decide) (.more (by decide) (.more (by decide)
      (.more (by decide) (.more (by decide) (.more (by decide) (.more (by decide)
        (.last (by decide))))))))))
  obtain ⟨w, x, -, hw, hx, hdec⟩ := rangeValue_lowSigned32.1 {} [0x08] _ [] _ htag he
  have hx' : x = -1 := Int32.toInt_inj.1 (by rw [hx, hw]; decide)
  simp only [List.cons_append, List.nil_append, List.append_nil] at hdec
  unfold Occurrence.decode
  rw [hdec, decodeFields_nil, hx']

end OccurrenceScan
