import OccurrenceScan.Wire.Field
import Mathlib

/-!
# Reading back written fields

The wire readers take back what the writers put down, whatever bytes follow:

* a tag written as the varint `number * 8 + code` reads as that number and wire type, for a
  field number from 1 to `2^29 - 1`;
* a length-delimited field reads as its payload when the payload's length fits the five bytes a
  length may take;
* a run of varints written back to back reads, as a packed payload, as their words;
* a 32-bit value written as its 64-bit sign extension reads back as itself.

The message loop `decodeFields` is given its three equations (end of input, a field read, a
fault), so that decoders built on it are reasoned about one field at a time.

Main statements: `nextField_delimitedField`, `decodeFields_of_next`, `readPacked_flatMap`,
`int32OfWord_wordOfInt32`.
-/

namespace OccurrenceScan
namespace Wire

/-! ### The varint writer -/

theorem writeVarint_length_le (n limit : Nat) (h : n < 128 ^ (limit + 1)) :
    (writeVarint n).length ≤ limit + 1 := by
  induction limit generalizing n with
  | zero =>
    rw [writeVarint, if_pos (by simpa using h)]
    simp
  | succ limit ih =>
    rw [writeVarint]
    split
    · simp
    · have : n / 128 < 128 ^ (limit + 1) := by
        rw [Nat.pow_succ] at h
        exact Nat.div_lt_of_lt_mul (by rwa [Nat.mul_comm] at h)
      simpa using ih (n / 128) this

theorem readGroups_writeVarint (n limit : Nat) (rest : List UInt8) (h : n < 128 ^ (limit + 1)) :
    readGroups (limit + 1) (writeVarint n ++ rest) = some (n, rest) := by
  induction limit generalizing n with
  | zero =>
    have hn : n < 128 := by simpa using h
    rw [writeVarint, if_pos hn]
    have : (UInt8.ofNat n).toNat = n := by
      rw [UInt8.toNat_ofNat']; omega
    simp [readGroups, this, hn]
  | succ limit ih =>
    rw [writeVarint]
    split
    · rename_i hn
      have : (UInt8.ofNat n).toNat = n := by
        rw [UInt8.toNat_ofNat']; omega
      simp [readGroups, this, hn]
    · rename_i hn
      have hb : (UInt8.ofNat (n % 128 + 128)).toNat = n % 128 + 128 := by
        rw [UInt8.toNat_ofNat']; omega
      have hlt : n / 128 < 128 ^ (limit + 1) := by
        rw [Nat.pow_succ] at h
        exact Nat.div_lt_of_lt_mul (by rwa [Nat.mul_comm] at h)
      simp only [List.cons_append, readGroups, hb]
      rw [if_neg (by omega), ih (n / 128) hlt]
      simp only [Option.map_some, Option.some.injEq, Prod.mk.injEq, and_true]
      omega

/-! ### Tags -/

theorem WireType.ofCode?_code (w : WireType) : WireType.ofCode? w.code = some w := by
  cases w <;> rfl

theorem WireType.code_lt (w : WireType) : w.code < 8 := by
  cases w <;> decide

/-- The varint of a tag splits back into the field number and the wire type's code. -/
theorem tagValue_div (number : Nat) (w : WireType) : (number * 8 + w.code) / 8 = number := by
  have := WireType.code_lt w
  omega

theorem tagValue_mod (number : Nat) (w : WireType) : (number * 8 + w.code) % 8 = w.code := by
  have := WireType.code_lt w
  omega

theorem writeVarint_ne_nil (n : Nat) : writeVarint n ≠ [] := by
  rw [writeVarint]
  split <;> simp

/-- A written tag reads back as its field number and wire type. -/
theorem readTag_writeVarint {number : Nat} (w : WireType) (rest : List UInt8)
    (hpos : 0 < number) (hlt : number < 2 ^ 29) :
    readTag (writeVarint (number * 8 + w.code) ++ rest) = some (⟨number, w⟩, rest) := by
  have hcode := WireType.code_lt w
  unfold readTag
  rw [readGroups_writeVarint _ 4 rest (by omega)]
  simp only
  rw [if_pos (by omega), tagValue_mod, WireType.ofCode?_code, tagValue_div]
  rfl

/-! ### Payloads -/

theorem takeBytes_append (payload rest : List UInt8) :
    takeBytes payload.length (payload ++ rest) = some (payload, rest) := by
  simp [takeBytes]

/-- A length and that many bytes read back as the payload, when the length fits five bytes. -/
theorem readScalar_delimited (payload rest : List UInt8) (hlen : payload.length < 2 ^ 35) :
    readScalar .delimited (writeVarint payload.length ++ payload ++ rest) =
      some (.delimited payload, rest) := by
  simp only [readScalar, List.append_assoc]
  rw [readGroups_writeVarint _ 4 _ (by omega)]
  simp [takeBytes_append]

/-- **A length-delimited field reads back as its number and payload**, leaving what follows. -/
theorem nextField_delimitedField (budget : Nat) {number : Nat} (payload rest : List UInt8)
    (hpos : 0 < number) (hlt : number < 2 ^ 29) (hlen : payload.length < 2 ^ 35) :
    nextField budget (delimitedField number payload ++ rest) =
      .ok (some (⟨number, .delimited payload⟩, rest)) := by
  unfold nextField delimitedField
  split
  · rename_i h
    simp only [List.append_assoc, List.append_eq_nil_iff] at h
    exact absurd h.1 (writeVarint_ne_nil _)
  · simp only [List.append_assoc]
    rw [readTag_writeVarint .delimited _ hpos hlt]
    simp only
    rw [← List.append_assoc, readScalar_delimited payload rest hlen]

theorem length_le_delimitedField (number : Nat) (payload : List UInt8) :
    payload.length ≤ (delimitedField number payload).length := by
  simp only [delimitedField, List.length_append]
  omega

/-! ### The message loop -/

section Loop

variable {α : Type} {budget : Nat} {apply : α → Field → Except DecodeFault α} {acc : α}

theorem decodeFields_nil : decodeFields budget apply acc [] = .ok acc := by
  rw [decodeFields]
  rfl

/-- After a field is read, the loop applies it and goes on with the bytes after it. -/
theorem decodeFields_of_next {bytes rest : List UInt8} {f : Field}
    (h : nextField budget bytes = .ok (some (f, rest))) :
    decodeFields budget apply acc bytes =
      (apply acc f).bind fun a => decodeFields budget apply a rest := by
  rw [decodeFields]
  split
  · rename_i he
    rw [h] at he
    cases he
  · rename_i he
    rw [h] at he
    cases he
  · rename_i he
    rw [h] at he
    cases he
    cases apply acc f <;> rfl

/-- A fault in reading the next field is the loop's fault. -/
theorem decodeFields_of_error {bytes : List UInt8} {e : DecodeFault}
    (h : nextField budget bytes = .error e) :
    decodeFields budget apply acc bytes = .error e := by
  rw [decodeFields]
  split
  · rename_i he
    rw [h] at he
    cases he
    rfl
  · rename_i he
    rw [h] at he
    cases he
  · rename_i he
    rw [h] at he
    cases he

/-- A length-delimited field at the front is applied, and the loop goes on after it. -/
theorem decodeFields_delimitedField {number : Nat} (payload rest : List UInt8)
    (hpos : 0 < number) (hlt : number < 2 ^ 29) (hlen : payload.length < 2 ^ 35) :
    decodeFields budget apply acc (delimitedField number payload ++ rest) =
      (apply acc ⟨number, .delimited payload⟩).bind fun a => decodeFields budget apply a rest :=
  decodeFields_of_next (nextField_delimitedField budget payload rest hpos hlt hlen)

/-- Fields written one per element, each applied as a step of a fold, are read as that fold. -/
theorem decodeFields_flatMap {β : Type} {number : Nat} (encode : β → List UInt8)
    (step : α → β → α) (xs : List β) (rest : List UInt8)
    (hpos : 0 < number) (hlt : number < 2 ^ 29)
    (hlen : ∀ x ∈ xs, (encode x).length < 2 ^ 35)
    (happly : ∀ a, ∀ x ∈ xs, apply a ⟨number, .delimited (encode x)⟩ = .ok (step a x)) :
    decodeFields budget apply acc (xs.flatMap (fun x => delimitedField number (encode x)) ++ rest) =
      decodeFields budget apply (xs.foldl step acc) rest := by
  induction xs generalizing acc with
  | nil => rfl
  | cons x xs ih =>
    rw [List.flatMap_cons, List.append_assoc,
      decodeFields_delimitedField _ _ hpos hlt (hlen x (by simp)), happly acc x (by simp)]
    exact ih (fun y hy => hlen y (by simp [hy])) (fun a y hy => happly a y (by simp [hy]))

end Loop

/-! ### Varints and packed runs -/

theorem readVarint_writeVarint (n : Nat) (rest : List UInt8) (h : n < 2 ^ 64) :
    readVarint (writeVarint n ++ rest) = some (UInt64.ofNat n, rest) := by
  unfold readVarint
  rw [readGroups_writeVarint n 9 rest (by omega)]
  rfl

/-- **Varints written back to back read as a packed run**, one word each. -/
theorem readPacked_flatMap (ns : List Nat) (h : ∀ n ∈ ns, n < 2 ^ 64) :
    readPacked (ns.flatMap writeVarint) = some (ns.map UInt64.ofNat) := by
  induction ns with
  | nil =>
    rw [readPacked]
    simp
  | cons n ns ih =>
    rw [readPacked, List.flatMap_cons, if_neg (by simp [writeVarint_ne_nil])]
    split
    · rename_i hr
      rw [readVarint_writeVarint n _ (h n (by simp))] at hr
      cases hr
    · rename_i hr
      rw [readVarint_writeVarint n _ (h n (by simp))] at hr
      cases hr
      rw [ih (fun m hm => h m (by simp [hm]))]
      rfl

/-! ### 32-bit values -/

theorem wordOfInt32_lt (x : Int32) : wordOfInt32 x < 2 ^ 64 := by
  have h1 := Int32.toInt_lt x
  have h2 := Int32.le_toInt x
  unfold wordOfInt32
  split <;> omega

/-- **A 32-bit value written as its sign extension reads back as itself**: the low 32 bits of
`2^64 + x` are those of `x`. -/
theorem int32OfWord_wordOfInt32 (x : Int32) : int32OfWord (UInt64.ofNat (wordOfInt32 x)) = x := by
  have h1 := Int32.toInt_lt x
  have h2 := Int32.le_toInt x
  have hw : (UInt64.ofNat (wordOfInt32 x)).toNat = wordOfInt32 x := by
    rw [UInt64.toNat_ofNat']
    exact Nat.mod_eq_of_lt (wordOfInt32_lt x)
  have hsize : Int32.size = 2 ^ 32 := rfl
  unfold int32OfWord
  rw [hw]
  apply Int32.toInt_inj.mp
  rw [Int32.toInt_ofInt]
  unfold wordOfInt32
  split
  · rw [Int.toNat_of_nonneg (by omega), hsize, Int.bmod]
    split <;> omega
  · rw [Int.toNat_of_nonneg (by omega), hsize, Int.bmod]
    split <;> omega

end Wire
end OccurrenceScan
