import OccurrenceScan.Proofs.UnknownFields

/-!
# String fields hold UTF-8 text

A document's path and an occurrence's symbol are strings: their payload must be the UTF-8
encoding of a string, which is then the field's value, and any other payload fails the whole
index with bad UTF-8, whatever message it sits in. The same bytes in a field the schema does not
know are never looked at.

Strict UTF-8 refuses, where a character should start, a continuation byte, a byte of a pattern
that writes a value in more bytes than it needs, the three-byte pattern of a surrogate and the
four-byte pattern of a value above `10FFFF`, and a character cut short by the end of the payload;
the bytes `C0`, `C1` and `F5` to `FF` occur in no encoding at all. Each refusal is a step of the
decoder that fails at that byte, after it has read the text before it.

The verdict of a message around a string field is the field's own: the fields before it and after
it are taken whatever they hold, so the message decodes exactly when the field's step does, and
otherwise fails with its fault (`decodeFields_around`). Nested messages pass the verdict up.

Main statement: `stringField_utf8`.
-/

namespace OccurrenceScan

open Wire

namespace Utf8

/-! ### Refused sequences -/

/-- The bytes of a number `v` in the `width`-byte pattern of UTF-8, for a width of two to four:
a lead byte with `width` high bits set, then continuation bytes of six value bits each, most
significant first. They encode a character only when `v` is a scalar value that needs exactly
`width` bytes. -/
def pattern : Nat → Nat → List UInt8
  | 2, v => [UInt8.ofNat (0xC0 + v / 64), UInt8.ofNat (0x80 + v % 64)]
  | 3, v => [UInt8.ofNat (0xE0 + v / 4096), UInt8.ofNat (0x80 + v / 64 % 64),
      UInt8.ofNat (0x80 + v % 64)]
  | _, v => [UInt8.ofNat (0xF0 + v / 262144), UInt8.ofNat (0x80 + v / 4096 % 64),
      UInt8.ofNat (0x80 + v / 64 % 64), UInt8.ofNat (0x80 + v % 64)]

/-- The least value that needs `width` bytes, for a width of two to four. -/
def leastOfWidth : Nat → Nat
  | 2 => 0x80
  | 3 => 0x800
  | _ => 0x10000

/-- Byte sequences that strict UTF-8 refuses where a character should start. -/
inductive IllFormed : List UInt8 → Prop
  /-- A continuation byte with no lead byte before it. -/
  | stray {b : UInt8} : 0x80 ≤ b.toNat → b.toNat ≤ 0xBF → IllFormed [b]
  /-- A value written in more bytes than it needs. -/
  | overlong {width v : Nat} : 2 ≤ width → width ≤ 4 → v < leastOfWidth width →
      IllFormed (pattern width v)
  /-- The three-byte pattern of a surrogate. -/
  | surrogate {v : Nat} : 0xD800 ≤ v → v ≤ 0xDFFF → IllFormed (pattern 3 v)
  /-- The four-byte pattern of a value above `10FFFF`. -/
  | aboveMax {v : Nat} : 0x110000 ≤ v → v < 0x200000 → IllFormed (pattern 4 v)

/-- A byte that no encoding holds: `C0` and `C1`, which could only start a two-byte pattern of a
value below `80`, and `F5` to `FF`, which could only start a value above `10FFFF`. -/
def UnusedByte (b : UInt8) : Prop :=
  b.toNat = 0xC0 ∨ b.toNat = 0xC1 ∨ 0xF5 ≤ b.toNat

theorem leadShape_eq_none_iff {b : Nat} : leadShape b = none ↔ b < 0xC2 ∨ 0xF4 < b := by
  unfold leadShape
  split_ifs <;> simp <;> omega

/-- A byte of `80..FF` that starts no shape is refused as a start. -/
theorem next_of_leadShape_eq_none {b : UInt8} {rest : List UInt8} (hb : 0x80 ≤ b.toNat)
    (hs : leadShape b.toNat = none) : next b rest = .error (1, .invalidStart) := by
  unfold next
  rw [if_neg (by omega), hs]

/-- A lead byte whose first continuation byte is out of the bounds of its shape is refused. -/
theorem next_of_first_out {b b1 : UInt8} {rest : List UInt8} {count bits low high : Nat}
    (hs : leadShape b.toNat = some ⟨count + 1, bits, low, high⟩)
    (hout : ¬ (low ≤ b1.toNat ∧ b1.toNat ≤ high)) :
    next b (b1 :: rest) = .error (1, .invalidContinuation) := by
  have hb : 0xC2 ≤ b.toNat := by
    rcases leadShape_eq_some hs with ⟨h, -⟩ | ⟨h, -⟩ | ⟨h, -⟩ <;> omega
  unfold next
  rw [if_neg (by omega), hs]
  simp only [continuation, if_neg hout]

/-- Each refused sequence is refused by the decoder's step at its first byte, whatever follows
it. -/
theorem IllFormed.next_error {x : List UInt8} (h : IllFormed x) (rest : List UInt8) :
    ∃ b tail e, x = b :: tail ∧ next b (tail ++ rest) = .error e := by
  cases h with
  | stray hlow hhigh =>
    exact ⟨_, [], _, rfl, next_of_leadShape_eq_none hlow (leadShape_eq_none_iff.2 (.inl (by omega)))⟩
  | @overlong width v h2 h4 hv =>
    -- the widths two, three and four, each with the bounds its lead byte sets
    obtain rfl | rfl | rfl : width = 2 ∨ width = 3 ∨ width = 4 := by omega
    · have hlead : (UInt8.ofNat (0xC0 + v / 64)).toNat = 0xC0 + v / 64 := by
        simp only [leastOfWidth] at hv
        exact toNat_ofNat_of_lt (by omega)
      refine ⟨_, _, _, rfl, next_of_leadShape_eq_none (by omega) ?_⟩
      simp only [leastOfWidth] at hv
      exact leadShape_eq_none_iff.2 (.inl (by omega))
    · simp only [leastOfWidth] at hv
      have hlead : (UInt8.ofNat (0xE0 + v / 4096)).toNat = 0xE0 := by
        rw [toNat_ofNat_of_lt (by omega)]
        omega
      have hfirst : (UInt8.ofNat (0x80 + v / 64 % 64)).toNat = 0x80 + v / 64 % 64 :=
        toNat_ofNat_of_lt (by omega)
      refine ⟨_, _, _, rfl, next_of_first_out (by rw [hlead]; rfl) ?_⟩
      rw [hfirst]
      omega
    · simp only [leastOfWidth] at hv
      have hlead : (UInt8.ofNat (0xF0 + v / 262144)).toNat = 0xF0 := by
        rw [toNat_ofNat_of_lt (by omega)]
        omega
      have hfirst : (UInt8.ofNat (0x80 + v / 4096 % 64)).toNat = 0x80 + v / 4096 % 64 :=
        toNat_ofNat_of_lt (by omega)
      refine ⟨_, _, _, rfl, next_of_first_out (by rw [hlead]; rfl) ?_⟩
      rw [hfirst]
      omega
  | @surrogate v hlow hhigh =>
    -- a surrogate starts with `ED`, which bounds the next byte by `9F`
    have hlead : (UInt8.ofNat (0xE0 + v / 4096)).toNat = 0xED := by
      rw [toNat_ofNat_of_lt (by omega)]
      omega
    have hfirst : (UInt8.ofNat (0x80 + v / 64 % 64)).toNat = 0x80 + v / 64 % 64 :=
      toNat_ofNat_of_lt (by omega)
    refine ⟨_, _, _, rfl, next_of_first_out (by rw [hlead]; rfl) ?_⟩
    rw [hfirst]
    omega
  | @aboveMax v hlow hhigh =>
    have hlead : (UInt8.ofNat (0xF0 + v / 262144)).toNat = 0xF0 + v / 262144 :=
      toNat_ofNat_of_lt (by omega)
    by_cases hf4 : v < 0x140000
    · -- after `F4` the next byte is bounded by `8F`
      have hfirst : (UInt8.ofNat (0x80 + v / 4096 % 64)).toNat = 0x80 + v / 4096 % 64 :=
        toNat_ofNat_of_lt (by omega)
      have hs : leadShape (UInt8.ofNat (0xF0 + v / 262144)).toNat = some ⟨3, 4, 0x80, 0x8F⟩ := by
        rw [hlead, show 0xF0 + v / 262144 = 0xF4 by omega]
        rfl
      refine ⟨_, _, _, rfl, next_of_first_out hs ?_⟩
      rw [hfirst]
      omega
    · -- `F5` to `F7` start nothing
      refine ⟨_, _, _, rfl, next_of_leadShape_eq_none (by omega) ?_⟩
      exact leadShape_eq_none_iff.2 (.inr (by omega))

/-- Decoding reads encoded characters and goes on with the bytes after them. -/
theorem decodeFrom_flatMap_append (position : Nat) (cs : List Char) (rest : List UInt8) :
    decodeFrom position (cs.flatMap encodeChar ++ rest) =
      (decodeFrom (position + (cs.flatMap encodeChar).length) rest).map (cs ++ ·) := by
  induction cs generalizing position with
  | nil =>
    simp only [List.flatMap_nil, List.nil_append, List.length_nil, Nat.add_zero]
    cases decodeFrom position rest <;> rfl
  | cons c cs ih =>
    rw [List.flatMap_cons, List.append_assoc, decodeFrom_encodeChar, ih]
    simp only [List.length_append, Nat.add_assoc]
    cases decodeFrom (position + ((encodeChar c).length + (cs.flatMap encodeChar).length)) rest <;>
      rfl

/-- A step that fails stops the decoding there. -/
theorem decodeFrom_of_next_error (position : Nat) {b : UInt8} {rest : List UInt8} {e : Nat × Fault}
    (h : next b rest = .error e) : ∃ err, decodeFrom position (b :: rest) = .error err := by
  rw [decodeFrom.eq_2]
  split
  · exact ⟨_, rfl⟩
  · rename_i heq
    rw [h] at heq
    cases heq

/-- A continuation read that succeeds took exactly its count of bytes. -/
theorem continuation_length {count acc low high taken v : Nat} {bytes after : List UInt8}
    (h : continuation count acc low high taken bytes = .ok (v, after)) :
    bytes.length = count + after.length := by
  induction count generalizing acc low high taken bytes with
  | zero =>
    obtain ⟨-, rfl⟩ := continuation_zero h
    simp
  | succ count ih =>
    obtain ⟨b, rest, rfl, -, -, hc⟩ := continuation_succ h
    rw [List.length_cons, ih hc]
    omega

/-- A continuation read that succeeds fails on fewer bytes than its count. -/
theorem continuation_take_error {count acc low high taken v : Nat} {bytes after : List UInt8}
    (h : continuation count acc low high taken bytes = .ok (v, after)) (k : Nat)
    (hk : k < count) : ∃ e, continuation count acc low high taken (bytes.take k) = .error e := by
  induction count generalizing acc low high taken bytes k with
  | zero => omega
  | succ count ih =>
    obtain ⟨b, rest, rfl, hl, hh, hc⟩ := continuation_succ h
    cases k with
    | zero => exact ⟨(taken + 1, .unexpectedEnd), by simp [continuation]⟩
    | succ k =>
      rw [List.take_succ_cons]
      simp only [continuation]
      rw [if_pos ⟨hl, hh⟩]
      exact ih hc k (by omega)

/-- A character cut short by the end of the input is refused. -/
theorem next_take_error (c : Char) {k : Nat} (hk : 0 < k) (hlt : k < (encodeChar c).length) :
    ∃ b tail e, (encodeChar c).take k = b :: tail ∧ next b tail = .error e := by
  obtain ⟨b, bs, henc, hnext⟩ := next_encodeChar c []
  rw [List.append_nil] at hnext
  rw [henc, List.length_cons] at hlt
  obtain ⟨k, rfl⟩ : ∃ j, k = j + 1 := ⟨k - 1, by omega⟩
  rw [henc, List.take_succ_cons]
  refine ⟨b, bs.take k, ?_⟩
  unfold next at hnext ⊢
  split
  · -- a one-byte character has nothing to cut
    rename_i hb
    simp only [if_pos hb, Except.ok.injEq, Prod.mk.injEq] at hnext
    obtain ⟨-, -, rfl⟩ := hnext
    simp at hlt
  · rename_i hb
    split
    · exact ⟨_, rfl, rfl⟩
    · rename_i s hs
      simp only [if_neg hb, hs] at hnext
      cases hc : continuation s.continuations s.bits s.low s.high 0 bs with
      | error e =>
        simp only [hc] at hnext
        cases hnext
      | ok r =>
        obtain ⟨v, after⟩ := r
        simp only [hc, Except.ok.injEq, Prod.mk.injEq] at hnext
        obtain ⟨-, -, rfl⟩ := hnext
        -- the shape's continuation bytes are all of the character's bytes after the lead
        have hlen := continuation_length hc
        obtain ⟨e, he⟩ := continuation_take_error hc k (by simp at hlen; omega)
        exact ⟨_, rfl, by rw [he]⟩

theorem not_mem_encodeChar_of_unusedByte {c : Char} {b : UInt8} (hb : UnusedByte b) :
    b ∉ encodeChar c := by
  have hvalid : c.toNat < 0xd800 ∨ (0xdfff < c.toNat ∧ c.toNat < 0x110000) := c.valid
  unfold UnusedByte at hb
  intro hmem
  unfold encodeChar at hmem
  simp only at hmem
  -- every byte of each width lies outside `C0`, `C1` and `F5..FF`
  split_ifs at hmem with h1 h2 h3
  · simp only [List.mem_singleton] at hmem
    subst hmem
    rw [toNat_ofNat_of_lt (by omega)] at hb
    omega
  · simp only [List.mem_cons, List.not_mem_nil, or_false] at hmem
    rcases hmem with rfl | rfl <;> rw [toNat_ofNat_of_lt (by omega)] at hb <;> omega
  · simp only [List.mem_cons, List.not_mem_nil, or_false] at hmem
    rcases hmem with rfl | rfl | rfl <;> rw [toNat_ofNat_of_lt (by omega)] at hb <;> omega
  · simp only [List.mem_cons, List.not_mem_nil, or_false] at hmem
    rcases hmem with rfl | rfl | rfl | rfl <;> rw [toNat_ofNat_of_lt (by omega)] at hb <;> omega

end Utf8

/-! ### Text that is not UTF-8 -/

theorem not_utf8Text_of_decode_error {bytes : List UInt8} {e : Utf8.Error}
    (h : Utf8.decode bytes = .error e) : ¬ Utf8Text bytes := by
  rw [← decodeString?_isSome_iff]
  simp [Utf8.decodeString?, h]

/-- Text that reads on from UTF-8 text into a byte the decoder's step refuses is no UTF-8. -/
theorem not_utf8Text_of_next_error {t : String} {b : UInt8} {tail rest : List UInt8}
    {e : Nat × Utf8.Fault} (h : Utf8.next b (tail ++ rest) = .error e) :
    ¬ Utf8Text (Utf8.encode t ++ (b :: tail) ++ rest) := by
  obtain ⟨err, herr⟩ := Utf8.decodeFrom_of_next_error (t.toList.flatMap Utf8.encodeChar).length h
  apply not_utf8Text_of_decode_error
  rw [Utf8.decode, Utf8.encode, List.append_assoc, Utf8.decodeFrom_flatMap_append, Nat.zero_add,
    List.cons_append, herr]
  rfl

/-- The decoder refuses an ill-formed sequence wherever a character should start. -/
theorem not_utf8Text_of_illFormed {x : List UInt8} (h : Utf8.IllFormed x) (t : String)
    (rest : List UInt8) : ¬ Utf8Text (Utf8.encode t ++ x ++ rest) := by
  obtain ⟨b, tail, e, rfl, hnext⟩ := h.next_error rest
  exact not_utf8Text_of_next_error hnext

/-- The decoder refuses a character cut short by the end of the payload. -/
theorem not_utf8Text_of_cut (t : String) (c : Char) {k : Nat} (hk : 0 < k)
    (hlt : k < (Utf8.encodeChar c).length) : ¬ Utf8Text (Utf8.encode t ++ (Utf8.encodeChar c).take k) := by
  obtain ⟨b, tail, e, htake, hnext⟩ := Utf8.next_take_error c hk hlt
  have hnext' : Utf8.next b (tail ++ []) = .error e := by
    rw [List.append_nil]
    exact hnext
  rw [htake, ← List.append_nil (_ ++ _)]
  exact not_utf8Text_of_next_error hnext'

/-- A byte no encoding holds makes any text around it no UTF-8. -/
theorem not_utf8Text_of_unusedByte {b : UInt8} (hb : Utf8.UnusedByte b) (pre rest : List UInt8) :
    ¬ Utf8Text (pre ++ b :: rest) := by
  rintro ⟨s, hs⟩
  have hmem : b ∈ Utf8.encode s := by
    rw [← hs]
    simp
  obtain ⟨c, -, hc⟩ := List.mem_flatMap.1 hmem
  exact Utf8.not_mem_encodeChar_of_unusedByte hb hc

/-! ### A string field inside well-formed messages -/

namespace Wire

/-- `Within budget ok inner s b`: the bytes `b` are a message whose fields the schema takes, as
`ok` says, but for one length-delimited field, numbered `number` with payload `p`, in which
`inner number s p` places the bytes `s`. -/
inductive Within (budget : Nat) (ok : Field → Prop)
    (inner : Nat → List UInt8 → List UInt8 → Prop) (s : List UInt8) : List UInt8 → Prop
  | mk {pre post q p : List UInt8} {number : Nat} :
      MessageBytes budget ok pre → FieldBytes budget q ⟨number, .delimited p⟩ →
      inner number s p → MessageBytes budget ok post → Within budget ok inner s (pre ++ q ++ post)

section Schema

variable {α : Type} {budget : Nat} {apply : α → Field → Except DecodeFault α}
  {ok : Field → Prop} {defect : Field → DecodeFault → Prop}

/-- A run of fields that the schema takes folds to a message, from any start. -/
theorem foldlM_ok (rule : FieldRule apply ok defect) {fs : List Field} (hall : ∀ f ∈ fs, ok f)
    (acc : α) : ∃ a, fs.foldlM apply acc = .ok a := by
  induction fs generalizing acc with
  | nil => exact ⟨acc, rfl⟩
  | cons f fs ih =>
    obtain ⟨a, ha⟩ := (rule.ok_iff acc f).2 (hall f (by simp))
    obtain ⟨c, hc⟩ := ih (fun g hg => hall g (by simp [hg])) a
    refine ⟨c, ?_⟩
    rw [List.foldlM_cons, ha]
    exact hc

/-- **A message decodes as its one doubtful field does.** Between fields the schema takes, the
loop succeeds exactly when the field is taken, and fails exactly with the field's fault. -/
theorem decodeFields_around (rule : FieldRule apply ok defect) {pre q post : List UInt8}
    {f : Field} (hpre : MessageBytes budget ok pre) (hq : FieldBytes budget q f)
    (hpost : MessageBytes budget ok post) (acc : α) :
    ((∃ a, decodeFields budget apply acc (pre ++ q ++ post) = .ok a) ↔ ok f) ∧
      ∀ e, decodeFields budget apply acc (pre ++ q ++ post) = .error e ↔ defect f e := by
  obtain ⟨fs, hfs, hall⟩ := hpre
  obtain ⟨a, ha⟩ := foldlM_ok rule hall acc
  -- the fields before are folded, then the field is read
  have hstep : decodeFields budget apply acc (pre ++ q ++ post) =
      (apply a f).bind fun a' => decodeFields budget apply a' post := by
    rw [List.append_assoc, decodeFields_fields_append hfs, ha]
    exact decodeFields_of_next (nextField_complete hq post)
  -- the fields after decode from whatever the field leaves
  have hrest : ∀ a', ∃ c, decodeFields budget apply a' post = .ok c :=
    fun a' => (decodeFields_ok_iff rule a' post).2 hpost
  rw [hstep, ← rule.ok_iff a f]
  refine ⟨?_, fun e => ?_⟩
  · cases happ : apply a f with
    | error e =>
      refine ⟨fun ⟨c, hc⟩ => (nomatch hc), fun ⟨a', ha'⟩ => (nomatch ha')⟩
    | ok a' =>
      obtain ⟨c, hc⟩ := hrest a'
      exact ⟨fun _ => ⟨a', rfl⟩, fun _ => ⟨c, hc⟩⟩
  · rw [← rule.error_iff a f e]
    cases happ : apply a f with
    | error e' => exact Iff.rfl
    | ok a' =>
      obtain ⟨c, hc⟩ := hrest a'
      show decodeFields budget apply a' post = .error e ↔ Except.ok a' = .error e
      rw [hc]
      exact ⟨fun h => (nomatch h), fun h => (nomatch h)⟩

/-- The verdict of a message around its one doubtful field is the field's verdict. -/
theorem decodeFields_within (rule : FieldRule apply ok defect)
    {inner : Nat → List UInt8 → List UInt8 → Prop} {s b : List UInt8}
    (h : Within budget ok inner s b) (acc : α) :
    ∃ number p, inner number s p ∧
      ((∃ a, decodeFields budget apply acc b = .ok a) ↔ ok ⟨number, .delimited p⟩) ∧
        ∀ e, decodeFields budget apply acc b = .error e ↔ defect ⟨number, .delimited p⟩ e := by
  cases h with
  | mk hpre hq hinner hpost => exact ⟨_, _, hinner, decodeFields_around rule hpre hq hpost acc⟩

end Schema

end Wire

/-- The verdict that a string field's payload `s` decides: `r` succeeds exactly when `s` is UTF-8
text, and otherwise fails for bad UTF-8. -/
def Utf8Verdict {α : Type} (r : Except DecodeFault α) (s : List UInt8) : Prop :=
  ((∃ a, r = .ok a) ↔ Utf8Text s) ∧ ∀ e, r = .error e ↔ ¬ Utf8Text s ∧ e = .badUtf8

/-- A message passes up the verdict of its one doubtful field. -/
theorem utf8Verdict_within {α : Type} {budget : Nat} {apply : α → Field → Except DecodeFault α}
    {ok : Field → Prop} {defect : Field → DecodeFault → Prop} (rule : FieldRule apply ok defect)
    {inner : Nat → List UInt8 → List UInt8 → Prop} {s b : List UInt8}
    (h : Within budget ok inner s b)
    (hfield : ∀ number p, inner number s p → (ok ⟨number, .delimited p⟩ ↔ Utf8Text s) ∧
      ∀ e, defect ⟨number, .delimited p⟩ e ↔ ¬ Utf8Text s ∧ e = .badUtf8) (acc : α) :
    Utf8Verdict (decodeFields budget apply acc b) s := by
  obtain ⟨number, p, hinner, hok, herr⟩ := decodeFields_within rule h acc
  obtain ⟨hfok, hferr⟩ := hfield number p hinner
  exact ⟨hok.trans hfok, fun e => (herr e).trans (hferr e)⟩

/-- A message decodes when its one doubtful field is taken. -/
theorem decodeFields_ok_within {α : Type} {budget : Nat} {apply : α → Field → Except DecodeFault α}
    {ok : Field → Prop} {defect : Field → DecodeFault → Prop} (rule : FieldRule apply ok defect)
    {inner : Nat → List UInt8 → List UInt8 → Prop} {s b : List UInt8}
    (h : Within budget ok inner s b) (hfield : ∀ number p, inner number s p → ok ⟨number, .delimited p⟩)
    (acc : α) : ∃ a, decodeFields budget apply acc b = .ok a := by
  obtain ⟨number, p, hinner, hok, -⟩ := decodeFields_within rule h acc
  exact hok.2 (hfield number p hinner)

/-! ### Occurrences -/

namespace Occurrence

/-- The bytes of an occurrence, well-formed but for its symbol field, whose payload is `s`. -/
def SymbolIn (s : List UInt8) : List UInt8 → Prop :=
  Within (depthLimit - 2) FieldOk (fun number s p => number = 2 ∧ p = s) s

/-- The bytes of a well-formed occurrence with a field it does not declare whose payload is `s`. -/
def UnknownIn (s : List UInt8) : List UInt8 → Prop :=
  Within (depthLimit - 2) FieldOk (fun number s p => declares number .delimited = false ∧ p = s) s

/-- The symbol field sets the symbol to `t` exactly when its payload is `t`'s encoding. -/
theorem applyField_symbol_eq_ok_iff {o : Occurrence} {s : List UInt8} {t : String} :
    o.applyField ⟨2, .delimited s⟩ = .ok { o with symbol := t } ↔ s = Utf8.encode t := by
  rw [← Utf8.decodeString?_eq_some_iff]
  simp only [applyField]
  cases Utf8.decodeString? s with
  | none => simp
  | some t' => simp [eq_comm]

theorem utf8Verdict_of_symbolIn {s p : List UInt8} (h : SymbolIn s p) : Utf8Verdict (decode p) s := by
  unfold SymbolIn at h
  refine utf8Verdict_within fieldRule h ?_ {}
  rintro number p ⟨rfl, rfl⟩
  exact ⟨Iff.rfl, fun e => Iff.rfl⟩

theorem decode_ok_of_unknownIn {s p : List UInt8} (h : UnknownIn s p) : ∃ o, decode p = .ok o := by
  unfold UnknownIn at h
  refine decodeFields_ok_within fieldRule h ?_ {}
  rintro number p ⟨hd, rfl⟩
  exact (fieldRule.ok_iff {} _).1 ⟨{}, applyField_of_declares_eq_false hd⟩

end Occurrence

/-! ### Documents -/

namespace Document

/-- The bytes of a document, well-formed but for one string field whose payload is `s`: its
path, or the symbol of one of its occurrences. -/
def StringIn (s : List UInt8) : List UInt8 → Prop :=
  Within (depthLimit - 1) FieldOk
    (fun number s p => number = 1 ∧ p = s ∨ number = 2 ∧ Occurrence.SymbolIn s p) s

/-- The bytes of a well-formed document with a field unknown to it, or to one of its
occurrences, whose payload is `s`. -/
def UnknownIn (s : List UInt8) : List UInt8 → Prop :=
  Within (depthLimit - 1) FieldOk
    (fun number s p => declares number .delimited = false ∧ p = s ∨
      number = 2 ∧ Occurrence.UnknownIn s p) s

/-- The path field sets the path to `t` exactly when its payload is `t`'s encoding. -/
theorem applyField_path_eq_ok_iff {d : Document} {s : List UInt8} {t : String} :
    d.applyField ⟨1, .delimited s⟩ = .ok { d with path := t } ↔ s = Utf8.encode t := by
  rw [← Utf8.decodeString?_eq_some_iff]
  simp only [applyField]
  cases Utf8.decodeString? s with
  | none => simp
  | some t' => simp [eq_comm]

theorem utf8Verdict_of_stringIn {s p : List UInt8} (h : StringIn s p) : Utf8Verdict (decode p) s := by
  unfold StringIn at h
  refine utf8Verdict_within fieldRule h ?_ {}
  rintro number p (⟨rfl, rfl⟩ | ⟨rfl, hp⟩)
  · exact ⟨Iff.rfl, fun e => Iff.rfl⟩
  · -- the occurrence's own verdict, read through its decoder
    obtain ⟨hok, herr⟩ := Occurrence.utf8Verdict_of_symbolIn hp
    exact ⟨(Occurrence.decode_ok_iff p).symm.trans hok,
      fun e => (Occurrence.decode_error_iff p e).symm.trans (herr e)⟩

theorem decode_ok_of_unknownIn {s p : List UInt8} (h : UnknownIn s p) : ∃ d, decode p = .ok d := by
  unfold UnknownIn at h
  refine decodeFields_ok_within fieldRule h ?_ {}
  rintro number p (⟨hd, rfl⟩ | ⟨rfl, hp⟩)
  · exact (fieldRule.ok_iff {} _).1 ⟨{}, applyField_of_declares_eq_false hd⟩
  · exact (Occurrence.decode_ok_iff p).1 (Occurrence.decode_ok_of_unknownIn hp)

end Document

/-! ### Indexes -/

namespace Index

/-- The bytes of an index, well-formed but for one string field of one of its documents whose
payload is `s`. -/
def StringIn (s : List UInt8) : List UInt8 → Prop :=
  Within depthLimit FieldOk (fun number s p => number = 2 ∧ Document.StringIn s p) s

/-- The bytes of a well-formed index with a field unknown to it, to one of its documents or to
one of their occurrences, whose payload is `s`. -/
def UnknownIn (s : List UInt8) : List UInt8 → Prop :=
  Within depthLimit FieldOk
    (fun number s p => declares number .delimited = false ∧ p = s ∨
      number = 2 ∧ Document.UnknownIn s p) s

theorem utf8Verdict_of_stringIn {s b : List UInt8} (h : StringIn s b) : Utf8Verdict (decode b) s := by
  unfold StringIn at h
  refine utf8Verdict_within fieldRule h ?_ {}
  rintro number p ⟨rfl, hp⟩
  -- the document's own verdict, read through its decoder
  obtain ⟨hok, herr⟩ := Document.utf8Verdict_of_stringIn hp
  exact ⟨(Document.decode_ok_iff p).symm.trans hok,
    fun e => (Document.decode_error_iff p e).symm.trans (herr e)⟩

theorem decode_ok_of_unknownIn {s b : List UInt8} (h : UnknownIn s b) : ∃ ix, decode b = .ok ix := by
  unfold UnknownIn at h
  refine decodeFields_ok_within fieldRule h ?_ {}
  rintro number p (⟨hd, rfl⟩ | ⟨rfl, hp⟩)
  · exact (fieldRule.ok_iff {} _).1 ⟨{}, applyField_of_declares_eq_false hd⟩
  · exact (Document.decode_ok_iff p).1 (Document.decode_ok_of_unknownIn hp)

end Index

theorem DecodeFault.reason_eq_badUtf8_iff {e : DecodeFault} :
    e.reason = "String field had bad UTF-8" ↔ e = .badUtf8 := by
  cases e <;> simp [DecodeFault.reason]

/-- **A string field decodes exactly when it holds UTF-8 text, to that text.** The symbol and the
path fields set their value to `t` exactly when their payload is `t`'s encoding. In an index
well-formed but for one such field, at any depth, the index decodes exactly when the payload is
UTF-8, and otherwise fails with "String field had bad UTF-8". Refused where a character should
start are a stray continuation byte, an overlong pattern, the pattern of a surrogate or of a
value above `10FFFF`; refused at the end of the payload is a character cut short; refused
anywhere are the bytes `C0`, `C1` and `F5` to `FF`. The same bytes in a field unknown to the
schema, in an index otherwise well-formed, are accepted. -/
theorem stringField_utf8 :
    (∀ (o : Occurrence) (s : List UInt8) (t : String),
      o.applyField ⟨2, .delimited s⟩ = .ok { o with symbol := t } ↔ s = Utf8.encode t) ∧
    (∀ (d : Document) (s : List UInt8) (t : String),
      d.applyField ⟨1, .delimited s⟩ = .ok { d with path := t } ↔ s = Utf8.encode t) ∧
    (∀ s b, Index.StringIn s b →
      ((∃ ix, Index.decode b = .ok ix) ↔ Utf8Text s) ∧
        ∀ e, Index.decode b = .error e ↔ ¬ Utf8Text s ∧ e.reason = "String field had bad UTF-8") ∧
    (∀ x, Utf8.IllFormed x → ∀ t rest, ¬ Utf8Text (Utf8.encode t ++ x ++ rest)) ∧
    (∀ t c k, 0 < k → k < (Utf8.encodeChar c).length →
      ¬ Utf8Text (Utf8.encode t ++ (Utf8.encodeChar c).take k)) ∧
    (∀ b pre rest, Utf8.UnusedByte b → ¬ Utf8Text (pre ++ b :: rest)) ∧
    (∀ s b, Index.UnknownIn s b → ∃ ix, Index.decode b = .ok ix) := by
  refine ⟨fun _ _ _ => Occurrence.applyField_symbol_eq_ok_iff,
    fun _ _ _ => Document.applyField_path_eq_ok_iff, ?_,
    fun _ hx t rest => not_utf8Text_of_illFormed hx t rest,
    fun t c _ hk hlt => not_utf8Text_of_cut t c hk hlt,
    fun _ pre rest hb => not_utf8Text_of_unusedByte hb pre rest,
    fun _ _ h => Index.decode_ok_of_unknownIn h⟩
  intro s b h
  obtain ⟨hok, herr⟩ := Index.utf8Verdict_of_stringIn h
  refine ⟨hok, fun e => ?_⟩
  rw [herr e, DecodeFault.reason_eq_badUtf8_iff]

/-- A document path holding `ED A0 80`, the pattern of the surrogate `D800`, fails the index
with bad UTF-8. -/
theorem stringField_utf8_surrogatePath :
    Index.StringIn [0xED, 0xA0, 0x80] [0x12, 0x05, 0x0a, 0x03, 0xED, 0xA0, 0x80] ∧
      Index.decode [0x12, 0x05, 0x0a, 0x03, 0xED, 0xA0, 0x80] = .error .badUtf8 := by
  have hnone : ∀ budget (ok : Field → Prop), MessageBytes budget ok [] :=
    fun _ _ => ⟨[], .nil, by simp⟩
  have hpath : FieldBytes (depthLimit - 1) ([0x0a] ++ ([0x03] ++ [0xED, 0xA0, 0x80]))
      ⟨1, .delimited [0xED, 0xA0, 0x80]⟩ :=
    .scalar ⟨.last (by decide), by decide, .inr (by decide)⟩ (.delimited (.last (by decide)))
  have hdoc : FieldBytes depthLimit ([0x12] ++ ([0x05] ++ [0x0a, 0x03, 0xED, 0xA0, 0x80]))
      ⟨2, .delimited [0x0a, 0x03, 0xED, 0xA0, 0x80]⟩ :=
    .scalar ⟨.last (by decide), by decide, .inr (by decide)⟩ (.delimited (.last (by decide)))
  have hin : Document.StringIn [0xED, 0xA0, 0x80] ([] ++ [0x0a, 0x03, 0xED, 0xA0, 0x80] ++ []) :=
    Within.mk (hnone _ _) hpath (.inl ⟨rfl, rfl⟩) (hnone _ _)
  have hix : Index.StringIn [0xED, 0xA0, 0x80]
      ([] ++ [0x12, 0x05, 0x0a, 0x03, 0xED, 0xA0, 0x80] ++ []) :=
    Within.mk (hnone _ _) hdoc ⟨rfl, by simpa using hin⟩ (hnone _ _)
  simp only [List.nil_append, List.append_nil] at hix
  -- the payload is the three-byte pattern of `D800`
  have hsurrogate : Utf8.IllFormed (Utf8.pattern 3 0xD800) := .surrogate (by decide) (by decide)
  have hbytes : Utf8.encode "" ++ Utf8.pattern 3 0xD800 ++ [] = [0xED, 0xA0, 0x80] := by decide
  have hbad : ¬ Utf8Text [0xED, 0xA0, 0x80] := by
    rw [← hbytes]
    exact stringField_utf8.2.2.2.1 _ hsurrogate "" []
  exact ⟨hix, ((stringField_utf8.2.2.1 _ _ hix).2 .badUtf8).2 ⟨hbad, rfl⟩⟩

end OccurrenceScan
