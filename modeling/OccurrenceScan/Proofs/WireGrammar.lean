import OccurrenceScan.Proofs.Wire

/-!
# The grammar of the wire format

The readers of `Wire.Field` are written as functions that take bytes off the front of a list.
This module gives the same format as a grammar: inductive predicates that say which byte
strings are a varint, a tag, a payload, the inside of a skipped group, and a whole field, and
proves each reader equal to its rule. A reader succeeds exactly on the inputs that start with a
string of its rule, returns what the rule says that string stands for, and leaves the rest.

The rules carry the decoder's limits: a varint payload takes at most ten bytes, a tag or a
length at most five, a tag fits 32 bits so that field numbers stay below `2^29`, a field number
is zero only inside a skipped group, and groups nest no deeper than the budget their message
leaves them.

A message is a run of fields. Given what a schema's step does with one field (`FieldRule`: which
fields it takes, and with which fault it refuses the others), the message loop succeeds exactly
on a run of taken fields, and fails at the first field it refuses or the first bytes where no
field starts, with that fault.

Main statements: `readGroups_eq_some_iff`, `readTag_eq_some_iff`, `readScalar_eq_some_iff`,
`skipGroups_eq_some_iff`, `nextField_eq_some_iff`, `readPacked_isSome_iff`, and for a whole
message `decodeFields_ok_iff` and `decodeFields_error_iff`.
-/

namespace OccurrenceScan
namespace Wire

/-- A reader whose value is mapped, with the rest passed on, returns the image of a value the
underlying reader returned with the same rest. -/
theorem map_pair_eq_some {α β γ : Type} {o : Option (α × γ)} {g : α → β} {b : β} {r : γ}
    (h : (o.map fun (a, r) => (g a, r)) = some (b, r)) : ∃ a, o = some (a, r) ∧ g a = b := by
  obtain ⟨⟨a, r'⟩, ho, he⟩ := Option.map_eq_some_iff.1 h
  simp only [Prod.mk.injEq] at he
  obtain ⟨rfl, rfl⟩ := he
  exact ⟨a, ho, rfl⟩

/-! ### Varints -/

/-- `Varint limit bytes v`: `bytes` is a varint of at most `limit` bytes worth `v`: the top bit
is set on every byte but the last, and the low seven bits of each byte, least significant
first, make `v`. -/
inductive Varint : Nat → List UInt8 → Nat → Prop
  | last {limit : Nat} {b : UInt8} : b.toNat < 128 → Varint (limit + 1) [b] b.toNat
  | more {limit v : Nat} {b : UInt8} {bytes : List UInt8} :
      128 ≤ b.toNat → Varint limit bytes v →
      Varint (limit + 1) (b :: bytes) (b.toNat - 128 + 128 * v)

theorem Varint.ne_nil {limit v : Nat} {bytes : List UInt8} (h : Varint limit bytes v) :
    bytes ≠ [] := by
  cases h <;> simp

/-- **The group reader reads exactly a varint** and leaves what follows it. -/
theorem readGroups_eq_some_iff {limit v : Nat} {bytes rest : List UInt8} :
    readGroups limit bytes = some (v, rest) ↔ ∃ pre, bytes = pre ++ rest ∧ Varint limit pre v := by
  constructor
  · intro h
    induction limit generalizing bytes v with
    | zero => simp [readGroups] at h
    | succ limit ih =>
      cases bytes with
      | nil => simp [readGroups] at h
      | cons b bs =>
        simp only [readGroups] at h
        split at h
        · rename_i hb
          simp only [Option.some.injEq, Prod.mk.injEq] at h
          obtain ⟨rfl, rfl⟩ := h
          exact ⟨[b], rfl, .last hb⟩
        · rename_i hb
          obtain ⟨⟨v', r⟩, hr, he⟩ := Option.map_eq_some_iff.1 h
          simp only [Prod.mk.injEq] at he
          obtain ⟨rfl, rfl⟩ := he
          obtain ⟨pre, rfl, hpre⟩ := ih hr
          exact ⟨b :: pre, rfl, .more (by omega) hpre⟩
  · rintro ⟨pre, rfl, hpre⟩
    induction hpre with
    | last hb => simp [readGroups, hb]
    | more hb _ ih =>
      simp only [List.cons_append, readGroups]
      rw [if_neg (by omega), ih]
      rfl

/-! ### Tags -/

/-- `TagBytes inGroup bytes t`: `bytes` is the tag of `t`, a varint of at most five bytes worth
`t.number * 8 + t.wire.code`, with a field number below `2^29`; outside a skipped group the
number is not zero. -/
def TagBytes (inGroup : Bool) (bytes : List UInt8) (t : Tag) : Prop :=
  Varint 5 bytes (t.number * 8 + t.wire.code) ∧ t.number < 2 ^ 29 ∧ (inGroup = true ∨ t.number ≠ 0)

theorem WireType.ofCode?_eq_some_iff {c : Nat} {w : WireType} :
    WireType.ofCode? c = some w ↔ w.code = c := by
  constructor
  · intro h
    match c, h with
    | 0, h | 1, h | 2, h | 3, h | 4, h | 5, h => cases h; rfl
  · rintro rfl
    exact WireType.ofCode?_code w

/-- A tag read inside a group, or outside one when its number is not zero, is the value of its
varint split into number and wire type. -/
theorem tag_of_readGroups {inGroup : Bool} {v : Nat} {w : WireType} (hv : v < 2 ^ 32)
    (hw : WireType.ofCode? (v % 8) = some w) (hz : inGroup = true ∨ v / 8 ≠ 0) {pre : List UInt8}
    (hpre : Varint 5 pre v) : TagBytes inGroup pre ⟨v / 8, w⟩ := by
  have hcode := WireType.ofCode?_eq_some_iff.1 hw
  refine ⟨?_, show v / 8 < 2 ^ 29 by omega, hz⟩
  have : v / 8 * 8 + w.code = v := by omega
  simpa only [this] using hpre

/-- **The tag reader reads exactly a tag** with a field number other than zero. -/
theorem readTag_eq_some_iff {bytes rest : List UInt8} {t : Tag} :
    readTag bytes = some (t, rest) ↔ ∃ pre, bytes = pre ++ rest ∧ TagBytes false pre t := by
  constructor
  · intro h
    unfold readTag at h
    split at h
    · cases h
    · rename_i v r hr
      split at h
      · rename_i hv
        obtain ⟨w, hw, he⟩ := Option.map_eq_some_iff.1 h
        simp only [Prod.mk.injEq] at he
        obtain ⟨rfl, rfl⟩ := he
        obtain ⟨pre, rfl, hpre⟩ := readGroups_eq_some_iff.1 hr
        exact ⟨pre, rfl, tag_of_readGroups hv.1 hw (.inr hv.2) hpre⟩
      · cases h
  · rintro ⟨pre, rfl, hpre, hlt, hz⟩
    have hcode := WireType.code_lt t.wire
    have hz' : t.number ≠ 0 := by simpa using hz
    unfold readTag
    rw [readGroups_eq_some_iff.2 ⟨pre, rfl, hpre⟩]
    simp only
    rw [if_pos (by omega), tagValue_mod, WireType.ofCode?_code, tagValue_div]
    rfl

/-- **The reader of tags inside a group reads exactly a tag**, with any field number. -/
theorem readGroupTag_eq_some_iff {bytes rest : List UInt8} {t : Tag} :
    readGroupTag bytes = some (t, rest) ↔ ∃ pre, bytes = pre ++ rest ∧ TagBytes true pre t := by
  constructor
  · intro h
    unfold readGroupTag at h
    split at h
    · cases h
    · rename_i v r hr
      split at h
      · rename_i hv
        obtain ⟨w, hw, he⟩ := Option.map_eq_some_iff.1 h
        simp only [Prod.mk.injEq] at he
        obtain ⟨rfl, rfl⟩ := he
        obtain ⟨pre, rfl, hpre⟩ := readGroups_eq_some_iff.1 hr
        exact ⟨pre, rfl, tag_of_readGroups hv hw (.inl rfl) hpre⟩
      · cases h
  · rintro ⟨pre, rfl, hpre, hlt, -⟩
    have hcode := WireType.code_lt t.wire
    unfold readGroupTag
    rw [readGroups_eq_some_iff.2 ⟨pre, rfl, hpre⟩]
    simp only
    rw [if_pos (by omega), tagValue_mod, WireType.ofCode?_code, tagValue_div]
    rfl

/-! ### Payloads -/

/-- `ScalarBytes w bytes p`: `bytes` is a payload of wire type `w` that reads as `p`: a varint of
at most ten bytes, eight or four bytes, or a length of at most five bytes and that many bytes. -/
inductive ScalarBytes : WireType → List UInt8 → Payload → Prop
  | varint {bytes : List UInt8} {v : Nat} :
      Varint 10 bytes v → ScalarBytes .varint bytes (.varint (UInt64.ofNat v))
  | fixed64 {bytes : List UInt8} : bytes.length = 8 → ScalarBytes .fixed64 bytes (.fixed64 bytes)
  | delimited {length payload : List UInt8} :
      Varint 5 length payload.length →
      ScalarBytes .delimited (length ++ payload) (.delimited payload)
  | fixed32 {bytes : List UInt8} : bytes.length = 4 → ScalarBytes .fixed32 bytes (.fixed32 bytes)

theorem takeBytes_eq_some_iff {n : Nat} {bytes taken rest : List UInt8} :
    takeBytes n bytes = some (taken, rest) ↔ taken.length = n ∧ bytes = taken ++ rest := by
  unfold takeBytes
  constructor
  · intro h
    split at h
    · rename_i hn
      simp only [Option.some.injEq, Prod.mk.injEq] at h
      obtain ⟨rfl, rfl⟩ := h
      exact ⟨by simp [hn], by simp⟩
    · cases h
  · rintro ⟨rfl, rfl⟩
    simp

/-- **The payload reader reads exactly a payload** of the wire type it is given. -/
theorem readScalar_eq_some_iff {w : WireType} {bytes rest : List UInt8} {p : Payload} :
    readScalar w bytes = some (p, rest) ↔ ∃ pre, bytes = pre ++ rest ∧ ScalarBytes w pre p := by
  constructor
  · intro h
    cases w with
    | varint =>
      obtain ⟨x, hr, rfl⟩ := map_pair_eq_some h
      obtain ⟨v, hg, rfl⟩ := map_pair_eq_some hr
      obtain ⟨pre, rfl, hpre⟩ := readGroups_eq_some_iff.1 hg
      exact ⟨pre, rfl, .varint hpre⟩
    | fixed64 =>
      obtain ⟨x, hr, rfl⟩ := map_pair_eq_some h
      obtain ⟨hlen, rfl⟩ := takeBytes_eq_some_iff.1 hr
      exact ⟨x, rfl, .fixed64 hlen⟩
    | delimited =>
      simp only [readScalar] at h
      split at h
      · cases h
      · rename_i len r hr
        obtain ⟨x, ht, rfl⟩ := map_pair_eq_some h
        obtain ⟨hlen, rfl⟩ := takeBytes_eq_some_iff.1 ht
        obtain ⟨pre, rfl, hpre⟩ := readGroups_eq_some_iff.1 hr
        exact ⟨pre ++ x, by simp, .delimited (hlen ▸ hpre)⟩
    | fixed32 =>
      obtain ⟨x, hr, rfl⟩ := map_pair_eq_some h
      obtain ⟨hlen, rfl⟩ := takeBytes_eq_some_iff.1 hr
      exact ⟨x, rfl, .fixed32 hlen⟩
    | startGroup => cases h
    | endGroup => cases h
  · rintro ⟨pre, rfl, hpre⟩
    cases hpre with
    | varint hv =>
      simp [readScalar, readVarint, readGroups_eq_some_iff.2 ⟨_, rfl, hv⟩]
    | fixed64 hlen =>
      simp [readScalar, takeBytes_eq_some_iff.2 ⟨hlen, rfl⟩]
    | delimited hv =>
      simp only [readScalar, List.append_assoc]
      rw [readGroups_eq_some_iff.2 ⟨_, rfl, hv⟩]
      simp [takeBytes_eq_some_iff.2 ⟨rfl, rfl⟩]
    | fixed32 hlen =>
      simp [readScalar, takeBytes_eq_some_iff.2 ⟨hlen, rfl⟩]

/-! ### Skipped groups -/

/-- `GroupBody budget depth bytes`: `bytes` is a run of fields inside `depth` open groups, each
group it opens closed in it by an end tag of the same number. Field numbers may be zero here, and
a group opens only while fewer than `budget` are open. -/
inductive GroupBody (budget : Nat) : Nat → List UInt8 → Prop
  | nil {depth : Nat} : GroupBody budget depth []
  | scalar {depth number : Nat} {w : WireType} {p : Payload} {tag payload rest : List UInt8} :
      TagBytes true tag ⟨number, w⟩ → ScalarBytes w payload p → GroupBody budget depth rest →
      GroupBody budget depth (tag ++ payload ++ rest)
  | group {depth number : Nat} {start body close rest : List UInt8} :
      TagBytes true start ⟨number, .startGroup⟩ → depth < budget →
      GroupBody budget (depth + 1) body → TagBytes true close ⟨number, .endGroup⟩ →
      GroupBody budget depth rest → GroupBody budget depth (start ++ body ++ close ++ rest)

/-- An end tag closes the innermost open group; the skip ends there when it was the outermost. -/
theorem skipGroups_close {budget k : Nat} {outer : List Nat} {close : List UInt8}
    (hclose : TagBytes true close ⟨k, .endGroup⟩) (bytes : List UInt8) :
    skipGroups budget (k :: outer) (close ++ bytes) =
      if outer = [] then some bytes else skipGroups budget outer bytes := by
  rw [skipGroups]
  split
  · rename_i h
    rw [readGroupTag_eq_some_iff.2 ⟨close, rfl, hclose⟩] at h
    cases h
  · rename_i tag rest h
    rw [readGroupTag_eq_some_iff.2 ⟨close, rfl, hclose⟩] at h
    cases h
    simp

/-- A start tag opens a group inside the open ones, while fewer than the budget are open. -/
theorem skipGroups_open {budget k : Nat} {stack : List Nat} {start : List UInt8}
    (hstart : TagBytes true start ⟨k, .startGroup⟩) (hdepth : stack.length < budget)
    (bytes : List UInt8) :
    skipGroups budget stack (start ++ bytes) = skipGroups budget (k :: stack) bytes := by
  rw [skipGroups]
  split
  · rename_i h
    rw [readGroupTag_eq_some_iff.2 ⟨start, rfl, hstart⟩] at h
    cases h
  · rename_i tag rest h
    rw [readGroupTag_eq_some_iff.2 ⟨start, rfl, hstart⟩] at h
    cases h
    exact if_pos hdepth

/-- A scalar field inside an open group is passed over. -/
theorem skipGroups_scalar {budget number : Nat} {stack : List Nat} {w : WireType} {p : Payload}
    {tag payload : List UInt8} (htag : TagBytes true tag ⟨number, w⟩)
    (hpayload : ScalarBytes w payload p) (bytes : List UInt8) :
    skipGroups budget stack (tag ++ payload ++ bytes) = skipGroups budget stack bytes := by
  have hread : readGroupTag (tag ++ payload ++ bytes) = some (⟨number, w⟩, payload ++ bytes) :=
    readGroupTag_eq_some_iff.2 ⟨tag, by simp, htag⟩
  have hscalar : readScalar w (payload ++ bytes) = some (p, bytes) :=
    readScalar_eq_some_iff.2 ⟨payload, rfl, hpayload⟩
  rw [skipGroups]
  split
  · rename_i h
    rw [hread] at h
    cases h
  · rename_i tag' rest' h
    rw [hread] at h
    cases h
    -- the payload's wire type is a scalar one: the skip reads it and goes on
    cases hpayload <;>
    · dsimp only
      split
      · rename_i h
        rw [hscalar] at h
        cases h
      · rename_i after h
        rw [hscalar] at h
        cases h
        rfl

/-- Skipping passes over a group body whole, inside at least one open group. -/
theorem skipGroups_body {budget depth : Nat} {body : List UInt8}
    (hbody : GroupBody budget depth body) :
    ∀ {stack : List Nat}, stack.length = depth → stack ≠ [] → ∀ bytes : List UInt8,
      skipGroups budget stack (body ++ bytes) = skipGroups budget stack bytes := by
  induction hbody with
  | nil => intros; rfl
  | scalar htag hpayload _ ih =>
    intro stack hlen hne bytes
    rw [List.append_assoc, List.append_assoc, ← List.append_assoc _ _ (_ ++ _),
      skipGroups_scalar htag hpayload]
    exact ih hlen hne bytes
  | @group depth number start body close rest hstart hdepth _ hclose _ ihbody ihrest =>
    intro stack hlen hne bytes
    simp only [List.append_assoc]
    rw [skipGroups_open hstart (by omega), ihbody (by simp [hlen]) (by simp),
      skipGroups_close hclose, if_neg hne]
    exact ihrest hlen hne bytes

/-- **What a skip passes over**: the body of the innermost open group and its end tag, then, if
more groups are open, whatever skipping them passes over. -/
theorem skipGroups_sound {budget : Nat} {k : Nat} {outer : List Nat} {bytes after : List UInt8}
    (h : skipGroups budget (k :: outer) bytes = some after) :
    ∃ body close tail, bytes = body ++ close ++ tail ∧ GroupBody budget (outer.length + 1) body ∧
      TagBytes true close ⟨k, .endGroup⟩ ∧
      (outer = [] ∧ tail = after ∨ outer ≠ [] ∧ skipGroups budget outer tail = some after) := by
  -- strong induction on the length of the input: a nested group is skipped by a call on the
  -- bytes after its start tag, and what follows its end tag by a call on a shorter suffix again
  induction hn : bytes.length using Nat.strongRecOn generalizing k outer bytes after with
  | _ n ih =>
    rw [skipGroups] at h
    split at h
    · cases h
    · rename_i tag rest htag
      obtain ⟨pre, rfl, hpre⟩ := readGroupTag_eq_some_iff.1 htag
      have hpos : 0 < pre.length := List.length_pos_iff.2 hpre.1.ne_nil
      obtain ⟨number, w⟩ := tag
      split at h
      · -- an end tag closes the innermost group
        rename_i hw
        simp only at hw
        subst hw
        dsimp only at h
        split at h
        · rename_i hk
          subst hk
          refine ⟨[], pre, rest, by simp, .nil, hpre, ?_⟩
          split at h
          · cases h
            exact .inl ⟨‹_›, rfl⟩
          · exact .inr ⟨‹_›, h⟩
        · cases h
      · -- a start tag opens a group inside the innermost one
        rename_i hw
        simp only at hw
        subst hw
        split at h
        · rename_i hdepth
          obtain ⟨body₁, close₁, tail₁, rfl, hbody₁, hclose₁, hnext⟩ :=
            ih _ (by simp [← hn]; omega) h rfl
          obtain ⟨-, hskip⟩ := hnext.resolve_left (fun h => List.cons_ne_nil _ _ h.1)
          obtain ⟨body₂, close₂, tail₂, rfl, hbody₂, hclose₂, hrest⟩ :=
            ih _ (by simp [← hn]; omega) hskip rfl
          refine ⟨pre ++ body₁ ++ close₁ ++ body₂, close₂, tail₂, by simp, ?_, hclose₂, hrest⟩
          exact .group hpre (by simpa using hdepth) hbody₁ hclose₁ hbody₂
        · cases h
      · -- any other field is passed over with its payload
        split at h
        · cases h
        · rename_i p mid hscalar
          obtain ⟨payload, rfl, hpayload⟩ := readScalar_eq_some_iff.1 hscalar
          obtain ⟨body, close, tail, rfl, hbody, hclose, hrest⟩ :=
            ih _ (by simp [← hn]; omega) h rfl
          exact ⟨pre ++ payload ++ body, close, tail, by simp, .scalar hpre hpayload hbody,
            hclose, hrest⟩

/-- **Skipping a group reads exactly its body and end tag.** A group whose start tag was just
read, with number `k`, is skipped when the bytes start with a well-formed body inside it and an
end tag of the same number, and then reading goes on right after that end tag. -/
theorem skipGroups_eq_some_iff {budget k : Nat} {bytes after : List UInt8} :
    skipGroups budget [k] bytes = some after ↔
      ∃ body close, bytes = body ++ close ++ after ∧ GroupBody budget 1 body ∧
        TagBytes true close ⟨k, .endGroup⟩ := by
  constructor
  · intro h
    obtain ⟨body, close, tail, rfl, hbody, hclose, hend⟩ := skipGroups_sound h
    obtain ⟨-, rfl⟩ := hend.resolve_right (fun h => h.1 rfl)
    exact ⟨body, close, rfl, hbody, hclose⟩
  · rintro ⟨body, close, rfl, hbody, hclose⟩
    rw [List.append_assoc, skipGroups_body hbody rfl (by simp), skipGroups_close hclose, if_pos rfl]

/-! ### Fields -/

/-- `FieldBytes budget bytes f`: `bytes` is one field of a message whose groups may nest `budget`
deep, read as `f`: a tag with a number other than zero and its payload, or the start tag of a
group, the group's body and its end tag. -/
inductive FieldBytes (budget : Nat) : List UInt8 → Field → Prop
  | scalar {number : Nat} {w : WireType} {p : Payload} {tag payload : List UInt8} :
      TagBytes false tag ⟨number, w⟩ → ScalarBytes w payload p →
      FieldBytes budget (tag ++ payload) ⟨number, p⟩
  | group {number : Nat} {start body close : List UInt8} :
      TagBytes false start ⟨number, .startGroup⟩ → 0 < budget → GroupBody budget 1 body →
      TagBytes true close ⟨number, .endGroup⟩ →
      FieldBytes budget (start ++ body ++ close) ⟨number, .group⟩

theorem FieldBytes.ne_nil {budget : Nat} {bytes : List UInt8} {f : Field}
    (h : FieldBytes budget bytes f) : bytes ≠ [] := by
  cases h with
  | scalar htag _ => simp [htag.1.ne_nil]
  | group hstart _ _ _ => simp [hstart.1.ne_nil]

theorem nextField_sound {budget : Nat} {bytes rest : List UInt8} {f : Field}
    (h : nextField budget bytes = .ok (some (f, rest))) :
    ∃ pre, bytes = pre ++ rest ∧ FieldBytes budget pre f := by
  unfold nextField at h
  split at h
  · cases h
  · rename_i bytes b bs
    split at h
    · cases h
    · rename_i tag r htag
      obtain ⟨pre, hbytes, hpre⟩ := readTag_eq_some_iff.1 htag
      rw [hbytes]
      obtain ⟨number, w⟩ := tag
      split at h
      · cases h
      · rename_i hw
        simp only at hw
        subst hw
        split at h
        · rename_i hbudget
          split at h
          · cases h
          · rename_i after hskip
            cases h
            obtain ⟨body, close, rfl, hbody, hclose⟩ := skipGroups_eq_some_iff.1 hskip
            exact ⟨pre ++ body ++ close, by simp, .group hpre hbudget hbody hclose⟩
        · cases h
      · split at h
        · cases h
        · rename_i p after hscalar
          cases h
          obtain ⟨payload, rfl, hpayload⟩ := readScalar_eq_some_iff.1 hscalar
          exact ⟨pre ++ payload, by simp, .scalar hpre hpayload⟩

theorem nextField_complete {budget : Nat} {pre : List UInt8} {f : Field}
    (hf : FieldBytes budget pre f) (rest : List UInt8) :
    nextField budget (pre ++ rest) = .ok (some (f, rest)) := by
  have hne : pre ++ rest ≠ [] := by simp [hf.ne_nil]
  unfold nextField
  split
  · contradiction
  · cases hf with
    | @scalar number w p tag payload htag hpayload =>
      rw [List.append_assoc, readTag_eq_some_iff.2 ⟨tag, rfl, htag⟩]
      have hscalar : readScalar w (payload ++ rest) = some (p, rest) :=
        readScalar_eq_some_iff.2 ⟨payload, rfl, hpayload⟩
      cases hpayload <;>
      · dsimp only
        rw [hscalar]
    | @group number start body close hstart hbudget hbody hclose =>
      rw [List.append_assoc, List.append_assoc, readTag_eq_some_iff.2 ⟨start, rfl, hstart⟩]
      dsimp only
      rw [if_pos hbudget, ← List.append_assoc,
        skipGroups_eq_some_iff.2 ⟨body, close, rfl, hbody, hclose⟩]

/-- **The field reader reads exactly a field** and leaves what follows it. -/
theorem nextField_eq_some_iff {budget : Nat} {bytes rest : List UInt8} {f : Field} :
    nextField budget bytes = .ok (some (f, rest)) ↔
      ∃ pre, bytes = pre ++ rest ∧ FieldBytes budget pre f :=
  ⟨nextField_sound, fun ⟨_, hbytes, hf⟩ => hbytes ▸ nextField_complete hf rest⟩

/-- The field reader finds no field only at the end of the message. -/
theorem nextField_eq_none_iff {budget : Nat} {bytes : List UInt8} :
    nextField budget bytes = .ok none ↔ bytes = [] := by
  constructor
  · intro h
    unfold nextField at h
    split at h
    · rfl
    · -- past the end of the message every branch reads a field or fails
      repeat' split at h
      all_goals cases h
  · rintro rfl
    rfl

/-- Every failure of the field reader is a corrupt wire format. -/
theorem nextField_error {budget : Nat} {bytes : List UInt8} {e : DecodeFault}
    (h : nextField budget bytes = .error e) : e = .corrupt := by
  unfold nextField at h
  repeat' split at h
  all_goals cases h
  all_goals rfl

/-- **The field reader fails exactly where no field starts**, and the fault is a corrupt wire
format. -/
theorem nextField_eq_error_iff {budget : Nat} {bytes : List UInt8} {e : DecodeFault} :
    nextField budget bytes = .error e ↔
      e = .corrupt ∧ bytes ≠ [] ∧
        ¬ ∃ pre rest f, bytes = pre ++ rest ∧ FieldBytes budget pre f := by
  constructor
  · intro h
    refine ⟨nextField_error h, ?_, ?_⟩
    · rintro rfl
      cases h
    · rintro ⟨pre, rest, f, rfl, hf⟩
      rw [nextField_complete hf rest] at h
      cases h
  · rintro ⟨rfl, hne, hno⟩
    match hnext : nextField budget bytes with
    | .error e => rw [← nextField_error hnext]
    | .ok none => exact absurd (nextField_eq_none_iff.1 hnext) hne
    | .ok (some (f, rest)) =>
      obtain ⟨pre, hbytes, hf⟩ := nextField_sound hnext
      exact absurd ⟨pre, rest, f, hbytes, hf⟩ hno

/-! ### Packed runs -/

/-- `PackedRun bytes`: `bytes` is whole varints of at most ten bytes each, back to back. -/
inductive PackedRun : List UInt8 → Prop
  | nil : PackedRun []
  | cons {v : Nat} {pre rest : List UInt8} :
      Varint 10 pre v → PackedRun rest → PackedRun (pre ++ rest)

/-- **A packed payload reads exactly when it is whole varints**: no byte is left over and no
varint is cut short by the end of the payload. -/
theorem readPacked_isSome_iff {bytes : List UInt8} :
    (readPacked bytes).isSome ↔ PackedRun bytes := by
  constructor
  · intro h
    fun_induction readPacked bytes with
    | case1 => exact .nil
    | case2 => simp at h
    | case3 bytes hne w rest hread _ ih =>
      obtain ⟨v, hg, rfl⟩ := map_pair_eq_some hread
      obtain ⟨pre, rfl, hpre⟩ := readGroups_eq_some_iff.1 hg
      exact .cons hpre (ih (by simpa using h))
  · intro h
    induction h with
    | nil => simp [readPacked]
    | @cons v pre rest hpre _ ih =>
      have hread : readVarint (pre ++ rest) = some (UInt64.ofNat v, rest) := by
        simp [readVarint, readGroups_eq_some_iff.2 ⟨pre, rfl, hpre⟩]
      rw [readPacked, if_neg (by simp [hpre.ne_nil])]
      split
      · rename_i h
        rw [hread] at h
        cases h
      · rename_i h
        rw [hread] at h
        cases h
        simpa using ih

/-! ### Messages -/

/-- `Fields budget bytes fs`: `bytes` is the fields `fs`, one after another, and nothing else. -/
inductive Fields (budget : Nat) : List UInt8 → List Field → Prop
  | nil : Fields budget [] []
  | cons {pre rest : List UInt8} {f : Field} {fs : List Field} :
      FieldBytes budget pre f → Fields budget rest fs → Fields budget (pre ++ rest) (f :: fs)

/-- `MessageBytes budget ok bytes`: `bytes` is a run of fields, each of which `ok` accepts. -/
def MessageBytes (budget : Nat) (ok : Field → Prop) (bytes : List UInt8) : Prop :=
  ∃ fs, Fields budget bytes fs ∧ ∀ f ∈ fs, ok f

/-- `FirstDefect budget ok defect bytes e`: read in order, `bytes` holds a run of accepted fields
and then its first defect, which is `e`: either no field starts there, and the wire format is
corrupt, or a field starts there that the schema refuses with `e`. -/
def FirstDefect (budget : Nat) (ok : Field → Prop) (defect : Field → DecodeFault → Prop)
    (bytes : List UInt8) (e : DecodeFault) : Prop :=
  ∃ pre post, bytes = pre ++ post ∧ MessageBytes budget ok pre ∧
    ((e = .corrupt ∧ post ≠ [] ∧ ¬ ∃ q r f, post = q ++ r ∧ FieldBytes budget q f) ∨
      ∃ q r f, post = q ++ r ∧ FieldBytes budget q f ∧ defect f e)

/-- `FieldRule apply ok defect`: the step `apply` of a decoder takes a field exactly when `ok`
accepts it and otherwise fails with a fault that `defect` gives, whatever it has read before. -/
structure FieldRule {α : Type} (apply : α → Field → Except DecodeFault α) (ok : Field → Prop)
    (defect : Field → DecodeFault → Prop) : Prop where
  ok_iff : ∀ a f, (∃ a', apply a f = .ok a') ↔ ok f
  error_iff : ∀ a f e, apply a f = .error e ↔ defect f e

section Schema

variable {α : Type} {budget : Nat} {apply : α → Field → Except DecodeFault α}
  {ok : Field → Prop} {defect : Field → DecodeFault → Prop}

/-- **A message decodes exactly when its bytes are a run of fields that the schema accepts.** -/
theorem decodeFields_ok_iff (rule : FieldRule apply ok defect) (acc : α) (bytes : List UInt8) :
    (∃ a, decodeFields budget apply acc bytes = .ok a) ↔ MessageBytes budget ok bytes := by
  constructor
  · rintro ⟨a, h⟩
    fun_induction decodeFields budget apply acc bytes with
    | case1 => cases h
    | case2 acc bytes hnext =>
      rw [nextField_eq_none_iff.1 hnext]
      exact ⟨[], .nil, by simp⟩
    | case3 => cases h
    | case4 acc bytes f rest hnext _ acc' happly ih =>
      obtain ⟨fs, hfs, hall⟩ := ih h
      obtain ⟨pre, rfl, hf⟩ := nextField_sound hnext
      have hok : ok f := (rule.ok_iff acc f).1 ⟨acc', happly⟩
      exact ⟨f :: fs, .cons hf hfs, List.forall_mem_cons.2 ⟨hok, hall⟩⟩
  · rintro ⟨fs, hfs, hall⟩
    induction hfs generalizing acc with
    | nil => exact ⟨acc, decodeFields_nil⟩
    | @cons pre rest f fs hf _ ih =>
      obtain ⟨a, ha⟩ := (rule.ok_iff acc f).2 (hall f (by simp))
      rw [decodeFields_of_next (nextField_complete hf rest), ha]
      exact ih a (fun g hg => hall g (by simp [hg]))

/-- **A message fails to decode exactly at its first defect**, with the fault of that defect. -/
theorem decodeFields_error_iff (rule : FieldRule apply ok defect) (acc : α) (bytes : List UInt8)
    (e : DecodeFault) :
    decodeFields budget apply acc bytes = .error e ↔ FirstDefect budget ok defect bytes e := by
  constructor
  · intro h
    fun_induction decodeFields budget apply acc bytes with
    | case1 acc bytes e' hnext =>
      cases h
      refine ⟨[], bytes, rfl, ⟨[], .nil, by simp⟩, .inl ?_⟩
      exact nextField_eq_error_iff.1 hnext
    | case2 => cases h
    | case3 acc bytes f rest hnext _ e' happly =>
      cases h
      obtain ⟨q, rfl, hf⟩ := nextField_sound hnext
      exact ⟨[], q ++ rest, rfl, ⟨[], .nil, by simp⟩,
        .inr ⟨q, rest, f, rfl, hf, (rule.error_iff acc f e).1 happly⟩⟩
    | case4 acc bytes f rest hnext _ acc' happly ih =>
      obtain ⟨pre, post, rfl, ⟨fs, hfs, hall⟩, hdefect⟩ := ih h
      obtain ⟨q, hbytes, hf⟩ := nextField_sound hnext
      have hok : ok f := (rule.ok_iff acc f).1 ⟨acc', happly⟩
      exact ⟨q ++ pre, post, by simp [hbytes],
        ⟨f :: fs, .cons hf hfs, List.forall_mem_cons.2 ⟨hok, hall⟩⟩, hdefect⟩
  · rintro ⟨pre, post, rfl, ⟨fs, hfs, hall⟩, hdefect⟩
    induction hfs generalizing acc with
    | nil =>
      rcases hdefect with hcorrupt | ⟨q, r, f, rfl, hf, hd⟩
      · exact decodeFields_of_error (nextField_eq_error_iff.2 hcorrupt)
      · rw [List.nil_append, decodeFields_of_next (nextField_complete hf r),
          (rule.error_iff acc f e).2 hd]
        rfl
    | @cons pre rest f fs hf _ ih =>
      obtain ⟨a, ha⟩ := (rule.ok_iff acc f).2 (hall f (by simp))
      rw [List.append_assoc, decodeFields_of_next (nextField_complete hf (rest ++ post)), ha]
      exact ih a (fun g hg => hall g (by simp [hg]))

end Schema

end Wire
end OccurrenceScan
