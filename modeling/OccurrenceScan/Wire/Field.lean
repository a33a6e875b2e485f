import OccurrenceScan.Wire.Varint

namespace OccurrenceScan

namespace Wire

/-!
# Fields of the protobuf wire format

A message is a run of fields. Each starts with a tag, a varint `number * 8 + wireType` of at most
five bytes that fits 32 bits, with a field number other than zero and a wire type of 0 to 5.
Its payload follows: a varint (type 0), eight bytes (1), a length and that many bytes (2), four
bytes (5), or a group (3): fields up to an end-group tag (4) with the same number. A length is a
varint of at most five bytes, like a tag, however few its value needs. Every payload lies within
the bytes of its message.

A decoder of a schema reads its fields one at a time and skips those it does not know. A group
is never known here, so it is read whole and skipped; its insides must still be well-formed
fields, except that their field number may be zero, and groups may nest only as deep as the
budget left by the enclosing messages. An end-group tag that closes no open group, or that
closes one of another number, is corrupt.
-/

/-- Why bytes are not a message of a schema. -/
inductive DecodeFault where
  /-- The bytes break the wire format. -/
  | corrupt
  /-- A known string field holds bytes that are not UTF-8. -/
  | badUtf8
  deriving DecidableEq, Repr

namespace DecodeFault

/-- How a decoding fault is reported. -/
def reason : DecodeFault → String
  | .corrupt => "Wire format was corrupt"
  | .badUtf8 => "String field had bad UTF-8"

end DecodeFault

/-- How a field's payload is laid out. -/
inductive WireType where
  | varint
  | fixed64
  | delimited
  | startGroup
  | endGroup
  | fixed32
  deriving DecidableEq, Repr

namespace WireType

/-- The wire type with a given code, if the code is one of 0 to 5. -/
def ofCode? : Nat → Option WireType
  | 0 => some .varint
  | 1 => some .fixed64
  | 2 => some .delimited
  | 3 => some .startGroup
  | 4 => some .endGroup
  | 5 => some .fixed32
  | _ => none

/-- The code of a wire type. -/
def code : WireType → Nat
  | .varint => 0
  | .fixed64 => 1
  | .delimited => 2
  | .startGroup => 3
  | .endGroup => 4
  | .fixed32 => 5

end WireType

/-- The head of a field: its number and how its payload is laid out. -/
structure Tag where
  number : Nat
  wire : WireType
  deriving DecidableEq, Repr

/-- Reads a tag: a varint of at most five bytes below `2^32`, with a field number other than
zero and a wire type code of 0 to 5. -/
def readTag (bytes : List UInt8) : Option (Tag × List UInt8) :=
  match readGroups 5 bytes with
  | none => none
  | some (v, rest) =>
    if v < 4294967296 ∧ v / 8 ≠ 0 then
      (WireType.ofCode? (v % 8)).map fun w => (⟨v / 8, w⟩, rest)
    else none

/-- The payload of a field, as far as the wire format says. -/
inductive Payload where
  | varint (w : UInt64)
  | fixed64 (bytes : List UInt8)
  | delimited (bytes : List UInt8)
  /-- A group, read whole and skipped. -/
  | group
  | fixed32 (bytes : List UInt8)
  deriving DecidableEq, Repr

/-- A field of a message: its number and its payload. -/
structure Field where
  number : Nat
  payload : Payload
  deriving DecidableEq, Repr

/-- Splits off the first `n` bytes, if there are that many. -/
def takeBytes (n : Nat) (bytes : List UInt8) : Option (List UInt8 × List UInt8) :=
  if n ≤ bytes.length then some (bytes.take n, bytes.drop n) else none

/-- Reads the payload of a field that is neither a group nor the end of one. -/
def readScalar : WireType → List UInt8 → Option (Payload × List UInt8)
  | .varint, bytes => (readVarint bytes).map fun (w, r) => (.varint w, r)
  | .fixed64, bytes => (takeBytes 8 bytes).map fun (p, r) => (.fixed64 p, r)
  | .delimited, bytes =>
    match readGroups 5 bytes with
    | none => none
    | some (len, r) => (takeBytes len r).map fun (p, r') => (.delimited p, r')
  | .fixed32, bytes => (takeBytes 4 bytes).map fun (p, r) => (.fixed32 p, r)
  | .startGroup, _ => none
  | .endGroup, _ => none

/-- Reads a tag inside a skipped group: like `readTag`, but the field number may be zero. -/
def readGroupTag (bytes : List UInt8) : Option (Tag × List UInt8) :=
  match readGroups 5 bytes with
  | none => none
  | some (v, rest) =>
    if v < 4294967296 then (WireType.ofCode? (v % 8)).map fun w => (⟨v / 8, w⟩, rest)
    else none

theorem readGroupTag_length_lt {bytes rest : List UInt8} {t : Tag}
    (h : readGroupTag bytes = some (t, rest)) : rest.length < bytes.length := by
  unfold readGroupTag at h
  split at h
  · simp at h
  · rename_i v r hv
    split at h
    · obtain ⟨w, -, hw⟩ := Option.map_eq_some_iff.1 h
      simp only [Prod.mk.injEq] at hw
      obtain ⟨-, rfl⟩ := hw
      exact readGroups_length_lt hv
    · simp at h

theorem readTag_length_lt {bytes rest : List UInt8} {t : Tag}
    (h : readTag bytes = some (t, rest)) : rest.length < bytes.length := by
  unfold readTag at h
  split at h
  · simp at h
  · rename_i v r hv
    split at h
    · obtain ⟨w, -, hw⟩ := Option.map_eq_some_iff.1 h
      simp only [Prod.mk.injEq] at hw
      obtain ⟨-, rfl⟩ := hw
      exact readGroups_length_lt hv
    · simp at h

theorem takeBytes_length_le {n : Nat} {bytes taken rest : List UInt8}
    (h : takeBytes n bytes = some (taken, rest)) : rest.length ≤ bytes.length := by
  unfold takeBytes at h
  split at h
  · simp only [Option.some.injEq, Prod.mk.injEq] at h
    obtain ⟨-, rfl⟩ := h
    simp
  · simp at h

theorem readScalar_length_le {w : WireType} {bytes rest : List UInt8} {p : Payload}
    (h : readScalar w bytes = some (p, rest)) : rest.length ≤ bytes.length := by
  cases w with
  | varint =>
    obtain ⟨⟨v, r⟩, hr, he⟩ := Option.map_eq_some_iff.1 h
    simp only [Prod.mk.injEq] at he
    obtain ⟨-, rfl⟩ := he
    exact Nat.le_of_lt (readVarint_length_lt hr)
  | fixed64 =>
    obtain ⟨⟨v, r⟩, hr, he⟩ := Option.map_eq_some_iff.1 h
    simp only [Prod.mk.injEq] at he
    obtain ⟨-, rfl⟩ := he
    exact takeBytes_length_le hr
  | delimited =>
    simp only [readScalar] at h
    split at h
    · simp at h
    · rename_i len r hr
      obtain ⟨⟨v, r'⟩, hr', he⟩ := Option.map_eq_some_iff.1 h
      simp only [Prod.mk.injEq] at he
      obtain ⟨-, rfl⟩ := he
      exact Nat.le_trans (takeBytes_length_le hr') (Nat.le_of_lt (readGroups_length_lt hr))
  | fixed32 =>
    obtain ⟨⟨v, r⟩, hr, he⟩ := Option.map_eq_some_iff.1 h
    simp only [Prod.mk.injEq] at he
    obtain ⟨-, rfl⟩ := he
    exact takeBytes_length_le hr
  | startGroup => simp [readScalar] at h
  | endGroup => simp [readScalar] at h

/-- Skips the inside of open groups, whose numbers `open` lists innermost first, up to the end
tag of the outermost; a group may open only while fewer than `budget` are open. -/
def skipGroups (budget : Nat) (openGroups : List Nat) (bytes : List UInt8) : Option (List UInt8) :=
  match h : readGroupTag bytes with
  | none => none
  | some (tag, rest) =>
    have hr : rest.length < bytes.length := readGroupTag_length_lt h
    match tag.wire with
    | .endGroup =>
      match openGroups with
      | [] => none
      | innermost :: outer =>
        if tag.number = innermost then
          if outer = [] then some rest else skipGroups budget outer rest
        else none
    | .startGroup =>
      if openGroups.length < budget then skipGroups budget (tag.number :: openGroups) rest
      else none
    | w =>
      match h' : readScalar w rest with
      | none => none
      | some (_, after) =>
        have : after.length < bytes.length :=
          Nat.lt_of_le_of_lt (readScalar_length_le h') hr
        skipGroups budget openGroups after
termination_by bytes.length

theorem skipGroups_length_lt {budget : Nat} :
    ∀ (n : Nat) {openGroups : List Nat} {bytes rest : List UInt8}, bytes.length = n →
      skipGroups budget openGroups bytes = some rest → rest.length < bytes.length := by
  intro n
  induction n using Nat.strongRecOn with
  | _ n ih =>
    intro openGroups bytes rest hn hs
    rw [skipGroups] at hs
    split at hs
    · simp at hs
    · rename_i tag r htag
      have hr := readGroupTag_length_lt htag
      split at hs
      · split at hs
        · simp at hs
        · split at hs
          · split at hs
            · simp only [Option.some.injEq] at hs
              subst hs
              exact hr
            · exact Nat.lt_trans (ih r.length (hn ▸ hr) rfl hs) hr
          · simp at hs
      · split at hs
        · exact Nat.lt_trans (ih r.length (hn ▸ hr) rfl hs) hr
        · simp at hs
      · split at hs
        · simp at hs
        · rename_i after hsc
          have ha := Nat.lt_of_le_of_lt (readScalar_length_le hsc) hr
          exact Nat.lt_trans (ih after.length (hn ▸ ha) rfl hs) ha

/-- Reads the next field of a message whose groups may nest `budget` deep: none at the message's
end. A group is read whole; an end-group tag that closes no group is corrupt. -/
def nextField (budget : Nat) (bytes : List UInt8) : Except DecodeFault (Option (Field × List UInt8)) :=
  match bytes with
  | [] => .ok none
  | _ :: _ =>
    match readTag bytes with
    | none => .error .corrupt
    | some (tag, rest) =>
      match tag.wire with
      | .endGroup => .error .corrupt
      | .startGroup =>
        if 0 < budget then
          match skipGroups budget [tag.number] rest with
          | none => .error .corrupt
          | some after => .ok (some (⟨tag.number, .group⟩, after))
        else .error .corrupt
      | w =>
        match readScalar w rest with
        | none => .error .corrupt
        | some (payload, after) => .ok (some (⟨tag.number, payload⟩, after))

theorem nextField_length_lt {budget : Nat} {bytes rest : List UInt8} {f : Field}
    (h : nextField budget bytes = .ok (some (f, rest))) : rest.length < bytes.length := by
  unfold nextField at h
  split at h
  · simp at h
  · split at h
    · simp at h
    · rename_i tag r htag
      have hr := readTag_length_lt htag
      split at h
      · simp at h
      · split at h
        · split at h
          · simp at h
          · rename_i after hs
            simp only [Except.ok.injEq, Option.some.injEq, Prod.mk.injEq] at h
            obtain ⟨-, rfl⟩ := h
            exact Nat.lt_trans (skipGroups_length_lt _ rfl hs) hr
        · simp at h
      · split at h
        · simp at h
        · rename_i payload after hs
          simp only [Except.ok.injEq, Option.some.injEq, Prod.mk.injEq] at h
          obtain ⟨-, rfl⟩ := h
          exact Nat.lt_of_le_of_lt (readScalar_length_le hs) hr

/-- Reads the fields of a message in order onto `acc`, each through `apply`, stopping at the
first fault: a field's own fault comes before anything in the fields after it. -/
def decodeFields {α : Type} (budget : Nat) (apply : α → Field → Except DecodeFault α)
    (acc : α) (bytes : List UInt8) : Except DecodeFault α :=
  match h : nextField budget bytes with
  | .error e => .error e
  | .ok none => .ok acc
  | .ok (some (f, rest)) =>
    have : rest.length < bytes.length := nextField_length_lt h
    match apply acc f with
    | .error e => .error e
    | .ok acc' => decodeFields budget apply acc' rest
termination_by bytes.length

/-- Reads a packed run of varints that fills its payload exactly. -/
def readPacked (bytes : List UInt8) : Option (List UInt64) :=
  if bytes = [] then some []
  else
    match h : readVarint bytes with
    | none => none
    | some (w, rest) =>
      have : rest.length < bytes.length := readVarint_length_lt h
      (readPacked rest).map (w :: ·)
termination_by bytes.length

/-- A length-delimited field: its tag, the payload's length and the payload. -/
def delimitedField (number : Nat) (payload : List UInt8) : List UInt8 :=
  writeVarint (number * 8 + WireType.delimited.code) ++ writeVarint payload.length ++ payload

end Wire

end OccurrenceScan
