import OccurrenceScan.Index.Decode
import OccurrenceScan.Proofs.Utf8
import OccurrenceScan.Proofs.WireGrammar

/-!
# Which bytes are an index

An index decodes exactly when its bytes are well-formed, and a failure reports the first defect
in byte order. This module says both without the decoder. A message of each kind is a run of
fields of the wire grammar (`Wire.MessageBytes`), with groups nesting no deeper than its depth
leaves them; each field the message knows, arriving with a wire type it takes, must hold a
well-formed payload:

* an occurrence's packed range (field 1) is whole varints, its symbol (field 2) UTF-8 text;
* a document's path (field 1) is UTF-8 text, each occurrence (field 2) a well-formed occurrence;
* each document of an index (field 2) is a well-formed document.

All other fields, and known fields of another wire type, are skipped and need only be
well-formed on the wire. A failing message has a well-formed run of fields and then its first
defect: bytes where no field starts (a corrupt wire format), or a known field whose payload is
not as above. The fault is bad UTF-8 when that payload is a string, or when it is a nested
message whose own first defect is such a string, and a corrupt wire format otherwise.

Main statements: `decode_succeeds_iff_wellFormed`, and `decode_deepGroups_fails`: groups nested
one level past the limit are well-formed on the wire, yet they are not decoded.
-/

namespace OccurrenceScan

open Wire

/-- Bytes that are the UTF-8 encoding of a string. -/
def Utf8Text (bytes : List UInt8) : Prop :=
  ∃ s, bytes = Utf8.encode s

theorem decodeString?_isSome_iff {bytes : List UInt8} :
    (Utf8.decodeString? bytes).isSome ↔ Utf8Text bytes := by
  rw [Option.isSome_iff_exists]
  exact exists_congr fun _ => Utf8.decodeString?_eq_some_iff

/-! ### Occurrences -/

namespace Occurrence

/-- The fields an occurrence takes: a packed range of whole varints and a UTF-8 symbol. -/
def FieldOk : Field → Prop
  | ⟨1, .delimited p⟩ => PackedRun p
  | ⟨2, .delimited p⟩ => Utf8Text p
  | _ => True

/-- How an occurrence refuses a field: a cut packed range is corrupt, a symbol that is not UTF-8
is bad UTF-8. -/
def FieldDefect : Field → DecodeFault → Prop
  | ⟨1, .delimited p⟩, e => ¬ PackedRun p ∧ e = .corrupt
  | ⟨2, .delimited p⟩, e => ¬ Utf8Text p ∧ e = .badUtf8
  | _, _ => False

/-- The bytes of a well-formed occurrence, a message at depth 2. -/
def WellFormed (bytes : List UInt8) : Prop :=
  MessageBytes (depthLimit - 2) FieldOk bytes

/-- The first defect of the bytes of an occurrence is `e`. -/
def Defective (bytes : List UInt8) (e : DecodeFault) : Prop :=
  FirstDefect (depthLimit - 2) FieldOk FieldDefect bytes e

theorem fieldRule : FieldRule applyField FieldOk FieldDefect where
  ok_iff o f := by
    unfold applyField
    split
    · simp [FieldOk]
    · rename_i p
      simp only [FieldOk]
      rw [← readPacked_isSome_iff, Option.isSome_iff_exists]
      cases readPacked p <;> simp
    · rename_i p
      simp only [FieldOk]
      rw [← decodeString?_isSome_iff, Option.isSome_iff_exists]
      cases Utf8.decodeString? p <;> simp
    · -- a field the occurrence skips is none of the known ones
      unfold FieldOk
      split <;> simp_all
  error_iff o f e := by
    unfold applyField
    split
    · simp [FieldDefect]
    · rename_i p
      simp only [FieldDefect]
      rw [← readPacked_isSome_iff]
      cases readPacked p <;> simp [eq_comm]
    · rename_i p
      simp only [FieldDefect]
      rw [← decodeString?_isSome_iff]
      cases Utf8.decodeString? p <;> simp [eq_comm]
    · unfold FieldDefect
      split <;> simp_all

theorem decode_ok_iff (bytes : List UInt8) : (∃ o, decode bytes = .ok o) ↔ WellFormed bytes :=
  decodeFields_ok_iff fieldRule {} bytes

theorem decode_error_iff (bytes : List UInt8) (e : DecodeFault) :
    decode bytes = .error e ↔ Defective bytes e :=
  decodeFields_error_iff fieldRule {} bytes e

end Occurrence

/-! ### Documents -/

namespace Document

/-- The fields a document takes: a UTF-8 path and well-formed occurrences. -/
def FieldOk : Field → Prop
  | ⟨1, .delimited p⟩ => Utf8Text p
  | ⟨2, .delimited p⟩ => Occurrence.WellFormed p
  | _ => True

/-- How a document refuses a field: a path that is not UTF-8, or an occurrence with a defect. -/
def FieldDefect : Field → DecodeFault → Prop
  | ⟨1, .delimited p⟩, e => ¬ Utf8Text p ∧ e = .badUtf8
  | ⟨2, .delimited p⟩, e => Occurrence.Defective p e
  | _, _ => False

/-- The bytes of a well-formed document, a message at depth 1. -/
def WellFormed (bytes : List UInt8) : Prop :=
  MessageBytes (depthLimit - 1) FieldOk bytes

/-- The first defect of the bytes of a document is `e`. -/
def Defective (bytes : List UInt8) (e : DecodeFault) : Prop :=
  FirstDefect (depthLimit - 1) FieldOk FieldDefect bytes e

theorem fieldRule : FieldRule applyField FieldOk FieldDefect where
  ok_iff d f := by
    unfold applyField
    split
    · rename_i p
      simp only [FieldOk]
      rw [← decodeString?_isSome_iff, Option.isSome_iff_exists]
      cases Utf8.decodeString? p <;> simp
    · rename_i p
      simp only [FieldOk]
      rw [← Occurrence.decode_ok_iff]
      cases Occurrence.decode p <;> simp
    · unfold FieldOk
      split <;> simp_all
  error_iff d f e := by
    unfold applyField
    split
    · rename_i p
      simp only [FieldDefect]
      rw [← decodeString?_isSome_iff]
      cases Utf8.decodeString? p <;> simp [eq_comm]
    · rename_i p
      simp only [FieldDefect]
      rw [← Occurrence.decode_error_iff]
      cases Occurrence.decode p <;> simp
    · unfold FieldDefect
      split <;> simp_all

theorem decode_ok_iff (bytes : List UInt8) : (∃ d, decode bytes = .ok d) ↔ WellFormed bytes :=
  decodeFields_ok_iff fieldRule {} bytes

theorem decode_error_iff (bytes : List UInt8) (e : DecodeFault) :
    decode bytes = .error e ↔ Defective bytes e :=
  decodeFields_error_iff fieldRule {} bytes e

end Document

/-! ### Indexes -/

namespace Index

/-- The fields an index takes: well-formed documents. -/
def FieldOk : Field → Prop
  | ⟨2, .delimited p⟩ => Document.WellFormed p
  | _ => True

/-- How an index refuses a field: a document with a defect. -/
def FieldDefect : Field → DecodeFault → Prop
  | ⟨2, .delimited p⟩, e => Document.Defective p e
  | _, _ => False

/-- The bytes of a well-formed index, the message at depth 0. -/
def WellFormed (bytes : List UInt8) : Prop :=
  MessageBytes depthLimit FieldOk bytes

/-- The first defect of the bytes of an index is `e`. -/
def Defective (bytes : List UInt8) (e : DecodeFault) : Prop :=
  FirstDefect depthLimit FieldOk FieldDefect bytes e

theorem fieldRule : FieldRule applyField FieldOk FieldDefect where
  ok_iff ix f := by
    unfold applyField
    split
    · rename_i p
      simp only [FieldOk]
      rw [← Document.decode_ok_iff]
      cases Document.decode p <;> simp
    · unfold FieldOk
      split <;> simp_all
  error_iff ix f e := by
    unfold applyField
    split
    · rename_i p
      simp only [FieldDefect]
      rw [← Document.decode_error_iff]
      cases Document.decode p <;> simp
    · unfold FieldDefect
      split <;> simp_all

theorem decode_ok_iff (bytes : List UInt8) : (∃ ix, decode bytes = .ok ix) ↔ WellFormed bytes :=
  decodeFields_ok_iff fieldRule {} bytes

theorem decode_error_iff (bytes : List UInt8) (e : DecodeFault) :
    decode bytes = .error e ↔ Defective bytes e :=
  decodeFields_error_iff fieldRule {} bytes e

end Index

/-- **An index decodes exactly when its bytes are well-formed**, and otherwise fails with the
fault of its first defect in byte order: bad UTF-8 for a known string field, corrupt for
anything else. -/
theorem decode_succeeds_iff_wellFormed (bytes : List UInt8) :
    ((∃ ix, Index.decode bytes = .ok ix) ↔ Index.WellFormed bytes) ∧
      ∀ e, Index.decode bytes = .error e ↔ Index.Defective bytes e :=
  ⟨Index.decode_ok_iff bytes, Index.decode_error_iff bytes⟩

/-! ### The nesting limit -/

/-- Nesting one level deeper puts one opening byte before and one closing byte after. -/
theorem replicate_append_replicate_succ {α : Type} (a b : α) (n : Nat) :
    List.replicate (n + 1) a ++ List.replicate (n + 1) b =
      [a] ++ (List.replicate n a ++ List.replicate n b) ++ [b] ++ [] := by
  rw [List.replicate_succ, List.replicate_succ']
  simp

/-- Groups of one number nested `n` deep, opened at depth `depth`, are a group body as long as
the budget lets the innermost one open. -/
theorem groupBody_nested {budget k : Nat} {start close : UInt8}
    (hstart : TagBytes true [start] ⟨k, .startGroup⟩)
    (hclose : TagBytes true [close] ⟨k, .endGroup⟩) :
    ∀ {depth n : Nat}, depth + n ≤ budget →
      GroupBody budget depth (List.replicate n start ++ List.replicate n close) := by
  intro depth n
  induction n generalizing depth with
  | zero => intro; exact .nil
  | succ n ih =>
    intro h
    rw [replicate_append_replicate_succ]
    exact .group hstart (by omega) (ih (by omega)) hclose .nil

/-- Groups of field 1 nested 101 deep are well-formed on the wire, had the decoder one more
level of nesting, but an index holding them does not decode: groups nest at most
`depthLimit` deep. -/
theorem decode_deepGroups_fails :
    (∃ budget, MessageBytes budget Index.FieldOk
        (List.replicate 101 0x0B ++ List.replicate 101 0x0C)) ∧
      ¬ ∃ ix, Index.decode (List.replicate 101 0x0B ++ List.replicate 101 0x0C) = .ok ix := by
  have hstart : TagBytes true [0x0B] ⟨1, .startGroup⟩ :=
    ⟨.last (by decide), by decide, .inl rfl⟩
  have hclose : TagBytes true [0x0C] ⟨1, .endGroup⟩ :=
    ⟨.last (by decide), by decide, .inl rfl⟩
  refine ⟨⟨101, [⟨1, .group⟩], ?_, by simp [Index.FieldOk]⟩, ?_⟩
  · have hfield : FieldBytes 101 ([0x0B] ++ (List.replicate 100 0x0B ++ List.replicate 100 0x0C) ++
        [0x0C]) ⟨1, .group⟩ :=
      .group ⟨hstart.1, hstart.2.1, .inr (by decide)⟩ (by decide) (groupBody_nested hstart hclose
        (by decide)) hclose
    have hbytes : List.replicate 101 (0x0B : UInt8) ++ List.replicate 101 0x0C =
        [0x0B] ++ (List.replicate 100 0x0B ++ List.replicate 100 0x0C) ++ [0x0C] ++ [] :=
      replicate_append_replicate_succ _ _ 100
    rw [hbytes]
    exact .cons hfield .nil
  · rintro ⟨ix, hix⟩
    have hnone : (Index.decode (List.replicate 101 0x0B ++ List.replicate 101 0x0C)).toOption =
        none := by
      decide +kernel
    rw [hix] at hnone
    cases hnone

end OccurrenceScan
