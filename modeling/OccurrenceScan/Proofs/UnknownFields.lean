import OccurrenceScan.Proofs.Merge

/-!
# Fields the schema does not know

An index keeps decoding the same when fields it does not know are put into it: newer versions of
the format add fields, and an older reader passes over them. A field is unknown to a message
when the message does not declare its number, or declares the number for another wire type: an
occurrence declares its range (field 1) as varints or packed runs and its symbol (field 2)
length-delimited, a document its path (field 1) and its occurrences (field 2) length-delimited,
an index its documents (field 2) length-delimited.

The message loop reads one field at a time and keeps nothing across fields but the message it
builds. So a field that the step leaves the message unchanged with can be put between any two
fields, and a nested message can be changed inside its field, as long as the step does the same
with the new payload. The argument is made once for the loop (`decodeFields_inserted`) and then
applied at each of the three levels, bottom up.

Main statement: `decode_unknownField`.
-/

namespace OccurrenceScan

open Wire

namespace Wire

/-- The wire type a payload was read with. -/
def Payload.wireType : Payload → WireType
  | .varint _ => .varint
  | .fixed64 _ => .fixed64
  | .delimited _ => .delimited
  | .group => .startGroup
  | .fixed32 _ => .fixed32

/-- `Inserted budget skipped inner b b'`: the bytes `b'` are `b` with one change at a field
boundary, after a run of whole fields: either a field of which `skipped` holds is put there, or
the length-delimited field there, with number `number` and payload `p`, is written again around
a payload `p'` with `inner number p p'`, its length prefix counted anew. -/
inductive Inserted (budget : Nat) (skipped : Field → Prop)
    (inner : Nat → List UInt8 → List UInt8 → Prop) : List UInt8 → List UInt8 → Prop
  | here {pre post u : List UInt8} {fs : List Field} {f : Field} :
      Fields budget pre fs → FieldBytes budget u f → skipped f →
      Inserted budget skipped inner (pre ++ post) (pre ++ u ++ post)
  | nested {pre post q q' p p' : List UInt8} {fs : List Field} {number : Nat} :
      Fields budget pre fs → FieldBytes budget q ⟨number, .delimited p⟩ →
      FieldBytes budget q' ⟨number, .delimited p'⟩ → inner number p p' →
      Inserted budget skipped inner (pre ++ q ++ post) (pre ++ q' ++ post)

section Loop

variable {α : Type} {budget : Nat} {apply : α → Field → Except DecodeFault α}

/-- Over a run of whole fields and then any bytes, the loop folds its step over the fields and
goes on from what the fold built. -/
theorem decodeFields_fields_append {acc : α} {pre : List UInt8} {fs : List Field}
    (hpre : Fields budget pre fs) (rest : List UInt8) :
    decodeFields budget apply acc (pre ++ rest) =
      (fs.foldlM apply acc).bind fun a => decodeFields budget apply a rest := by
  induction hpre generalizing acc with
  | nil => rfl
  | @cons q r f fs hf _ ih =>
    rw [List.append_assoc, decodeFields_of_next (nextField_complete hf (r ++ rest)),
      List.foldlM_cons]
    cases apply acc f with
    | error e => rfl
    | ok a => exact ih

/-- **The loop does not see an inserted field it skips**, nor a nested payload changed into one
its step reads the same way. -/
theorem decodeFields_inserted {skipped : Field → Prop} {inner : Nat → List UInt8 → List UInt8 → Prop}
    (hskip : ∀ a f, skipped f → apply a f = .ok a)
    (hinner : ∀ a number p p', inner number p p' →
      apply a ⟨number, .delimited p'⟩ = apply a ⟨number, .delimited p⟩)
    {b b' : List UInt8} (h : Inserted budget skipped inner b b') (acc : α) :
    decodeFields budget apply acc b' = decodeFields budget apply acc b := by
  cases h with
  | @here pre post u fs f hpre hu hf =>
    rw [List.append_assoc, decodeFields_fields_append hpre, decodeFields_fields_append hpre]
    congr 1
    funext a
    -- the skipped field is read and leaves the message as it was
    rw [decodeFields_of_next (nextField_complete hu post), hskip a f hf]
    rfl
  | @nested pre post q q' p p' fs number hpre hq hq' hp =>
    rw [List.append_assoc, List.append_assoc, decodeFields_fields_append hpre,
      decodeFields_fields_append hpre]
    congr 1
    funext a
    rw [decodeFields_of_next (nextField_complete hq' post),
      decodeFields_of_next (nextField_complete hq post), hinner a number p p' hp]

end Loop

end Wire

/-! ### Occurrences -/

namespace Occurrence

/-- Whether an occurrence declares field `number` for wire type `w`: its range, field 1, as single
varints or packed runs, and its symbol, field 2, length-delimited. -/
def declares : Nat → WireType → Bool
  | 1, .varint => true
  | 1, .delimited => true
  | 2, .delimited => true
  | _, _ => false

/-- The bytes `p'` are the occurrence `p` with one field it does not declare put in. -/
def InsertsUnknown : List UInt8 → List UInt8 → Prop :=
  Inserted (depthLimit - 2) (fun f => declares f.number f.payload.wireType = false)
    (fun _ _ _ => False)

/-- An occurrence passes over a field it does not declare. -/
theorem applyField_of_declares_eq_false {o : Occurrence} {f : Field}
    (h : declares f.number f.payload.wireType = false) : o.applyField f = .ok o := by
  unfold applyField
  split
  · simp [declares, Payload.wireType] at h
  · simp [declares, Payload.wireType] at h
  · simp [declares, Payload.wireType] at h
  · rfl

theorem decode_of_insertsUnknown {p p' : List UInt8} (h : InsertsUnknown p p') :
    decode p' = decode p := by
  unfold InsertsUnknown at h
  unfold decode
  refine decodeFields_inserted ?_ ?_ h _
  · exact fun _ _ hf => applyField_of_declares_eq_false hf
  · exact fun _ _ _ _ hp => False.elim hp

end Occurrence

/-! ### Documents -/

namespace Document

/-- Whether a document declares field `number` for wire type `w`: its path, field 1, and its
occurrences, field 2, both length-delimited. -/
def declares : Nat → WireType → Bool
  | 1, .delimited => true
  | 2, .delimited => true
  | _, _ => false

/-- The bytes `p'` are the document `p` with one field unknown to it, or to one of its
occurrences, put in. -/
def InsertsUnknown : List UInt8 → List UInt8 → Prop :=
  Inserted (depthLimit - 1) (fun f => declares f.number f.payload.wireType = false)
    (fun number p p' => number = 2 ∧ Occurrence.InsertsUnknown p p')

/-- A document passes over a field it does not declare. -/
theorem applyField_of_declares_eq_false {d : Document} {f : Field}
    (h : declares f.number f.payload.wireType = false) : d.applyField f = .ok d := by
  unfold applyField
  split
  · simp [declares, Payload.wireType] at h
  · simp [declares, Payload.wireType] at h
  · rfl

theorem decode_of_insertsUnknown {p p' : List UInt8} (h : InsertsUnknown p p') :
    decode p' = decode p := by
  unfold InsertsUnknown at h
  unfold decode
  refine decodeFields_inserted ?_ ?_ h _
  · exact fun _ _ hf => applyField_of_declares_eq_false hf
  -- an occurrence with a field put in reads as it did
  rintro d number q q' ⟨rfl, hq⟩
  simp only [applyField, Occurrence.decode_of_insertsUnknown hq]

end Document

/-! ### Indexes -/

namespace Index

/-- Whether an index declares field `number` for wire type `w`: its documents, field 2,
length-delimited. -/
def declares : Nat → WireType → Bool
  | 2, .delimited => true
  | _, _ => false

/-- The bytes `b'` are the index `b` with one field unknown to it, to one of its documents or to
one of their occurrences, put in. -/
def InsertsUnknown : List UInt8 → List UInt8 → Prop :=
  Inserted depthLimit (fun f => declares f.number f.payload.wireType = false)
    (fun number p p' => number = 2 ∧ Document.InsertsUnknown p p')

/-- An index passes over a field it does not declare. -/
theorem applyField_of_declares_eq_false {ix : Index} {f : Field}
    (h : declares f.number f.payload.wireType = false) : ix.applyField f = .ok ix := by
  unfold applyField
  split
  · simp [declares, Payload.wireType] at h
  · rfl

end Index

/-- **A field the schema does not know changes nothing.** Bytes of an index with one such field
put in, at its top level or inside any of its documents or occurrences, decode as the index's
bytes do: to the same index, or with the same fault. The field may be of any number the message
does not declare, or of a declared number with a wire type it does not take, and its payload is
anything the wire format allows: bytes that are not UTF-8, or a group nesting as deep as the
message leaves room for. -/
theorem decode_unknownField {b b' : List UInt8} (h : Index.InsertsUnknown b b') :
    Index.decode b' = Index.decode b := by
  unfold Index.InsertsUnknown at h
  unfold Index.decode
  refine decodeFields_inserted ?_ ?_ h _
  · exact fun _ _ hf => Index.applyField_of_declares_eq_false hf
  · -- a document with a field put in, anywhere in its tree, reads as it did
    rintro ix number q q' ⟨rfl, hq⟩
    simp only [Index.applyField, Document.decode_of_insertsUnknown hq]

/-- Field 3, unknown to an occurrence, holding the byte `FF`, which is no UTF-8, put after the
range of the one occurrence of document `a`: both length prefixes around it grow by three. -/
theorem decode_unknownField_inOccurrence :
    Index.InsertsUnknown [0x12, 0x07, 0x0a, 0x01, 0x61, 0x12, 0x02, 0x08, 0x01]
        [0x12, 0x0a, 0x0a, 0x01, 0x61, 0x12, 0x05, 0x08, 0x01, 0x1a, 0x01, 0xff] ∧
      Index.decode [0x12, 0x0a, 0x0a, 0x01, 0x61, 0x12, 0x05, 0x08, 0x01, 0x1a, 0x01, 0xff] =
        .ok ⟨[⟨"a", [⟨[1], ""⟩]⟩]⟩ := by
  -- the fields involved, each with a one-byte tag and a one-byte length
  have hrange : FieldBytes (depthLimit - 2) ([0x08] ++ [0x01]) ⟨1, .varint (UInt64.ofNat 1)⟩ :=
    .scalar ⟨.last (by decide), by decide, .inr (by decide)⟩ (.varint (.last (by decide)))
  have hunknown : FieldBytes (depthLimit - 2) ([0x1a] ++ ([0x01] ++ [0xff])) ⟨3, .delimited [0xff]⟩ :=
    .scalar ⟨.last (by decide), by decide, .inr (by decide)⟩ (.delimited (.last (by decide)))
  have hpath : FieldBytes (depthLimit - 1) ([0x0a] ++ ([0x01] ++ [0x61])) ⟨1, .delimited [0x61]⟩ :=
    .scalar ⟨.last (by decide), by decide, .inr (by decide)⟩ (.delimited (.last (by decide)))
  have hocc : FieldBytes (depthLimit - 1) ([0x12] ++ ([0x02] ++ [0x08, 0x01]))
      ⟨2, .delimited [0x08, 0x01]⟩ :=
    .scalar ⟨.last (by decide), by decide, .inr (by decide)⟩ (.delimited (.last (by decide)))
  have hocc' : FieldBytes (depthLimit - 1) ([0x12] ++ ([0x05] ++ [0x08, 0x01, 0x1a, 0x01, 0xff]))
      ⟨2, .delimited [0x08, 0x01, 0x1a, 0x01, 0xff]⟩ :=
    .scalar ⟨.last (by decide), by decide, .inr (by decide)⟩ (.delimited (.last (by decide)))
  have hdoc : FieldBytes depthLimit ([0x12] ++ ([0x07] ++ [0x0a, 0x01, 0x61, 0x12, 0x02, 0x08, 0x01]))
      ⟨2, .delimited [0x0a, 0x01, 0x61, 0x12, 0x02, 0x08, 0x01]⟩ :=
    .scalar ⟨.last (by decide), by decide, .inr (by decide)⟩ (.delimited (.last (by decide)))
  have hdoc' : FieldBytes depthLimit
      ([0x12] ++ ([0x0a] ++ [0x0a, 0x01, 0x61, 0x12, 0x05, 0x08, 0x01, 0x1a, 0x01, 0xff]))
      ⟨2, .delimited [0x0a, 0x01, 0x61, 0x12, 0x05, 0x08, 0x01, 0x1a, 0x01, 0xff]⟩ :=
    .scalar ⟨.last (by decide), by decide, .inr (by decide)⟩ (.delimited (.last (by decide)))
  -- the insertion, level by level from the occurrence up
  have hinOcc : Occurrence.InsertsUnknown ([0x08, 0x01] ++ [])
      ([0x08, 0x01] ++ [0x1a, 0x01, 0xff] ++ []) :=
    .here (.cons hrange .nil) hunknown rfl
  have hinDoc : Document.InsertsUnknown ([0x0a, 0x01, 0x61] ++ [0x12, 0x02, 0x08, 0x01] ++ [])
      ([0x0a, 0x01, 0x61] ++ [0x12, 0x05, 0x08, 0x01, 0x1a, 0x01, 0xff] ++ []) :=
    .nested (.cons hpath .nil) hocc hocc' ⟨rfl, hinOcc⟩
  have hix : Index.InsertsUnknown ([] ++ [0x12, 0x07, 0x0a, 0x01, 0x61, 0x12, 0x02, 0x08, 0x01] ++ [])
      ([] ++ [0x12, 0x0a, 0x0a, 0x01, 0x61, 0x12, 0x05, 0x08, 0x01, 0x1a, 0x01, 0xff] ++ []) :=
    .nested .nil hdoc hdoc' ⟨rfl, hinDoc⟩
  simp only [List.nil_append, List.append_nil] at hix
  have hb : (Index.decode [0x12, 0x07, 0x0a, 0x01, 0x61, 0x12, 0x02, 0x08, 0x01]).toOption =
      some ⟨[⟨"a", [⟨[1], ""⟩]⟩]⟩ := by
    decide +kernel
  refine ⟨hix, ?_⟩
  rw [decode_unknownField hix]
  revert hb
  cases Index.decode [0x12, 0x07, 0x0a, 0x01, 0x61, 0x12, 0x02, 0x08, 0x01] <;>
    simp [Except.toOption]

end OccurrenceScan
