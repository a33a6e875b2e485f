import OccurrenceScan.Proofs.RoundTrip
import OccurrenceScan.Proofs.WellFormed

/-!
# Concatenated messages merge

Decoding keeps no state across fields but the message it builds, so the bytes of two messages
one after the other decode as the first message with the second merged into it: its repeated
fields append, and a singular string field takes the last value given, the first message's when
the second gives none. Whether a field was given is a matter of the bytes, not of the value: a
path or symbol given as the empty string still replaces the first one.

The law is proved once for the message loop and then read off for each kind of message:

* `decodeFields_append`: after a prefix that decodes, the loop goes on from what it built;
* `MergeRule`: a step applied to any message is the step applied to the empty message, merged
  in; the merges compose (`merge_merge`), so a run of fields merges in as a whole;
* `decodeFields_append_merge`: bytes after a decoded prefix decode as on their own, merged in,
  or fail with their own fault.

Main statement: `decode_append_merges`.
-/

namespace OccurrenceScan

open Wire

namespace Wire

/-- The grammar reads a message one way only: two runs of fields over the same bytes are the
same fields. -/
theorem Fields.unique {budget : Nat} {bytes : List UInt8} {fs gs : List Field}
    (hfs : Fields budget bytes fs) (hgs : Fields budget bytes gs) : fs = gs := by
  induction hfs generalizing gs with
  | nil =>
    generalize hb : ([] : List UInt8) = bytes at hgs
    cases hgs with
    | nil => rfl
    | cons hg _ => exact absurd (List.append_eq_nil_iff.1 hb.symm).1 hg.ne_nil
  | @cons pre rest f fs hf _ ih =>
    generalize hb : pre ++ rest = bytes at hgs
    cases hgs with
    | nil => exact absurd (List.append_eq_nil_iff.1 hb).1 hf.ne_nil
    | @cons pre' rest' g gs hg hgs =>
      -- the reader takes the same first field off both, and leaves the same rest
      have hread := nextField_complete hf rest
      rw [hb, nextField_complete hg rest'] at hread
      simp only [Except.ok.injEq, Option.some.injEq, Prod.mk.injEq] at hread
      obtain ⟨rfl, rfl⟩ := hread
      rw [ih hgs]

/-- Whether a field is field `number`, length-delimited: how a singular string or message field
is given. -/
def Field.isDelimited (number : Nat) (f : Field) : Bool :=
  match f.payload with
  | .delimited _ => f.number == number
  | _ => false

theorem Field.isDelimited_iff {number : Nat} {f : Field} :
    f.isDelimited number = true ↔ ∃ p, f = ⟨number, .delimited p⟩ := by
  obtain ⟨n, payload⟩ := f
  cases payload <;> simp [Field.isDelimited]

theorem Field.isDelimited_eq_false {number : Nat} {f : Field}
    (h : ∀ p, f = ⟨number, .delimited p⟩ → False) : f.isDelimited number = false := by
  rw [Bool.eq_false_iff]
  intro hdel
  obtain ⟨p, rfl⟩ := Field.isDelimited_iff.1 hdel
  exact h p rfl

/-- `Gives budget number bytes`: the bytes are a run of fields, one of which is field `number`,
length-delimited. -/
def Gives (budget number : Nat) (bytes : List UInt8) : Prop :=
  ∃ fs, Fields budget bytes fs ∧ ∃ p, (⟨number, .delimited p⟩ : Field) ∈ fs

section Loop

variable {α : Type} {budget : Nat} {apply : α → Field → Except DecodeFault α}

/-- **After a prefix that decodes, the loop goes on from what it built**: it keeps no other
state across the boundary. -/
theorem decodeFields_append {acc a : α} {b₁ : List UInt8}
    (h : decodeFields budget apply acc b₁ = .ok a) (b₂ : List UInt8) :
    decodeFields budget apply acc (b₁ ++ b₂) = decodeFields budget apply a b₂ := by
  fun_induction decodeFields budget apply acc b₁ with
  | case1 => cases h
  | case2 acc bytes hnext =>
    cases h
    rw [nextField_eq_none_iff.1 hnext]
    rfl
  | case3 => cases h
  | case4 acc bytes f rest hnext _ acc' happly ih =>
    obtain ⟨pre, rfl, hf⟩ := nextField_sound hnext
    rw [List.append_assoc, decodeFields_of_next (nextField_complete hf (rest ++ b₂)), happly]
    exact ih h

/-- Over bytes that are a run of fields, the loop is a fold of its step over those fields. -/
theorem decodeFields_of_fields {acc : α} {bytes : List UInt8} {fs : List Field}
    (hfs : Fields budget bytes fs) : decodeFields budget apply acc bytes = fs.foldlM apply acc := by
  induction hfs generalizing acc with
  | nil => exact decodeFields_nil
  | @cons pre rest f fs hf _ ih =>
    rw [decodeFields_of_next (nextField_complete hf rest), List.foldlM_cons]
    cases apply acc f with
    | error e => rfl
    | ok a => exact ih

/-- A fault does not depend on what the loop starts from, when the step's faults do not. -/
theorem decodeFields_error_of_error {ok : Field → Prop} {defect : Field → DecodeFault → Prop}
    (rule : FieldRule apply ok defect) {a : α} {bytes : List UInt8} {e : DecodeFault}
    (h : decodeFields budget apply a bytes = .error e) (a' : α) :
    decodeFields budget apply a' bytes = .error e :=
  (decodeFields_error_iff rule a' bytes e).2 ((decodeFields_error_iff rule a bytes e).1 h)

/-- `MergeRule apply init merge given`: a field applied to any message `a` is the field applied
to the empty message `init`, merged into `a`; `given f` says whether the field gives a singular
field, which the merge then takes from the merged message. Merges compose. -/
structure MergeRule (apply : α → Field → Except DecodeFault α) (init : α)
    (merge : α → Bool → α → α) (given : Field → Bool) : Prop where
  apply_eq : ∀ a f, apply a f = (apply init f).map (merge a (given f))
  merge_init : ∀ a, merge a false init = a
  merge_merge : ∀ a b c s t, merge (merge a s b) t c = merge a (s || t) (merge b t c)

variable {init : α} {merge : α → Bool → α → α} {given : Field → Bool}

/-- A run of fields applied to any message is the run applied to the empty message, merged in;
a singular field is given when any field of the run gives it. -/
theorem foldlM_merge (rule : MergeRule apply init merge given) (fs : List Field) (a : α) :
    fs.foldlM apply a = (fs.foldlM apply init).map (merge a (fs.any given)) := by
  induction fs generalizing a with
  | nil =>
    show Except.ok a = Except.ok (merge a false init)
    rw [rule.merge_init]
  | cons f fs ih =>
    rw [List.foldlM_cons, List.foldlM_cons, rule.apply_eq a f, List.any_cons]
    cases apply init f with
    | error e => rfl
    | ok b =>
      show fs.foldlM apply (merge a (given f) b) =
        Except.map (merge a (given f || fs.any given)) (fs.foldlM apply b)
      rw [ih, ih b]
      cases fs.foldlM apply init with
      | error e => rfl
      | ok c => exact congrArg Except.ok (rule.merge_merge a b c (given f) (fs.any given))

/-- Bytes that are a run of fields decode from any message as from the empty one, merged in. -/
theorem decodeFields_merge (rule : MergeRule apply init merge given) {bytes : List UInt8}
    {fs : List Field} (hfs : Fields budget bytes fs) (a : α) :
    decodeFields budget apply a bytes =
      (decodeFields budget apply init bytes).map (merge a (fs.any given)) := by
  rw [decodeFields_of_fields hfs, decodeFields_of_fields hfs, foldlM_merge rule]

/-- **Bytes after a decoded prefix merge into it**: they decode as on their own and are merged
into the prefix's message, or fail with their own fault. `given` is whether their fields give
the singular field. -/
theorem decodeFields_append_merge {ok : Field → Prop} {defect : Field → DecodeFault → Prop}
    (hrule : FieldRule apply ok defect) (mrule : MergeRule apply init merge given)
    {b₁ : List UInt8} {a : α} (h₁ : decodeFields budget apply init b₁ = .ok a) (b₂ : List UInt8)
    (s : Bool) (hs : ∀ fs, Fields budget b₂ fs → fs.any given = s) :
    decodeFields budget apply init (b₁ ++ b₂) =
      (decodeFields budget apply init b₂).map (merge a s) := by
  rw [decodeFields_append h₁]
  cases h₂ : decodeFields budget apply init b₂ with
  | error e => exact decodeFields_error_of_error hrule h₂ a
  | ok c =>
    -- bytes that decode are a run of fields, over which both runs are folds
    obtain ⟨fs, hfs, -⟩ := (decodeFields_ok_iff hrule init b₂).1 ⟨c, h₂⟩
    rw [decodeFields_merge mrule hfs a, h₂, hs fs hfs]

/-- Whether bytes give field `number` is whether any of their fields is that field. -/
theorem any_isDelimited_eq {number : Nat} {bytes : List UInt8} {s : Bool}
    (hs : s = true ↔ Gives budget number bytes) (fs : List Field) (hfs : Fields budget bytes fs) :
    fs.any (Field.isDelimited number) = s := by
  cases s with
  | true =>
    -- the fields that give it are the only fields of the bytes
    obtain ⟨gs, hgs, p, hp⟩ := hs.1 rfl
    rw [Fields.unique hfs hgs, List.any_eq_true]
    exact ⟨_, hp, Field.isDelimited_iff.2 ⟨p, rfl⟩⟩
  | false =>
    rw [Bool.eq_false_iff]
    intro hany
    obtain ⟨f, hf, hdel⟩ := List.any_eq_true.1 hany
    obtain ⟨p, rfl⟩ := Field.isDelimited_iff.1 hdel
    exact absurd (hs.2 ⟨fs, hfs, p, hf⟩) Bool.false_ne_true

end Loop

end Wire

/-! ### Merging each kind of message -/

namespace Occurrence

/-- Merges `o` into `a`: the range values append, and the symbol is `o`'s when `o` gave one. -/
def merge (a : Occurrence) (given : Bool) (o : Occurrence) : Occurrence :=
  { range := a.range ++ o.range, symbol := if given then o.symbol else a.symbol }

theorem mergeRule : MergeRule applyField {} merge (Field.isDelimited 2) where
  apply_eq a f := by
    unfold applyField
    split
    · simp [merge, Field.isDelimited, Except.map]
    · rename_i p
      cases readPacked p <;> simp [merge, Field.isDelimited, Except.map]
    · rename_i p
      cases Utf8.decodeString? p <;> simp [merge, Field.isDelimited, Except.map]
    · -- a skipped field gives no symbol
      rename_i hsymbol
      simp [Field.isDelimited_eq_false hsymbol, merge, Except.map]
  merge_init a := by simp [merge]
  merge_merge a b c s t := by
    cases s <;> cases t <;> simp [merge]

/-- Bytes after the bytes of an occurrence merge into it. -/
theorem decode_append {p₁ : List UInt8} {o₁ : Occurrence} (h₁ : decode p₁ = .ok o₁)
    (p₂ : List UInt8) (given : Bool) (hgiven : given = true ↔ Gives (depthLimit - 2) 2 p₂) :
    decode (p₁ ++ p₂) = (decode p₂).map (merge o₁ given) :=
  decodeFields_append_merge fieldRule mergeRule h₁ p₂ given (any_isDelimited_eq hgiven)

end Occurrence

namespace Document

/-- Merges `d` into `a`: the occurrences append, and the path is `d`'s when `d` gave one. -/
def merge (a : Document) (given : Bool) (d : Document) : Document :=
  { path := if given then d.path else a.path, occurrences := a.occurrences ++ d.occurrences }

theorem mergeRule : MergeRule applyField {} merge (Field.isDelimited 1) where
  apply_eq a f := by
    unfold applyField
    split
    · rename_i p
      cases Utf8.decodeString? p <;> simp [merge, Field.isDelimited, Except.map]
    · rename_i p
      cases Occurrence.decode p <;> simp [merge, Field.isDelimited, Except.map]
    · -- a skipped field gives no path
      rename_i hpath _
      simp [Field.isDelimited_eq_false hpath, merge, Except.map]
  merge_init a := by simp [merge]
  merge_merge a b c s t := by
    cases s <;> cases t <;> simp [merge]

/-- Bytes after the bytes of a document merge into it. -/
theorem decode_append {p₁ : List UInt8} {d₁ : Document} (h₁ : decode p₁ = .ok d₁)
    (p₂ : List UInt8) (given : Bool) (hgiven : given = true ↔ Gives (depthLimit - 1) 1 p₂) :
    decode (p₁ ++ p₂) = (decode p₂).map (merge d₁ given) :=
  decodeFields_append_merge fieldRule mergeRule h₁ p₂ given (any_isDelimited_eq hgiven)

end Document

namespace Index

/-- Merges `ix` into `a`: the documents append. An index has no singular field. -/
def merge (a : Index) (_given : Bool) (ix : Index) : Index :=
  { documents := a.documents ++ ix.documents }

theorem mergeRule : MergeRule applyField {} merge (fun _ => false) where
  apply_eq a f := by
    unfold applyField
    split
    · rename_i p
      cases Document.decode p <;> simp [merge, Except.map]
    · simp [merge, Except.map]
  merge_init a := by simp [merge]
  merge_merge a b c s t := by simp [merge]

/-- Bytes after the bytes of an index merge into it. -/
theorem decode_append {b₁ : List UInt8} {ix₁ : Index} (h₁ : decode b₁ = .ok ix₁)
    (b₂ : List UInt8) : decode (b₁ ++ b₂) = (decode b₂).map (merge ix₁ false) :=
  decodeFields_append_merge fieldRule mergeRule h₁ b₂ false (fun _ _ => by simp)

end Index

/-- **Concatenated messages merge.** The bytes of an index followed by more bytes decode
exactly when those bytes decode, to the documents of both in order, and fail with their fault
otherwise. Inside, the bytes of a document or an occurrence followed by more bytes merge the same
way: occurrences and range values append, packed or not, and the path or symbol is the one the
later bytes give, even the empty string, and the earlier one when they give none. -/
theorem decode_append_merges :
    (∀ b₁ b₂ ix₁, Index.decode b₁ = .ok ix₁ →
      Index.decode (b₁ ++ b₂) =
        (Index.decode b₂).map fun ix₂ => { documents := ix₁.documents ++ ix₂.documents }) ∧
    (∀ p₁ p₂ d₁, Document.decode p₁ = .ok d₁ →
      (Gives (depthLimit - 1) 1 p₂ → Document.decode (p₁ ++ p₂) =
        (Document.decode p₂).map fun d₂ =>
          { path := d₂.path, occurrences := d₁.occurrences ++ d₂.occurrences }) ∧
      (¬ Gives (depthLimit - 1) 1 p₂ → Document.decode (p₁ ++ p₂) =
        (Document.decode p₂).map fun d₂ =>
          { path := d₁.path, occurrences := d₁.occurrences ++ d₂.occurrences })) ∧
    (∀ p₁ p₂ o₁, Occurrence.decode p₁ = .ok o₁ →
      (Gives (depthLimit - 2) 2 p₂ → Occurrence.decode (p₁ ++ p₂) =
        (Occurrence.decode p₂).map fun o₂ =>
          { range := o₁.range ++ o₂.range, symbol := o₂.symbol }) ∧
      (¬ Gives (depthLimit - 2) 2 p₂ → Occurrence.decode (p₁ ++ p₂) =
        (Occurrence.decode p₂).map fun o₂ =>
          { range := o₁.range ++ o₂.range, symbol := o₁.symbol })) := by
  refine ⟨fun b₁ b₂ ix₁ h₁ => Index.decode_append h₁ b₂, ?_, ?_⟩
  · intro p₁ p₂ d₁ h₁
    exact ⟨fun hg => Document.decode_append h₁ p₂ true (iff_of_true rfl hg),
      fun hg => Document.decode_append h₁ p₂ false (iff_of_false Bool.false_ne_true hg)⟩
  · intro p₁ p₂ o₁ h₁
    exact ⟨fun hg => Occurrence.decode_append h₁ p₂ true (iff_of_true rfl hg),
      fun hg => Occurrence.decode_append h₁ p₂ false (iff_of_false Bool.false_ne_true hg)⟩

/-- A symbol given as the empty string after an occurrence with symbol `a` replaces it. -/
theorem decode_append_merges_empty_symbol :
    Occurrence.decode ({ range := [1], symbol := "a" } : Occurrence).encode =
        .ok { range := [1], symbol := "a" } ∧
      Gives (depthLimit - 2) 2 [0x12, 0x00] ∧
      Occurrence.decode (({ range := [1], symbol := "a" } : Occurrence).encode ++ [0x12, 0x00]) =
        (Occurrence.decode [0x12, 0x00]).map fun o₂ =>
          { range := [1] ++ o₂.range, symbol := o₂.symbol } := by
  have h₁ := Occurrence.decode_encode { range := [1], symbol := "a" } (by decide +kernel)
  have hfield : FieldBytes (depthLimit - 2) ([0x12] ++ ([0x00] ++ [])) ⟨2, .delimited []⟩ :=
    .scalar ⟨.last (by decide), by decide, .inr (by decide)⟩ (.delimited (.last (by decide)))
  have hg : Gives (depthLimit - 2) 2 [0x12, 0x00] :=
    ⟨[⟨2, .delimited []⟩], .cons hfield .nil, [], by simp⟩
  exact ⟨h₁, hg, (decode_append_merges.2.2 _ [0x12, 0x00] _ h₁).1 hg⟩

end OccurrenceScan
