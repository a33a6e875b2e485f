import OccurrenceScan.Index.Read
import OccurrenceScan.Index.Encode
import OccurrenceScan.Scan
import OccurrenceScan.Report
import OccurrenceScan.Workspace
import OccurrenceScan.Proofs.Utf8
import OccurrenceScan.Proofs.Wire

/-!
# Indexes read back from their serialisation

The standard serialisation of an index (`Index.encode`) decodes to the same index: the same
documents in the same order, each with its path and its occurrences in order, each with its
symbol and its range values. Fields that hold their default are not written, and the decoder
gives them back their default; a negative range value is written in ten bytes and read back from
its low 32 bits.

The one condition is the format's size limit: protobuf writes no message of 2 GiB or more, and
below it every length prefix fits the five bytes the reader allows.

Main statements: `Index.decode_encode` and `decode_encode_read`, which adds that reading a file
holding the bytes gives the index and logs its counts, and that lookups and scans agree.
-/

namespace OccurrenceScan

open Wire

/-- An element's image under `f` is no longer than all the images together. -/
theorem length_le_length_flatMap {β γ : Type} (f : β → List γ) {xs : List β} {x : β}
    (h : x ∈ xs) : (f x).length ≤ (xs.flatMap f).length := by
  induction xs with
  | nil => cases h
  | cons y ys ih =>
    rw [List.flatMap_cons, List.length_append]
    rcases List.mem_cons.mp h with rfl | hx
    · omega
    · have := ih hx
      omega

/-! ### Occurrences -/

namespace Occurrence

/-- A packed run of sign-extended values appends those values to the range. -/
theorem applyField_packed (o : Occurrence) (xs : List Int32) :
    o.applyField ⟨1, .delimited (xs.flatMap fun x => writeVarint (wordOfInt32 x))⟩ =
      .ok { o with range := o.range ++ xs } := by
  have hflat : xs.flatMap (fun x => writeVarint (wordOfInt32 x)) =
      (xs.map wordOfInt32).flatMap writeVarint := by
    simp [List.flatMap_map]
  have hlt : ∀ n ∈ xs.map wordOfInt32, n < 2 ^ 64 := by
    simp only [List.mem_map]
    rintro n ⟨x, -, rfl⟩
    exact wordOfInt32_lt x
  rw [applyField, hflat, readPacked_flatMap _ hlt]
  simp [Function.comp_def, int32OfWord_wordOfInt32]

/-- A UTF-8 symbol field sets the symbol. -/
theorem applyField_symbol (o : Occurrence) (s : String) :
    o.applyField ⟨2, .delimited (Utf8.encode s)⟩ = .ok { o with symbol := s } := by
  rw [applyField, Utf8.decodeString?_encode]

/-- **An occurrence decodes from its serialisation.** -/
theorem decode_encode (o : Occurrence) (hsize : o.encode.length < 2 ^ 31) :
    decode o.encode = .ok o := by
  obtain ⟨range, symbol⟩ := o
  unfold decode
  unfold encode at hsize ⊢
  simp only at hsize ⊢
  rw [List.length_append] at hsize
  -- the symbol part, read after the range part: it sets the symbol, or is absent when empty
  have hsymbol : ∀ acc : Occurrence, acc.symbol = "" →
      decodeFields (depthLimit - 2) applyField acc
          (if symbol = "" then [] else delimitedField 2 (Utf8.encode symbol)) =
        .ok { acc with symbol := symbol } := by
    intro acc hacc
    by_cases hs : symbol = ""
    · rw [if_pos hs, decodeFields_nil, hs, ← hacc]
    · rw [if_neg hs] at hsize ⊢
      have hlen := length_le_delimitedField 2 (Utf8.encode symbol)
      rw [← List.append_nil (delimitedField 2 _),
        decodeFields_delimitedField _ _ (by omega) (by omega) (by omega), applyField_symbol]
      exact decodeFields_nil
  by_cases hr : range = []
  · subst hr
    rw [if_pos rfl, List.nil_append, hsymbol {} rfl]
  · rw [if_neg hr] at hsize ⊢
    have hlen := length_le_delimitedField 1 (range.flatMap fun x => writeVarint (wordOfInt32 x))
    rw [decodeFields_delimitedField _ _ (by omega) (by omega) (by omega), applyField_packed]
    exact hsymbol _ rfl

end Occurrence

/-! ### Documents -/

namespace Document

/-- A UTF-8 path field sets the path. -/
theorem applyField_path (d : Document) (s : String) :
    d.applyField ⟨1, .delimited (Utf8.encode s)⟩ = .ok { d with path := s } := by
  rw [applyField, Utf8.decodeString?_encode]

/-- Appending occurrences one at a time appends them all. -/
theorem foldl_append_occurrence (d : Document) (os : List Occurrence) :
    os.foldl (fun d o => { d with occurrences := d.occurrences ++ [o] }) d =
      { d with occurrences := d.occurrences ++ os } := by
  induction os generalizing d with
  | nil => simp
  | cons o os ih =>
    rw [List.foldl_cons, ih]
    simp

/-- **A document decodes from its serialisation.** -/
theorem decode_encode (d : Document) (hsize : d.encode.length < 2 ^ 31) :
    decode d.encode = .ok d := by
  obtain ⟨path, occurrences⟩ := d
  unfold decode
  unfold encode at hsize ⊢
  simp only at hsize ⊢
  rw [List.length_append] at hsize
  -- every occurrence field is shorter than the document, so each reads back
  have hocc : ∀ o ∈ occurrences, (delimitedField 2 o.encode).length < 2 ^ 31 := fun o ho =>
    Nat.lt_of_le_of_lt (length_le_length_flatMap (fun o => delimitedField 2 o.encode) ho)
      (by omega)
  have hlen : ∀ o ∈ occurrences, o.encode.length < 2 ^ 35 := fun o ho =>
    Nat.lt_of_le_of_lt (length_le_delimitedField 2 o.encode) (by have := hocc o ho; omega)
  have happly : ∀ (a : Document), ∀ o ∈ occurrences,
      a.applyField ⟨2, .delimited o.encode⟩ =
        .ok { a with occurrences := a.occurrences ++ [o] } := by
    intro a o ho
    have hdec := Occurrence.decode_encode o
      (Nat.lt_of_le_of_lt (length_le_delimitedField 2 o.encode) (hocc o ho))
    rw [applyField, hdec]
  have hrest : ∀ acc : Document, acc.occurrences = [] →
      decodeFields (depthLimit - 1) applyField acc
          (occurrences.flatMap fun o => delimitedField 2 o.encode) =
        .ok { acc with occurrences := occurrences } := by
    intro acc hacc
    rw [← List.append_nil (occurrences.flatMap _),
      decodeFields_flatMap _ _ _ _ (by omega) (by omega) hlen happly, decodeFields_nil,
      foldl_append_occurrence, hacc, List.nil_append]
  by_cases hp : path = ""
  · subst hp
    rw [if_pos rfl, List.nil_append, hrest {} rfl]
  · rw [if_neg hp] at hsize ⊢
    have hlenp := length_le_delimitedField 1 (Utf8.encode path)
    rw [decodeFields_delimitedField _ _ (by omega) (by omega) (by omega), applyField_path]
    exact hrest _ rfl

end Document

/-! ### Indexes -/

namespace Index

/-- Appending documents one at a time appends them all. -/
theorem foldl_append_document (ix : Index) (ds : List Document) :
    ds.foldl (fun ix d => { ix with documents := ix.documents ++ [d] }) ix =
      { ix with documents := ix.documents ++ ds } := by
  induction ds generalizing ix with
  | nil => simp
  | cons d ds ih =>
    rw [List.foldl_cons, ih]
    simp

/-- **An index within protobuf's size limit decodes from its serialisation.** -/
theorem decode_encode (ix : Index) (hsize : ix.encode.length < 2 ^ 31) :
    decode ix.encode = .ok ix := by
  obtain ⟨documents⟩ := ix
  unfold decode
  unfold encode at hsize ⊢
  simp only at hsize ⊢
  have hdoc : ∀ d ∈ documents, (delimitedField 2 d.encode).length < 2 ^ 31 := fun d hd =>
    Nat.lt_of_le_of_lt (length_le_length_flatMap (fun d => delimitedField 2 d.encode) hd) hsize
  have hlen : ∀ d ∈ documents, d.encode.length < 2 ^ 35 := fun d hd =>
    Nat.lt_of_le_of_lt (length_le_delimitedField 2 d.encode) (by have := hdoc d hd; omega)
  have happly : ∀ (a : Index), ∀ d ∈ documents,
      a.applyField ⟨2, .delimited d.encode⟩ = .ok { a with documents := a.documents ++ [d] } := by
    intro a d hd
    have hdec := Document.decode_encode d
      (Nat.lt_of_le_of_lt (length_le_delimitedField 2 d.encode) (hdoc d hd))
    rw [applyField, hdec]
  rw [← List.append_nil (documents.flatMap _),
    decodeFields_flatMap _ _ _ _ (by omega) (by omega) hlen happly, decodeFields_nil,
    foldl_append_document]
  rfl

/-- Reading a file that holds an index's bytes gives the index, after logging its counts. -/
theorem read_of_readBytes {ix : Index} {ws : Workspace} {text : String} (htext : text ≠ "")
    (hfile : ws.readBytes (FsPath.parse text) = .ok ix.encode)
    (hdec : decode ix.encode = .ok ix) :
    (read (m := StateM Workspace) (some text) none).run' ws =
      ([⟨.info, readerSource, "Decoded SCIP index " ++ (FsPath.parse text).toText ++ ": " ++
          Nat.repr ix.documents.length ++ " documents, " ++
          Nat.repr (ix.documents.map (·.occurrences.length)).sum ++ " occurrences"⟩], .ok ix) := by
  simp [read, htext, FileSystem.readBytes, hfile, hdec, documentCount, occurrenceCount]
  rfl

end Index

/-- **An index within protobuf's size limit reads back from its serialisation.** Decoding the
bytes gives the index itself; a file holding them reads as the index, with its document and
occurrence counts logged; and a lookup or a scan of the decoded bytes answers as it does on
the index. -/
theorem decode_encode_read (ix : Index) (hsize : ix.encode.length < 2 ^ 31) :
    Index.decode ix.encode = .ok ix ∧
      (∀ (ws : Workspace) (text : String), text ≠ "" →
        ws.readBytes (FsPath.parse text) = .ok ix.encode →
        (Index.read (m := StateM Workspace) (some text) none).run' ws =
          ([⟨.info, readerSource, "Decoded SCIP index " ++ (FsPath.parse text).toText ++ ": " ++
              Nat.repr ix.documents.length ++ " documents, " ++
              Nat.repr (ix.documents.map (·.occurrences.length)).sum ++ " occurrences"⟩],
            .ok ix)) ∧
      (∀ target, (Index.decode ix.encode).map (·.locate target) = .ok (ix.locate target)) ∧
      (∀ spec fmt, (Index.decode ix.encode).map (fun d => (d.scan spec).report fmt) =
        .ok ((ix.scan spec).report fmt)) := by
  have hdec := Index.decode_encode ix hsize
  refine ⟨hdec, fun ws text htext hfile => Index.read_of_readBytes htext hfile hdec, ?_, ?_⟩
  · intro target
    rw [hdec]
    rfl
  · intro spec fmt
    rw [hdec]
    rfl

/-- A one-document index with a negative range value and an empty symbol reads back: its
value `-1` is written in ten bytes, and the symbol field is left out. -/
theorem decode_encode_read_negative_value :
    (Index.encode ⟨[⟨"a", [⟨[-1, 2], ""⟩]⟩]⟩).length < 2 ^ 31 ∧
      Index.decode (Index.encode ⟨[⟨"a", [⟨[-1, 2], ""⟩]⟩]⟩) = .ok ⟨[⟨"a", [⟨[-1, 2], ""⟩]⟩]⟩ ∧
      (∀ (ws : Workspace) (text : String), text ≠ "" →
        ws.readBytes (FsPath.parse text) = .ok (Index.encode ⟨[⟨"a", [⟨[-1, 2], ""⟩]⟩]⟩) →
        (Index.read (m := StateM Workspace) (some text) none).run' ws =
          ([⟨.info, readerSource, "Decoded SCIP index " ++ (FsPath.parse text).toText ++ ": " ++
              Nat.repr 1 ++ " documents, " ++ Nat.repr 1 ++ " occurrences"⟩],
            .ok ⟨[⟨"a", [⟨[-1, 2], ""⟩]⟩]⟩)) ∧
      (∀ target, (Index.decode (Index.encode ⟨[⟨"a", [⟨[-1, 2], ""⟩]⟩]⟩)).map (·.locate target) =
        .ok (Index.locate ⟨[⟨"a", [⟨[-1, 2], ""⟩]⟩]⟩ target)) ∧
      (∀ spec fmt, (Index.decode (Index.encode ⟨[⟨"a", [⟨[-1, 2], ""⟩]⟩]⟩)).map
          (fun d => (d.scan spec).report fmt) =
        .ok ((Index.scan ⟨[⟨"a", [⟨[-1, 2], ""⟩]⟩]⟩ spec).report fmt)) :=
  ⟨by decide +kernel, decode_encode_read _ (by decide +kernel)⟩

end OccurrenceScan
