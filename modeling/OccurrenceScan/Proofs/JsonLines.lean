import OccurrenceScan.Proofs.JsonText
import OccurrenceScan.Report
import Mathlib.Tactic.SplitIfs

/-!
# JSON lines

A JSON-lines report writes each match as one compact JSON object and a line feed. This module
says that the framing and the reading hold for every match, whatever its path and symbol hold.

* The object of a match has the keys `path`, `symbol`, `range` and `display` in that order, and
  its range object has `kind` first and then the coordinates of its shape (`Match.jsonObject`).
* The line is that object written, then a line feed (`toList_jsonl_line`). A written value holds
  no control character below U+0020 at all, since the writer escapes every one of them
  (`noControl_write`), so the line feed is the line's only one and its last character.
* Every character from U+0080 on, `∅` aside, is written as itself: a path or a symbol holding
  U+0085, U+2028 or U+2029 puts that separator into the line (`count_jsonl_line`), so a reader
  must end lines at line feeds only.
* The object is read back from its text (`JsonValue.parse_write`), and splitting the text of a
  report at its line feeds gives back the objects of its matches, in order (`splitOn_jsonl`).

Main statement: `jsonl_lines_read_back`.
-/

namespace OccurrenceScan

/-- The JSON object of a range: its `kind` tag first, then its coordinates in the order its shape
declares them. -/
def Range.jsonObject : Range → JsonValue
  | .empty => .object [("kind", .string "empty")]
  | .point line char =>
    .object [("kind", .string "point"), ("line", .number line 0), ("char", .number char 0)]
  | .sameLine line startChar endChar =>
    .object [("kind", .string "same_line"), ("line", .number line 0),
      ("start_char", .number startChar 0), ("end_char", .number endChar 0)]
  | .multiLine startLine startChar endLine endChar =>
    .object [("kind", .string "multi_line"), ("start_line", .number startLine 0),
      ("start_char", .number startChar 0), ("end_line", .number endLine 0),
      ("end_char", .number endChar 0)]

/-- The JSON object of a match: `path`, `symbol`, `range` and `display`, in that order. -/
def Match.jsonObject (m : Match) : JsonValue :=
  .object [("path", .string m.path), ("symbol", .string m.symbol), ("range", m.range.jsonObject),
    ("display", .string m.range.display)]

/-! ### The line is the written object -/

open JsonValue in
theorem toList_rangeRecord (r : Range) : (rangeRecord r).toList = write r.jsonObject := by
  cases r <;> unfold rangeRecord <;>
    simp [Range.jsonObject, write, writeMembers, toList_quote, JsonString.body,
      JsonString.escapeChar]

open JsonValue in
/-- A JSON line is the match's object written compactly, then a line feed. -/
theorem toList_jsonl_line (m : Match) :
    (ReportFormat.jsonl.line m).toList = write m.jsonObject ++ ['\n'] := by
  unfold ReportFormat.line
  simp [Match.jsonObject, write, writeMembers, toList_rangeRecord, toList_quote, JsonString.body,
    JsonString.escapeChar]

example : ReportFormat.jsonl.line ⟨"src/app.ts", "C", .point 2 3⟩ =
    "\x7b\"path\":\"src/app.ts\",\"symbol\":\"C\",\"range\":\x7b\"kind\":\"point\",\"line\":2," ++
      "\"char\":3\x7d,\"display\":\"3:4\"\x7d\n" := by
  decide

/-! ### No control character is written -/

/-- A text with no control character below U+0020: no line feed, carriage return, vertical tab,
form feed or file, group or record separator among them. -/
def NoControl (cs : List Char) : Prop :=
  ∀ c ∈ cs, 0x20 ≤ c.toNat

instance : DecidablePred NoControl :=
  fun cs => List.decidableBAll _ cs

@[simp] theorem noControl_nil : NoControl [] :=
  fun _ h => absurd h List.not_mem_nil

@[simp] theorem noControl_cons {c : Char} {cs : List Char} :
    NoControl (c :: cs) ↔ 0x20 ≤ c.toNat ∧ NoControl cs :=
  List.forall_mem_cons

@[simp] theorem noControl_append {cs ds : List Char} :
    NoControl (cs ++ ds) ↔ NoControl cs ∧ NoControl ds :=
  List.forall_mem_append

theorem newline_not_mem_of_noControl {cs : List Char} (h : NoControl cs) : '\n' ∉ cs :=
  fun hn => absurd (h _ hn) (by decide)

theorem noControl_escapeChar (c : Char) : NoControl (JsonString.escapeChar c) := by
  have hex : ∀ n, n < 16 → 0x20 ≤ (JsonString.hexDigit n).toNat := by decide
  unfold JsonString.escapeChar
  split_ifs with hquote hslash hb ht hn hf hr hcontrol
  all_goals try (simp; done)
  · simp [hex (c.toNat / 16) (by omega), hex (c.toNat % 16) (by omega)]
  · simpa using hcontrol

theorem noControl_quote (s : String) : NoControl (JsonString.quote s).toList := by
  simp only [JsonValue.toList_quote, JsonString.body, List.cons_append, noControl_cons,
    noControl_append, noControl_nil, and_true]
  refine ⟨by decide, ?_, by decide⟩
  intro c hc
  obtain ⟨d, -, hd⟩ := List.mem_flatMap.1 hc
  exact noControl_escapeChar d c hd

/-- A decimal is a minus sign and digits. -/
theorem mem_decimal {c : Char} {n : Int} (h : c ∈ (decimal n).toList) :
    c = '-' ∨ 48 ≤ c.toNat ∧ c.toNat ≤ 57 := by
  have digit : ∀ d ∈ Nat.toDigits 10 n.natAbs, 48 ≤ d.toNat ∧ d.toNat ≤ 57 := by
    intro d hd
    have := isDigit_of_mem_toDigits hd
    simp only [Char.isDigit, Bool.and_eq_true, decide_eq_true_eq] at this
    exact ⟨Char.le_def.1 this.1, Char.le_def.1 this.2⟩
  rw [toList_decimal] at h
  split at h
  · rcases List.mem_cons.1 h with rfl | h
    · exact .inl rfl
    · exact .inr (digit c h)
  · exact .inr (digit c h)

theorem noControl_decimal (n : Int) : NoControl (decimal n).toList := fun c hc => by
  rcases mem_decimal hc with rfl | ⟨h, -⟩
  · decide
  · omega

namespace JsonValue

-- structural on the value, and on the elements and members after the first
mutual

/-- The writer escapes every control character: none stands raw in a written value. -/
theorem noControl_write : (v : JsonValue) → NoControl (write v)
  | .null | .bool true | .bool false | .array [] | .object [] => by simp [write]
  | .number m e => by
    rw [write_number, exponentText]
    split
    · simpa using noControl_decimal m
    · simp [noControl_decimal]
  | .string s => noControl_quote s
  | .array (v :: vs) => by
    simp [write, noControl_write v, noControl_writeElements vs]
  | .object ((k, v) :: ms) => by
    simp [write, noControl_quote k, noControl_write v, noControl_writeMembers ms]

theorem noControl_writeElements : (vs : List JsonValue) → NoControl (writeElements vs)
  | [] => by simp [writeElements]
  | v :: vs => by simp [writeElements, noControl_write v, noControl_writeElements vs]

theorem noControl_writeMembers : (ms : List (String × JsonValue)) → NoControl (writeMembers ms)
  | [] => by simp [writeMembers]
  | (k, v) :: ms => by
    simp [writeMembers, noControl_quote k, noControl_write v, noControl_writeMembers ms]

end

end JsonValue

/-! ### Characters from U+0080 on are written as themselves -/

/-- A text of ASCII characters only. -/
def Ascii (cs : List Char) : Prop :=
  ∀ c ∈ cs, c.toNat < 0x80

instance : DecidablePred Ascii :=
  fun cs => List.decidableBAll _ cs

/-- An escape is written in ASCII, and an ASCII character is written as ASCII. -/
theorem ascii_escapeChar {d : Char} (hd : d.toNat < 0x80) : Ascii (JsonString.escapeChar d) := by
  have hex : ∀ n, n < 16 → (JsonString.hexDigit n).toNat < 0x80 := by decide
  unfold JsonString.escapeChar
  split_ifs with hquote hslash hb ht hn hf hr hcontrol
  all_goals try (intro c hc; simp at hc; rcases hc with rfl | rfl <;> decide)
  · intro c hc
    simp only [List.mem_cons, List.not_mem_nil, or_false] at hc
    rcases hc with rfl | rfl | rfl | rfl | rfl | rfl
    all_goals first | decide | exact hex _ (by omega)
  · intro c hc
    rw [List.mem_singleton.1 hc]
    exact hd

section NonAscii

variable {c : Char} (hc : 0x80 ≤ c.toNat)
include hc

theorem count_eq_zero_of_ascii {cs : List Char} (h : Ascii cs) : cs.count c = 0 :=
  List.count_eq_zero.2 fun hmem => absurd (h c hmem) (by omega)

/-- Escaping leaves a character from U+0080 on as it is. -/
theorem escapeChar_of_nonAscii : JsonString.escapeChar c = [c] := by
  unfold JsonString.escapeChar
  split_ifs with hquote hslash hb ht hn hf hr hcontrol
  all_goals first
    | rfl
    | omega
    | (subst_vars; exact absurd hc (by decide))

theorem count_escapeChar (d : Char) : (JsonString.escapeChar d).count c = [d].count c := by
  by_cases hd : d.toNat < 0x80
  · have hdc : d ≠ c := fun h => by subst h; omega
    rw [count_eq_zero_of_ascii hc (ascii_escapeChar hd), List.count_singleton,
      beq_false_of_ne hdc]
    rfl
  · rw [escapeChar_of_nonAscii (by omega)]

theorem count_body (cs : List Char) : (JsonString.body cs).count c = cs.count c := by
  induction cs with
  | nil => rfl
  | cons d cs ih =>
    rw [JsonString.body, List.flatMap_cons, List.count_append, count_escapeChar hc,
      ← JsonString.body, ih, ← List.count_append, List.singleton_append]

theorem count_quote (s : String) : (JsonString.quote s).toList.count c = s.toList.count c := by
  have quote : Ascii ['"'] := by decide
  rw [JsonValue.toList_quote, ← List.singleton_append, List.count_append, List.count_append,
    count_body hc, count_eq_zero_of_ascii hc quote]
  omega

theorem count_decimal (n : Int) : (decimal n).toList.count c = 0 :=
  count_eq_zero_of_ascii hc fun d hd => by
    rcases mem_decimal hd with rfl | ⟨-, h⟩
    · decide
    · omega

theorem count_rangeRecord (r : Range) : (rangeRecord r).toList.count c = 0 := by
  cases r <;> unfold rangeRecord <;>
    simp (disch := decide) only [String.toList_append, List.count_append, count_decimal hc,
      count_eq_zero_of_ascii hc]

/-- A displayed range holds no character from U+0080 on but the `∅` of no position. -/
theorem count_display (hne : c ≠ '∅') (r : Range) : r.display.toList.count c = 0 := by
  cases r
  · rw [Range.display, List.count_eq_zero]
    simpa using hne
  all_goals
    unfold Range.display Range.coordinate
    simp (disch := decide) only [String.toList_append, List.count_append, count_decimal hc,
      count_eq_zero_of_ascii hc]

/-- A JSON line holds a character from U+0080 on, `∅` aside, as often as the path and the symbol
together: the writer never escapes it. -/
theorem count_jsonl_line (hne : c ≠ '∅') (m : Match) :
    (ReportFormat.jsonl.line m).toList.count c =
      m.path.toList.count c + m.symbol.toList.count c := by
  unfold ReportFormat.line
  simp (disch := decide) only [String.toList_append, List.count_append, count_quote hc,
    count_rangeRecord hc, count_display hc hne, count_eq_zero_of_ascii hc]
  omega

end NonAscii

/-! ### A report split at its line feeds -/

/-- The text of a JSON-lines report split at its line feeds: the written object of each match,
in order, and the empty text after the last line feed. -/
theorem splitOn_jsonl (ms : List Match) :
    (String.join (ms.map ReportFormat.jsonl.line)).toList.splitOn '\n' =
      ms.map (fun m => JsonValue.write m.jsonObject) ++ [[]] := by
  induction ms with
  | nil => rfl
  | cons m ms ih =>
    have fresh := newline_not_mem_of_noControl (JsonValue.noControl_write m.jsonObject)
    rw [List.map_cons, String.join_cons, String.toList_append, toList_jsonl_line,
      List.append_assoc, List.singleton_append, List.splitOn_append_cons_self_of_not_mem fresh, ih]
    rfl

/-- A JSON-lines report of matches holds one line feed for each. -/
theorem count_newline_jsonl (ms : List Match) :
    (String.join (ms.map ReportFormat.jsonl.line)).toList.count '\n' = ms.length := by
  induction ms with
  | nil => rfl
  | cons m ms ih =>
    have fresh := newline_not_mem_of_noControl (JsonValue.noControl_write m.jsonObject)
    rw [List.map_cons, String.join_cons, String.toList_append, toList_jsonl_line,
      List.count_append, List.count_append, List.count_eq_zero.2 fresh,
      List.count_singleton_self, ih, List.length_cons]
    omega

/-- Every JSON line is a text with no control character, its line feed included, then a line
feed, and the text reads back as the match's object: keys `path`, `symbol`, `range`, `display` in
order, the range's `kind` first. Every character from U+0080 on but `∅` is written as itself, so
U+0085, U+2028 and U+2029 from a path or symbol stand raw in the line. A successful JSON-lines
report writes one line feed per counted match, and its text split at line feeds gives back the
object of each match written, in order, then the empty text after the last line feed. -/
theorem jsonl_lines_read_back :
    (∀ m : Match, ∃ text : String, ReportFormat.jsonl.line m = text ++ "\n" ∧
      NoControl text.toList ∧ JsonValue.parse text = some m.jsonObject) ∧
    (∀ (m : Match) (c : Char), 0x80 ≤ c.toNat → c ≠ '∅' →
      (ReportFormat.jsonl.line m).toList.count c =
        m.path.toList.count c + m.symbol.toList.count c) ∧
    (∀ (sc : Scan) (n : Nat), (sc.report .jsonl).outcome = .ok n →
      (sc.report .jsonl).written.toList.count '\n' = n) ∧
    (∀ ms stop, (((Scan.found ms stop).report .jsonl).written.toList.splitOn '\n').map
        (fun l => JsonValue.parse (String.ofList l)) =
      ms.map (fun m => some m.jsonObject) ++ [none]) := by
  refine ⟨fun m => ?line, fun m c hc hne => count_jsonl_line hc hne m, ?count, ?split⟩
  case line =>
    refine ⟨String.ofList (JsonValue.write m.jsonObject), ?_, ?_, JsonValue.parse_write _⟩
    · apply String.ext
      simp only [toList_jsonl_line, String.toList_append, String.toList_ofList,
        String.reduceToList]
    · rw [String.toList_ofList]
      exact JsonValue.noControl_write _
  case count =>
    intro sc n hok
    cases sc with
    | refused e => cases hok
    | missing =>
      cases hok
      rfl
    | found ms stop =>
      cases stop with
      | none =>
        cases hok
        exact count_newline_jsonl ms
      | some _ => cases hok
  case split =>
    intro ms stop
    have written : ((Scan.found ms stop).report .jsonl).written =
        String.join (ms.map ReportFormat.jsonl.line) := by
      cases stop <;> rfl
    have empty : JsonValue.parse (String.ofList []) = none := rfl
    rw [written, splitOn_jsonl, List.map_append, List.map_map, List.map_singleton, empty]
    simp only [Function.comp_def, JsonValue.parse_write]

end OccurrenceScan
