import OccurrenceScan.Proofs.JsonLines
import Mathlib

/-!
# Text lines

A text report writes each match as its range's display, ` | `, its symbol and a line feed. The
display is written with digits, `-`, `:`, `,` and `∅` only (`displayChar_display`), so it holds
neither a bar nor a line feed, and cutting a line at its first ` | ` gives back the display and
the symbol whatever the symbol holds (`cutAtBar_textLine`).

The symbol is written as it is. Its line feeds stand in the report beside the one that ends the
line (`count_newline_text`), and a symbol that holds one splits its match's line in two
(`newline_symbol_splits_text_line`). When no matched symbol holds a line feed, the report's
text split at line feeds gives back each match's line, in order (`splitOn_text`).

Main statement: `text_lines_read_back`.
-/

namespace OccurrenceScan

/-- A line cut at its first ` | `: the text before it and the text after it. -/
def cutAtBar : List Char → Option (List Char × List Char)
  | [] => none
  | c :: rest =>
    if [' ', '|', ' '].isPrefixOf (c :: rest) then some ([], rest.drop 2)
    else (cutAtBar rest).map fun (before, after) => (c :: before, after)

/-- A text with no bar, then ` | `, is cut right after that text. -/
theorem cutAtBar_append {before : List Char} (h : '|' ∉ before) (after : List Char) :
    cutAtBar (before ++ ' ' :: '|' :: ' ' :: after) = some (before, after) := by
  induction before with
  | nil => simp [cutAtBar, List.isPrefixOf]
  | cons c cs ih =>
    have hc : c ≠ '|' := fun hc => h (hc ▸ List.mem_cons_self)
    have hcs : '|' ∉ cs := fun hm => h (List.mem_cons_of_mem _ hm)
    -- the separator cannot start at `c`: the character after `c` is no bar
    have hnot : [' ', '|', ' '].isPrefixOf (c :: (cs ++ ' ' :: '|' :: ' ' :: after)) = false := by
      cases cs with
      | nil => simp [List.isPrefixOf]
      | cons d ds =>
        have hd : d ≠ '|' := fun hd => hcs (hd ▸ List.mem_cons_self)
        simp [List.isPrefixOf, Ne.symm hd]
    rw [List.cons_append, cutAtBar, hnot, if_neg Bool.false_ne_true, ih hcs]
    rfl

/-- A character a displayed range is written with: a decimal digit, `-`, `:`, `,`, or the `∅` of
no position. -/
def DisplayChar (c : Char) : Prop :=
  c = '∅' ∨ c = ':' ∨ c = '-' ∨ c = ',' ∨ 48 ≤ c.toNat ∧ c.toNat ≤ 57

theorem displayChar_display (r : Range) : ∀ c ∈ r.display.toList, DisplayChar c := by
  have coordinate : ∀ n, ∀ c ∈ (Range.coordinate n).toList, DisplayChar c := fun n c hc =>
    (mem_decimal hc).elim (fun h => .inr (.inr (.inl h))) (fun h => .inr (.inr (.inr (.inr h))))
  -- each display is coordinates and separators joined
  cases r <;> simp only [Range.display, String.toList_append, List.forall_mem_append,
    String.reduceToList, List.forall_mem_cons] <;>
    and_intros <;> first | exact coordinate _ | simp [DisplayChar]

theorem newline_not_mem_display (r : Range) : '\n' ∉ r.display.toList := fun h => by
  have := displayChar_display r _ h
  simp [DisplayChar] at this

theorem bar_not_mem_display (r : Range) : '|' ∉ r.display.toList := fun h => by
  have := displayChar_display r _ h
  simp [DisplayChar] at this

/-! ### One line per match -/

/-- The text of a match's line, without its line feed: the display, ` | `, the symbol. -/
def Match.textLine (m : Match) : List Char :=
  m.range.display.toList ++ ' ' :: '|' :: ' ' :: m.symbol.toList

theorem toList_text_line (m : Match) :
    (ReportFormat.text.line m).toList = m.textLine ++ ['\n'] := by
  -- by the definition's text branch; its equation lemma is slow to build for the JSON branch
  have line : ReportFormat.text.line m = m.range.display ++ " | " ++ m.symbol ++ "\n" := rfl
  rw [line, Match.textLine]
  simp only [String.toList_append, String.reduceToList, List.append_assoc, List.cons_append,
    List.nil_append]

/-- Cut at its first ` | `, a match's line gives back the display and the symbol, whatever the
symbol holds: the display has no bar. -/
theorem cutAtBar_textLine (m : Match) :
    cutAtBar m.textLine = some (m.range.display.toList, m.symbol.toList) :=
  cutAtBar_append (bar_not_mem_display m.range) _

/-- A match's line holds one line feed of its own and those of its symbol. -/
theorem count_newline_text_line (m : Match) :
    (ReportFormat.text.line m).toList.count '\n' = m.symbol.toList.count '\n' + 1 := by
  rw [toList_text_line, Match.textLine, List.count_append, List.count_append, List.count_cons,
    List.count_cons, List.count_cons, List.count_eq_zero.2 (newline_not_mem_display m.range)]
  simp

/-- A text report of matches holds a line feed for each, and each line feed of their symbols. -/
theorem count_newline_text (ms : List Match) :
    (String.join (ms.map ReportFormat.text.line)).toList.count '\n' =
      ms.length + (ms.map fun m => m.symbol.toList.count '\n').sum := by
  induction ms with
  | nil => rfl
  | cons m ms ih =>
    rw [List.map_cons, String.join_cons, String.toList_append, List.count_append,
      count_newline_text_line, ih, List.length_cons, List.map_cons, List.sum_cons]
    omega

/-- The text of a report of matches none of whose symbols holds a line feed, split at its line
feeds: each match's line, in order, and the empty text after the last line feed. -/
theorem splitOn_text {ms : List Match} (h : ∀ m ∈ ms, '\n' ∉ m.symbol.toList) :
    (String.join (ms.map ReportFormat.text.line)).toList.splitOn '\n' =
      ms.map Match.textLine ++ [[]] := by
  induction ms with
  | nil => rfl
  | cons m ms ih =>
    have fresh : '\n' ∉ m.textLine := by
      simp only [Match.textLine, List.mem_append, List.mem_cons, not_or]
      exact ⟨newline_not_mem_display m.range, by decide, by decide, by decide, h m List.mem_cons_self⟩
    have hrest : ∀ m' ∈ ms, '\n' ∉ m'.symbol.toList := fun m' hm' => h m' (List.mem_cons_of_mem _ hm')
    rw [List.map_cons, String.join_cons, String.toList_append, toList_text_line,
      List.append_assoc, List.singleton_append, List.splitOn_append_cons_self_of_not_mem fresh,
      ih hrest]
    rfl

/-- The matches a scan hands to its report: none unless the document was found. -/
def Scan.reported : Scan → List Match
  | .found ms _ => ms
  | _ => []

/-- A text report that succeeds counts the matches of the scan and writes their lines. -/
theorem report_text_of_ok {sc : Scan} {n : Nat} (h : (sc.report .text).outcome = .ok n) :
    n = sc.reported.length ∧
      (sc.report .text).written = String.join (sc.reported.map ReportFormat.text.line) := by
  cases sc with
  | refused e => cases h
  | missing =>
    cases h
    exact ⟨rfl, rfl⟩
  | found ms stop =>
    cases stop with
    | none =>
      cases h
      exact ⟨rfl, rfl⟩
    | some _ => cases h

/-- The symbols add no line feed exactly when none of them holds one. -/
theorem sum_count_newline_eq_zero_iff (ms : List Match) :
    (ms.map fun m => m.symbol.toList.count '\n').sum = 0 ↔ ∀ m ∈ ms, '\n' ∉ m.symbol.toList := by
  simp [List.sum_eq_zero_iff_forall_eq_nat, List.count_eq_zero]

/-- **Text lines.** A successful text report of `n` matches holds `n` line feeds and those of
the matched symbols: exactly `n` when no matched symbol holds a line feed. Then its text split at
line feeds, each piece cut at its first ` | `, gives back each match's display and symbol, in
order. A symbol holding a line feed splits its match's line in two. -/
theorem text_lines_read_back (sc : Scan) (n : Nat) (hok : (sc.report .text).outcome = .ok n) :
    n = sc.reported.length ∧
    (sc.report .text).written.toList.count '\n' =
      n + (sc.reported.map fun m => m.symbol.toList.count '\n').sum ∧
    ((sc.report .text).written.toList.count '\n' = n ↔
      ∀ m ∈ sc.reported, '\n' ∉ m.symbol.toList) ∧
    ((∀ m ∈ sc.reported, '\n' ∉ m.symbol.toList) →
      ((sc.report .text).written.toList.splitOn '\n').map cutAtBar =
        sc.reported.map (fun m => some (m.range.display.toList, m.symbol.toList)) ++ [none]) := by
  obtain ⟨hn, hwritten⟩ := report_text_of_ok hok
  have hcount := count_newline_text sc.reported
  rw [← hwritten, ← hn] at hcount
  refine ⟨hn, hcount, ?exact, fun hfree => ?split⟩
  case exact =>
    rw [hcount, ← sum_count_newline_eq_zero_iff]
    omega
  case split =>
    rw [hwritten, splitOn_text hfree, List.map_append, List.map_map]
    simp only [Function.comp_def, cutAtBar_textLine]
    rfl

theorem text_lines_read_back_oneMatch :
    ((Scan.found [⟨"a.ts", "S", .point 0 0⟩] none).report .text).outcome = .ok 1 ∧
    ((Scan.found [⟨"a.ts", "S", .point 0 0⟩] none).report .text).written.toList.count '\n' = 1 :=
  ⟨rfl, (text_lines_read_back (.found [⟨"a.ts", "S", .point 0 0⟩] none) 1 rfl).2.2.1.2
    (by decide)⟩

/-- A symbol with a line feed in it: its match's line is two lines of the report, which still
counts one match. -/
theorem newline_symbol_splits_text_line :
    ((Index.scan ⟨[⟨"a.ts", [⟨[0, 0], "x\nS"⟩]⟩]⟩ ⟨"a.ts", ["S"]⟩).report .text).outcome = .ok 1 ∧
    ((Index.scan ⟨[⟨"a.ts", [⟨[0, 0], "x\nS"⟩]⟩]⟩ ⟨"a.ts", ["S"]⟩).report .text).written =
      "1:1 | x\nS\n" ∧
    "1:1 | x\nS\n".toList.count '\n' = 2 :=
  ⟨rfl, rfl, rfl⟩

end OccurrenceScan
