import OccurrenceScan.Report

/-!
# What the report of a scan writes

A report is written while the scan runs: each match is classified only when the writer asks for
it, and its line is written before the next occurrence is looked at. This module states what a
whole run leaves behind in terms of the index alone, without the scan's own walk:

* a refused suffix list writes nothing and fails with the refusal, whatever the index holds;
* with no document at the path, nothing is written and the count is zero;
* otherwise the first document with the path is read. Its occurrences whose symbol ends with
  one of the given suffixes are selected, in document order. The run writes the line of each
  selected occurrence up to the first one whose range holds five or more values, and then fails
  with that range. When there is no such occurrence, it writes all their lines and counts them.

The selection is said on the suffix list as given, not on the deduplicated suffix set: the two
accept the same symbols (`SuffixSet.accepts_iff`). The stop is said with `takeWhile` and
`dropWhile`: the selected occurrences before the first oversized range, and the rest from it on.

Main statement: `report_scan`.
-/

namespace OccurrenceScan

/-! ### Suffix sets accept what their list accepts -/

/-- A string is kept by `keepFirst` exactly when it is in the list and not yet seen. -/
theorem mem_keepFirst {seen xs : List String} {x : String} :
    x ∈ keepFirst seen xs ↔ x ∈ xs ∧ x ∉ seen := by
  induction xs generalizing seen with
  | nil => simp [keepFirst]
  | cons y ys ih =>
    unfold keepFirst
    by_cases hy : y ∈ seen
    · rw [if_pos hy, ih]
      by_cases hxy : x = y
      · subst hxy
        simp [hy]
      · simp [hxy]
    · rw [if_neg hy, List.mem_cons, ih]
      by_cases hxy : x = y
      · subst hxy
        simp [hy]
      · simp [hxy]

namespace SuffixSet

/-- The set built from a list accepts a symbol exactly when one of the listed suffixes ends it:
dropping repeats loses no suffix. -/
theorem accepts_iff {xs : List String} {set : SuffixSet} (h : ofList xs = .ok set)
    (symbol : String) :
    set.accepts symbol = true ↔ ∃ x ∈ xs, x.toList <:+ symbol.toList := by
  unfold ofList at h
  split at h
  · cases h
  · split at h
    · cases h
    · cases h
      simp only [accepts, List.any_eq_true, List.isSuffixOf_iff_suffix, mem_keepFirst]
      simp

end SuffixSet

/-! ### Classification of a range by its length -/

namespace Range

/-- Classification fails exactly on five or more values, and the failure carries them all. -/
theorem classify_eq_error {vs : List Int} {m : MalformedRange} (h : classify vs = .error m) :
    m = ⟨vs⟩ ∧ 5 ≤ vs.length := by
  match vs, h with
  | _ :: _ :: _ :: _ :: _ :: _, h =>
    simp only [classify, Except.error.injEq] at h
    exact ⟨h.symm, by simp⟩

/-- Five or more values make no shape. -/
theorem classify_of_length {vs : List Int} (h : 5 ≤ vs.length) : classify vs = .error ⟨vs⟩ := by
  match vs, h with
  | _ :: _ :: _ :: _ :: _ :: _, _ => rfl

end Range

@[simp] theorem Occurrence.rangeValues_length (o : Occurrence) :
    o.rangeValues.length = o.range.length := by
  simp [Occurrence.rangeValues]

/-! ### The report as the index gives it -/

/-- The occurrences of a document whose symbol ends with one of `suffixes`, in document order. -/
def Document.selected (doc : Document) (suffixes : List String) : List Occurrence :=
  doc.occurrences.filter fun o => decide (∃ x ∈ suffixes, x.toList <:+ o.symbol.toList)

/-- The line a format writes for an occurrence of the document at `path`: the line of its match,
with the range classified. A range that no shape fits has no line, and the report never asks
for one, so the empty text stands in for it. -/
def ReportFormat.occurrenceLine (fmt : ReportFormat) (path : String) (o : Occurrence) : String :=
  match Range.classify o.rangeValues with
  | .ok r => fmt.line ⟨path, o.symbol, r⟩
  | .error _ => ""

/-- The report of a scan as read off the index: the suffix list is checked first; then the first
document with the path is taken, its matching occurrences selected, and their lines written up
to the first range of five or more values, which stops the report. -/
def Index.plannedReport (ix : Index) (spec : ScanSpec) (fmt : ReportFormat) : Report :=
  match SuffixSet.ofList spec.suffixes with
  | .error e => ⟨"", .error (.suffixes e)⟩
  | .ok _ =>
    match ix.documents.find? (·.path = spec.document) with
    | none => ⟨"", .ok 0⟩
    | some doc =>
      let selected := doc.selected spec.suffixes
      let written := String.join
        ((selected.takeWhile (·.range.length < 5)).map (fmt.occurrenceLine doc.path))
      match selected.dropWhile (·.range.length < 5) with
      | [] => ⟨written, .ok selected.length⟩
      | o :: _ => ⟨written, .error (.malformed ⟨o.rangeValues⟩)⟩

/-! ### The scan's walk -/

/-- The walk writes, for the matches it found, the lines of the occurrences before the first
oversized range. -/
theorem lines_classifyMatches (fmt : ReportFormat) (path : String) (os : List Occurrence) :
    (classifyMatches path os).1.map fmt.line =
      (os.takeWhile (·.range.length < 5)).map (fmt.occurrenceLine path) := by
  induction os with
  | nil => rfl
  | cons o os ih =>
    unfold classifyMatches
    cases hc : Range.classify o.rangeValues with
    | error m =>
      have hlong := (Range.classify_eq_error hc).2
      simp only [Occurrence.rangeValues_length] at hlong
      rw [List.takeWhile_cons_of_neg (by simpa using hlong)]
      rfl
    | ok r =>
      have hshort : o.range.length < 5 := by
        apply Nat.lt_of_not_le
        intro hlong
        rw [Range.classify_of_length (by simpa using hlong)] at hc
        cases hc
      rw [List.takeWhile_cons_of_pos (by simpa using hshort)]
      simp only [List.map_cons, ih, ReportFormat.occurrenceLine, hc]

/-- The walk finds as many matches as there are occurrences before the first oversized range. -/
theorem length_classifyMatches (path : String) (os : List Occurrence) :
    (classifyMatches path os).1.length = (os.takeWhile (·.range.length < 5)).length := by
  have h := congrArg List.length (lines_classifyMatches .text path os)
  simpa using h

/-- The walk stops at the first oversized range, with its values. -/
theorem stop_classifyMatches (path : String) (os : List Occurrence) :
    (classifyMatches path os).2 =
      ((os.dropWhile (·.range.length < 5)).head?).map fun o => ⟨o.rangeValues⟩ := by
  induction os with
  | nil => rfl
  | cons o os ih =>
    unfold classifyMatches
    cases hc : Range.classify o.rangeValues with
    | error m =>
      obtain ⟨rfl, hlong⟩ := Range.classify_eq_error hc
      simp only [Occurrence.rangeValues_length] at hlong
      rw [List.dropWhile_cons_of_neg (by simpa using hlong)]
      rfl
    | ok r =>
      have hshort : o.range.length < 5 := by
        apply Nat.lt_of_not_le
        intro hlong
        rw [Range.classify_of_length (by simpa using hlong)] at hc
        cases hc
      rw [List.dropWhile_cons_of_pos (by simpa using hshort)]
      exact ih

/-- The matching occurrences of the scanned document are those the suffix list selects. -/
theorem filter_accepts_eq_selected {xs : List String} {set : SuffixSet}
    (h : SuffixSet.ofList xs = .ok set) (doc : Document) :
    doc.occurrences.filter (fun o => set.accepts o.symbol) = doc.selected xs := by
  unfold Document.selected
  congr 1
  funext o
  rw [Bool.eq_iff_iff, SuffixSet.accepts_iff h, decide_eq_true_iff]

/-- A report of a scan, for either format, is the report the index plans: nothing and the
refusal for a bad suffix list, nothing and no count for a missing document, and otherwise the
lines of the selected occurrences up to the first oversized range, which fails the report. -/
theorem report_scan (fmt : ReportFormat) (ix : Index) (spec : ScanSpec) :
    (ix.scan spec).report fmt = ix.plannedReport spec fmt := by
  unfold Index.scan Index.plannedReport
  cases hset : SuffixSet.ofList spec.suffixes with
  | error e => rfl
  | ok set =>
    have hfind : ix.document? spec.document = ix.documents.find? (·.path = spec.document) := rfl
    simp only [hfind]
    cases hdoc : ix.documents.find? (·.path = spec.document) with
    | none => rfl
    | some doc =>
      simp only [filter_accepts_eq_selected hset doc]
      have hlines := lines_classifyMatches fmt doc.path (doc.selected spec.suffixes)
      have hstop := stop_classifyMatches doc.path (doc.selected spec.suffixes)
      have hcount := length_classifyMatches doc.path (doc.selected spec.suffixes)
      cases hc : classifyMatches doc.path (doc.selected spec.suffixes) with
      | mk ms stop =>
        rw [hc] at hlines hstop hcount
        simp only at hlines hstop hcount
        cases hrest : (doc.selected spec.suffixes).dropWhile (·.range.length < 5) with
        | nil =>
          have hall : (doc.selected spec.suffixes).takeWhile (·.range.length < 5) =
              doc.selected spec.suffixes := by
            simpa [hrest] using List.takeWhile_append_dropWhile
              (p := (·.range.length < 5)) (l := doc.selected spec.suffixes)
          rw [hrest] at hstop
          simp only [List.head?_nil, Option.map_none] at hstop
          simp only [Scan.report, hstop, hlines, hcount, hall]
        | cons o _ =>
          rw [hrest] at hstop
          simp only [List.head?_cons, Option.map_some] at hstop
          simp only [Scan.report, hstop, hlines]

end OccurrenceScan
