import OccurrenceScan.Index.Read
import OccurrenceScan.Workspace

/-!
# Normal paths

A path's text is read into an anchor and components (`FsPath.parse`) and shown in its normal
form (`FsPath.toText`). Reading makes an anchor of at most two slashes and components that are
neither empty nor `.` and hold no `/` (`FsPath.IsNormal`). Shown, such a path is its anchor and
its components joined by single slashes, and the first component cannot lengthen the anchor's
run of slashes; so reading the normal form gives the path back (`parse_toText`), and normalising
twice is normalising once (`normalise_normalise`).

Reading an index looks at its path's text only to ask whether it is empty, and otherwise at the
path read from it alone: every file it asks for and every message it writes comes from that
path. A non-empty text and its normal form therefore read the same index, with the same failures
and messages, whatever the file system and the bindings (`read_eq_read_normalise`). The empty
text is the exception: it names no index, while its normal form `.` names the working directory,
which is no file.
-/

namespace OccurrenceScan

namespace FsPath

/-! ### Splitting at slashes -/

theorem splitSlash_ne_nil (cs : List Char) : splitSlash cs ≠ [] := by
  cases cs with
  | nil => simp [splitSlash]
  | cons c cs =>
    rw [splitSlash]
    split
    · simp
    · split <;> simp

theorem slash_not_mem_of_mem_splitSlash {cs piece : List Char} (h : piece ∈ splitSlash cs) :
    '/' ∉ piece := by
  induction cs generalizing piece with
  | nil => simp_all [splitSlash]
  | cons c cs ih =>
    by_cases hc : c = '/'
    · rw [splitSlash, if_pos hc] at h
      rcases List.mem_cons.1 h with rfl | h
      · simp
      · exact ih h
    · rw [splitSlash, if_neg hc] at h
      cases hcs : splitSlash cs with
      | nil => exact absurd hcs (splitSlash_ne_nil cs)
      | cons p ps =>
        simp only [hcs] at h
        -- the first piece grows by `c`, the others are pieces of `cs` as they were
        rcases List.mem_cons.1 h with rfl | h
        · simp only [List.mem_cons, not_or]
          exact ⟨Ne.symm hc, ih (hcs ▸ List.mem_cons_self)⟩
        · exact ih (hcs ▸ List.mem_cons_of_mem _ h)

theorem splitSlash_of_not_mem {cs : List Char} (h : '/' ∉ cs) : splitSlash cs = [cs] := by
  induction cs with
  | nil => rfl
  | cons c cs ih =>
    simp only [List.mem_cons, not_or] at h
    simp only [splitSlash, if_neg (Ne.symm h.1), ih h.2]

theorem splitSlash_append_slash {piece : List Char} (h : '/' ∉ piece) (rest : List Char) :
    splitSlash (piece ++ '/' :: rest) = piece :: splitSlash rest := by
  induction piece with
  | nil => simp [splitSlash]
  | cons c cs ih =>
    simp only [List.mem_cons, not_or] at h
    simp only [List.cons_append, splitSlash, if_neg (Ne.symm h.1), ih h.2]

/-- Pieces with no slash, joined by slashes, split back into themselves. -/
theorem splitSlash_intercalate {pieces : List (List Char)} (hne : pieces ≠ [])
    (h : ∀ piece ∈ pieces, '/' ∉ piece) : splitSlash (['/'].intercalate pieces) = pieces := by
  induction pieces with
  | nil => exact absurd rfl hne
  | cons piece rest ih =>
    cases rest with
    | nil => simpa using splitSlash_of_not_mem (h piece List.mem_cons_self)
    | cons next more =>
      rw [List.intercalate_cons_cons, List.append_assoc, List.singleton_append,
        splitSlash_append_slash (h piece List.mem_cons_self),
        ih (List.cons_ne_nil _ _) (fun p hp => h p (List.mem_cons_of_mem _ hp))]

/-! ### The normal form -/

/-- A path as reading makes it: its anchor is `""`, `"/"` or `"//"`, and each component is a
piece between slashes that reading keeps. -/
structure IsNormal (p : FsPath) : Prop where
  anchor_eq : p.anchor = "" ∨ p.anchor = "/" ∨ p.anchor = "//"
  part_kept : ∀ c ∈ p.parts, keeps c.toList = true ∧ '/' ∉ c.toList

theorem anchorOf_cases (n : Nat) : anchorOf n = "" ∨ anchorOf n = "/" ∨ anchorOf n = "//" := by
  unfold anchorOf
  split
  · exact .inl rfl
  · split
    · exact .inr (.inr rfl)
    · exact .inr (.inl rfl)

theorem isNormal_parse (s : String) : (parse s).IsNormal where
  anchor_eq := anchorOf_cases _
  part_kept := by
    intro c hc
    simp only [parse, List.mem_map, List.mem_filter] at hc
    obtain ⟨piece, ⟨hmem, hkeep⟩, rfl⟩ := hc
    rw [String.toList_ofList]
    exact ⟨hkeep, slash_not_mem_of_mem_splitSlash hmem⟩

/-- The characters of components joined by `/`. -/
def joined (parts : List String) : List Char :=
  ['/'].intercalate (parts.map String.toList)

theorem toList_toText {a : String} {parts : List String} (h : ¬(a = "" ∧ parts = [])) :
    (toText ⟨a, parts⟩).toList = a.toList ++ joined parts := by
  simp [toText, h, joined]

/-- Components that reading keeps, joined, do not start with a slash. -/
theorem takeWhile_joined {parts : List String}
    (h : ∀ c ∈ parts, keeps c.toList = true ∧ '/' ∉ c.toList) :
    (joined parts).takeWhile (· = '/') = [] := by
  cases parts with
  | nil => rfl
  | cons c cs =>
    obtain ⟨hkeep, hslash⟩ := h c List.mem_cons_self
    obtain ⟨tail, htail⟩ : ∃ tail, joined (c :: cs) = c.toList ++ tail := by
      cases cs with
      | nil => exact ⟨[], by simp [joined]⟩
      | cons d ds =>
        exact ⟨_, by rw [joined, List.map_cons, List.map_cons, List.intercalate_cons_cons,
          List.append_assoc]⟩
    cases hc : c.toList with
    | nil => simp [keeps, hc] at hkeep
    | cons d ds =>
      rw [htail, hc, List.cons_append, List.takeWhile_cons_of_neg]
      rw [hc, List.mem_cons, not_or] at hslash
      simpa [eq_comm] using hslash.1

/-- Reading the normal form of a path as reading makes it gives the path back. -/
theorem parse_toText {p : FsPath} (hp : p.IsNormal) : parse p.toText = p := by
  obtain ⟨a, parts⟩ := p
  by_cases hdot : a = "" ∧ parts = []
  · obtain ⟨rfl, rfl⟩ := hdot
    rfl
  · have ha : a = "" ∨ a = "/" ∨ a = "//" := hp.anchor_eq
    have hslashes : ∀ c ∈ a.toList, decide (c = '/') = true := by
      rcases ha with rfl | rfl | rfl <;> simp
    have hanchor : anchorOf a.toList.length = a := by
      rcases ha with rfl | rfl | rfl <;> decide
    -- the components start with no slash, so the anchor's slashes are all there are
    have htake : (joined parts).takeWhile (· = '/') = [] := takeWhile_joined hp.part_kept
    have hdrop : (joined parts).dropWhile (· = '/') = joined parts := by
      simpa [htake] using List.takeWhile_append_dropWhile (p := (· = '/')) (l := joined parts)
    have hparts : ((splitSlash (joined parts)).filter keeps).map String.ofList = parts := by
      cases parts with
      | nil => rfl
      | cons c cs =>
        rw [joined, splitSlash_intercalate (by simp)
            (by simpa using fun c hc => (hp.part_kept c hc).2),
          List.filter_eq_self.2 (by simpa using fun c hc => (hp.part_kept c hc).1)]
        simp
    simp only [parse, toList_toText hdot, List.takeWhile_append_of_pos hslashes,
      List.dropWhile_append_of_pos hslashes, htake, hdrop, List.append_nil, hanchor, hparts]

theorem parse_normalise (s : String) : parse (normalise s) = parse s :=
  parse_toText (isNormal_parse s)

theorem normalise_normalise (s : String) : normalise (normalise s) = normalise s := by
  rw [normalise, parse_normalise, normalise]

/-- No text normalises to the empty text: a path with no component is shown as `.`. -/
theorem normalise_ne_empty (s : String) : normalise s ≠ "" := by
  intro h
  have hparse : parse s = ⟨"", []⟩ := by rw [← parse_normalise, h]; rfl
  have hdot : normalise s = "." := by rw [normalise, hparse]; rfl
  exact absurd (hdot.symm.trans h) (by decide)

end FsPath

namespace Index

/-! ### Reading an index by a normal path -/

/-- Two non-empty texts that read as the same path read the same index. -/
theorem read_eq_of_parse_eq {m : Type → Type} [Monad m] [FileSystem m] {t u : String}
    (ht : t ≠ "") (hu : u ≠ "") (h : FsPath.parse t = FsPath.parse u)
    (bindings : Option FsPath) :
    read (m := m) (some t) bindings = read (some u) bindings := by
  simp only [read, if_neg ht, if_neg hu, h]

theorem read_empty {m : Type → Type} [Monad m] [FileSystem m] (bindings : Option FsPath) :
    read (m := m) (some "") bindings = pure ([], .error .noPath) := by
  simp [read]

/-- Read as an index, the working directory is a directory, not a file. -/
theorem read_dot (ws : Workspace) :
    (read (m := StateM Workspace) (some ".") none).run ws =
      (([], .error (.unreadable ⟨"", []⟩ "Is a directory")), ws) := rfl

/-- **A path and its normal form read the same index.** For every file system, every bindings
directory and every non-empty text, reading the index at the text and at its normal form is the
same computation: the same files asked for, the same index or the same failure, the same log.
This holds because normalising is idempotent. The empty text is the exception: it is refused as
no path, while its normal form `.` is read, and fails, as the working directory. -/
theorem read_eq_read_normalise {m : Type → Type} [Monad m] [FileSystem m] (p : String)
    (hp : p ≠ "") (bindings : Option FsPath) :
    read (m := m) (some p) bindings = read (some (FsPath.normalise p)) bindings ∧
    (∀ s, FsPath.normalise (FsPath.normalise s) = FsPath.normalise s) ∧
    read (m := m) (some "") bindings = pure ([], .error .noPath) ∧
    FsPath.normalise "" = "." ∧
    ∀ ws : Workspace, (read (m := StateM Workspace) (some (FsPath.normalise "")) none).run ws =
      (([], .error (.unreadable ⟨"", []⟩ "Is a directory")), ws) :=
  ⟨read_eq_of_parse_eq hp (FsPath.normalise_ne_empty p) (FsPath.parse_normalise p).symm bindings,
    FsPath.normalise_normalise, read_empty bindings, rfl, read_dot⟩

/-- A trailing slash is dropped: `index.scip/` reads the file `index.scip`. -/
theorem read_trailing_slash :
    "index.scip/" ≠ "" ∧
      read (m := StateM Workspace) (some "index.scip/") none = read (some "index.scip") none :=
  ⟨by decide, (read_eq_read_normalise (m := StateM Workspace) "index.scip/" (by decide) none).1⟩

end Index

end OccurrenceScan
