import OccurrenceScan.Config.Payload
import Mathlib.Data.List.TakeWhile

/-!
# Where a validation message splits

A validation message ends, when it names a place, with an ending `` - at `p` ``: a run of
blanks, `-`, a run of blanks, `at`, a run of blanks, and the path `p` in backticks, non-empty
and free of backticks, up to the end of the message. The summary before it may hold backticks,
dashes and `at` of its own, so a message may split in several places. The payload takes the
split with the shortest summary, and a summary never runs past a line feed:

* a split is a summary free of line feeds followed by an ending (`IsSplit`), said without the
  search that finds it;
* the search `Payload.split` tries the positions of the stripped message in order and stops at
  a line feed; what it finds is a split (`isSplit_of_split`), no split has a shorter summary
  (`length_le_of_split`), and when it finds nothing there is no split (`not_isSplit_of_split`);
* so the payload of a message is its shortest split, summary stripped, or, with no split, the
  whole stripped message as summary, whether or not it holds a line feed.

Main statement: `Payload.ofMessage_takes_shortest_split`.
-/

namespace OccurrenceScan

namespace Payload

/-- A non-empty run of blanks. -/
def BlankRun (w : List Char) : Prop :=
  w ≠ [] ∧ ∀ c ∈ w, Blank.isBlank c = true

/-- `e` is an ending `` - at `p` `` that runs to the end of the message. -/
def IsEnding (e p : List Char) : Prop :=
  ∃ w₁ w₂ w₃, BlankRun w₁ ∧ BlankRun w₂ ∧ BlankRun w₃ ∧
    p ≠ [] ∧ '`' ∉ p ∧ e = w₁ ++ '-' :: w₂ ++ 'a' :: 't' :: w₃ ++ '`' :: p ++ ['`']

/-- A split of a message `t`: a summary `s` free of line feeds, then an ending with path `p`. -/
def IsSplit (t s p : List Char) : Prop :=
  '\n' ∉ s ∧ ∃ e, t = s ++ e ∧ IsEnding e p

theorem blanks_eq_some {cs r : List Char} (h : blanks cs = some r) :
    ∃ w, BlankRun w ∧ cs = w ++ r := by
  cases cs with
  | nil => cases h
  | cons c rest =>
    by_cases hc : Blank.isBlank c = true
    · simp only [blanks, hc, if_true, Option.some.injEq] at h
      subst h
      refine ⟨(c :: rest).takeWhile Blank.isBlank, ⟨?_, ?_⟩,
        List.takeWhile_append_dropWhile.symm⟩
      · simp [hc]
      · intro d hd
        exact List.mem_takeWhile_imp hd
    · simp [blanks, hc] at h

theorem blanks_append {w rest : List Char} {c : Char} (hw : BlankRun w)
    (hc : Blank.isBlank c = false) : blanks (w ++ c :: rest) = some (c :: rest) := by
  obtain ⟨hne, hall⟩ := hw
  match w, hne with
  | d :: ds, _ =>
    have hd : Blank.isBlank d = true := hall d (by simp)
    simp only [blanks, List.cons_append, hd, if_true, Option.some.injEq]
    rw [List.dropWhile_cons_of_pos hd,
      List.dropWhile_append_of_pos (fun x hx => hall x (by simp [hx])),
      List.dropWhile_cons_of_neg (by simp [hc])]

theorem isEnding_of_ending {e p : List Char} (h : ending e = some p) : IsEnding e p := by
  simp only [ending, bind, Option.bind_eq_some_iff] at h
  -- stage by stage: a run of blanks, then a mark, and at the end the path in backticks
  obtain ⟨_, h₁, h⟩ := h
  split at h
  case h_2 => simp at h
  rename_i r₁
  simp only [Option.bind_some, Option.bind_eq_some_iff] at h
  obtain ⟨_, h₂, h⟩ := h
  split at h
  case h_2 => simp at h
  rename_i r₂
  simp only [Option.bind_eq_some_iff] at h
  obtain ⟨_, h₃, h⟩ := h
  split at h
  case h_2 => cases h
  rename_i r₃
  split at h
  case h_2 => cases h
  rename_i body hbody
  obtain ⟨⟨hne, hnot⟩, rfl⟩ :
      (body.reverse ≠ [] ∧ '`' ∉ body.reverse) ∧ body.reverse = p := by
    split at h
    · exact ⟨‹_›, Option.some.inj h⟩
    · cases h
  obtain ⟨w₁, hw₁, rfl⟩ := blanks_eq_some h₁
  obtain ⟨w₂, hw₂, rfl⟩ := blanks_eq_some h₂
  obtain ⟨w₃, hw₃, rfl⟩ := blanks_eq_some h₃
  have hr₃ : r₃ = body.reverse ++ ['`'] := by
    rw [← List.reverse_reverse r₃, hbody, List.reverse_cons]
  refine ⟨w₁, w₂, w₃, hw₁, hw₂, hw₃, hne, hnot, ?_⟩
  simp [hr₃]

theorem ending_of_isEnding {e p : List Char} (h : IsEnding e p) : ending e = some p := by
  obtain ⟨w₁, w₂, w₃, hw₁, hw₂, hw₃, hne, hnot, rfl⟩ := h
  -- each run of blanks stops at the mark after it, which is no blank
  have h₁ : blanks (w₁ ++ '-' :: (w₂ ++ 'a' :: 't' :: (w₃ ++ '`' :: (p ++ ['`'])))) =
      some ('-' :: (w₂ ++ 'a' :: 't' :: (w₃ ++ '`' :: (p ++ ['`'])))) :=
    blanks_append hw₁ (by decide)
  have h₂ : blanks (w₂ ++ 'a' :: 't' :: (w₃ ++ '`' :: (p ++ ['`']))) =
      some ('a' :: 't' :: (w₃ ++ '`' :: (p ++ ['`']))) :=
    blanks_append hw₂ (by decide)
  have h₃ : blanks (w₃ ++ '`' :: (p ++ ['`'])) = some ('`' :: (p ++ ['`'])) :=
    blanks_append hw₃ (by decide)
  simp [ending, bind, List.append_assoc, h₁, h₂, h₃, hne, hnot]

theorem ending_eq_some_iff {e p : List Char} : ending e = some p ↔ IsEnding e p :=
  ⟨isEnding_of_ending, ending_of_isEnding⟩

/-- A message with no characters has no split: an ending is never empty. -/
theorem not_isSplit_nil {s p : List Char} : ¬IsSplit [] s p := by
  rintro ⟨-, e, he, w₁, w₂, w₃, -, -, -, -, -, rfl⟩
  simp at he

/-- A split of `c :: rest` ends right away, or keeps `c`, which is no line feed, in its summary
and splits `rest`. -/
theorem isSplit_cons_cases {c : Char} {rest s p : List Char} (h : IsSplit (c :: rest) s p) :
    (s = [] ∧ IsEnding (c :: rest) p) ∨
      (c ≠ '\n' ∧ ∃ s', s = c :: s' ∧ IsSplit rest s' p) := by
  obtain ⟨hn, e, ht, he⟩ := h
  cases s with
  | nil => exact .inl ⟨rfl, by simpa [ht] using he⟩
  | cons d s' =>
    simp only [List.cons_append, List.cons.injEq] at ht
    obtain ⟨rfl, rfl⟩ := ht
    simp only [List.mem_cons, not_or] at hn
    exact .inr ⟨Ne.symm hn.1, s', rfl, hn.2, e, rfl, he⟩

/-- The head `split` carries is put before the summary it finds. -/
theorem split_eq_map (head t : List Char) :
    split head t = (split [] t).map fun sp => (head ++ sp.1, sp.2) := by
  induction t generalizing head with
  | nil => rfl
  | cons c rest ih =>
    unfold split
    cases ending (c :: rest) with
    | some p => simp
    | none =>
      by_cases hc : c = '\n'
      · simp [hc]
      · simp only [hc, if_false]
        rw [ih (head ++ [c]), ih ([] ++ [c]), Option.map_map]
        congr 1
        funext sp
        simp

/-- One step of the search: the split at the first position, else one position on. -/
theorem split_nil_cons (c : Char) (rest : List Char) :
    split [] (c :: rest) =
      match ending (c :: rest) with
      | some p => some ([], p)
      | none => if c = '\n' then none else (split [] rest).map fun sp => (c :: sp.1, sp.2) := by
  rw [split, split_eq_map]
  rfl

/-- What the search finds is a split. -/
theorem isSplit_of_split {t s p : List Char} (h : split [] t = some (s, p)) : IsSplit t s p := by
  induction t generalizing s with
  | nil => cases h
  | cons c rest ih =>
    rw [split_nil_cons] at h
    cases he : ending (c :: rest) with
    | some q =>
      simp only [he, Option.some.injEq, Prod.mk.injEq] at h
      obtain ⟨rfl, rfl⟩ := h
      exact ⟨List.not_mem_nil, c :: rest, rfl, ending_eq_some_iff.1 he⟩
    | none =>
      simp only [he] at h
      split_ifs at h with hc
      obtain ⟨⟨s', p'⟩, hs', hsp⟩ := Option.map_eq_some_iff.1 h
      simp only [Prod.mk.injEq] at hsp
      obtain ⟨rfl, rfl⟩ := hsp
      obtain ⟨hn, e, rfl, hend⟩ := ih hs'
      exact ⟨by simp [Ne.symm hc, hn], e, rfl, hend⟩

/-- The split found has the shortest summary of all splits. -/
theorem length_le_of_split {t s p s' p' : List Char} (h : split [] t = some (s, p))
    (h' : IsSplit t s' p') : s.length ≤ s'.length := by
  induction t generalizing s s' with
  | nil => cases h
  | cons c rest ih =>
    rw [split_nil_cons] at h
    cases he : ending (c :: rest) with
    | some q =>
      simp only [he, Option.some.injEq, Prod.mk.injEq] at h
      simp [← h.1]
    | none =>
      simp only [he] at h
      split_ifs at h with hc
      obtain ⟨⟨s₀, p₀⟩, hs₀, hsp⟩ := Option.map_eq_some_iff.1 h
      simp only [Prod.mk.injEq] at hsp
      obtain ⟨rfl, rfl⟩ := hsp
      rcases isSplit_cons_cases h' with ⟨-, hend⟩ | ⟨-, s'', rfl, h''⟩
      · rw [ending_of_isEnding hend] at he
        cases he
      · simpa using ih hs₀ h''

/-- When the search finds nothing, the message has no split. -/
theorem not_isSplit_of_split {t s p : List Char} (h : split [] t = none) : ¬IsSplit t s p := by
  induction t generalizing s with
  | nil => exact not_isSplit_nil
  | cons c rest ih =>
    rw [split_nil_cons] at h
    intro hs
    cases he : ending (c :: rest) with
    | some q => simp [he] at h
    | none =>
      simp only [he] at h
      rcases isSplit_cons_cases hs with ⟨-, hend⟩ | ⟨hc, s', rfl, hs'⟩
      · rw [ending_of_isEnding hend] at he
        cases he
      · simp only [hc, if_false, Option.map_eq_none_iff] at h
        exact ih h hs'

/-- Two splits with summaries of one length are the same split. -/
theorem isSplit_unique {t s p s' p' : List Char} (h : IsSplit t s p) (h' : IsSplit t s' p')
    (hlen : s.length = s'.length) : s = s' ∧ p = p' := by
  obtain ⟨-, e, rfl, he⟩ := h
  obtain ⟨-, e', ht, he'⟩ := h'
  obtain ⟨rfl, rfl⟩ := List.append_inj ht hlen
  refine ⟨rfl, ?_⟩
  have := (ending_of_isEnding he).symm.trans (ending_of_isEnding he')
  exact Option.some.inj this

/-- The shortest split of a message: no split has a shorter summary. -/
def IsShortestSplit (t s p : List Char) : Prop :=
  IsSplit t s p ∧ ∀ s' p', IsSplit t s' p' → s.length ≤ s'.length

/-- **The payload of a validation message.** The message is stripped; with a split, the payload
is its shortest split, the summary stripped again and left out when empty; with none, the
whole stripped message is the summary, also when a line feed stops the search. -/
theorem ofMessage_takes_shortest_split (message : String) :
    (∀ s p, IsShortestSplit (Blank.trim message.toList) s p →
      ofMessage message = ⟨nonEmpty (Blank.trim s), some (String.ofList p)⟩) ∧
    ((∀ s p, ¬IsSplit (Blank.trim message.toList) s p) →
      ofMessage message = ⟨nonEmpty (Blank.trim message.toList), none⟩) ∧
    ('\n' ∈ Blank.trim message.toList → (∀ s p, ¬IsSplit (Blank.trim message.toList) s p) →
      ofMessage message = ⟨some (String.ofList (Blank.trim message.toList)), none⟩) := by
  have hnone : (∀ s p, ¬IsSplit (Blank.trim message.toList) s p) →
      ofMessage message = ⟨nonEmpty (Blank.trim message.toList), none⟩ := by
    intro hno
    cases hs : split [] (Blank.trim message.toList) with
    | none => simp [ofMessage, hs]
    | some sp => exact absurd (isSplit_of_split hs) (hno sp.1 sp.2)
  refine ⟨fun s p ⟨hsplit, hshort⟩ => ?_, hnone, fun hn hno => ?_⟩
  · cases hs : split [] (Blank.trim message.toList) with
    | none => exact absurd hsplit (not_isSplit_of_split hs)
    | some sp =>
      obtain ⟨s₀, p₀⟩ := sp
      have h₀ := isSplit_of_split hs
      have hlen : s₀.length = s.length :=
        Nat.le_antisymm (length_le_of_split hs hsplit) (hshort s₀ p₀ h₀)
      obtain ⟨rfl, rfl⟩ := isSplit_unique h₀ hsplit hlen
      obtain ⟨-, _, -, _, _, _, -, -, -, hp, -⟩ := hsplit
      simp [ofMessage, hs, nonEmpty, hp]
  · rw [hnone hno]
    have hne : Blank.trim message.toList ≠ [] := List.ne_nil_of_mem hn
    simp [nonEmpty, hne]

/-- The message about a document of the wrong type splits before its place. -/
theorem ofMessage_documentPath :
    IsShortestSplit (Blank.trim "Expected `str | null`, got `int` - at `$.document`".toList)
      "Expected `str | null`, got `int`".toList "$.document".toList ∧
    ofMessage "Expected `str | null`, got `int` - at `$.document`" =
      ⟨some "Expected `str | null`, got `int`", some "$.document"⟩ := by
  have hsplit : split [] (Blank.trim "Expected `str | null`, got `int` - at `$.document`".toList) =
      some ("Expected `str | null`, got `int`".toList, "$.document".toList) := by
    decide
  have hshort : IsShortestSplit _ _ _ :=
    ⟨isSplit_of_split hsplit, fun _ _ => length_le_of_split hsplit⟩
  refine ⟨hshort, ?_⟩
  rw [(ofMessage_takes_shortest_split _).1 _ _ hshort]
  decide

end Payload

end OccurrenceScan
