import OccurrenceScan.Workspace

/-!
# Writing a file twice

A write to a workspace creates or truncates a file and puts bytes in it. This file shows that the
checks a write makes do not depend on the bytes, and that a file written twice holds the second
write: after a first write succeeds, a second write to the same path succeeds too and leaves the
workspace exactly as the second write alone would have left it. So emptying a file before writing
its content leaves no trace.

The argument follows the definitions. Setting a file changes one entry, its own, or adds it; every
other path that held something holds the same (`entryAtAbsolute_setFile`). A successful write walked
only through directories, none of them the file it set, so the walk of a second write sees the same
directories (`walk_setFile`), and setting a file twice is setting it once (`setFile_setFile`).

Main statement: `writeBytes_writeBytes`.
-/

namespace OccurrenceScan

namespace Workspace

/-- The entry at `rel` made a file with the given content, the other entries as they are. -/
def overwrite (rel : List String) (content : List UInt8) : List String × Entry → List String × Entry :=
  fun (p, e) => if p = rel then (p, .file content) else (p, e)

theorem fst_overwrite (rel : List String) (content : List UInt8) (x : List String × Entry) :
    (overwrite rel content x).1 = x.1 := by
  obtain ⟨p, e⟩ := x
  by_cases hp : p = rel <;> simp [overwrite, hp]

theorem overwrite_overwrite (rel : List String) (c c' : List UInt8) :
    overwrite rel c' ∘ overwrite rel c = overwrite rel c' := by
  funext x
  obtain ⟨p, e⟩ := x
  by_cases hp : p = rel <;> simp [overwrite, hp]

/-- Overwriting the entry at `rel` finds every other path's first entry where it was. -/
theorem find?_map_overwrite {rel q : List String} (content : List UInt8) (hne : q ≠ rel) :
    ∀ l : List (List String × Entry),
      (l.map (overwrite rel content)).find? (·.1 = q) = l.find? (·.1 = q)
  | [] => rfl
  | (p, e) :: l => by
    have ih := find?_map_overwrite content hne l
    by_cases hp : p = rel
    · subst hp
      simp [overwrite, Ne.symm hne, ih]
    · have hkeep : overwrite rel content (p, e) = (p, e) := by simp [overwrite, hp]
      rw [List.map_cons, hkeep, List.find?_cons, List.find?_cons, ih]

/-- Overwriting makes the first entry at `rel` the new file, when there is one. -/
theorem find?_map_overwrite_self (rel : List String) (content : List UInt8) :
    ∀ l : List (List String × Entry), (l.map (overwrite rel content)).find? (·.1 = rel) =
      if l.any (·.1 = rel) then some (rel, Entry.file content) else none
  | [] => rfl
  | (p, e) :: l => by
    rw [List.map_cons, List.find?_cons]
    by_cases hp : p = rel
    · subst hp
      simp [overwrite]
    · have hkeep : overwrite rel content (p, e) = (p, e) := by simp [overwrite, hp]
      have hb : decide (p = rel) = false := by simpa using hp
      rw [hkeep]
      simp only [hb, List.any_cons, Bool.false_or]
      exact find?_map_overwrite_self rel content l

/-- A test of entries that looks at their paths only gives the same answer after an overwrite. -/
theorem any_map_overwrite (rel : List String) (content : List UInt8)
    {g : List String × Entry → Bool} (hg : ∀ x y, x.1 = y.1 → g x = g y)
    (l : List (List String × Entry)) :
    (l.map (overwrite rel content)).any g = l.any g := by
  rw [List.any_map]
  congr 1
  funext x
  exact hg _ _ (fst_overwrite rel content x)

/-- Overwriting the entry at `rel` leaves what any other relative path holds. -/
theorem entryAt_overwrite {ws : Workspace} {rel q : List String} {content : List UInt8}
    (hne : q ≠ rel) :
    { ws with entries := ws.entries.map (overwrite rel content) }.entryAt q = ws.entryAt q := by
  unfold entryAt
  simp only [find?_map_overwrite content hne]
  split
  · rfl
  · split
    · rfl
    · rw [any_map_overwrite rel content (by rintro ⟨p, e⟩ ⟨p', e'⟩ (rfl : p = p'); rfl)]

/-- Adding a file at a new relative path `rel` leaves what any other present path holds. A path
that held nothing may now be a directory above the new file. -/
theorem entryAt_append {ws : Workspace} {rel q : List String} {content : List UInt8}
    (hne : q ≠ rel) (hq : ws.entryAt q ≠ none) :
    { ws with entries := ws.entries ++ [(rel, Entry.file content)] }.entryAt q = ws.entryAt q := by
  unfold entryAt at hq ⊢
  split
  · rfl
  · rename_i hq0
    simp only [hq0, if_false] at hq
    rw [List.find?_append]
    cases hfind : ws.entries.find? (·.1 = q) with
    | some x => rfl
    | none =>
      -- no entry names `q`, so it held something only as a directory above some entry
      rw [hfind] at hq
      simp only at hq
      cases hany : ws.entries.any (fun x => q.isPrefixOf x.1) with
      | false => simp [hany] at hq
      | true => simp [Ne.symm hne, hany]

section SetFile

variable {ws : Workspace} {abs : List String} {content : List UInt8}

@[simp] theorem location_setFile : (ws.setFile abs content).location = ws.location := by
  unfold setFile
  dsimp only
  split
  · split <;> rfl
  · rfl

@[simp] theorem start_setFile (p : FsPath) : (ws.setFile abs content).start p = ws.start p := by
  simp [start]

theorem setFile_outside (h : ws.location.isPrefixOf abs = false) :
    ws.setFile abs content = ws := by
  simp [setFile, h]

theorem setFile_of_any (h : ws.location.isPrefixOf abs = true)
    (hany : ws.entries.any (·.1 = abs.drop ws.location.length) = true) :
    ws.setFile abs content =
      { ws with entries := ws.entries.map (overwrite (abs.drop ws.location.length) content) } := by
  simp only [setFile, h, hany, if_true]
  rfl

theorem setFile_of_not_any (h : ws.location.isPrefixOf abs = true)
    (hany : ws.entries.any (·.1 = abs.drop ws.location.length) = false) :
    ws.setFile abs content =
      { ws with entries := ws.entries ++ [(abs.drop ws.location.length, Entry.file content)] } := by
  simp [setFile, h, hany]

/-- Two different paths under one directory have different parts below it. -/
theorem drop_ne_of_isPrefixOf {loc q t : List String} (hq : loc.isPrefixOf q = true)
    (ht : loc.isPrefixOf t = true) (hne : q ≠ t) : q.drop loc.length ≠ t.drop loc.length := by
  have hq' := List.isPrefixOf_iff_prefix.1 hq
  have ht' := List.isPrefixOf_iff_prefix.1 ht
  intro h
  apply hne
  calc q = loc ++ q.drop loc.length := (List.prefix_iff_eq_append.1 hq').symm
    _ = loc ++ t.drop loc.length := by rw [h]
    _ = t := List.prefix_iff_eq_append.1 ht'

/-- **Setting a file leaves what every other present path holds.** -/
theorem entryAtAbsolute_setFile {q : List String} (hne : q ≠ abs)
    (hq : ws.entryAtAbsolute q ≠ none) :
    (ws.setFile abs content).entryAtAbsolute q = ws.entryAtAbsolute q := by
  cases hpre : ws.location.isPrefixOf abs with
  | false => rw [setFile_outside hpre]
  | true =>
    unfold entryAtAbsolute at hq ⊢
    cases hqpre : ws.location.isPrefixOf q with
    | false =>
      -- a path outside the working directory is answered without the entries
      cases hany : ws.entries.any (·.1 = abs.drop ws.location.length) <;>
        simp [setFile_of_any, setFile_of_not_any, hpre, hqpre, hany]
    | true =>
      have hrel := drop_ne_of_isPrefixOf hqpre hpre hne
      simp only [hqpre, if_true] at hq ⊢
      cases hany : ws.entries.any (·.1 = abs.drop ws.location.length) with
      | true =>
        rw [setFile_of_any hpre hany]
        simp only [hqpre, if_true]
        exact entryAt_overwrite hrel
      | false =>
        rw [setFile_of_not_any hpre hany]
        simp only [hqpre, if_true]
        exact entryAt_append hrel hq

/-- A path that held no directory holds none after a file is set there. -/
theorem entryAtAbsolute_setFile_self (h : ws.entryAtAbsolute abs ≠ some .dir) :
    (ws.setFile abs content).entryAtAbsolute abs ≠ some .dir := by
  cases hpre : ws.location.isPrefixOf abs with
  | false => rwa [setFile_outside hpre]
  | true =>
    unfold entryAtAbsolute entryAt at h
    simp only [hpre, if_true] at h
    -- the working directory itself is a directory, so the file is below it
    have hrel : abs.drop ws.location.length ≠ [] := fun h0 => h (if_pos h0)
    cases hany : ws.entries.any (·.1 = abs.drop ws.location.length) with
    | true =>
      rw [setFile_of_any hpre hany]
      unfold entryAtAbsolute entryAt
      simp only [hpre, if_true, hrel, if_false, find?_map_overwrite_self, hany]
      simp
    | false =>
      rw [setFile_of_not_any hpre hany]
      have hnone : ws.entries.find? (·.1 = abs.drop ws.location.length) = none := by
        simpa [List.find?_eq_none] using hany
      simp [entryAtAbsolute, entryAt, hpre, hrel, List.find?_append, hnone]

/-- Setting a file keeps every walk that ends at a directory, when no directory stood where the
file is set. -/
theorem walk_setFile (h : ws.entryAtAbsolute abs ≠ some .dir) :
    ∀ {here cs dir : List String}, ws.walk here cs = .ok (dir, .dir) →
      (ws.setFile abs content).walk here cs = .ok (dir, .dir) := by
  intro here cs
  -- induction on the components, each step going up or into a directory
  induction cs generalizing here with
  | nil =>
    intro dir hw
    simpa [walk] using hw
  | cons c rest ih =>
    intro dir hw
    unfold walk at hw ⊢
    split
    · rename_i hc
      rw [if_pos hc] at hw
      exact ih hw
    · rename_i hc
      rw [if_neg hc] at hw
      split
      · rename_i hlong
        rw [if_pos hlong] at hw
        cases hw
      · rename_i hlong
        rw [if_neg hlong] at hw
        cases hq : ws.entryAtAbsolute (here ++ [c]) with
        | none => simp [hq] at hw
        | some e =>
          cases e with
          | dir =>
            -- a directory on the way is not where the file goes, so it stays a directory
            rw [hq] at hw
            have hne : here ++ [c] ≠ abs := fun heq => h (heq ▸ hq)
            rw [entryAtAbsolute_setFile hne (by simp [hq]), hq]
            exact ih hw
          | file content' =>
            by_cases hr : rest = [] <;> simp [hq, hr] at hw

/-- **A file set twice holds the second content**, as if set once. -/
theorem setFile_setFile (c c' : List UInt8) :
    (ws.setFile abs c).setFile abs c' = ws.setFile abs c' := by
  cases hpre : ws.location.isPrefixOf abs with
  | false => rw [setFile_outside hpre]
  | true =>
    cases hany : ws.entries.any (·.1 = abs.drop ws.location.length) with
    | true =>
      -- the second set finds the entry the first one overwrote
      have hany' : (ws.entries.map (overwrite (abs.drop ws.location.length) c)).any
          (·.1 = abs.drop ws.location.length) = true := by
        rw [any_map_overwrite _ _ (fun x y (h : x.1 = y.1) => by rw [h])]
        exact hany
      rw [setFile_of_any hpre hany, setFile_of_any hpre hany,
        @setFile_of_any
          { ws with entries := ws.entries.map (overwrite (abs.drop ws.location.length) c) }
          abs c' hpre hany']
      simp [List.map_map, overwrite_overwrite]
    | false =>
      -- the second set finds the entry the first one added, and no other at its path
      rw [setFile_of_not_any hpre hany, setFile_of_not_any hpre hany,
        @setFile_of_any
          { ws with entries := ws.entries ++ [(abs.drop ws.location.length, Entry.file c)] }
          abs c' hpre (by simp)]
      have hkeep : ∀ x ∈ ws.entries, overwrite (abs.drop ws.location.length) c' x = x := by
        rintro ⟨p, e⟩ hx
        have hp : p ≠ abs.drop ws.location.length := by
          intro hp
          have := List.any_eq_false.1 hany (p, e) hx
          simp [hp] at this
        simp [overwrite, hp]
      simp [List.map_append, List.map_congr_left hkeep, overwrite]

end SetFile

/-- A path holding a NUL character is refused before the system sees it: writing there fails,
whatever the workspace. -/
theorem writeBytes_of_hasNul {ws : Workspace} {p : FsPath} (h : p.hasNul = true)
    (c : List UInt8) : ws.writeBytes p c = .error .embeddedNull := by
  unfold writeBytes precheck
  rw [if_pos h]
  rfl

/-- A write that succeeds passes the path checks, walks to the directory of the path's last
name, finds no directory at that name, and sets the file there. -/
theorem writeBytes_eq_ok {ws ws' : Workspace} {p : FsPath} {c : List UInt8}
    (h : ws.writeBytes p c = .ok ws') :
    ∃ last dir, precheck p = .ok () ∧ p.parts.getLast? = some last ∧
      ws.walk (ws.start p) p.parts.dropLast = .ok (dir, .dir) ∧ last ≠ ".." ∧
      ¬ 255 < (Utf8.encode last).length ∧ ws.entryAtAbsolute (dir ++ [last]) ≠ some .dir ∧
      ws' = ws.setFile (dir ++ [last]) c := by
  unfold writeBytes at h
  cases hpre : precheck p with
  | error e => simp [hpre, bind, Except.bind] at h
  | ok u =>
    simp only [hpre, bind, Except.bind] at h
    split at h
    · cases h
    · rename_i last hlast
      split at h
      · cases h
      · cases h
      · rename_i dir hwalk
        split at h
        · cases h
        · rename_i hdots
          split at h
          · cases h
          · rename_i hlong
            split at h
            · cases h
            · rename_i hentry
              cases h
              exact ⟨last, dir, rfl, hlast, hwalk, hdots, hlong, hentry, rfl⟩

/-- A write whose checks pass sets the file at the path's last name. -/
theorem writeBytes_of_checks {ws : Workspace} {p : FsPath} {last : String} {dir : List String}
    (hpre : precheck p = .ok ()) (hlast : p.parts.getLast? = some last)
    (hwalk : ws.walk (ws.start p) p.parts.dropLast = .ok (dir, .dir)) (hdots : last ≠ "..")
    (hlong : ¬ 255 < (Utf8.encode last).length)
    (hentry : ws.entryAtAbsolute (dir ++ [last]) ≠ some .dir) (c : List UInt8) :
    ws.writeBytes p c = .ok (ws.setFile (dir ++ [last]) c) := by
  unfold writeBytes
  simp only [hpre, bind, Except.bind, hlast, hwalk, if_neg hdots, if_neg hlong]

/-- Whether a write succeeds does not depend on what is written. -/
theorem writeBytes_ok_of_ok {ws ws₁ : Workspace} {p : FsPath} {c : List UInt8}
    (h : ws.writeBytes p c = .ok ws₁) (c' : List UInt8) : ∃ ws₂, ws.writeBytes p c' = .ok ws₂ := by
  obtain ⟨last, dir, hpre, hlast, hwalk, hdots, hlong, hentry, -⟩ := writeBytes_eq_ok h
  exact ⟨_, writeBytes_of_checks hpre hlast hwalk hdots hlong hentry c'⟩

/-- **A file written twice holds the second write.** After a write succeeds, a second write to the
same path succeeds too, and the workspace ends as if only the second had been made: the first,
creating or emptying the file, leaves no trace. -/
theorem writeBytes_writeBytes {ws ws₁ : Workspace} {p : FsPath} {c c' : List UInt8}
    (h : ws.writeBytes p c = .ok ws₁) : ws₁.writeBytes p c' = ws.writeBytes p c' := by
  obtain ⟨last, dir, hpre, hlast, hwalk, hdots, hlong, hentry, rfl⟩ := writeBytes_eq_ok h
  have hwalk₁ : (ws.setFile (dir ++ [last]) c).walk ((ws.setFile (dir ++ [last]) c).start p)
      p.parts.dropLast = .ok (dir, .dir) := by
    rw [start_setFile]
    exact walk_setFile hentry hwalk
  rw [writeBytes_of_checks hpre hlast hwalk₁ hdots hlong (entryAtAbsolute_setFile_self hentry),
    writeBytes_of_checks hpre hlast hwalk hdots hlong hentry, setFile_setFile]

end Workspace

end OccurrenceScan
