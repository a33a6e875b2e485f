import OccurrenceScan.Config.Load

/-!
# Reading settings from a table strictly

A table of settings is validated entry by entry in the table's order. An entry passes when its
key names a setting and its value has the setting's type as it is, with no conversion: a string
for `document` and `bindings_dir`, an array holding only strings for `symbol_suffixes`, and one of
the strings `text` and `jsonl` for `output_format` (`Settings.typed`). The first entry that fails
stops validation with its fault (`Settings.fault`): an unknown key, a value of the wrong type,
an output format that is not known, or the first item of a suffix array that is no string, with
its index.

* `setKey_cases` says once what validating one entry does: a typed entry sets its key to its
  value and leaves the other settings alone (`Updated`); any other entry fails with its fault,
  whatever was set before.
* Folding that over a table: with every entry typed it succeeds (`foldlM_setKey_ok`), and for a
  table with distinct keys the settings then hold the table's values and nothing else
  (`valueAt_foldlM_setKey`); entries before the first bad one do not change its fault
  (`foldlM_setKey_eq_error`).

Settings are compared with the table through `Settings.valueAt`, each setting shown as the TOML
value it holds. Main statement: `decodeSettings_validates_strictly`.
-/

namespace OccurrenceScan

namespace Toml

/-- Whether a value is a string. -/
def Value.isString : Value → Bool
  | .string _ => true
  | _ => false

namespace Table

theorem get?_cons_self (e : String × Value) (rest : Table) : get? (e :: rest) e.1 = some e.2 := by
  simp [get?]

theorem get?_cons_of_ne {e : String × Value} {k : String} (h : k ≠ e.1) (rest : Table) :
    get? (e :: rest) k = get? rest k := by
  simp [get?, Ne.symm h]

theorem get?_eq_none {t : Table} {k : String} (h : k ∉ t.map Prod.fst) : get? t k = none := by
  simp only [get?, Option.map_eq_none_iff, List.find?_eq_none]
  intro e he hk
  exact h (List.mem_map.2 ⟨e, he, by simpa using hk⟩)

end Table

end Toml

namespace ReportFormat

/-- The TOML string a report format is named by. -/
def tomlValue : ReportFormat → Toml.Value
  | .text => .string "text"
  | .jsonl => .string "jsonl"

end ReportFormat

namespace Settings

/-- Whether a table entry is a setting of its declared type, taken as it is: `document` and
`bindings_dir` a string, `symbol_suffixes` an array of strings only, `output_format` the string
`text` or `jsonl`. -/
def typed (key : String) (v : Toml.Value) : Bool :=
  match key, v with
  | "document", .string _ => true
  | "symbol_suffixes", .array items => items.all Toml.Value.isString
  | "output_format", .string f => f == "text" || f == "jsonl"
  | "bindings_dir", .string _ => true
  | _, _ => false

/-- A setting as the TOML value it holds, by its key; a key that names no setting holds none. -/
def valueAt (s : Settings) (key : String) : Option Toml.Value :=
  match key with
  | "document" => s.document.map .string
  | "symbol_suffixes" => s.symbolSuffixes.map fun xs => .array (xs.map .string)
  | "output_format" => s.outputFormat.map ReportFormat.tomlValue
  | "bindings_dir" => s.bindingsDir.map .string
  | _ => none

/-- The message validation gives for an entry that is not of its declared type: an unknown key;
a value of the wrong kind, with its type and the key's place; an output format it does not
know; or, in an array of suffixes, the first item that is no string, with its index. -/
def fault (key : String) (v : Toml.Value) : String :=
  let expectedText := placed ("Expected `str | null`, got `" ++ v.typeName ++ "`") ("$." ++ key)
  match key, v with
  | "document", _ => expectedText
  | "symbol_suffixes", .array items =>
    match (items.zipIdx.find? fun (x, _) => !x.isString) with
    | some (x, i) =>
      placed ("Expected `str`, got `" ++ x.typeName ++ "`")
        ("$.symbol_suffixes[" ++ Nat.repr i ++ "]")
    | none => ""
  | "symbol_suffixes", _ =>
    placed ("Expected `array | null`, got `" ++ v.typeName ++ "`") "$.symbol_suffixes"
  | "output_format", .string f =>
    placed ("Invalid enum value " ++ Literal.quote f) "$.output_format"
  | "output_format", _ => expectedText
  | "bindings_dir", _ => expectedText
  | _, _ => "Object contains unknown field `" ++ key ++ "`"

example : typed "output_format" (.string "xml") = false := by decide

/-! ### One entry -/

theorem suffixStrings_go_ok {items : List Toml.Value} (h : items.all Toml.Value.isString = true)
    (i : Nat) : ∃ xs, suffixStrings.go i items = .ok xs ∧ xs.map .string = items := by
  induction items generalizing i with
  | nil => exact ⟨[], rfl, rfl⟩
  | cons x rest ih =>
    simp only [List.all_cons, Bool.and_eq_true] at h
    obtain ⟨hx, hrest⟩ := h
    cases x with
    | string s =>
      obtain ⟨xs, hgo, hmap⟩ := ih hrest (i + 1)
      refine ⟨s :: xs, ?_, by simp [hmap]⟩
      rw [suffixStrings.go, hgo]
      rfl
    | _ => cases hx

theorem suffixStrings_go_error {items : List Toml.Value} {x : Toml.Value} {i j : Nat}
    (h : (items.zipIdx i).find? (fun (x, _) => !x.isString) = some (x, j)) :
    suffixStrings.go i items =
      .error (placed ("Expected `str`, got `" ++ x.typeName ++ "`")
        ("$.symbol_suffixes[" ++ Nat.repr j ++ "]")) := by
  induction items generalizing i with
  | nil => cases h
  | cons y rest ih =>
    cases y with
    | string s =>
      rw [List.zipIdx_cons, List.find?_cons_of_neg (by simp [Toml.Value.isString])] at h
      rw [suffixStrings.go, ih h]
      rfl
    | _ =>
      simp only [List.zipIdx_cons, List.find?_cons, Toml.Value.isString, Bool.not_false,
        Option.some.injEq, Prod.mk.injEq] at h
      obtain ⟨rfl, rfl⟩ := h
      rfl

theorem suffixStrings_go_eq_ok {items : List Toml.Value} {xs : List String} {i : Nat}
    (h : suffixStrings.go i items = .ok xs) : xs.map .string = items := by
  induction items generalizing i xs with
  | nil =>
    cases h
    rfl
  | cons x rest ih =>
    cases x with
    | string s =>
      cases hgo : suffixStrings.go (i + 1) rest with
      | error m =>
        rw [suffixStrings.go, hgo] at h
        cases h
      | ok ys =>
        rw [suffixStrings.go, hgo] at h
        cases h
        simp [ih hgo]
    | _ => cases h

/-- An array holding an item that is no string has a first such item. -/
theorem find?_zipIdx_isSome {items : List Toml.Value} (h : items.all Toml.Value.isString = false) :
    ∃ x j, (items.zipIdx.find? fun (x, _) => !x.isString) = some (x, j) := by
  cases hf : items.zipIdx.find? (fun (x, _) => !x.isString) with
  | some xj => exact ⟨xj.1, xj.2, rfl⟩
  | none =>
    rw [List.find?_eq_none] at hf
    have : items.all Toml.Value.isString = true := by
      rw [List.all_eq_true]
      intro x hx
      obtain ⟨j, hj, rfl⟩ := List.mem_iff_getElem.1 hx
      have := hf (items[j], j) (List.mem_zipIdx_iff_getElem?.2 (List.getElem?_eq_getElem hj))
      simpa using this
    rw [h] at this
    cases this

/-- `s'` is `s` with the setting `key` holding `v`, and every other setting as it was. -/
def Updated (s : Settings) (key : String) (v : Toml.Value) (s' : Settings) : Prop :=
  s'.valueAt key = some v ∧ ∀ k, k ≠ key → s'.valueAt k = s.valueAt k

/-- **What validating one entry does.** An entry of its declared type sets its key to its value;
any other entry is refused with its fault, whatever was set before. -/
theorem setKey_cases (s : Settings) (key : String) (v : Toml.Value) :
    (typed key v = true ∧ ∃ s', s.setKey key v = .ok s' ∧ Updated s key v s') ∨
      (typed key v = false ∧ s.setKey key v = .error (fault key v)) := by
  by_cases h₁ : key = "document"
  · subst h₁
    cases v with
    | string d =>
      refine .inl ⟨rfl, _, rfl, rfl, fun k hk => ?_⟩
      unfold valueAt
      split <;> simp_all
    | _ => exact .inr ⟨rfl, rfl⟩
  by_cases h₂ : key = "symbol_suffixes"
  · subst h₂
    cases v with
    | array items =>
      cases hall : items.all Toml.Value.isString
      · -- the first item that is no string is the one reported
        obtain ⟨x, j, hx⟩ := find?_zipIdx_isSome hall
        refine .inr ⟨by simp [typed, hall], ?_⟩
        simp only [setKey, fault, hx]
        rw [suffixStrings, suffixStrings_go_error hx]
        rfl
      · obtain ⟨xs, hgo, rfl⟩ := suffixStrings_go_ok hall 0
        refine .inl ⟨by simp [typed, hall], { s with symbolSuffixes := some xs }, ?_, rfl,
          fun k hk => ?_⟩
        · simp only [setKey]
          rw [suffixStrings, hgo]
          rfl
        · unfold valueAt
          split <;> simp_all
    | _ => exact .inr ⟨rfl, rfl⟩
  by_cases h₃ : key = "output_format"
  · subst h₃
    cases v with
    | string f =>
      by_cases ht : f = "text"
      · subst ht
        refine .inl ⟨rfl, _, rfl, rfl, fun k hk => ?_⟩
        unfold valueAt
        split <;> simp_all
      by_cases hj : f = "jsonl"
      · subst hj
        refine .inl ⟨rfl, _, rfl, rfl, fun k hk => ?_⟩
        unfold valueAt
        split <;> simp_all
      · exact .inr ⟨by simp [typed, ht, hj], by simp [setKey, fault]⟩
    | _ => exact .inr ⟨rfl, rfl⟩
  by_cases h₄ : key = "bindings_dir"
  · subst h₄
    cases v with
    | string d =>
      refine .inl ⟨rfl, _, rfl, rfl, fun k hk => ?_⟩
      unfold valueAt
      split <;> simp_all
    | _ => exact .inr ⟨rfl, rfl⟩
  · -- a key that names no setting is refused whatever its value
    exact .inr ⟨by simp [typed, h₁, h₂, h₃, h₄], by simp [setKey, fault, h₂, h₃]⟩

theorem setKey_eq_ok {s s' : Settings} {key : String} {v : Toml.Value}
    (h : s.setKey key v = .ok s') : typed key v = true ∧ Updated s key v s' := by
  rcases setKey_cases s key v with ⟨ht, s'', h', hu⟩ | ⟨-, h'⟩
  · rw [h'] at h
    cases h
    exact ⟨ht, hu⟩
  · rw [h'] at h
    cases h

/-! ### A whole table -/

/-- Validating a table folds the validation of its entries over it, in order. -/
theorem ofTable_eq_foldlM (t : Toml.Table) :
    ofTable t = t.foldlM (fun s e => s.setKey e.1 e.2) {} := rfl

theorem foldlM_setKey_ok {t : Toml.Table} (ht : ∀ e ∈ t, typed e.1 e.2 = true) (s : Settings) :
    ∃ s', t.foldlM (fun s e => s.setKey e.1 e.2) s = .ok s' := by
  induction t generalizing s with
  | nil => exact ⟨s, rfl⟩
  | cons e rest ih =>
    rcases setKey_cases s e.1 e.2 with ⟨-, s₁, h₁, -⟩ | ⟨hbad, -⟩
    · obtain ⟨s', h'⟩ := ih (fun e' he' => ht e' (by simp [he'])) s₁
      exact ⟨s', by rw [List.foldlM_cons, h₁]; exact h'⟩
    · rw [ht e (by simp)] at hbad
      cases hbad

theorem valueAt_foldlM_setKey {t : Toml.Table} (hkeys : (t.map Prod.fst).Nodup)
    {s s' : Settings} (h : t.foldlM (fun s e => s.setKey e.1 e.2) s = .ok s') :
    (∀ e ∈ t, typed e.1 e.2 = true) ∧ ∀ k, s'.valueAt k = (t.get? k).or (s.valueAt k) := by
  induction t generalizing s with
  | nil =>
    cases h
    exact ⟨by simp, fun k => by simp [Toml.Table.get?]⟩
  | cons e rest ih =>
    rw [List.foldlM_cons] at h
    cases h₁ : s.setKey e.1 e.2 with
    | error m =>
      rw [h₁] at h
      cases h
    | ok s₁ =>
      rw [h₁] at h
      simp only [List.map_cons, List.nodup_cons] at hkeys
      obtain ⟨htyped, hu₁, hframe⟩ := setKey_eq_ok h₁
      obtain ⟨hrest, hvals⟩ := ih hkeys.2 h
      refine ⟨by simpa [htyped] using hrest, fun k => ?_⟩
      -- the entry's own key holds its value, since no later entry has that key
      by_cases hk : k = e.1
      · subst hk
        rw [hvals, Toml.Table.get?_eq_none hkeys.1, Toml.Table.get?_cons_self, hu₁]
        rfl
      · rw [hvals, Toml.Table.get?_cons_of_ne hk, hframe k hk]

/-- Validation stops at the first entry that is not of its declared type, with its fault. -/
theorem foldlM_setKey_eq_error {pre post : Toml.Table} {key : String} {v : Toml.Value}
    (hpre : ∀ e ∈ pre, typed e.1 e.2 = true) (hbad : typed key v = false) (s : Settings) :
    (pre ++ (key, v) :: post).foldlM (fun s e => s.setKey e.1 e.2) s = .error (fault key v) := by
  obtain ⟨s₁, h₁⟩ := foldlM_setKey_ok hpre s
  rcases setKey_cases s₁ key v with ⟨hgood, -⟩ | ⟨-, hfail⟩
  · rw [hbad] at hgood
    cases hgood
  · rw [List.foldlM_append, h₁]
    show (s₁.setKey key v >>= fun s => post.foldlM _ s) = _
    rw [hfail]
    rfl

@[simp] theorem valueAt_empty (key : String) : ({} : Settings).valueAt key = none := by
  unfold valueAt
  split <;> rfl

end Settings

/-- **Settings are read from a table strictly.** For a table with distinct keys, validation
succeeds exactly when every entry is a setting of its declared type; the settings it gives hold
the table's values and nothing else; and otherwise it fails, at its location, with the payload
of the first offending entry in the table's order. -/
theorem decodeSettings_validates_strictly (t : Toml.Table) (location : String)
    (hkeys : (t.map Prod.fst).Nodup) :
    ((∃ s, (decodeSettings t location).2 = .ok s) ↔
      ∀ e ∈ t, Settings.typed e.1 e.2 = true) ∧
    (∀ s, (decodeSettings t location).2 = .ok s → ∀ key, s.valueAt key = t.get? key) ∧
    (∀ pre key v post, t = pre ++ (key, v) :: post →
      (∀ e ∈ pre, Settings.typed e.1 e.2 = true) → Settings.typed key v = false →
      (decodeSettings t location).2 = .error (.invalid ("Config validation failed for " ++
        location ++ ": " ++ (Payload.ofMessage (Settings.fault key v)).render))) := by
  -- the log aside, decoding gives what validating the table gives
  have hok : ∀ s, (decodeSettings t location).2 = .ok s ↔ Settings.ofTable t = .ok s := by
    intro s
    unfold decodeSettings
    split <;> simp_all
  refine ⟨⟨fun ⟨s, hs⟩ => ?_, fun ht => ?_⟩, fun s hs key => ?_, ?_⟩
  · exact (Settings.valueAt_foldlM_setKey hkeys ((hok s).1 hs)).1
  · obtain ⟨s, hs⟩ := Settings.foldlM_setKey_ok ht {}
    exact ⟨s, (hok s).2 hs⟩
  · have := (Settings.valueAt_foldlM_setKey hkeys ((hok s).1 hs)).2 key
    simpa using this
  · rintro pre key v post rfl hpre hbad
    have herr : Settings.ofTable (pre ++ (key, v) :: post) = .error (Settings.fault key v) :=
      Settings.foldlM_setKey_eq_error hpre hbad {}
    unfold decodeSettings
    rw [herr]
    rfl


/-- A table whose second entry has an unknown key fails there, before the bad format after it. -/
theorem decodeSettings_unknownKey :
    (["document", "colour", "output_format"]).Nodup ∧
    (decodeSettings [("document", .string "a.ts"), ("colour", .boolean true),
        ("output_format", .string "xml")] "symscan.toml").2 =
      .error (.invalid ("Config validation failed for symscan.toml: " ++
        (Payload.ofMessage "Object contains unknown field `colour`").render)) :=
  ⟨by decide, (decodeSettings_validates_strictly [("document", .string "a.ts"),
    ("colour", .boolean true), ("output_format", .string "xml")] "symscan.toml" (by decide)).2.2
    [("document", .string "a.ts")] "colour" (.boolean true) [("output_format", .string "xml")] rfl
    (by decide) (by decide)⟩

end OccurrenceScan
