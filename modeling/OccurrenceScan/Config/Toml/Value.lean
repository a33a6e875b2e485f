import OccurrenceScan.Text.Literal

namespace OccurrenceScan

namespace Toml

/-!
# TOML values

A TOML document is a table: keys in the order they were first defined, each with a value. A
value is a string, an integer, a float, a boolean, a date, a time of day, a date with a time
(with or without an offset), an array, or a table. An array of tables made by `[[name]]`
headers is an array whose items are tables; new keys go into its last item.

A key path is shown as a tuple of quoted parts: `('a',)` or `('a', 'b')`.
-/

/-- A TOML value. Of floats, dates and times only the kind is kept. -/
inductive Value where
  | string (s : String)
  | integer (n : Int)
  | float
  | boolean (b : Bool)
  | dateTime
  | date
  | time
  | array (items : List Value)
  | table (entries : List (String × Value))
  deriving Repr, Inhabited

/-- A table: its keys in order of definition, with their values. -/
abbrev Table := List (String × Value)

/-- The value of a key of a table. -/
def Table.get? (t : Table) (key : String) : Option Value :=
  (t.find? (·.1 = key)).map (·.2)

/-- Whether a table has a key. -/
def Table.has (t : Table) (key : String) : Bool :=
  t.any (·.1 = key)

/-- Replaces the value of a key, keeping its place, or adds the key at the end. -/
def Table.put (t : Table) (key : String) (v : Value) : Table :=
  if t.has key then t.map fun (k, w) => if k = key then (k, v) else (k, w) else t ++ [(key, v)]

/-- Replaces the last item of a list. -/
def replaceLast {α : Type} (xs : List α) (x : α) : List α :=
  xs.dropLast ++ [x]

/-- Applies `f` to the table at a key path, making tables that are missing. When `throughArrays`
holds, an array on the way leads to its last item. It fails where a value that is no table
stands on the way. -/
def Table.updateAt {α : Type} (throughArrays : Bool) (f : Table → Option (Table × α)) :
    Table → List String → Option (Table × α)
  | t, [] => f t
  | t, k :: ks =>
    match t.get? k with
    | none =>
      match Table.updateAt throughArrays f [] ks with
      | some (sub, a) => some (t.put k (.table sub), a)
      | none => none
    | some (.table sub) =>
      match Table.updateAt throughArrays f sub ks with
      | some (sub', a) => some (t.put k (.table sub'), a)
      | none => none
    | some (.array items) =>
      if throughArrays then
        match items.getLast? with
        | some (.table sub) =>
          match Table.updateAt throughArrays f sub ks with
          | some (sub', a) => some (t.put k (.array (replaceLast items (.table sub'))), a)
          | none => none
        | _ => none
      else none
    | some _ => none

/-- A key path shown as a tuple of quoted parts. -/
def keyText (key : List String) : String :=
  match key with
  | [k] => "(" ++ Literal.quote k ++ ",)"
  | _ => "(" ++ ", ".intercalate (key.map Literal.quote) ++ ")"

end Toml

end OccurrenceScan
