namespace OccurrenceScan

namespace Toml

/-!
# Definition marks

While a document is read, key paths are marked. A table declared by a `[header]`, or opened by a
dotted key in an earlier section, is *explicit*: it cannot be declared again. An inline table or
array is *frozen*: nothing may be added to it. A mark set recursively covers every key path below
its own; a plain mark covers its own path only. Dotted keys mark the tables they pass through as
explicit only when the next header is read: their marks wait until then.
-/

/-- What a mark says of a key path. -/
inductive Mark where
  | explicit
  | frozen
  deriving DecidableEq, Repr

/-- One mark on a key path, for that path alone or for all below it too. -/
structure MarkEntry where
  key : List String
  mark : Mark
  recursive : Bool
  deriving DecidableEq, Repr

/-- The marks of a document being read, and those waiting for the next header. -/
structure Marks where
  entries : List MarkEntry := []
  waiting : List (List String × Mark) := []
  deriving DecidableEq, Repr

namespace Marks

/-- Whether a key path carries a mark, by its own or by a recursive mark on a proper prefix;
the empty path never does. -/
def has (ms : Marks) (key : List String) (mark : Mark) : Bool :=
  key ≠ [] && ms.entries.any fun e =>
    e.mark = mark && ((e.key = key) || (e.recursive && e.key ≠ [] && e.key.length < key.length &&
      e.key.isPrefixOf key))

/-- Sets a mark on a key path. -/
def set (ms : Marks) (key : List String) (mark : Mark) (recursive : Bool) : Marks :=
  { ms with entries := ms.entries ++ [⟨key, mark, recursive⟩] }

/-- Removes every mark on a key path and below it. -/
def clearBelow (ms : Marks) (key : List String) : Marks :=
  { ms with entries := ms.entries.filter fun e => !key.isPrefixOf e.key }

/-- Adds a mark that waits for the next header. -/
def defer (ms : Marks) (key : List String) (mark : Mark) : Marks :=
  { ms with waiting := ms.waiting ++ [(key, mark)] }

/-- Sets the waiting marks, each for its own path. -/
def settle (ms : Marks) : Marks :=
  ⟨ms.entries ++ ms.waiting.map fun (k, m) => ⟨k, m, false⟩, []⟩

end Marks

end Toml

end OccurrenceScan
