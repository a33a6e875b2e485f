import OccurrenceScan.Text.Blank
import OccurrenceScan.Text.Literal

namespace OccurrenceScan

/-!
# Validation payloads

A validation message may end with the place it is about: blanks, `-`, blanks, `at`, blanks and
a path in backticks, as in ``Expected `str`, got `int` - at `$.document` ``. The payload of a
message splits it there: the message is stripped of blanks at both ends, and the shortest head
before such an ending, if one exists before the first line feed, is the summary (stripped again)
and the backticked text is the path. A message with no such ending is all summary. Empty parts
are left out.
-/

/-- A validation message split into its summary and the path it is about. -/
structure Payload where
  summary : Option String
  path : Option String
  deriving DecidableEq, Repr

namespace Payload

/-- Splits off a leading run of blanks, which must not be empty. -/
def blanks (cs : List Char) : Option (List Char) :=
  match cs with
  | c :: _ => if Blank.isBlank c then some (cs.dropWhile Blank.isBlank) else none
  | [] => none

/-- The path of an ending ` - at `path`` that makes up all of `cs`, if it is one. -/
def ending (cs : List Char) : Option (List Char) := do
  let cs ← blanks cs
  let cs ← match cs with
    | '-' :: rest => some rest
    | _ => none
  let cs ← blanks cs
  let cs ← match cs with
    | 'a' :: 't' :: rest => some rest
    | _ => none
  let cs ← blanks cs
  match cs with
  | '`' :: rest =>
    match rest.reverse with
    | '`' :: body =>
      let p := body.reverse
      if p ≠ [] ∧ '`' ∉ p then some p else none
    | _ => none
  | _ => none

/-- The first split of `cs` into a head free of line feeds and an ending, looking at the heads
after `head` in order of length. -/
def split (head : List Char) : List Char → Option (List Char × List Char)
  | [] => none
  | c :: rest =>
    match ending (c :: rest) with
    | some p => some (head, p)
    | none => if c = '\n' then none else split (head ++ [c]) rest

/-- The text made from characters, or nothing when there are none. -/
def nonEmpty (cs : List Char) : Option String :=
  if cs = [] then none else some (String.ofList cs)

/-- The payload of a validation message. -/
def ofMessage (message : String) : Payload :=
  let t := Blank.trim message.toList
  match split [] t with
  | some (head, p) => ⟨nonEmpty (Blank.trim head), nonEmpty p⟩
  | none => ⟨nonEmpty t, none⟩

/-- The payload shown as a mapping of quoted keys to quoted values, its type first. -/
def render (p : Payload) : String :=
  let entry (key : String) (value : Option String) : String :=
    match value with
    | some v => ", " ++ Literal.quote key ++ ": " ++ Literal.quote v
    | none => ""
  "\x7b'type': 'ValidationError'" ++ entry "summary" p.summary ++ entry "path" p.path ++ "\x7d"

end Payload

end OccurrenceScan
