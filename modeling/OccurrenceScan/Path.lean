namespace OccurrenceScan

/-!
# Paths

A path is read the way the program names files: its leading slashes make its anchor (none for a
relative path, `/` for an absolute one, and `//` kept as written when there are exactly two),
and the rest splits at `/` into components, dropping empty ones and `.`. So repeated slashes
collapse, a trailing slash goes, and a path with no component is shown as `.`. A `..` stays a
component: what it names is for the file system to say.
-/

/-- A path: its anchor (`""`, `"/"` or `"//"`) and its components, none empty and none `.`. -/
structure FsPath where
  anchor : String
  parts : List String
  deriving DecidableEq, Repr, Inhabited

namespace FsPath

/-- Splits characters at every `/`, keeping empty pieces. -/
def splitSlash : List Char → List (List Char)
  | [] => [[]]
  | c :: cs =>
    if c = '/' then [] :: splitSlash cs
    else
      match splitSlash cs with
      | [] => [[c]]
      | p :: ps => (c :: p) :: ps

/-- Whether a piece is a component a path keeps: neither empty nor `.`. -/
def keeps (piece : List Char) : Bool :=
  piece ≠ [] ∧ piece ≠ ['.']

/-- The anchor made by a number of leading slashes. -/
def anchorOf (slashes : Nat) : String :=
  if slashes = 0 then "" else if slashes = 2 then "//" else "/"

/-- Reads a path from its text. -/
def parse (s : String) : FsPath :=
  let cs := s.toList
  let slashes := (cs.takeWhile (· = '/')).length
  ⟨anchorOf slashes, ((splitSlash (cs.dropWhile (· = '/'))).filter keeps).map String.ofList⟩

/-- The text of a path: its anchor and its components joined by `/`, or `.` for none at all. -/
def toText (p : FsPath) : String :=
  if p.anchor = "" ∧ p.parts = [] then "." else p.anchor ++ "/".intercalate p.parts

/-- The text a path is shown with once read: its normal form. -/
def normalise (s : String) : String :=
  (parse s).toText

/-- The path one level up; a path with no component is its own parent. -/
def parent (p : FsPath) : FsPath :=
  ⟨p.anchor, p.parts.dropLast⟩

/-- The path of an entry named `name` inside `p`. -/
def child (p : FsPath) (name : String) : FsPath :=
  ⟨p.anchor, p.parts ++ [name]⟩

/-- The last component, or `""` when there is none. -/
def name (p : FsPath) : String :=
  p.parts.getLast?.getD ""

/-- Whether the path is anchored at the root. -/
def isAbsolute (p : FsPath) : Bool :=
  p.anchor ≠ ""

/-- The path and its ancestors up to the anchor, nearest first. -/
def ancestors (p : FsPath) : List FsPath :=
  ((List.range (p.parts.length + 1)).reverse.map fun n => ⟨p.anchor, p.parts.take n⟩)

end FsPath

end OccurrenceScan
