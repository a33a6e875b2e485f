import OccurrenceScan.Text.Cells
import OccurrenceScan.Text.Emoji

namespace OccurrenceScan

namespace Console

/-!
# Console text

A message printed to the console first has its emoji codes replaced by their emoji. It then
loses the control characters bell, backspace, vertical tab, form feed and carriage return. Each
line has its tabs expanded to stops every eight cells. The line is cut after each tab, and each
piece, its tab read as a space, is measured on its own with `Cells.length`; the space is then
followed by as many more as bring the cursor to a multiple of eight. So a wide character counts
two, a combining mark none, and a tab right after a zero-width joiner is glued to it and may
stand for a single space. Lines are never wrapped or trimmed, and the message ends with a line
feed.
-/

/-- Whether a character is dropped from console text. -/
def isDropped (c : Char) : Bool :=
  c.toNat = 7 || c.toNat = 8 || c.toNat = 11 || c.toNat = 12 || c.toNat = 13

/-- Expands the tabs of a line cut at its tabs into `pieces`, the cursor standing at cell
`column`: every piece but the last was followed by a tab. -/
def expandPieces (column : Nat) : List (List Char) → List Char
  | [] => []
  | [piece] => piece
  | piece :: rest =>
    let cursor := column + Cells.length (piece ++ [' '])
    let gap := (8 - cursor % 8) % 8
    piece ++ List.replicate (gap + 1) ' ' ++ expandPieces (cursor + gap) rest

/-- Expands the tabs of a line. -/
def expandTabs (line : List Char) : List Char :=
  expandPieces 0 (line.splitOn '\t')

/-- The text a message is printed as, its final line feed included. -/
def render (message : String) : String :=
  let kept := (Emoji.replace message.toList).filter fun c => !isDropped c
  let lines := (kept.splitOn '\n').map expandTabs
  String.ofList ((lines.intersperse ['\n']).flatten ++ ['\n'])

end Console

end OccurrenceScan
