import OccurrenceScan.Config.Toml.Value

namespace OccurrenceScan

namespace Toml

/-!
# TOML lexemes

The pieces of a TOML document below the level of statements: blanks and comments, strings in
their four forms, numbers, booleans, dates and times. Each reader takes the document and a
position and returns the position after what it read. A failure carries its message and
position; it is shown with the line and column of the position (both counted from one), or as
at the end of the document.
-/

/-- Why a document could not be read, and where. -/
structure ParseError where
  message : String
  pos : Nat
  deriving DecidableEq, Repr

/-- Reading a part of a document: the result, or where and why it failed. -/
abbrev Parse (α : Type) := Except ParseError α

/-- Fails with a message at a position. -/
def fail {α : Type} (pos : Nat) (message : String) : Parse α :=
  .error ⟨message, pos⟩

/-- The line and column of a position, or the end of the document. -/
def coordinates (src : Array Char) (pos : Nat) : String :=
  if src.size ≤ pos then "end of document"
  else
    let before := (src.extract 0 pos).toList
    let line := before.count '\n' + 1
    let column := if line = 1 then pos + 1
      else pos - (before.length - 1 - (before.reverse.idxOf '\n'))
    "line " ++ Nat.repr line ++ ", column " ++ Nat.repr column

/-- The text of a failure, with its coordinates. -/
def ParseError.text (src : Array Char) (e : ParseError) : String :=
  e.message ++ " (at " ++ coordinates src e.pos ++ ")"

/-- The characters from `a` up to `b`. -/
def slice (src : Array Char) (a b : Nat) : List Char :=
  (src.extract a b).toList

/-- Whether the document has `pattern` at a position. -/
def startsAt (src : Array Char) (pos : Nat) (pattern : List Char) : Bool :=
  slice src pos (pos + pattern.length) = pattern

/-- The position after a run of characters that satisfy `p`. -/
def skipWhile (src : Array Char) (p : Char → Bool) (pos : Nat) : Nat :=
  if h : pos < src.size then
    if p src[pos] then skipWhile src p (pos + 1) else pos
  else pos
termination_by src.size - pos

/-- The first position from `pos` on where `pattern` starts. -/
def findFrom (src : Array Char) (pattern : List Char) (pos : Nat) : Option Nat :=
  if pos < src.size then
    if startsAt src pos pattern then some pos else findFrom src pattern (pos + 1)
  else none
termination_by src.size - pos

/-- A space or a tab. -/
def isBlank (c : Char) : Bool :=
  c = ' ' || c = '\t'

/-- A space, a tab or a line feed. -/
def isBlankOrNewline (c : Char) : Bool :=
  c = ' ' || c = '\t' || c = '\n'

/-- A character of a bare key: an ASCII letter or digit, `-` or `_`. -/
def isBareKeyChar (c : Char) : Bool :=
  ('a' ≤ c && c ≤ 'z') || ('A' ≤ c && c ≤ 'Z') || ('0' ≤ c && c ≤ '9') || c = '-' || c = '_'

/-- An ASCII control character other than tab, which no one-line string or comment may hold. -/
def isLineControl (c : Char) : Bool :=
  (c.toNat < 32 && c ≠ '\t') || c.toNat = 127

/-- An ASCII control character other than tab and line feed, which no multi-line string may
hold. -/
def isTextControl (c : Char) : Bool :=
  (c.toNat < 32 && c ≠ '\t' && c ≠ '\n') || c.toNat = 127

/-- A decimal digit. -/
def isDigit (c : Char) : Bool :=
  '0' ≤ c && c ≤ '9'

/-- A hexadecimal digit of either case. -/
def isHexDigit (c : Char) : Bool :=
  isDigit c || ('a' ≤ c && c ≤ 'f') || ('A' ≤ c && c ≤ 'F')

/-- The value of a hexadecimal digit. -/
def hexValue (c : Char) : Nat :=
  if isDigit c then c.toNat - 48 else if 'a' ≤ c && c ≤ 'f' then c.toNat - 87 else c.toNat - 55

/-- The quoted text of characters, as messages show it. -/
def shown (cs : List Char) : String :=
  Literal.quote (String.ofList cs)

/-- Skips to where `expect` starts, refusing characters on the way that `illegal` marks; at the
end of the document, fails when `errorAtEnd` holds, else stops there. -/
def skipUntil (src : Array Char) (pos : Nat) (expect : List Char) (illegal : Char → Bool)
    (errorAtEnd : Bool) : Parse Nat := do
  let stop ← match findFrom src expect pos with
    | some i => pure i
    | none => if errorAtEnd then fail src.size ("Expected " ++ shown expect) else pure src.size
  match (slice src pos stop).findIdx? illegal with
  | some k => fail (pos + k) ("Found invalid character " ++ shown (slice src (pos + k) (pos + k + 1)))
  | none => pure stop

/-- Skips a comment, if one starts at the position, up to the end of its line. -/
def skipComment (src : Array Char) (pos : Nat) : Parse Nat :=
  if src[pos]? = some '#' then skipUntil src (pos + 1) ['\n'] isLineControl false else pure pos

/-- Skips blanks, line feeds and comments, as between the items of an array. -/
def skipArrayBlanks (src : Array Char) (pos : Nat) : Nat → Parse Nat
  | 0 => pure pos
  | fuel + 1 => do
    let next ← skipComment src (skipWhile src isBlankOrNewline pos)
    if next = pos then pure pos else skipArrayBlanks src next fuel

/-- Whether a number is a Unicode scalar value. -/
def isScalar (n : Nat) : Bool :=
  n ≤ 0xD7FF || (0xE000 ≤ n && n ≤ 0x10FFFF)

/-- Reads `width` hexadecimal digits of an escaped character. -/
def readHexChar (src : Array Char) (pos width : Nat) : Parse (Nat × List Char) := do
  let digits := slice src pos (pos + width)
  unless digits.length = width && digits.all isHexDigit do
    fail pos "Invalid hex value"
  let v := digits.foldl (fun acc c => acc * 16 + hexValue c) 0
  unless isScalar v do
    fail (pos + width) "Escaped character is not a Unicode scalar value"
  pure (pos + width, [Char.ofNat v])

/-- Reads an escape that starts with the backslash at a position. In a multi-line string a
backslash before blanks and a line feed removes them and all blanks after. -/
def readEscape (src : Array Char) (pos : Nat) (multiline : Bool) : Parse (Nat × List Char) := do
  let id := slice src pos (pos + 2)
  let pos := pos + 2
  if multiline && (id = ['\\', ' '] || id = ['\\', '\t'] || id = ['\\', '\n']) then
    if id = ['\\', '\n'] then pure (skipWhile src isBlankOrNewline pos, [])
    else
      let p := skipWhile src isBlank pos
      match src[p]? with
      | none => pure (p, [])
      | some c =>
        if c = '\n' then pure (skipWhile src isBlankOrNewline (p + 1), [])
        else fail p "Unescaped '\\' in a string"
  else if id = ['\\', 'u'] then readHexChar src pos 4
  else if id = ['\\', 'U'] then readHexChar src pos 8
  else
    match id with
    | ['\\', 'b'] => pure (pos, ['\x08'])
    | ['\\', 't'] => pure (pos, ['\t'])
    | ['\\', 'n'] => pure (pos, ['\n'])
    | ['\\', 'f'] => pure (pos, ['\x0c'])
    | ['\\', 'r'] => pure (pos, ['\r'])
    | ['\\', '"'] => pure (pos, ['"'])
    | ['\\', '\\'] => pure (pos, ['\\'])
    | _ => fail pos "Unescaped '\\' in a string"

/-- Reads the rest of a basic string from a position after its opening quotes, the characters
since `start` not yet taken into `acc`. -/
def readBasicFrom (src : Array Char) (multiline : Bool) :
    Nat → Nat → Nat → List Char → Parse (Nat × List Char)
  | 0, pos, _, _ => fail pos "Unterminated string"
  | fuel + 1, pos, start, acc =>
    match src[pos]? with
    | none => fail pos "Unterminated string"
    | some '"' =>
      if !multiline then pure (pos + 1, acc ++ slice src start pos)
      else if startsAt src pos ['"', '"', '"'] then pure (pos + 3, acc ++ slice src start pos)
      else readBasicFrom src multiline fuel (pos + 1) start acc
    | some '\\' => do
      let (next, escaped) ← readEscape src pos multiline
      readBasicFrom src multiline fuel next next (acc ++ slice src start pos ++ escaped)
    | some c =>
      if (if multiline then isTextControl c else isLineControl c) then
        fail pos ("Illegal character " ++ shown [c])
      else readBasicFrom src multiline fuel (pos + 1) start acc

/-- Reads a basic string whose opening quotes end before a position. -/
def readBasic (src : Array Char) (pos : Nat) (multiline : Bool) : Parse (Nat × List Char) :=
  readBasicFrom src multiline (src.size + 1) pos pos []

/-- Reads a literal string in apostrophes that starts at a position. -/
def readLiteral (src : Array Char) (pos : Nat) : Parse (Nat × List Char) := do
  let stop ← skipUntil src (pos + 1) ['\''] isLineControl true
  pure (stop + 1, slice src (pos + 1) stop)

/-- Reads a multi-line string that starts at a position; a line feed right after the opening
quotes is dropped, and one or two quotes before the closing ones belong to the string. -/
def readMultiline (src : Array Char) (pos : Nat) (literal : Bool) : Parse (Nat × List Char) := do
  let pos := pos + 3
  let pos := if src[pos]? = some '\n' then pos + 1 else pos
  let delim := if literal then '\'' else '"'
  let (pos, body) ← if literal then do
      let stop ← skipUntil src pos ['\'', '\'', '\''] isTextControl true
      pure (stop + 3, slice src pos stop)
    else readBasic src pos true
  if src[pos]? ≠ some delim then pure (pos, body)
  else if src[pos + 1]? ≠ some delim then pure (pos + 1, body ++ [delim])
  else pure (pos + 2, body ++ [delim, delim])

/-- The position after a run of digits in which single underscores may stand between two
digits. -/
def skipDigits (src : Array Char) (digit : Char → Bool) (pos : Nat) : Nat :=
  if h : pos < src.size then
    if digit src[pos] then skipDigits src digit (pos + 1)
    else if src[pos] = '_' && (src[pos + 1]?.map digit).getD false then skipDigits src digit (pos + 2)
    else pos
  else pos
termination_by src.size - pos

/-- Whether the character at a position satisfies `p`. -/
def holds (src : Array Char) (pos : Nat) (p : Char → Bool) : Bool :=
  (src[pos]?.map p).getD false

/-- Matches a number at a position: where it ends and whether it is a float. -/
def matchNumber (src : Array Char) (pos : Nat) : Option (Nat × Bool) :=
  let prefixed (letter : Char) (digit : Char → Bool) : Option (Nat × Bool) :=
    if src[pos]? = some '0' && src[pos + 1]? = some letter && holds src (pos + 2) digit then
      some (skipDigits src digit (pos + 3), false)
    else none
  let octal (c : Char) : Bool := '0' ≤ c && c ≤ '7'
  let binary (c : Char) : Bool := c = '0' || c = '1'
  match prefixed 'x' isHexDigit <|> prefixed 'b' binary <|> prefixed 'o' octal with
  | some r => some r
  | none =>
    let p := if src[pos]? = some '+' || src[pos]? = some '-' then pos + 1 else pos
    let whole : Option Nat :=
      if src[p]? = some '0' then some (p + 1)
      else if holds src p fun c => '1' ≤ c && c ≤ '9' then some (skipDigits src isDigit (p + 1))
      else none
    whole.map fun q =>
      let r := if src[q]? = some '.' && holds src (q + 1) isDigit then skipDigits src isDigit (q + 2) else q
      let s :=
        if src[r]? = some 'e' || src[r]? = some 'E' then
          let t := if src[r + 1]? = some '+' || src[r + 1]? = some '-' then r + 2 else r + 1
          if holds src t isDigit then skipDigits src isDigit (t + 1) else r
        else r
      (s, q < s)

/-- The value of an integer's text: an optional sign, a base prefix, digits and underscores. -/
def integerValue (cs : List Char) : Int :=
  let digits (base : Nat) (ds : List Char) : Nat :=
    (ds.filter (· ≠ '_')).foldl (fun acc c => acc * base + hexValue c) 0
  match cs with
  | '0' :: 'x' :: ds => digits 16 ds
  | '0' :: 'o' :: ds => digits 8 ds
  | '0' :: 'b' :: ds => digits 2 ds
  | '-' :: ds => -(digits 10 ds : Int)
  | '+' :: ds => digits 10 ds
  | ds => digits 10 ds

/-- The two-digit number at a position, if both are digits. -/
def twoDigits (src : Array Char) (pos : Nat) : Option Nat :=
  match src[pos]?, src[pos + 1]? with
  | some a, some b => if isDigit a && isDigit b then some ((a.toNat - 48) * 10 + (b.toNat - 48)) else none
  | _, _ => none

/-- Matches a time of day at a position, `HH:MM:SS` with an optional fraction; where it ends. -/
def matchTime (src : Array Char) (pos : Nat) : Option Nat := do
  let h ← twoDigits src pos
  let m ← twoDigits src (pos + 3)
  let s ← twoDigits src (pos + 6)
  unless h ≤ 23 && src[pos + 2]? = some ':' && m ≤ 59 && src[pos + 5]? = some ':' && s ≤ 59 do
    none
  let stop := pos + 8
  if src[stop]? = some '.' && holds src (stop + 1) isDigit then
    some (skipWhile src isDigit (stop + 1))
  else some stop

/-- The number of days of a month. -/
def daysInMonth (year month : Nat) : Nat :=
  if month = 2 then
    if year % 4 = 0 && (year % 100 ≠ 0 || year % 400 = 0) then 29 else 28
  else if month = 4 || month = 6 || month = 9 || month = 11 then 30
  else 31

/-- Matches a date, with an optional time and offset, at a position: where it ends, its value,
and whether the date exists. -/
def matchDateTime (src : Array Char) (pos : Nat) : Option (Nat × Value × Bool) := do
  let y1 ← twoDigits src pos
  let y2 ← twoDigits src (pos + 2)
  let month ← twoDigits src (pos + 5)
  let day ← twoDigits src (pos + 8)
  unless src[pos + 4]? = some '-' && 1 ≤ month && month ≤ 12 && src[pos + 7]? = some '-' &&
      1 ≤ day && day ≤ 31 do
    none
  let year := y1 * 100 + y2
  let valid := 1 ≤ year && day ≤ daysInMonth year month
  let afterDate := pos + 10
  let timed : Option (Nat × Value) :=
    if src[afterDate]? = some 'T' || src[afterDate]? = some 't' || src[afterDate]? = some ' ' then
      (matchTime src (afterDate + 1)).map fun stop =>
        if src[stop]? = some 'Z' || src[stop]? = some 'z' then (stop + 1, .dateTime)
        else
          let offset :=
            if src[stop]? = some '+' || src[stop]? = some '-' then
              match twoDigits src (stop + 1), twoDigits src (stop + 4) with
              | some oh, some om =>
                if oh ≤ 23 && src[stop + 3]? = some ':' && om ≤ 59 then some (stop + 6) else none
              | _, _ => none
            else none
          (offset.getD stop, .dateTime)
    else none
  match timed with
  | some (stop, v) => some (stop, v, valid)
  | none => some (afterDate, .date, valid)

end Toml

end OccurrenceScan
