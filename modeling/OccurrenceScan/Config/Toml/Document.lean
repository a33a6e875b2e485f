import OccurrenceScan.Config.Toml.Lexeme
import OccurrenceScan.Config.Toml.Marks

namespace OccurrenceScan

namespace Toml

/-!
# Reading a TOML document

A document is read statement by statement, one to a line: a key/value pair, a `[table]` header,
an `[[array]]` header, a comment or nothing. A header names the table that the pairs after it go
into. A dotted key makes the tables it passes through. A key may be defined only once, a table
declared only once, and an inline table or array, once written, is closed to additions; the
marks of `Toml.Marks` keep these rules. Every failure names the position where it was found.

The readers of nested values count down a budget that the length of the document bounds, so
each reader is total; a budget of twice the document's length is never used up, since every
step reads at least one character.
-/

/-- Whether a value is a table or an array, which are frozen once written inline. -/
def Value.isContainer : Value → Bool
  | .array _ => true
  | .table _ => true
  | _ => false

/-- Reads one part of a key: bare, literal or basic. -/
def readKeyPart (src : Array Char) (pos : Nat) : Parse (Nat × String) :=
  match src[pos]? with
  | some c =>
    if isBareKeyChar c then
      let stop := skipWhile src isBareKeyChar pos
      pure (stop, String.ofList (slice src pos stop))
    else if c = '\'' then (readLiteral src pos).map fun (p, cs) => (p, String.ofList cs)
    else if c = '"' then (readBasic src (pos + 1) false).map fun (p, cs) => (p, String.ofList cs)
    else fail pos "Invalid initial character for a key part"
  | none => fail pos "Invalid initial character for a key part"

/-- Reads further dotted parts of a key. -/
def readKeyRest (src : Array Char) : Nat → Nat → List String → Parse (Nat × List String)
  | 0, pos, key => pure (pos, key)
  | fuel + 1, pos, key =>
    if src[pos]? ≠ some '.' then pure (pos, key)
    else do
      let (pos, part) ← readKeyPart src (skipWhile src isBlank (pos + 1))
      readKeyRest src fuel (skipWhile src isBlank pos) (key ++ [part])

/-- Reads a key, dotted or not, and the blanks after it. -/
def readKey (src : Array Char) (pos : Nat) : Parse (Nat × List String) := do
  let (pos, part) ← readKeyPart src pos
  readKeyRest src (src.size + 1) (skipWhile src isBlank pos) [part]

/-- Reads a value that is neither a string, a boolean, an array nor a table: a date or time, a
number, or one of the special floats. -/
def readScalar (src : Array Char) (pos : Nat) : Parse (Nat × Value) :=
  match matchDateTime src pos with
  | some (stop, v, valid) => if valid then pure (stop, v) else fail pos "Invalid date or datetime"
  | none =>
    match matchTime src pos with
    | some stop => pure (stop, .time)
    | none =>
      match matchNumber src pos with
      | some (stop, isFloat) =>
        pure (stop, if isFloat then .float else .integer (integerValue (slice src pos stop)))
      | none =>
        let three := slice src pos (pos + 3)
        let four := slice src pos (pos + 4)
        if three = ['i', 'n', 'f'] || three = ['n', 'a', 'n'] then pure (pos + 3, .float)
        else if four = ['-', 'i', 'n', 'f'] || four = ['+', 'i', 'n', 'f'] ||
            four = ['-', 'n', 'a', 'n'] || four = ['+', 'n', 'a', 'n'] then pure (pos + 4, .float)
        else fail pos "Invalid value"

/-- The string value of characters. -/
def stringValue (r : Nat × List Char) : Nat × Value :=
  (r.1, .string (String.ofList r.2))

mutual

/-- Reads a value at a position. -/
def readValue (src : Array Char) : Nat → Nat → Parse (Nat × Value)
  | 0, pos => fail pos "Invalid value"
  | fuel + 1, pos =>
    match src[pos]? with
    | some '"' =>
      if startsAt src pos ['"', '"', '"'] then (readMultiline src pos false).map stringValue
      else (readBasic src (pos + 1) false).map stringValue
    | some '\'' =>
      if startsAt src pos ['\'', '\'', '\''] then (readMultiline src pos true).map stringValue
      else (readLiteral src pos).map stringValue
    | some '[' => do
      let pos ← skipArrayBlanks src (pos + 1) (src.size + 1)
      if startsAt src pos [']'] then pure (pos + 1, .array [])
      else readArrayItems src fuel pos []
    | some '{' =>
      let pos := skipWhile src isBlank (pos + 1)
      if startsAt src pos ['}'] then pure (pos + 1, .table [])
      else readInlinePairs src fuel pos [] {}
    | c =>
      if c = some 't' && startsAt src pos ['t', 'r', 'u', 'e'] then pure (pos + 4, .boolean true)
      else if c = some 'f' && startsAt src pos ['f', 'a', 'l', 's', 'e'] then
        pure (pos + 5, .boolean false)
      else readScalar src pos

/-- Reads the items of an array from its first item on, `acc` holding those already read. -/
def readArrayItems (src : Array Char) : Nat → Nat → List Value → Parse (Nat × Value)
  | 0, pos, _ => fail pos "Unclosed array"
  | fuel + 1, pos, acc => do
    let (pos, v) ← readValue src fuel pos
    let acc := acc ++ [v]
    let pos ← skipArrayBlanks src pos (src.size + 1)
    match src[pos]? with
    | some ']' => pure (pos + 1, .array acc)
    | some ',' =>
      let pos ← skipArrayBlanks src (pos + 1) (src.size + 1)
      if startsAt src pos [']'] then pure (pos + 1, .array acc)
      else readArrayItems src fuel pos acc
    | _ => fail pos "Unclosed array"

/-- Reads the pairs of an inline table from its first pair on, into `table`. -/
def readInlinePairs (src : Array Char) : Nat → Nat → Table → Marks → Parse (Nat × Value)
  | 0, pos, _, _ => fail pos "Unclosed inline table"
  | fuel + 1, pos, table, marks => do
    let (pos, key, v) ← readKeyValue src fuel pos
    let stem := key.getLast?.getD ""
    if marks.has key .frozen then
      fail pos ("Cannot mutate immutable namespace " ++ keyText key)
    else
      match table.updateAt false
          (fun t => if t.has stem then some (t, true) else some (t.put stem v, false)) key.dropLast with
      | none => fail pos "Cannot overwrite a value"
      | some (_, true) => fail pos ("Duplicate inline table key " ++ Literal.quote stem)
      | some (table, false) =>
        let pos := skipWhile src isBlank pos
        match src[pos]? with
        | some '}' => pure (pos + 1, .table table)
        | some ',' =>
          let marks := if v.isContainer then marks.set key .frozen true else marks
          readInlinePairs src fuel (skipWhile src isBlank (pos + 1)) table marks
        | _ => fail pos "Unclosed inline table"

/-- Reads a key, `=` and a value. -/
def readKeyValue (src : Array Char) : Nat → Nat → Parse (Nat × List String × Value)
  | 0, pos => fail pos "Invalid value"
  | fuel + 1, pos => do
    let (pos, key) ← readKey src pos
    if src[pos]? ≠ some '=' then
      fail pos "Expected '=' after a key in a key/value pair"
    else
      let (pos, v) ← readValue src fuel (skipWhile src isBlank (pos + 1))
      pure (pos, key, v)

end

/-- A document being read: the table so far and its marks. -/
structure DocState where
  table : Table := []
  marks : Marks := {}

/-- The budget of the value readers for a document. -/
def valueBudget (src : Array Char) : Nat :=
  2 * src.size + 2

/-- Reads a key/value pair into the table named by `header`. -/
def pairRule (src : Array Char) (pos : Nat) (header : List String) (st : DocState) :
    Parse (Nat × DocState) := do
  let (pos, key, v) ← readKeyValue src (valueBudget src) pos
  let stem := key.getLast?.getD ""
  let parent := header ++ key.dropLast
  let passed := (List.range (key.length - 1)).map fun i => header ++ key.take (i + 1)
  let step (ms : Marks) (k : List String) : Parse Marks :=
    if ms.has k .explicit then fail pos ("Cannot redefine namespace " ++ keyText k)
    else pure (ms.defer k .explicit)
  let marks ← passed.foldlM step st.marks
  if marks.has parent .frozen then
    fail pos ("Cannot mutate immutable namespace " ++ keyText parent)
  else
    match st.table.updateAt true
        (fun t => if t.has stem then some (t, true) else some (t.put stem v, false)) parent with
    | none => fail pos "Cannot overwrite a value"
    | some (_, true) => fail pos "Cannot overwrite a value"
    | some (table, false) =>
      let marks := if v.isContainer then marks.set (header ++ key) .frozen true else marks
      pure (pos, ⟨table, marks⟩)

/-- Reads a `[table]` header that starts at a position. -/
def tableRule (src : Array Char) (pos : Nat) (st : DocState) :
    Parse (Nat × List String × DocState) := do
  let (pos, key) ← readKey src (skipWhile src isBlank (pos + 1))
  if st.marks.has key .explicit || st.marks.has key .frozen then
    fail pos ("Cannot declare " ++ keyText key ++ " twice")
  else
    let marks := st.marks.set key .explicit false
    match st.table.updateAt true (fun t => some (t, ())) key with
    | none => fail pos "Cannot overwrite a value"
    | some (table, _) =>
      if startsAt src pos [']'] then pure (pos + 1, key, ⟨table, marks⟩)
      else fail pos "Expected ']' at the end of a table declaration"

/-- Reads an `[[array]]` header that starts at a position, adding a table to the array. -/
def arrayRule (src : Array Char) (pos : Nat) (st : DocState) :
    Parse (Nat × List String × DocState) := do
  let (pos, key) ← readKey src (skipWhile src isBlank (pos + 2))
  if st.marks.has key .frozen then
    fail pos ("Cannot mutate immutable namespace " ++ keyText key)
  else
    let marks := (st.marks.clearBelow key).set key .explicit false
    let stem := key.getLast?.getD ""
    let append (t : Table) : Option (Table × Unit) :=
      match t.get? stem with
      | none => some (t.put stem (.array [.table []]), ())
      | some (.array items) => some (t.put stem (.array (items ++ [.table []])), ())
      | some _ => none
    match st.table.updateAt true append key.dropLast with
    | none => fail pos "Cannot overwrite a value"
    | some (table, _) =>
      if startsAt src pos [']', ']'] then pure (pos + 2, key, ⟨table, marks⟩)
      else fail pos "Expected ']]' at the end of an array declaration"

/-- Whether a character may start a key. -/
def isKeyStart (c : Char) : Bool :=
  isBareKeyChar c || c = '"' || c = '\''

/-- Reads the statements of a document from a position, in the table named by `header`. -/
def readStatements (src : Array Char) : Nat → Nat → List String → DocState → Parse Table
  | 0, _, _, st => pure st.table
  | fuel + 1, pos, header, st => do
    let pos := skipWhile src isBlank pos
    match src[pos]? with
    | none => pure st.table
    | some '\n' => readStatements src fuel (pos + 1) header st
    | some c =>
      let (pos, header, st) ←
        if isKeyStart c then do
          let (pos, st) ← pairRule src pos header st
          pure (skipWhile src isBlank pos, header, st)
        else if c = '[' then do
          let st := { st with marks := st.marks.settle }
          let (pos, header, st) ←
            if src[pos + 1]? = some '[' then arrayRule src pos st else tableRule src pos st
          pure (skipWhile src isBlank pos, header, st)
        else if c ≠ '#' then fail pos "Invalid statement"
        else pure (pos, header, st)
      let pos ← skipComment src pos
      match src[pos]? with
      | none => pure st.table
      | some '\n' => readStatements src fuel (pos + 1) header st
      | some _ => fail pos "Expected newline or end of document after a statement"

/-- Replaces each carriage return and line feed pair by a line feed. -/
def joinCrLf : List Char → List Char
  | '\r' :: '\n' :: rest => '\n' :: joinCrLf rest
  | c :: rest => c :: joinCrLf rest
  | [] => []

/-- Reads a TOML document into its table, or reports the first failure with its coordinates. -/
def parse (text : String) : Except String Table :=
  let src := (joinCrLf text.toList).toArray
  match readStatements src (src.size + 1) 0 [] {} with
  | .ok t => .ok t
  | .error e => .error (e.text src)

end Toml

end OccurrenceScan
