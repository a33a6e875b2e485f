import OccurrenceScan.Range
import OccurrenceScan.Text.JsonString

namespace OccurrenceScan

/-!
# JSON values

How a JSON text (RFC 8259) is read, and how a value is written compactly.

A text holds one value, with blanks (space, tab, line feed, carriage return) allowed around it
and around every bracket, brace, colon and comma. A value is `null`, `true`, `false`, a number,
a string, an array or an object. A number is an optional minus sign, an integer part that is
`0` or does not start with `0`, an optional fraction of at least one digit and an optional
exponent; it is kept as `mantissa × 10 ^ exponent`, with the digits of the fraction in the
mantissa. A string is the text between two quotes. A control character below U+0020 may not
stand in it raw; a backslash starts an escape: one of `\" \\ \/ \b \f \n \r \t`, or `\u` and
four hexadecimal digits of either case. Two `\u` escapes of a high and a low surrogate stand
for one character above U+FFFF; a surrogate escape that is not part of such a pair names no
character and is refused. An object keeps its members in the order they are written.

The writer puts no blanks anywhere, writes strings with `JsonString.quote` and numbers in
decimal.
-/

/-- A JSON value. A number is `mantissa × 10 ^ exponent`; an object keeps its members in order. -/
inductive JsonValue where
  | null
  | bool (b : Bool)
  | number (mantissa exponent : Int)
  | string (s : String)
  | array (elements : List JsonValue)
  | object (members : List (String × JsonValue))
  deriving Repr

namespace JsonValue

/-! ### Blanks and string literals -/

/-- The blanks allowed between the tokens of a JSON text. -/
def isBlank (c : Char) : Bool :=
  c = ' ' || c = '\t' || c = '\n' || c = '\r'

/-- Drops the blanks at the front of a text. -/
def skipBlanks (cs : List Char) : List Char :=
  cs.dropWhile isBlank

/-- The value of a hexadecimal digit of either case. -/
def hexValue? (c : Char) : Option Nat :=
  if '0' ≤ c ∧ c ≤ '9' then some (c.toNat - 48)
  else if 'a' ≤ c ∧ c ≤ 'f' then some (c.toNat - 87)
  else if 'A' ≤ c ∧ c ≤ 'F' then some (c.toNat - 55)
  else none

/-- The value of four hexadecimal digits. -/
def hex4? (a b c d : Char) : Option Nat :=
  match hexValue? a, hexValue? b, hexValue? c, hexValue? d with
  | some w, some x, some y, some z => some (((w * 16 + x) * 16 + y) * 16 + z)
  | _, _, _, _ => none

/-- The character a one-letter escape stands for. -/
def shortEscape? : Char → Option Char
  | '"' => some '"'
  | '\\' => some '\\'
  | '/' => some '/'
  | 'b' => some '\x08'
  | 'f' => some '\x0c'
  | 'n' => some '\n'
  | 'r' => some '\r'
  | 't' => some '\t'
  | _ => none

/-- Puts a character in front of what a string reader read. -/
def consRead (c : Char) (r : Option (List Char × List Char)) : Option (List Char × List Char) :=
  r.map fun p => (c :: p.1, p.2)

/-- Reads the characters of a string literal after its opening quote, up to and without its
closing quote, undoing the escapes. -/
def readChars : List Char → Option (List Char × List Char)
  | [] => none
  | '"' :: rest => some ([], rest)
  | '\\' :: 'u' :: a :: b :: c :: d :: rest =>
    match hex4? a b c d with
    | none => none
    | some v =>
      if v < 0xD800 ∨ 0xDFFF < v then consRead (Char.ofNat v) (readChars rest)
      else if 0xDC00 ≤ v then none
      else
        -- a high surrogate: a low surrogate escape must follow
        match rest with
        | '\\' :: 'u' :: e :: f :: g :: h :: rest' =>
          match hex4? e f g h with
          | some w =>
            if 0xDC00 ≤ w ∧ w ≤ 0xDFFF then
              consRead (Char.ofNat (0x10000 + (v - 0xD800) * 0x400 + (w - 0xDC00)))
                (readChars rest')
            else none
          | none => none
        | _ => none
  | '\\' :: e :: rest => (shortEscape? e).bind fun c => consRead c (readChars rest)
  | c :: rest => if c.toNat < 0x20 then none else consRead c (readChars rest)

/-! ### Numbers -/

/-- A non-empty run of decimal digits at the front of a text, and what follows it. -/
def readDigits (cs : List Char) : Option (List Char × List Char) :=
  let digits := cs.takeWhile Char.isDigit
  if digits.isEmpty then none else some (digits, cs.dropWhile Char.isDigit)

/-- The integer part of a number: a lone `0`, or digits that do not start with `0`. -/
def readIntegerPart (cs : List Char) : Option (List Char × List Char) :=
  if cs.head? = some '0' then some (['0'], cs.tail) else readDigits cs

/-- The digits of a fraction after its point; none when no point follows. -/
def readFraction (cs : List Char) : Option (List Char × List Char) :=
  if cs.head? = some '.' then readDigits cs.tail else some ([], cs)

/-- The value of decimal digits with a sign. -/
def signedValue (negative : Bool) (digits : List Char) : Int :=
  if negative then -(Nat.ofDigitChars 10 digits 0 : Int) else Nat.ofDigitChars 10 digits 0

/-- The exponent after `e` or `E` and an optional sign; zero when none follows. -/
def readExponent (cs : List Char) : Option (Int × List Char) :=
  if cs.head? = some 'e' ∨ cs.head? = some 'E' then
    let cs := cs.tail
    let negative := cs.head? = some '-'
    let cs := if cs.head? = some '-' ∨ cs.head? = some '+' then cs.tail else cs
    (readDigits cs).map fun p => (signedValue negative p.1, p.2)
  else some (0, cs)

/-- Reads a number: sign, integer part, fraction, exponent. -/
def readNumber (cs : List Char) : Option (JsonValue × List Char) := do
  let negative := cs.head? = some '-'
  let (whole, cs) ← readIntegerPart (if negative then cs.tail else cs)
  let (fraction, cs) ← readFraction cs
  let (exponent, cs) ← readExponent cs
  pure (.number (signedValue negative (whole ++ fraction)) (exponent - fraction.length), cs)

/-! ### Values -/

mutual

/-- Reads one value after optional blanks, and what follows it. `fuel` bounds how deep values
nest and how many elements and members are read; every nesting and every element or member
takes at least one character, so the length of the text plus one is always enough. -/
def readValue : Nat → List Char → Option (JsonValue × List Char)
  | 0, _ => none
  | fuel + 1, cs =>
    match skipBlanks cs with
    | [] => none
    | c :: rest =>
      if c = '{' then
        match skipBlanks rest with
        | '}' :: rest => some (.object [], rest)
        | _ => (readMembers fuel rest).map fun p => (.object p.1, p.2)
      else if c = '[' then
        match skipBlanks rest with
        | ']' :: rest => some (.array [], rest)
        | _ => (readElements fuel rest).map fun p => (.array p.1, p.2)
      else if c = '"' then (readChars rest).map fun p => (.string (String.ofList p.1), p.2)
      else if c = 't' then
        if rest.take 3 = ['r', 'u', 'e'] then some (.bool true, rest.drop 3) else none
      else if c = 'f' then
        if rest.take 4 = ['a', 'l', 's', 'e'] then some (.bool false, rest.drop 4) else none
      else if c = 'n' then
        if rest.take 3 = ['u', 'l', 'l'] then some (.null, rest.drop 3) else none
      else readNumber (c :: rest)

/-- Reads the members of an object after its opening brace, up to and with its closing brace. -/
def readMembers : Nat → List Char → Option (List (String × JsonValue) × List Char)
  | 0, _ => none
  | fuel + 1, cs =>
    match skipBlanks cs with
    | '"' :: rest =>
      match readChars rest with
      | none => none
      | some (key, rest) =>
        match skipBlanks rest with
        | ':' :: rest =>
          match readValue fuel rest with
          | none => none
          | some (v, rest) =>
            match skipBlanks rest with
            | ',' :: rest =>
              (readMembers fuel rest).map fun p => ((String.ofList key, v) :: p.1, p.2)
            | '}' :: rest => some ([(String.ofList key, v)], rest)
            | _ => none
        | _ => none
    | _ => none

/-- Reads the elements of an array after its opening bracket, up to and with its closing
bracket. -/
def readElements : Nat → List Char → Option (List JsonValue × List Char)
  | 0, _ => none
  | fuel + 1, cs =>
    match readValue fuel cs with
    | none => none
    | some (v, rest) =>
      match skipBlanks rest with
      | ',' :: rest => (readElements fuel rest).map fun p => (v :: p.1, p.2)
      | ']' :: rest => some ([v], rest)
      | _ => none

end

/-- Reads a JSON text: one value with nothing but blanks around it. -/
def parse (s : String) : Option JsonValue :=
  match readValue (s.length + 1) s.toList with
  | some (v, rest) => if skipBlanks rest = [] then some v else none
  | none => none

/-! ### Writing -/

mutual

/-- Writes a value with no blanks. -/
def write : JsonValue → List Char
  | .null => ['n', 'u', 'l', 'l']
  | .bool true => ['t', 'r', 'u', 'e']
  | .bool false => ['f', 'a', 'l', 's', 'e']
  | .number m e => (decimal m).toList ++ if e = 0 then [] else 'e' :: (decimal e).toList
  | .string s => (JsonString.quote s).toList
  | .array [] => ['[', ']']
  | .array (v :: vs) => '[' :: write v ++ writeElements vs
  | .object [] => ['{', '}']
  | .object ((k, v) :: ms) =>
    '{' :: (JsonString.quote k).toList ++ ':' :: write v ++ writeMembers ms

/-- Writes the elements of an array after its first, and the closing bracket. -/
def writeElements : List JsonValue → List Char
  | [] => [']']
  | v :: vs => ',' :: write v ++ writeElements vs

/-- Writes the members of an object after its first, and the closing brace. -/
def writeMembers : List (String × JsonValue) → List Char
  | [] => ['}']
  | (k, v) :: ms => ',' :: (JsonString.quote k).toList ++ ':' :: write v ++ writeMembers ms

end

end JsonValue

end OccurrenceScan
