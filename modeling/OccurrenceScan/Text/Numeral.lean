import OccurrenceScan.Text.Blank

namespace OccurrenceScan

namespace Numeral

/-!
# Numerals

Which texts read as a number: a real number, a complex number, a whole number in base ten or in
the base its prefix names, or a slice of whole numbers. The command line uses this to tell a
negative number, which is a value, from an option.

A text is first brought to ASCII. A blank becomes a space, and a decimal digit of any script
becomes its ASCII digit. Any other character from DEL up cuts the text short at a `?`, which
no number contains. An underscore may stand only between two digits, and is then dropped.

A complex number is read with optional spaces at either end and optional parentheses around the
whole. It may be a real number, an imaginary one (a real number or a bare sign followed by `j`
or `J`), or a real part followed by a signed imaginary part. A lone `j` stands for one. A real
number is a decimal with an optional sign, fraction and exponent, where the mantissa has at least
one digit. It may also be `inf`, `infinity` or `nan` in any case, after an optional sign. A real
number on its own may have spaces at either end, but no parentheses.

A whole number has an optional sign and digits, with single underscores between digits, and may
have spaces at either end. In base ten any digits will do. With a prefix it may instead be
hexadecimal (`0x`), octal (`0o`) or binary (`0b`), in either case, and an underscore may follow
the prefix. Without a prefix, a number starting with `0` must then be zero, as in `00` or `0_0`.
A slice is two or three whole numbers in base ten separated by colons, any of which may be
missing or blank, as in `-1:`, `-1: :` or `-1:2:3`.
-/

/-- The first code point of each run of ten decimal digits, zero to nine, in Unicode 14.0. -/
def digitRuns : List Nat :=
  [0x30, 0x660, 0x6f0, 0x7c0, 0x966, 0x9e6, 0xa66, 0xae6, 0xb66, 0xbe6, 0xc66, 0xce6, 0xd66, 0xde6,
   0xe50, 0xed0, 0xf20, 0x1040, 0x1090, 0x17e0, 0x1810, 0x1946, 0x19d0, 0x1a80, 0x1a90, 0x1b50,
   0x1bb0, 0x1c40, 0x1c50, 0xa620, 0xa8d0, 0xa900, 0xa9d0, 0xa9f0, 0xaa50, 0xabf0, 0xff10, 0x104a0,
   0x10d30, 0x11066, 0x110f0, 0x11136, 0x111d0, 0x112f0, 0x11450, 0x114d0, 0x11650, 0x116c0,
   0x11730, 0x118e0, 0x11950, 0x11c50, 0x11d50, 0x11da0, 0x16a60, 0x16ac0, 0x16b50, 0x1d7ce,
   0x1d7d8, 0x1d7e2, 0x1d7ec, 0x1d7f6, 0x1e140, 0x1e2f0, 0x1e950, 0x1fbf0]

/-- The value of a decimal digit of any script, if the character is one. -/
def digitValue? (c : Char) : Option Nat :=
  digitRuns.findSome? fun start =>
    if start ≤ c.toNat ∧ c.toNat < start + 10 then some (c.toNat - start) else none

/-- Brings a text to ASCII: blanks become spaces and digits ASCII digits, and the first other
character from DEL up ends the text as a `?`. -/
def asciiForm : List Char → List Char
  | [] => []
  | c :: cs =>
    if c.toNat < 127 then c :: asciiForm cs
    else if Blank.isBlank c then ' ' :: asciiForm cs
    else
      match digitValue? c with
      | some d => Char.ofNat (48 + d) :: asciiForm cs
      | none => ['?']

/-- Whether every underscore of a text stands between two digits, the character before the
text being `previous`. -/
def underscoresFit (previous : Option Char) : List Char → Bool
  | [] => true
  | c :: cs =>
    if c = '_' then
      previous.any Char.isDigit && cs.head?.any Char.isDigit && underscoresFit (some c) cs
    else underscoresFit (some c) cs

/-- A text without its underscores, if each stands between two digits. -/
def dropUnderscores (cs : List Char) : Option (List Char) :=
  if underscoresFit none cs then some (cs.filter (· ≠ '_')) else none

/-- Whether a character is an ASCII space: space, tab, line feed, vertical tab, form feed or
carriage return. -/
def isSpace (c : Char) : Bool :=
  c = ' ' || (9 ≤ c.toNat && c.toNat ≤ 13)

/-- A text after its sign, if it starts with one. -/
def unsigned : List Char → List Char
  | '+' :: cs => cs
  | '-' :: cs => cs
  | cs => cs

/-- What follows an exponent at the start of a text: `e` or `E`, an optional sign and at least
one digit. Without digits there is no exponent, and the text stays as it is. -/
def afterExponent : List Char → List Char
  | [] => []
  | e :: cs =>
    if (e = 'e' || e = 'E') && (unsigned cs).head?.any Char.isDigit then
      (unsigned cs).dropWhile Char.isDigit
    else e :: cs

/-- What follows `inf`, `infinity` or `nan`, in any case and after an optional sign, at the
start of a text, if one of them stands there. The longer `infinity` is taken when it fits. -/
def afterSpecial (cs : List Char) : Option (List Char) :=
  let body := unsigned cs
  let lower := body.map Char.toLower
  if lower.take 3 = ['i', 'n', 'f'] then
    if (lower.drop 3).take 5 = ['i', 'n', 'i', 't', 'y'] then some (body.drop 8) else some (body.drop 3)
  else if lower.take 3 = ['n', 'a', 'n'] then some (body.drop 3)
  else none

/-- What follows the longest real number at the start of a text, if one stands there. -/
def afterReal (cs : List Char) : Option (List Char) :=
  let body := unsigned cs
  let whole := (body.takeWhile Char.isDigit).length
  let afterWhole := body.dropWhile Char.isDigit
  let (fraction, afterMantissa) : Nat × List Char :=
    match afterWhole with
    | '.' :: rest => ((rest.takeWhile Char.isDigit).length, rest.dropWhile Char.isDigit)
    | _ => (0, afterWhole)
  if whole + fraction = 0 then afterSpecial cs else some (afterExponent afterMantissa)

/-- The text after an imaginary mark `j` or `J` at its start, if there is one. -/
def afterMark : List Char → Option (List Char)
  | c :: cs => if c = 'j' || c = 'J' then some cs else none
  | [] => none

/-- What follows a complex number at the start of a text, if one stands there: a real part, an
imaginary part, or both. -/
def afterComplex (cs : List Char) : Option (List Char) :=
  match afterReal cs with
  | some [] => some []
  | some (c :: rest) =>
    if c = '+' || c = '-' then afterMark ((afterReal (c :: rest)).getD rest)
    else if c = 'j' || c = 'J' then some rest
    else some (c :: rest)
  | none => afterMark (unsigned cs)

/-- Whether a text reads as a number, real or complex. -/
def isComplex (text : String) : Bool :=
  match dropUnderscores (asciiForm text.toList) with
  | none => false
  | some cs =>
    let cs := cs.dropWhile isSpace
    let (bracketed, cs) : Bool × List Char :=
      match cs with
      | '(' :: rest => (true, rest.dropWhile isSpace)
      | _ => (false, cs)
    match afterComplex cs with
    | none => false
    | some rest =>
      let rest := rest.dropWhile isSpace
      if bracketed then
        match rest with
        | ')' :: more => (more.dropWhile isSpace).isEmpty
        | _ => false
      else rest.isEmpty

/-- The value of a digit of a base up to sixteen, if the character is one. -/
def digitOf? (c : Char) : Option Nat :=
  if '0' ≤ c ∧ c ≤ '9' then some (c.toNat - '0'.toNat)
  else if 'a' ≤ c ∧ c ≤ 'f' then some (c.toNat - 'a'.toNat + 10)
  else if 'A' ≤ c ∧ c ≤ 'F' then some (c.toNat - 'A'.toNat + 10)
  else none

/-- Whether a character is a digit of a base. -/
def isDigitIn (base : Nat) (c : Char) : Bool :=
  (digitOf? c).any (· < base)

/-- Whether a run of digits and underscores has an underscore at either end or two together. -/
def misplacesUnderscore (run : List Char) : Bool :=
  run.head? = some '_' || run.getLast? = some '_' || (run.zip run.tail).any fun (a, b) => a = '_' && b = '_'

/-- A text after one underscore, if it starts with one. -/
def skipUnderscore : List Char → List Char
  | '_' :: cs => cs
  | cs => cs

/-- The base a whole number is written in, its digits and whether it must be zero, read from the
characters after its sign. Without `prefixed` the base is ten; with it a prefix may name it. -/
def baseOf (prefixed : Bool) (cs : List Char) : Nat × List Char × Bool :=
  if prefixed then
    match cs with
    | '0' :: x :: more =>
      if x = 'x' || x = 'X' then (16, skipUnderscore more, false)
      else if x = 'o' || x = 'O' then (8, skipUnderscore more, false)
      else if x = 'b' || x = 'B' then (2, skipUnderscore more, false)
      else (10, cs, true)
    | _ => (10, cs, false)
  else (10, cs, false)

/-- Whether a text reads as a whole number, in base ten or, with `prefixed`, in the base its
prefix names. -/
def isWhole (prefixed : Bool) (text : String) : Bool :=
  let (base, body, zeroOnly) := baseOf prefixed (unsigned ((asciiForm text.toList).dropWhile isSpace))
  let run := body.takeWhile fun c => isDigitIn base c || c = '_'
  let rest := body.dropWhile fun c => isDigitIn base c || c = '_'
  run ≠ [] && !misplacesUnderscore run && (!zeroOnly || run.all fun c => c = '0' || c = '_') &&
    rest.all isSpace

/-- Whether a text is a slice: two or three whole numbers in base ten separated by colons, any
of which may be missing or blank. -/
def isSlice (text : String) : Bool :=
  let parts := text.splitOn ":"
  (parts.length = 2 || parts.length = 3) && parts.all fun p => p.toList.all Blank.isBlank || isWhole false p

theorem afterExponent_length_le (cs : List Char) : (afterExponent cs).length ≤ cs.length := by
  cases cs with
  | nil => simp [afterExponent]
  | cons e cs =>
    simp only [afterExponent]
    split
    · have h1 : ((unsigned cs).dropWhile Char.isDigit).length ≤ (unsigned cs).length :=
        (List.dropWhile_suffix _).length_le
      have h2 : (unsigned cs).length ≤ cs.length := by
        unfold unsigned; split <;> simp
      simp only [List.length_cons]
      omega
    · simp

end Numeral

end OccurrenceScan
