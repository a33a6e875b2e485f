import OccurrenceScan.Text.Printable

namespace OccurrenceScan

namespace Literal

/-!
# Quoted string literals

Messages show a name as a quoted literal. The quote is the apostrophe, unless the text holds an
apostrophe and no double quote; then it is the double quote. Inside, the chosen quote and the
backslash are escaped with a backslash, tab, line feed and carriage return take their short
escapes, and any other character that is not printable is written by its code point in lowercase
hex: `\xHH` below U+0100, `\uHHHH` below U+10000, `\UHHHHHHHH` above. Everything else stands
for itself. Which characters are printable is a table of the Unicode standard
(`Printable.isPrintable`); the escaping is written for any such test (`quoteWith`).
-/

/-- The lowercase hexadecimal digits of `n`, padded with zeros to `width`. -/
def hexDigits (width n : Nat) : List Char :=
  (List.range width).reverse.map fun i =>
    let d := n / Nat.pow 16 i % 16
    if d < 10 then Char.ofNat (48 + d) else Char.ofNat (87 + d)

/-- The escape of one character inside a literal quoted with `q`, where `printable` tells which
characters may stand for themselves. -/
def escapeChar (printable : Char → Bool) (q c : Char) : List Char :=
  if c = q ∨ c = '\\' then ['\\', c]
  else if c = '\t' then ['\\', 't']
  else if c = '\n' then ['\\', 'n']
  else if c = '\r' then ['\\', 'r']
  else if printable c then [c]
  else if c.toNat < 0x100 then '\\' :: 'x' :: hexDigits 2 c.toNat
  else if c.toNat < 0x10000 then '\\' :: 'u' :: hexDigits 4 c.toNat
  else '\\' :: 'U' :: hexDigits 8 c.toNat

/-- The quote a text is written with. -/
def quoteFor (cs : List Char) : Char :=
  if '\'' ∈ cs ∧ '"' ∉ cs then '"' else '\''

/-- The quoted literal of a text, showing as themselves the characters `printable` accepts. -/
def quoteWith (printable : Char → Bool) (s : String) : String :=
  let q := quoteFor s.toList
  String.ofList (q :: s.toList.flatMap (escapeChar printable q) ++ [q])

/-- The quoted literal of a text. -/
def quote (s : String) : String :=
  quoteWith Printable.isPrintable s

end Literal

end OccurrenceScan
