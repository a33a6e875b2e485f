namespace OccurrenceScan

/-!
# JSON string literals

A string is written as a JSON literal in double quotes. The quote and the backslash are escaped,
backspace, tab, line feed, form feed and carriage return take their short escapes, every other
code point below U+0020 is written `\u00xx` with lowercase hex digits, and everything else,
DEL and the Unicode line separators included, is written as itself.
-/

namespace JsonString

/-- The lowercase hexadecimal digit of a value below sixteen. -/
def hexDigit (n : Nat) : Char :=
  if n < 10 then Char.ofNat (48 + n) else Char.ofNat (87 + n)

/-- The escape of one code point inside a JSON string literal. -/
def escapeChar (c : Char) : List Char :=
  if c = '"' then ['\\', '"']
  else if c = '\\' then ['\\', '\\']
  else if c = '\x08' then ['\\', 'b']
  else if c = '\t' then ['\\', 't']
  else if c = '\n' then ['\\', 'n']
  else if c = '\x0c' then ['\\', 'f']
  else if c = '\r' then ['\\', 'r']
  else if c.toNat < 32 then ['\\', 'u', '0', '0', hexDigit (c.toNat / 16), hexDigit (c.toNat % 16)]
  else [c]

/-- The characters between the quotes of the literal for `cs`. -/
def body (cs : List Char) : List Char :=
  cs.flatMap escapeChar

/-- The JSON literal of a string, quotes included. -/
def quote (s : String) : String :=
  String.ofList ('"' :: body s.toList ++ ['"'])

end JsonString

end OccurrenceScan
