import OccurrenceScan.Bindings.Identifier
import OccurrenceScan.Text.Utf8

namespace OccurrenceScan

namespace BindingsSource

/-!
# The first token of a source

Whether a source holds code is decided by its first token. The scanner walks the UTF-8 text of
the source line by line. At the start of a line it measures the indent: a space adds one column,
a tab moves to the next multiple of eight, a form feed starts the count again, and a backslash
must end the line, which then goes on into the next one (the indent is the one before the first
backslash). A line that holds only an indent, or an indent and a comment, is skipped.

The first other byte starts the first token. An indent before it is refused. A name is read as
far as letters, digits, `_` and bytes from `80` up go; unless a string prefix and a quote open
it, or it is plain ASCII, it must be valid UTF-8 whose first character may start a name and
whose others may continue one. An ASCII control outside a name is refused as well; anything
else is code. A NUL ends the text, and reports give the line of the token.
-/

/-- What the compiler makes of a bindings source. -/
inductive Verdict where
  /-- The source is refused before it runs, for the reason given. -/
  | refused (reason : String)
  /-- The source holds nothing but blank lines and comments, so it defines nothing. -/
  | empty
  /-- The source holds code: what compiling the rest and running it gives is the system's. -/
  | code
  deriving DecidableEq, Repr

/-- Where a report places line `line` of the file named `file`. -/
def place (file : String) (line : Nat) : String :=
  " (" ++ file ++ ", line " ++ Nat.repr line ++ ")"

/-- A code point in uppercase hexadecimal of at least four digits. -/
def codePointText (n : Nat) : String :=
  let digits := (Nat.toDigits 16 n).map Char.toUpper
  String.ofList (List.replicate (4 - digits.length) '0' ++ digits)

/-- Whether a byte is an ASCII letter or digit. -/
def isAlnum (b : Nat) : Bool :=
  (48 ≤ b && b ≤ 57) || (65 ≤ b && b ≤ 90) || (97 ≤ b && b ≤ 122)

/-- Whether a byte may stand in a name: a letter, a digit, `_`, or a byte from `80` up. -/
def isNameByte (b : Nat) : Bool :=
  isAlnum b || b = 95 || 128 ≤ b

/-- Whether the bytes open a string literal: a run of prefix letters that may stand together
(`b`, `r`, `u` and `f`, in either case, with `u` alone and neither `b` nor `u` with `f`), then
a quote. -/
def opensString (sawB sawR sawU sawF : Bool) : List UInt8 → Bool
  | [] => false
  | b :: rest =>
    let c := Char.ofNat b.toNat
    let seen : Option (Bool × Bool × Bool × Bool) :=
      if !(sawB || sawU || sawF) && (c = 'b' || c = 'B') then some (true, sawR, sawU, sawF)
      else if !(sawB || sawU || sawR || sawF) && (c = 'u' || c = 'U') then
        some (sawB, sawR, true, sawF)
      else if !(sawR || sawU) && (c = 'r' || c = 'R') then some (sawB, true, sawU, sawF)
      else if !(sawF || sawB || sawU) && (c = 'f' || c = 'F') then some (sawB, sawR, sawU, true)
      else none
    match seen, rest with
    | some (b', r', u', f'), q :: _ =>
      if q = 34 || q = 39 then true else opensString b' r' u' f' rest
    | _, _ => false

/-- The first character of a name that may not stand where it does: the first must start a
name or be `_`, and the others must continue one. -/
def misplaced? : List Nat → Option Nat
  | [] => none
  | c :: rest =>
    if Identifier.isStart c || c = 95 then rest.find? fun d => !Identifier.isContinue d
    else some c

/-- The verdict on a name of the bytes `run` that starts the first token on line `line`. -/
def nameVerdict (file : String) (line : Nat) (run : List UInt8) : Verdict :=
  if run.all (· < 128) then .code
  else
    match Utf8.decode run with
    | .error e => .refused ("(unicode error) " ++ e.message ++ place file line)
    | .ok cs =>
      match misplaced? (cs.map Char.toNat) with
      | none => .code
      | some c =>
        if Identifier.isPrintable c then
          .refused ("invalid character '" ++ String.singleton (Char.ofNat c) ++ "' (U+" ++
            codePointText c ++ ")" ++ place file line)
        else .refused ("invalid non-printable character U+" ++ codePointText c ++ place file line)

/-- The verdict on the first token, which starts at index `i` on line `line`. -/
def tokenVerdict (file : String) (text : Array UInt8) (i line : Nat) : Verdict :=
  let c := (text.getD i 0).toNat
  if isNameByte c && !(48 ≤ c && c ≤ 57) then
    let rest := (text.extract i text.size).toList
    if opensString false false false false rest then .code
    else nameVerdict file line (rest.takeWhile fun b => isNameByte b.toNat)
  else if c < 128 && !(32 ≤ c && c < 127) then
    .refused ("invalid non-printable character U+" ++ codePointText c ++ place file line)
  else .code

/-- The number of bytes from index `i` before the next line feed, or before the end. -/
def lineRest (text : Array UInt8) (i : Nat) : Nat :=
  ((text.extract i text.size).toList.takeWhile (· ≠ 10)).length

/-- Scans the text of the file named `file` from index `i`, at the start of line `line` or inside
its indent: `col` is the indent so far and `cont` the indent before a first backslash, `0` when
there was none. -/
def scanFrom (file : String) (text : Array UInt8) (i line col cont : Nat) : Verdict :=
  let indent := if cont = 0 then col else cont
  if h : i < text.size then
    let c := text[i].toNat
    if c = 32 then scanFrom file text (i + 1) line (col + 1) cont
    else if c = 9 then scanFrom file text (i + 1) line ((col / 8 + 1) * 8) cont
    else if c = 12 then scanFrom file text (i + 1) line 0 cont
    else if c = 92 then
      if text.getD (i + 1) 0 ≠ 10 || text.size ≤ i + 1 then
        .refused ("unexpected character after line continuation character" ++ place file line)
      else if text.size ≤ i + 2 then .refused ("unexpected EOF while parsing" ++ place file line)
      else scanFrom file text (i + 2) (line + 1) col indent
    else if c = 35 then
      let k := lineRest text i
      if text.size ≤ i + k + 1 then .empty
      else scanFrom file text (i + k + 1) (line + 1) 0 0
    else if c = 10 then
      if text.size ≤ i + 1 then .empty else scanFrom file text (i + 1) (line + 1) 0 0
    else if 0 < indent then .refused ("unexpected indent" ++ place file line)
    else tokenVerdict file text i line
  else if 0 < indent then .refused ("unexpected indent" ++ place file line)
  else .empty
  termination_by text.size - i

/-- The verdict on the UTF-8 text of the file named `file`, read up to its first NUL. -/
def scan (file : String) (text : Array UInt8) : Verdict :=
  let upToNul := (text.toList.takeWhile (· ≠ 0)).toArray
  scanFrom file upToNul 0 1 0 0

end BindingsSource

end OccurrenceScan
