import OccurrenceScan.Bindings.Codec
import OccurrenceScan.Bindings.Charmaps
import OccurrenceScan.Bindings.Escapes
import OccurrenceScan.Bindings.Multibyte.Codecs
import OccurrenceScan.Bindings.Punycode
import OccurrenceScan.Bindings.Tokens

namespace OccurrenceScan

namespace BindingsSource

/-!
# Bindings source

Generated bindings are a source file that is compiled before it runs. This module tells what
the compiler makes of the bytes before any of them run: whether it refuses them, and whether
they hold any code at all. What code does when it runs is not decided here
(`FileSystem.runModule`).

A source with a NUL byte is refused outright. Otherwise its line ends are made line feeds (a
carriage return, alone or before a line feed, ends a line too) and a line feed is added unless
the source ended on a lone carriage return or on a line feed that no carriage return came
before. A UTF-8 byte order mark may open the source.

The encoding is UTF-8 unless a coding cookie names another. A cookie is a comment line, alone
on its line, that holds `coding` followed by `:` or `=`, optional spaces and tabs, and a name
of ASCII letters, digits, `-`, `_` and `.`. It counts on the first line, or on the second when
the first holds nothing but blanks or a comment. The names `utf-8` and `latin-1` are first
brought to a normal form, in any case, with `_` for `-` and with any tail after a further `-`
(so `UTF_8` and `utf-8-var` read as `utf-8`, and `Latin-1` as `iso-8859-1`). A named encoding
other than `utf-8` is refused after a byte order mark. Otherwise its codec is looked up: an
unknown name or a transform is refused, the whole source is decoded with the codec, and the
decoded text must have no surrogate code point. Under the plain `utf-8` nothing is decoded up
front, so a comment may hold any bytes.

The text, decoded or not, is then scanned for its first token. A refusal that comes from the
encoding names the file and line 0.
-/

/-- The byte order mark a UTF-8 source may start with. -/
def byteOrderMark : List UInt8 := [0xEF, 0xBB, 0xBF]

/-- The name of the default encoding, in its normal form. -/
def utf8Name : List UInt8 := [0x75, 0x74, 0x66, 0x2D, 0x38]

/-- The bytes of `coding`, which a cookie holds before its name. -/
def codingWord : List UInt8 := [0x63, 0x6F, 0x64, 0x69, 0x6E, 0x67]

/-- A source with every carriage return, alone or before a line feed, made one line feed. -/
def withLineFeeds : List UInt8 → List UInt8
  | [] => []
  | [b] => if b = 13 then [10] else [b]
  | b :: c :: rest =>
    if b = 13 then
      if c = 10 then 10 :: withLineFeeds rest else 10 :: withLineFeeds (c :: rest)
    else b :: withLineFeeds (c :: rest)

/-- Whether a line feed is added at the end: unless the source ends on a lone carriage return
or on a line feed with no carriage return before it. A carriage return and line feed at the end
are followed by one more line feed. -/
def endsOpen (source : List UInt8) : Bool :=
  match source.reverse with
  | 10 :: 13 :: _ => true
  | 10 :: _ => false
  | 13 :: _ => false
  | _ => true

/-- A source with its line ends made line feeds, ended as `endsOpen` says. -/
def translate (source : List UInt8) : List UInt8 :=
  withLineFeeds source ++ (if endsOpen source then [10] else [])

/-- Whether a byte is a space, a tab or a form feed, which may stand before a comment. -/
def isIndent (b : UInt8) : Bool :=
  b = 32 || b = 9 || b = 12

/-- Whether a line holds nothing but spaces, tabs and form feeds, or a comment after them. -/
def isQuiet (line : List UInt8) : Bool :=
  match line.dropWhile isIndent with
  | [] => true
  | b :: _ => b = 35

/-- Whether a byte may stand in an encoding name: an ASCII letter or digit, `-`, `_` or `.`. -/
def isEncodingByte (b : UInt8) : Bool :=
  (48 ≤ b && b ≤ 57) || (65 ≤ b && b ≤ 90) || (97 ≤ b && b ≤ 122) || b = 45 || b = 95 || b = 46

/-- The name after the first `coding` in a text that is followed by `:` or `=`, optional spaces
and tabs, and at least one name byte. -/
def cookieName? : List UInt8 → Option (List UInt8)
  | [] => none
  | b :: rest =>
    match codingWord.isPrefixOf? (b :: rest) with
    | some (mark :: after) =>
      let name := (after.dropWhile fun c => c = 32 || c = 9).takeWhile isEncodingByte
      if (mark = 58 || mark = 61) && !name.isEmpty then some name else cookieName? rest
    | _ => cookieName? rest

/-- The encoding name a line's coding cookie gives, if the line is a comment with a cookie. -/
def cookie? (line : List UInt8) : Option (List UInt8) :=
  match line.dropWhile isIndent with
  | b :: rest => if b = 35 then cookieName? (b :: rest) else none
  | [] => none

/-- Whether a name, cut to twelve bytes, in lowercase and with `_` for `-`, is one of `forms`
or starts with one of them followed by `-`. -/
def hasForm (forms : List (List UInt8)) (name : List UInt8) : Bool :=
  let folded := (name.take 12).map fun b =>
    if b = 95 then 45 else if 65 ≤ b && b ≤ 90 then b + 32 else b
  forms.any fun form => folded = form || (form ++ [45]).isPrefixOf folded

/-- The normal form of an encoding name: `utf-8` for the spellings of UTF-8, `iso-8859-1` for
those of Latin-1, and the name itself otherwise. -/
def normalName (name : List UInt8) : List UInt8 :=
  if hasForm [utf8Name] name then utf8Name
  else if hasForm [(String.toUTF8 "latin-1").toList, (String.toUTF8 "iso-8859-1").toList,
      (String.toUTF8 "iso-latin-1").toList] name then (String.toUTF8 "iso-8859-1").toList
  else name

/-- The encoding the cookie of a source's lines names, in its normal form: the first line's, or
the second's when the first is quiet. -/
def declared? : List (List UInt8) → Option (List UInt8)
  | [] => none
  | first :: rest =>
    match cookie? first with
    | some name => some (normalName name)
    | none => if isQuiet first then (rest.head?.bind cookie?).map normalName else none

/-- The text of an encoding name, whose bytes are ASCII. -/
def nameText (name : List UInt8) : String :=
  String.ofList (name.map fun b => Char.ofNat b.toNat)

/-- How a report shows a surrogate: a backslash, `u` and four lowercase hexadecimal digits. -/
def surrogateText (c : Nat) : String :=
  "\\u" ++ String.ofList (Nat.toDigits 16 c)

/-- The UTF-8 bytes of decoded text, which may not hold a surrogate: the first run of
surrogates is reported by its positions. -/
def toUtf8 (text : List Nat) : Except String (Array UInt8) :=
  match text.findIdx? Decoding.isSurrogate with
  | some i =>
    let run := ((text.drop i).takeWhile Decoding.isSurrogate).length
    if run = 1 then
      .error ("'utf-8' codec can't encode character '" ++ surrogateText (text.getD i 0) ++
        "' in position " ++ Nat.repr i ++ ": surrogates not allowed")
    else
      .error ("'utf-8' codec can't encode characters in position " ++ Nat.repr i ++ "-" ++
        Nat.repr (i + run - 1) ++ ": surrogates not allowed")
  | none => .ok (text.flatMap fun c => Utf8.encodeChar (Char.ofNat c)).toArray

/-- Decodes a source with the codec module `module`, which the name `name` found. -/
def decodeWith (module name : String) (bytes : Array UInt8) :
    Except Decoding.Failure (Array Nat) :=
  match Charmap.table? module with
  | some table => Decoding.charmap table bytes
  | none =>
    match module with
    | "ascii" => Decoding.ascii "ascii" bytes
    | "latin_1" => .ok (Decoding.latin1 bytes)
    | "charmap" => .ok (Decoding.latin1 bytes)
    | "utf_8" => Decoding.utf8 bytes
    | "utf_8_sig" =>
      if bytes.extract 0 3 = byteOrderMark.toArray then Decoding.utf8 (bytes.extract 3 bytes.size)
      else Decoding.utf8 bytes
    | "utf_16" => Decoding.utf16 none bytes
    | "utf_16_le" => Decoding.utf16 (some .little) bytes
    | "utf_16_be" => Decoding.utf16 (some .big) bytes
    | "utf_32" => Decoding.utf32 none bytes
    | "utf_32_le" => Decoding.utf32 (some .little) bytes
    | "utf_32_be" => Decoding.utf32 (some .big) bytes
    | "utf_7" => Decoding.utf7 bytes
    | "unicode_escape" => Decoding.unicodeEscape (fun _ => some 0x61) bytes
    | "raw_unicode_escape" => Decoding.rawUnicodeEscape bytes
    | "punycode" => Decoding.punycode name bytes
    | "idna" => Decoding.idna name bytes
    | "undefined" => .error (.whole name "undefined encoding")
    | _ =>
      match Multibyte.decoder? module with
      | some decode => decode bytes
      | none => .error (.internal name)

/-- The UTF-8 text of a source decoded with the encoding named `name`, or why it cannot be
had, with whether the report is placed in the source. -/
def decodeSource (name : String) (bytes : Array UInt8) : Except (String × Bool) (Array UInt8) :=
  match Codec.lookup? name with
  | none => .error ("unknown encoding: " ++ name, true)
  | some module =>
    if Codec.transforms.contains module then
      .error ("'" ++ name ++ "' is not a text encoding; use codecs.decode() to handle arbitrary codecs",
        true)
    else
      match decodeWith module name bytes with
      | .error failure => .error (failure.message, failure.placed)
      | .ok text => (toUtf8 text.toList).mapError fun reason => (reason, true)

/-- What the compiler makes of the source bytes of the file named `file`. -/
def examine (file : String) (source : List UInt8) : Verdict :=
  if source.contains 0 then .refused "source code string cannot contain null bytes"
  else
    let translated := translate source
    let marked := translated.take 3 = byteOrderMark
    let text := if marked then translated.drop 3 else translated
    let lines := (text.splitOn 10).dropLast
    match declared? lines with
    | none => scan file text.toArray
    | some name =>
      if name = utf8Name then scan file text.toArray
      else if marked then
        .refused ("encoding problem: " ++ nameText name ++ " with BOM" ++ place file 0)
      else
        match decodeSource (nameText name) text.toArray with
        | .error (reason, placed) => .refused (if placed then reason ++ place file 0 else reason)
        | .ok utf8 => scan file utf8

end BindingsSource

end OccurrenceScan
