import OccurrenceScan.Bindings.Decoding

namespace OccurrenceScan

namespace Decoding

/-!
# Punycode and IDNA

Punycode writes a string as its ASCII characters, a `-`, and then a run of base-36 digits that
say where to insert each other character (RFC 3492). Decoding reads the digits as variable-length
integers whose thresholds follow an adapting bias, and inserts each character in turn. A digit
run that ends early, a byte that is no digit, or a code point past U+10FFFF stops it.

The IDNA codec splits a source into labels at each `.`. A label is taken as ASCII unless it starts
with `xn--`; such a label is decoded as Punycode, and the result must encode back to the label
(in lowercase) or the codec fails. The profile that prepares a label before it is encoded is
taken to leave it unchanged.
-/

/-- The bias after a step of `delta`, for a string that now has `count` characters. -/
def adapt (delta : Nat) (first : Bool) (count : Nat) : Nat :=
  let delta := if first then delta / 700 else delta / 2
  let delta := delta + delta / count
  let (delta, divisions) := shrink delta 0
  divisions + 36 * delta / (delta + 38)
where
  /-- Divides `delta` by 35 until it is at most 455, counting 36 for each division. -/
  shrink (delta divisions : Nat) : Nat × Nat :=
    if h : 455 < delta then shrink (delta / 35) (divisions + 36) else (delta, divisions)
  termination_by delta
  decreasing_by omega

/-- The threshold of the `j`-th digit of an integer under the bias `bias`. -/
def threshold (j bias : Nat) : Nat :=
  let res := 36 * (j + 1) - bias
  if res < 1 then 1 else if 26 < res then 26 else res

/-- The value of a Punycode digit, in the upper case the decoder reads. -/
def digitValue? (c : Nat) : Option Nat :=
  if 0x41 ≤ c && c ≤ 0x5A then some (c - 0x41)
  else if 0x30 ≤ c && c ≤ 0x39 then some (c - 22)
  else none

/-- Reads a variable-length integer from index `k` of `ext`: its value and the index after it. -/
def integerAt (name : String) (ext : Array Nat) (bias : Nat) (k result w j : Nat) :
    Except Failure (Nat × Nat) :=
  if h : k < ext.size then
    match digitValue? ext[k] with
    | none =>
      .error (.whole name ("Invalid extended code point '" ++ String.singleton (Char.ofNat ext[k]) ++ "'"))
    | some digit =>
      let t := threshold j bias
      if digit < t then .ok (result + digit * w, k + 1)
      else integerAt name ext bias (k + 1) (result + digit * w) (w * (36 - t)) (j + 1)
  else .error (.whole name "incomplete punicode string")
  termination_by ext.size - k

theorem integerAt_advances {name : String} {ext : Array Nat} {bias k result w j value k' : Nat}
    (h : integerAt name ext bias k result w j = .ok (value, k')) : k < k' := by
  fun_induction integerAt name ext bias k result w j <;> simp_all <;> omega

/-- Inserts the characters the digits of `ext` from index `k` describe into `base`: `char` is
the last character inserted, `q` one past the last insertion point, `bias` the current bias. -/
def insertAll (name : String) (ext : Array Nat) (k : Nat) (base : Array Nat)
    (char q bias : Nat) : Except Failure (Array Nat) :=
  if k < ext.size then
    match hnext : integerAt name ext bias k 0 1 0 with
    | .error e => .error e
    | .ok (delta, k') =>
      have : k < k' := integerAt_advances hnext
      let p := q + delta
      let char := char + p / (base.size + 1)
      if 0x10FFFF < char then .error (.whole name ("Invalid character U+" ++ lowerHex char))
      else
        let p := p % (base.size + 1)
        let base := (base.extract 0 p).push char ++ base.extract p base.size
        insertAll name ext k' base char (p + 1) (adapt delta (k = 0) base.size)
  else .ok base
  termination_by ext.size - k
where
  /-- A number in lowercase hexadecimal. -/
  lowerHex (n : Nat) : String := String.ofList (Nat.toDigits 16 n)

/-- The upper case of an ASCII code point. -/
def asciiUpper (c : Nat) : Nat :=
  if 97 ≤ c && c ≤ 122 then c - 32 else c

/-- Decodes Punycode, under the name `name` for its own failures: the bytes up to the last `-`
are the basic characters, and the bytes after it the digits. Both must be ASCII, and a stop in
the digits counts its position from the first digit. -/
def punycode (name : String) (bytes : Array UInt8) : Except Failure (Array Nat) := do
  let dash := (List.range bytes.size).reverse.find? fun i => bytes.getD i 0 = 45
  let (base, digits) ← match dash with
    | none => pure (#[], bytes)
    | some pos => do
      let base ← ascii "ascii" (bytes.extract 0 pos)
      pure (base, bytes.extract (pos + 1) bytes.size)
  let ext ← ascii "ascii" digits
  insertAll name (ext.map asciiUpper) 0 base 0x80 0 72

/-- The digits of Punycode, in the lowercase an encoder writes. -/
def digitText (d : Nat) : Nat :=
  if d < 26 then 97 + d else 22 + d

/-- The digits of the variable-length integer `n` under the bias `bias`. -/
def integerDigits (n bias : Nat) : List Nat :=
  go n 0 (n + 1)
where
  /-- The digits from the `j`-th on, with `fuel` bounding their number. -/
  go (n j : Nat) : Nat → List Nat
    | 0 => []
    | fuel + 1 =>
      let t := threshold j bias
      if n < t then [digitText n]
      else digitText (t + (n - t) % (36 - t)) :: go ((n - t) / (36 - t)) (j + 1) fuel

/-- The steps of Punycode's insertion coding for the characters of `text` from 80 up: for each
such character in order of value, and each of its places in order, the distance from the last
step, counted over the characters below it. -/
def deltas (text : List Nat) : List Nat :=
  let wide := ((text.filter (128 ≤ ·)).mergeSort (· ≤ ·)).eraseDups
  let step (acc : List Nat × Nat × Int) (c : Nat) : List Nat × Nat × Int :=
    let (out, old, oldIndex) := acc
    let below := (text.filter (· < c)).length
    let visit (st : List Nat × Int × Int × Int) (x : Nat) : List Nat × Int × Int × Int :=
      let (out, delta, oldIndex, index) := st
      if x = c then
        let index := index + 1
        (out ++ [(delta + index - oldIndex - 1).toNat], 0, index, index)
      else if x < c then (out, delta, oldIndex, index + 1)
      else st
    let start : Int := ((below + 1) * (c - old) : Nat)
    let (out, _, oldIndex, _) := text.foldl visit (out, start, oldIndex, -1)
    (out, c, oldIndex)
  (wide.foldl step ([], 0x80, -1)).1

/-- The Punycode of a string: its ASCII characters, a `-` if there are any, and the digits of
the other characters' insertion steps. -/
def punycodeOf (text : List Nat) : List Nat :=
  let base := text.filter (· < 128)
  let (digits, _) := (deltas text).zipIdx.foldl (fun (acc : List Nat × Nat) (delta, points) =>
    let (out, bias) := acc
    (out ++ integerDigits delta bias, adapt delta (points = 0) (base.length + points + 1))) ([], 72)
  if base.isEmpty then digits else base ++ [45] ++ digits

/-- The prefix of a label written in Punycode. -/
def acePrefix : List Nat := [120, 110, 45, 45]

/-- How a report shows a string of ASCII bytes: `b'...'`, in double quotes when it holds a
single quote and no double quote, with the quote, the backslash and the controls escaped. -/
def bytesRepr (bytes : List Nat) : String :=
  let quote := if bytes.contains 39 && !bytes.contains 34 then '"' else '\''
  let body := bytes.foldl (fun acc b =>
    let c := Char.ofNat b
    if c = quote || b = 92 then acc.push '\\' |>.push c
    else if b = 9 then acc ++ "\\t"
    else if b = 10 then acc ++ "\\n"
    else if b = 13 then acc ++ "\\r"
    else if b < 32 || 127 ≤ b then
      acc ++ "\\x" ++ (if b < 16 then "0" else "") ++ String.ofList (Nat.toDigits 16 b)
    else acc.push c) ""
  "b" ++ String.singleton quote ++ body ++ String.singleton quote

/-- The ASCII form of a decoded label, as IDNA encodes it: the label itself when it is ASCII,
or its Punycode after the prefix; either must hold from 1 to 63 characters. -/
def asciiLabel (name : String) (label : List Nat) : Except Failure (List Nat) :=
  let fits (form : List Nat) : Except Failure (List Nat) :=
    if 0 < form.length && form.length < 64 then .ok form
    else .error (.whole name "label empty or too long")
  if label.all (· < 128) then fits label
  else if acePrefix.isPrefixOf (label.map asciiLower) then
    .error (.whole name "Label starts with ACE prefix")
  else fits (acePrefix ++ punycodeOf label)
where
  /-- The lower case of an ASCII code point. -/
  asciiLower (c : Nat) : Nat := if 65 ≤ c && c ≤ 90 then c + 32 else c

/-- Decodes one label of an IDNA source. -/
def idnaLabel (name : String) (label : Array UInt8) : Except Failure (List Nat) := do
  if 1024 < label.size then throw (.whole name "label way too long")
  let text := label.toList.map UInt8.toNat
  if !acePrefix.isPrefixOf text then return (← ascii "ascii" label).toList
  let decoded ← punycode name (label.extract 4 label.size)
  let back ← asciiLabel name decoded.toList
  let lower := text.map fun c => if 65 ≤ c && c ≤ 90 then c + 32 else c
  if lower ≠ back then
    throw (.bare ("('IDNA does not round-trip', " ++ bytesRepr text ++ ", " ++ bytesRepr back ++ ")"))
  return decoded.toList

/-- Decodes IDNA: ASCII without an `xn--` as it is, and otherwise label by label, keeping a
final `.`. -/
def idna (name : String) (bytes : Array UInt8) : Except Failure (Array Nat) := do
  let text := bytes.toList
  let hasPrefix := (List.range bytes.size).any fun i =>
    (text.drop i).take 4 = [120, 110, 45, 45]
  if bytes.isEmpty || (!hasPrefix && text.all (· < 128)) then return latin1 bytes
  let labels := text.splitOn 46
  let (labels, trailing) :=
    if labels.getLast? = some [] then (labels.dropLast, true) else (labels, false)
  let parts ← labels.mapM fun label => idnaLabel name label.toArray
  let joined := (parts.intersperse [46]).flatten
  return (if trailing then joined ++ [46] else joined).toArray

end Decoding

end OccurrenceScan
