import OccurrenceScan.Bindings.Decoding
import OccurrenceScan.Bindings.Charset

namespace OccurrenceScan

namespace Multibyte

/-!
# Multibyte codecs

The East Asian codecs read a source unit by unit. A unit is an ASCII byte, or a lead byte with
the bytes after it, and it stands for one character or, in a few sets, for a letter and a
combining mark. A codec's step looks at the bytes from a position and says what starts there:
the characters and the number of bytes they take; or that the bytes from there form no
character, with the number of bytes to report; or that the input ends before the unit does.
Decoding stops at the first unit that is not a character: an illegal multibyte sequence, or an
incomplete one that runs to the end of the input.

A step decides from the bytes it has asked for: a lead byte that needs a trail byte makes the
input too short when none follows, whatever the missing bytes would have been.
-/

/-- What a codec reads at one position of its input. -/
inductive Step where
  /-- The next `width` bytes stand for the characters `points`. -/
  | chars (points : List Nat) (width : Nat)
  /-- The next `width` bytes are reported as forming no character. -/
  | illegal (width : Nat)
  /-- The input ends before the unit that starts here does. -/
  | short
  deriving DecidableEq, Repr

/-- The reason given for bytes that form no character. -/
def illegalReason : String := "illegal multibyte sequence"

/-- The reason given for a unit cut off by the end of the input. -/
def shortReason : String := "incomplete multibyte sequence"

/-- The byte at index `i`, or `0` past the end. -/
def byteAt (bytes : Array UInt8) (i : Nat) : Nat :=
  (bytes.getD i 0).toNat

/-- A step's reading of a set lookup: the characters found, taking `width` bytes, or one byte
reported when the set has nothing there. -/
def found (width : Nat) : Option (List Nat) → Step
  | some points => .chars points width
  | none => .illegal 1

/-- Decodes under the codec name `codec` with a step that reads one unit at a time. -/
def decodeUnits (codec : String) (step : Array UInt8 → Nat → Step) (bytes : Array UInt8) :
    Except Decoding.Failure (Array Nat) :=
  go 0 #[]
where
  /-- Decodes from index `i`, the code points so far in `acc`. -/
  go (i : Nat) (acc : Array Nat) : Except Decoding.Failure (Array Nat) :=
    if i < bytes.size then
      match step bytes i with
      | .chars points width => go (i + max width 1) (acc ++ points.toArray)
      | .illegal width => .error (Decoding.Failure.span codec bytes i (i + width) illegalReason)
      | .short => .error (Decoding.Failure.span codec bytes i bytes.size shortReason)
    else .ok acc
  termination_by bytes.size - i

end Multibyte

end OccurrenceScan
