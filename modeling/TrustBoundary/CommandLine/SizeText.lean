import TrustBoundary.Logging
import TrustBoundary.Word

/-!
# Sizes as people write them

A size is a decimal number, perhaps with a fraction and an exponent, perhaps
with a unit prefix, and perhaps with a `B` for bytes at the end: `512`, `4KiB`,
`0.5 k`, `4_096b`.  Underscores and spaces in the number are ignored.  A prefix
stands for a power of 1000, or of 1024 when an `i` follows it.  Case does not
matter.

Only as many digits are kept as fit in 64 bits.  The first digit that does not
fit rounds the number, and later ones only tell how large it is.  A size that is
not a whole number is rounded to the nearest one, and half goes up.

Rounding has one hole: the greatest number of 64 bits cannot be rounded up.  A
text that asks for it is neither a size nor refused, it is a fault.
-/

set_option autoImplicit false

namespace TrustBoundary.SizeText

/-- The power that a unit prefix stands for. -/
def prefixPower (letter : Char) : Option Nat :=
  match letter.toLower with
  | 'k' => some 1
  | 'm' => some 2
  | 'g' => some 3
  | 't' => some 4
  | 'p' => some 5
  | 'e' => some 6
  | _ => none

/-- The text without its last character, if that is the given letter in either case. -/
def stripLast? (letter : Char) (text : List Char) : Option (List Char) :=
  if text.getLast?.map Char.toLower = some letter then some text.dropLast else none

/-- The number in front of a unit, and how many bytes the unit stands for. -/
def splitUnit (text : List Char) : List Char × Nat :=
  let withoutByte := (stripLast? 'b' text).getD text
  let base := if (stripLast? 'i' withoutByte).isSome then 1024 else 1000
  let withoutBinary := (stripLast? 'i' withoutByte).getD withoutByte
  match withoutBinary.getLast?.bind prefixPower with
  | some power => (withoutBinary.dropLast, Nat.pow base power)
  | none => (withoutBinary, 1)

/-- The part of a number that is being read. -/
inductive Part where
  | start
  | integer
  | fraction
  | exponent
  | negativeExponent
deriving DecidableEq, Repr

/-- What has been read of a number. -/
structure Reading where
  part : Part
  /-- The digits that fit. -/
  mantissa : Nat
  /-- Whether a digit did not fit. -/
  full : Bool
  /-- The power of ten that the places of the digits call for. -/
  scale : Int
  /-- The power of ten that is written out. -/
  exponent : Int
deriving DecidableEq, Repr

/-- What has been read before the first character. -/
def Reading.start : Reading := ⟨.start, 0, false, 0, 0⟩

/-- Why a text gives no size. -/
inductive Problem where
  /-- The text is not a number with a unit. -/
  | malformed
  /-- The size does not fit in 64 bits. -/
  | tooLarge
deriving DecidableEq, Repr

/-- What follows from a text, if not a problem or a fault. -/
abbrev Parsed (α : Type) := Except (Halt Problem) α

/-- Rounds the kept digits at the first digit that does not fit behind them. -/
def roundMantissa (mantissa digit : Nat) : Parsed Nat :=
  if digit < 5 then
    .ok mantissa
  else
    match Word.add mantissa 1 with
    | some rounded => .ok rounded
    | none => .error .fault

/-- Takes in a digit in front of the point.  A digit that is not kept stands for
one more power of ten. -/
def Reading.addInteger (reading : Reading) (digit : Nat) : Parsed Reading := do
  let longer := reading.mantissa * 10 + digit
  if reading.full then
    return { reading with scale := reading.scale + 1 }
  else if longer < Word.limit then
    return { reading with part := .integer, mantissa := longer }
  else
    let mantissa ← roundMantissa reading.mantissa digit
    return { reading with full := true, mantissa, scale := reading.scale + 1 }

/-- Takes in a digit behind the point.  A digit that is kept takes a power of
ten away. -/
def Reading.addFraction (reading : Reading) (digit : Nat) : Parsed Reading := do
  let longer := reading.mantissa * 10 + digit
  if reading.full then
    return reading
  else if longer < Word.limit then
    return { reading with mantissa := longer, scale := reading.scale - 1 }
  else
    let mantissa ← roundMantissa reading.mantissa digit
    return { reading with full := true, mantissa }

/-- Takes in a digit. -/
def Reading.addDigit (reading : Reading) (digit : Nat) : Parsed Reading :=
  match reading.part with
  | .start | .integer => reading.addInteger digit
  | .fraction => reading.addFraction digit
  | .exponent => .ok { reading with exponent := reading.exponent * 10 + digit }
  | .negativeExponent => .ok { reading with exponent := reading.exponent * 10 - digit }

/-- The part of a number that a mark other than a digit leads to, if the mark
may stand in this part. -/
def Part.afterMark (part : Part) (mark : Char) : Option Part :=
  match part, mark with
  | _, '_' | _, ' ' | .exponent, '+' => some part
  | .integer, '.' => some .fraction
  | .integer, 'e' | .integer, 'E' | .fraction, 'e' | .fraction, 'E' => some .exponent
  | .exponent, '-' => some .negativeExponent
  | _, _ => none

/-- Takes in one character of a number. -/
def Reading.add (reading : Reading) (letter : Char) : Parsed Reading :=
  if letter.isDigit then
    reading.addDigit (letter.toNat - '0'.toNat)
  else
    match reading.part.afterMark letter with
    | some part => .ok { reading with part }
    | none => .error (.refused .malformed)

/-- The greatest power of ten that fits in 64 bits. -/
def greatestPower : Nat := 19

/-- The number of places behind which nothing that fits in 64 bits is left. -/
def vanishingPlaces : Nat := 38

/-- The size that a number of units stands for, if it fits in 64 bits. -/
def Reading.size (reading : Reading) (unitBytes : Nat) : Option Nat :=
  match reading.exponent + reading.scale with
  | .ofNat power =>
    if power ≤ greatestPower then do
      let factor ← Word.mul unitBytes (Nat.pow 10 power)
      Word.mul reading.mantissa factor
    else
      none
  | .negSucc places =>
    if places + 1 ≤ vanishingPlaces then
      let divisor := Nat.pow 10 (places + 1)
      Word.fit ((reading.mantissa * unitBytes + divisor / 2) / divisor)
    else
      some 0

/-- The size that a text gives. -/
def parse (text : String) : Parsed Nat := do
  let (number, unitBytes) := splitUnit text.toList
  let reading ← number.foldlM Reading.add Reading.start
  if reading.part = .start then
    .error (.refused .malformed)
  else
    match reading.size unitBytes with
    | some size => .ok size
    | none => .error (.refused .tooLarge)

end TrustBoundary.SizeText
