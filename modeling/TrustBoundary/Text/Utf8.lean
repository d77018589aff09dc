import TrustBoundary.Bytes
import TrustBoundary.Word

/-!
# Decoding one UTF-8 character

The accepted grammar is that of RFC 3629 with the ASCII control characters
below space taken out:

* one byte: `20-7F`;
* two bytes: `C2-DF`, then a tail byte;
* three bytes: `E0 A0-BF`, `E1-EC 80-BF`, `ED 80-9F` or `EE-EF 80-BF`, then a
  tail byte;
* four bytes: `F0 90-BF`, `F1-F3 80-BF` or `F4 80-8F`, then two tail bytes;
* a tail byte is `80-BF`.

So overlong forms, surrogates and values above `10FFFF` never decode.  The
first byte announces how many bytes follow and what the second one may be
(`announced`), and the bytes that follow are then read one at a time
(`readTail`).  NUL is no tail byte, and the end of the text counts as NUL, so
nothing behind the end of the text is looked at.
-/

set_option autoImplicit false

namespace TrustBoundary.Utf8

/-- Why bytes do not begin with a character. -/
inductive Malformation where
  /-- A control character stands first. -/
  | controlCharacter (byte : UInt8)
  /-- The first byte starts no character. -/
  | invalidLeadByte (byte : UInt8)
  /-- A byte after the first one does not continue the character. -/
  | invalidContinuation (byte : UInt8) (position : Nat)
deriving DecidableEq, Repr

/-- The message for a malformation. -/
def Malformation.message : Malformation → String
  | .controlCharacter byte => s!"control character 0x{Numeral.upperHex 2 byte.toNat}"
  | .invalidLeadByte byte =>
    s!"byte 0x{Numeral.upperHex 2 byte.toNat} cannot start a UTF-8 sequence"
  | .invalidContinuation byte position =>
    s!"byte 0x{Numeral.upperHex 2 byte.toNat} at position {position} " ++
      "is not a valid continuation byte"

/-- What the first byte of a longer character says about the rest of it. -/
structure Announcement where
  /-- How many bytes follow. -/
  following : Nat
  /-- The bits of the code point that the first byte holds. -/
  leadBits : Nat
  /-- The least second byte. -/
  low : UInt8
  /-- The greatest second byte. -/
  high : UInt8
deriving DecidableEq, Repr

/-- What a first byte outside ASCII announces, if a character can start with it. -/
def announced (lead : UInt8) : Option Announcement :=
  if 0xC2 ≤ lead ∧ lead ≤ 0xDF then some ⟨1, lead.toNat - 0xC0, 0x80, 0xBF⟩
  else if lead = 0xE0 then some ⟨2, lead.toNat - 0xE0, 0xA0, 0xBF⟩
  else if lead = 0xED then some ⟨2, lead.toNat - 0xE0, 0x80, 0x9F⟩
  else if 0xE1 ≤ lead ∧ lead ≤ 0xEF then some ⟨2, lead.toNat - 0xE0, 0x80, 0xBF⟩
  else if lead = 0xF0 then some ⟨3, lead.toNat - 0xF0, 0x90, 0xBF⟩
  else if 0xF1 ≤ lead ∧ lead ≤ 0xF3 then some ⟨3, lead.toNat - 0xF0, 0x80, 0xBF⟩
  else if lead = 0xF4 then some ⟨3, lead.toNat - 0xF0, 0x80, 0x8F⟩
  else none

/-- The code point that `count` more bytes complete, the first of them between
`low` and `high`.  `position` is where those bytes stand in the whole text. -/
def readTail : (count : Nat) → (low high : UInt8) → (position bits : Nat) → Bytes →
    Except Malformation Nat
  | 0, _, _, _, bits, _ => .ok bits
  | count + 1, low, high, position, bits, rest =>
    let byte := rest.byteAt 0
    if low ≤ byte ∧ byte ≤ high then
      readTail count 0x80 0xBF (position + 1) (bits * 64 + (byte.toNat - 0x80)) rest.tail
    else
      .error (.invalidContinuation byte position)

/-- The character at the start of `rest`, as its code point and the number of
bytes it takes.  `position` is where `rest` stands in the whole text. -/
def decodeHead (position : Nat) (rest : Bytes) : Except Malformation (Nat × Nat) :=
  let lead := rest.byteAt 0
  if lead < 0x20 then
    .error (.controlCharacter lead)
  else if lead < 0x80 then
    .ok (lead.toNat, 1)
  else
    match announced lead with
    | none => .error (.invalidLeadByte lead)
    | some announcement =>
      (readTail announcement.following announcement.low announcement.high (position + 1)
        announcement.leadBits rest.tail).map fun codePoint =>
          (codePoint, announcement.following + 1)

/-- The character at position `at` of a text. -/
def decodeAt (text : Bytes) (position : Nat) : Except Malformation (Nat × Nat) :=
  decodeHead position (text.drop position)

end TrustBoundary.Utf8
