import TrustBoundary.Text.DisplaySafe
import TrustBoundary.Text.Utf8

/-!
# Text that is safe to display

A text may be shown to the user when it is a non-empty run of UTF-8 characters
whose code points are all safe to display.  The text of a byte string ends at
its first NUL.  The check walks over the text one character at a time
(`safeWidth`), so its first complaint is about the first place where no
displayable character begins.
-/

set_option autoImplicit false

namespace TrustBoundary.Display

/-- Why a text is not safe to display. -/
inductive Objection where
  /-- There is no text. -/
  | empty
  /-- A limit on the length of lines was asked for. -/
  | lineLengthUnsupported (requested : Nat)
  /-- No UTF-8 character begins at a position. -/
  | malformed (position : Nat) (cause : Utf8.Malformation)
  /-- The character at a position may not be shown. -/
  | unsafeCodePoint (codePoint position : Nat)
deriving DecidableEq, Repr

/-- The message for an objection. -/
def Objection.message : Objection → String
  | .empty => "string is empty"
  | .lineLengthUnsupported requested =>
    s!"line length limits are not implemented (requested {requested})"
  | .malformed position cause => s!"invalid UTF-8 at byte {position}: {cause.message}"
  | .unsafeCodePoint codePoint position =>
    s!"code point U+{Numeral.upperHex 4 codePoint} at byte {position} is not safe to display"

/-- Whether a byte is a printable ASCII character. -/
def isPrintable (byte : UInt8) : Bool := 0x20 ≤ byte && byte ≤ 0x7E

/-- The number of bytes of the displayable character at the start of `rest`.
`position` is where `rest` stands in the whole text. -/
def safeWidth (position : Nat) (rest : Bytes) : Except Objection Nat :=
  if isPrintable (rest.byteAt 0) then
    .ok 1
  else
    match Utf8.decodeHead position rest with
    | .error cause => .error (.malformed position cause)
    | .ok (codePoint, width) =>
      if isDisplaySafe codePoint then .ok width
      else .error (.unsafeCodePoint codePoint position)

/-- Checks that `rest` is a run of displayable characters. -/
def checkRun (position : Nat) (rest : Bytes) : Except Objection Unit :=
  match rest with
  | [] => .ok ()
  | first :: others =>
    match safeWidth position (first :: others) with
    | .error objection => .error objection
    | .ok width => checkRun (position + width) (others.drop (width - 1))
termination_by rest.length
decreasing_by simp only [List.length_drop, List.length_cons]; omega

/-- Checks that the text of a byte string may be shown on one line.  A line
length of zero means that there is no limit, and no other limit is supported. -/
def check (untrusted : Bytes) (lineLength : Nat) : Except Objection Unit :=
  if lineLength ≠ 0 then
    .error (.lineLengthUnsupported lineLength)
  else
    match untrusted.untilNul with
    | [] => .error .empty
    | first :: others => checkRun 0 (first :: others)

/-- Whether the text of a byte string may be shown on one line. -/
def isSafe (untrusted : Bytes) (lineLength : Nat) : Bool := (check untrusted lineLength).isOk

end TrustBoundary.Display
