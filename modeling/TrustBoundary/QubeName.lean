import TrustBoundary.Bytes

/-!
# Names of qubes

A qube is named by 1 to 31 ASCII letters, digits, underscores, dots and
hyphens, the first of them a letter.  Some names mean something else already:
`none` and `default` to the administration interface, `Domain-0` to the
hypervisor's tools, and every name that ends in `-dm` could be taken for the
device model of another qube.  Unlike in a path, the whole byte string is the
name, so a NUL byte is just a character that is not allowed.
-/

set_option autoImplicit false

namespace TrustBoundary.QubeName

/-- The greatest length of a name. -/
def greatestLength : Nat := 31

/-- Why a name is refused. -/
inductive Violation where
  | empty
  | tooLong
  | invalidFirstCharacter
  | invalidSubsequentCharacter
  | reserved
deriving DecidableEq, Repr

/-- The message for a violation. -/
def Violation.message : Violation → String
  | empty => "qube name is empty"
  | tooLong => "qube name is longer than 31 bytes"
  | invalidFirstCharacter => "qube name must start with an ASCII letter"
  | invalidSubsequentCharacter =>
    "qube name may only contain ASCII letters, digits, '_', '.' and '-'"
  | reserved => "qube name is reserved"

/-- Whether a byte is an ASCII letter. -/
def isLetter (byte : UInt8) : Bool :=
  (0x41 ≤ byte && byte ≤ 0x5A) || (0x61 ≤ byte && byte ≤ 0x7A)

/-- Whether a byte is an ASCII digit. -/
def isDigit (byte : UInt8) : Bool := 0x30 ≤ byte && byte ≤ 0x39

/-- Whether a byte may stand after the first character of a name. -/
def isSubsequent (byte : UInt8) : Bool :=
  isLetter byte || isDigit byte || byte = 0x5F || byte = 0x2E || byte = 0x2D

/-- The names that mean something else. -/
def reservedNames : List Bytes :=
  [Bytes.ofText "none", Bytes.ofText "default", Bytes.ofText "Domain-0"]

/-- The end of the name of a device model. -/
def deviceModelEnding : Bytes := Bytes.ofText "-dm"

/-- Checks the name of a qube. -/
def check (untrusted : Bytes) : Except Violation Unit :=
  match untrusted with
  | [] => .error .empty
  | first :: others =>
    if untrusted.length > greatestLength then .error .tooLong
    else if !isLetter first then .error .invalidFirstCharacter
    else if !others.all isSubsequent then .error .invalidSubsequentCharacter
    else if deviceModelEnding.isSuffixOf untrusted || reservedNames.contains untrusted then
      .error .reserved
    else .ok ()

end TrustBoundary.QubeName
