/-!
# What may be relaxed in a path, and what is wrong with one

A path that comes from the other side is held to the strictest rules unless a
caller relaxes some of them (`Path.Rules`).  A path that breaks a rule is
refused for the first violation found from left to right (`Path.Violation`).
Each violation has a message and an error number for the sender: `ENOLINK` says
that the path could leave its directory tree, and `EILSEQ` that it is no
acceptable file name.
-/

set_option autoImplicit false

namespace TrustBoundary

/-- The error numbers that a sender is told. -/
inductive ErrorNumber where
  | ENOENT
  | EINVAL
  | ENAMETOOLONG
  | ENOLINK
  | EILSEQ
  | EDQUOT
deriving DecidableEq, Repr

namespace ErrorNumber

/-- The symbolic name of an error number. -/
def name : ErrorNumber → String
  | ENOENT => "ENOENT"
  | EINVAL => "EINVAL"
  | ENAMETOOLONG => "ENAMETOOLONG"
  | ENOLINK => "ENOLINK"
  | EILSEQ => "EILSEQ"
  | EDQUOT => "EDQUOT"

/-- The value of an error number on the wire. -/
def code : ErrorNumber → Nat
  | ENOENT => 2
  | EINVAL => 22
  | ENAMETOOLONG => 36
  | ENOLINK => 67
  | EILSEQ => 84
  | EDQUOT => 122

end ErrorNumber

namespace Path

/-- The relaxations of the strictest rules. -/
structure Rules where
  /-- Accept the empty path, which has no components. -/
  allowEmpty : Bool
  /-- Accept repeated slashes and components that are a single dot. -/
  allowNonCanonical : Bool
  /-- Accept a slash at the end. -/
  allowTrailingSlash : Bool
deriving DecidableEq, Repr

/-- The rules without any relaxation. -/
def Rules.strict : Rules := ⟨false, false, false⟩

/-- Why a path is refused. -/
inductive Violation where
  | empty
  | absolute
  | repeatedSlash (position : Nat)
  | trailingSlash
  | dotComponent (position : Nat)
  | dotDotComponent (position : Nat)
  | invalidCharacter (position : Nat)
  | topLevelSymlink
deriving DecidableEq, Repr

namespace Violation

/-- The message for a violation. -/
def message : Violation → String
  | empty => "path is empty"
  | absolute => "path is absolute"
  | repeatedSlash position => s!"repeated slash at byte {position}"
  | trailingSlash => "path ends with a slash"
  | dotComponent position => s!"\".\" component at byte {position}"
  | dotDotComponent position =>
    s!"\"..\" component at byte {position} would leave the permitted directory"
  | invalidCharacter position => s!"character at byte {position} is not safe in a file name"
  | topLevelSymlink => "symbolic link must not be a top-level entry"

/-- The error number that a sender is told. -/
def errorNumber : Violation → ErrorNumber
  | empty => .ENOENT
  | absolute | dotDotComponent _ | topLevelSymlink => .ENOLINK
  | repeatedSlash _ | trailingSlash | dotComponent _ | invalidCharacter _ => .EILSEQ

end Violation

end Path

end TrustBoundary
