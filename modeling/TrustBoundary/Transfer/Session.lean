import TrustBoundary.Logging
import TrustBoundary.Path.Validate
import TrustBoundary.Transfer.Header
import TrustBoundary.Word

/-!
# Accepting the entries of a transfer

A session keeps the account of one incoming transfer: how many entries have
begun, how many bytes they hold, and the running checksum of what was received.
An entry is admitted in two steps.  `Session.beginEntry` counts its header, and
`Session.checkEntry` decides by its type, times, name and size whether it may
be created.  Both answer with the session that follows, whether or not the
entry is refused.

The size of a regular file is held against the limit before it is counted.  The
size of a symbolic link is counted first, so a link that is refused for its
target has used up its share of the limit.
-/

set_option autoImplicit false

namespace TrustBoundary.Transfer

/-- The greatest length of a path, the NUL byte at its end included. -/
def greatestPathLength : Nat := 16384

/-- The greatest number of nanoseconds in a time. -/
def greatestNanoseconds : Nat := 999999999

/-- The greatest length of a file: the greatest signed 64-bit number. -/
def greatestFileLength : Nat := Word.signedLimit - 1

/-- The kinds of entry that are accepted besides regular files. -/
structure Kinds where
  directories : Bool
  symlinks : Bool
deriving DecidableEq, Repr

/-- Every kind of entry. -/
def Kinds.all : Kinds := ⟨true, true⟩

/-- The limits of a transfer, where none means that there is no limit. -/
structure Limits where
  bytes : Option Nat
  files : Option Nat
deriving DecidableEq, Repr

/-- What an entry is. -/
inductive EntryKind where
  | regular
  | directory
  | symlink
deriving DecidableEq, Repr

/-- Why an entry is refused. -/
inductive Refusal where
  | nameTooLong (length : Nat)
  | targetTooLong (length : Nat)
  | invalidName (violation : Path.Violation)
  | invalidSymlink (violation : Path.Violation)
  | unsupportedType (mode : Nat)
  | invalidTimestamp (nanoseconds : Nat)
  | quotaExceeded
deriving DecidableEq, Repr

namespace Refusal

/-- The message for a refusal. -/
def message : Refusal → String
  | nameTooLong length => s!"name of {length} bytes is too long"
  | targetTooLong length => s!"symbolic link target of {length} bytes is too long"
  | invalidName violation => s!"invalid file name: {violation.message}"
  | invalidSymlink violation => s!"unsafe symbolic link: {violation.message}"
  | unsupportedType mode => s!"entry with mode {Numeral.octal mode} is not accepted"
  | invalidTimestamp nanoseconds => s!"invalid nanoseconds value {nanoseconds}"
  | quotaExceeded => "transfer exceeds its quota"

/-- The error number that the sender is told. -/
def errorNumber : Refusal → ErrorNumber
  | nameTooLong _ | targetTooLong _ => .ENAMETOOLONG
  | invalidName _ | invalidSymlink _ => .EILSEQ
  | unsupportedType _ | invalidTimestamp _ => .EINVAL
  | quotaExceeded => .EDQUOT

end Refusal

/-- The account of one incoming transfer. -/
structure Session where
  kinds : Kinds
  limits : Limits
  totalBytes : Nat
  totalFiles : Nat
  register : UInt32
deriving DecidableEq, Repr

namespace Session

/-- The account before anything was received. -/
def start (kinds : Kinds) (limits : Limits) : Session := ⟨kinds, limits, 0, 0, Checksum.allOnes⟩

/-- Takes received bytes into the running checksum. -/
def digest (session : Session) (received : Bytes) : Session :=
  { session with register := Checksum.absorb session.register received }

/-- The checksum of everything received so far. -/
def checksum (session : Session) : UInt32 := Checksum.finish session.register

/-- How a step of a session ends. -/
abbrev Verdict (α : Type) := Except (Halt Refusal) α

/-- Whether a total is above a limit. -/
def exceeds (total : Nat) (limit : Option Nat) : Bool :=
  match limit with
  | none => false
  | some greatest => greatest < total

/-- Counts the header of an entry, before its name is read.  The answer says
whether an entry follows, which it does unless the header ends the transfer. -/
def beginEntry (session : Session) (header : EntryHeader) : Session × Verdict Bool :=
  if header.isEnd then
    (session, .ok false)
  else
    match Word.add session.totalFiles 1 with
    | none => (session, .error .fault)
    | some totalFiles =>
      let counted := { session with totalFiles }
      if exceeds totalFiles session.limits.files then
        (counted, .error (.refused .quotaExceeded))
      else if header.nameLength.toNat > greatestPathLength - 1 then
        (counted, .error (.refused (.nameTooLong header.nameLength.toNat)))
      else
        (counted, .ok true)

/-- The bits of a mode that say what an entry is. -/
def typeBits (mode : UInt32) : UInt32 := mode &&& 0xF000

/-- What an entry with this mode is, if it is of an accepted kind. -/
def kindOf (kinds : Kinds) (mode : UInt32) : Option EntryKind :=
  if typeBits mode = 0x8000 then some .regular
  else if typeBits mode = 0xA000 ∧ kinds.symlinks then some .symlink
  else if typeBits mode = 0x4000 ∧ kinds.directories then some .directory
  else none

/-- Checks everything about an entry except its size and its target. -/
def checkHeader (kinds : Kinds) (header : EntryHeader) (name : Bytes) :
    Except Refusal EntryKind :=
  match kindOf kinds header.mode with
  | none => .error (.unsupportedType header.mode.toNat)
  | some kind =>
    if header.accessNanoseconds.toNat > greatestNanoseconds then
      .error (.invalidTimestamp header.accessNanoseconds.toNat)
    else if header.changeNanoseconds.toNat > greatestNanoseconds then
      .error (.invalidTimestamp header.changeNanoseconds.toNat)
    else
      match Path.checkFileName name .strict with
      | .error violation => .error (.invalidName violation)
      | .ok () => .ok kind

/-- Whether a regular file of this length may still be received. -/
def admits (session : Session) (length : Nat) : Bool :=
  length ≤ greatestFileLength &&
    match session.limits.bytes with
    | none => true
    | some greatest => length ≤ greatest && session.totalBytes ≤ greatest - length

/-- Adds to the bytes of the transfer, if the sum is a 64-bit number. -/
def addBytes (session : Session) (length : Nat) : Option Session :=
  (Word.add session.totalBytes length).map fun totalBytes => { session with totalBytes }

/-- Accounts for a regular file. -/
def admitRegular (session : Session) (length : Nat) : Session × Verdict EntryKind :=
  if session.admits length then
    match session.addBytes length with
    | none => (session, .error .fault)
    | some counted => (counted, .ok .regular)
  else
    (session, .error (.refused .quotaExceeded))

/-- Accounts for a symbolic link and checks where it points. -/
def admitSymlink (session : Session) (length : Nat) (name target : Bytes) :
    Session × Verdict EntryKind :=
  if length > greatestPathLength - 1 then
    (session, .error (.refused (.targetTooLong length)))
  else
    match session.addBytes length with
    | none => (session, .error .fault)
    | some counted =>
      if exceeds counted.totalBytes session.limits.bytes then
        (counted, .error (.refused .quotaExceeded))
      else
        match Path.checkSymbolicLink name target .strict with
        | .error violation => (counted, .error (.refused (.invalidSymlink violation)))
        | .ok () => (counted, .ok .symlink)

/-- Decides whether an entry may be created.  The target counts only for a
symbolic link, and a missing one is empty.  The size of a directory is known
only after it was created, so directories are not counted. -/
def checkEntry (session : Session) (header : EntryHeader) (name : Bytes)
    (target : Option Bytes) : Session × Verdict EntryKind :=
  match checkHeader session.kinds header name with
  | .error refusal => (session, .error (.refused refusal))
  | .ok .regular => session.admitRegular header.fileLength.toNat
  | .ok .directory => (session, .ok .directory)
  | .ok .symlink => session.admitSymlink header.fileLength.toNat name (target.getD [])

end Session

end TrustBoundary.Transfer
