import TrustBoundary.Bytes

/-!
# The headers of a file transfer

The sender announces every entry of a transfer by a 32-byte header, and ends
the transfer with a header whose name length is zero.  The receiver answers
with a 16-byte result header, behind which the name of the last entry that it
handled may follow with its length in front.  All words are little endian.
-/

set_option autoImplicit false

namespace TrustBoundary.Transfer

/-- What the sender says about an entry. -/
structure EntryHeader where
  nameLength : UInt32
  mode : UInt32
  fileLength : UInt64
  accessSeconds : UInt32
  accessNanoseconds : UInt32
  changeSeconds : UInt32
  changeNanoseconds : UInt32
deriving DecidableEq, Repr

namespace EntryHeader

/-- The number of bytes of an entry header. -/
def width : Nat := 32

/-- The header that bytes from the wire hold. -/
def decode (bytes : Bytes) : EntryHeader where
  nameLength := bytes.word32At 0
  mode := bytes.word32At 4
  fileLength := bytes.word64At 8
  accessSeconds := bytes.word32At 16
  accessNanoseconds := bytes.word32At 20
  changeSeconds := bytes.word32At 24
  changeNanoseconds := bytes.word32At 28

/-- The bytes of a header, each field from its offset on. -/
def fields (header : EntryHeader) : List (Nat × Bytes) := [
  (0, Bytes.littleEndian 4 header.nameLength.toNat),
  (4, Bytes.littleEndian 4 header.mode.toNat),
  (8, Bytes.littleEndian 8 header.fileLength.toNat),
  (16, Bytes.littleEndian 4 header.accessSeconds.toNat),
  (20, Bytes.littleEndian 4 header.accessNanoseconds.toNat),
  (24, Bytes.littleEndian 4 header.changeSeconds.toNat),
  (28, Bytes.littleEndian 4 header.changeNanoseconds.toNat)]

/-- The 32 bytes of a header on the wire. -/
def encode (header : EntryHeader) : Bytes := (Bytes.zeroes width).overwriteAll header.fields

/-- Whether this header ends the transfer. -/
def isEnd (header : EntryHeader) : Bool := header.nameLength = 0

end EntryHeader

/-- The final status that is sent back. -/
structure ResultHeader where
  errorCode : UInt32
  checksum : UInt64
deriving DecidableEq, Repr

namespace ResultHeader

/-- The number of bytes of a result header. -/
def width : Nat := 16

/-- The result header that bytes from the wire hold. -/
def decode (bytes : Bytes) : ResultHeader where
  errorCode := bytes.word32At 0
  checksum := bytes.word64At 8

/-- The bytes of a result header, each field from its offset on.  The four bytes between the two
fields belong to none. -/
def fields (header : ResultHeader) : List (Nat × Bytes) := [
  (0, Bytes.littleEndian 4 header.errorCode.toNat),
  (8, Bytes.littleEndian 8 header.checksum.toNat)]

/-- The 16 bytes of a result header on the wire. -/
def encode (header : ResultHeader) : Bytes := (Bytes.zeroes width).overwriteAll header.fields

end ResultHeader

/-- The whole answer: a result header and, if there is one, the name of the
last entry behind its length. -/
def encodeResult (errorCode : UInt32) (checksum : UInt64) (lastName : Option Bytes) : Bytes :=
  let header : ResultHeader := ⟨errorCode, checksum⟩
  match lastName with
  | none => header.encode
  | some name => header.encode ++ Bytes.littleEndian 4 name.length ++ name

end TrustBoundary.Transfer
