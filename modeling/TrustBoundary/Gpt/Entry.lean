import TrustBoundary.Bytes
import TrustBoundary.Word

/-!
# Partition entries

The entry array of a GUID partition table is a row of slots of 128 bytes.  A
slot holds the entry of a partition, or it is unused, which its type of all
zeroes says.  The bytes of an unused slot behind the type may be anything.

Disks, partitions and partition types are named by globally unique identifiers
of sixteen bytes.  Their text has the mixed byte order that partitioning tools
print: the first three groups are little-endian words, and the last two groups
are bytes in the order they are stored.
-/

set_option autoImplicit false

namespace TrustBoundary

/-- An identifier of sixteen bytes, as stored. -/
abbrev Guid := Vector UInt8 16

namespace Guid

/-- The groups of the text, as positions of stored bytes in the order they are printed. -/
def groups : List (List Nat) :=
  [[3, 2, 1, 0], [5, 4], [7, 6], [8, 9], [10, 11, 12, 13, 14, 15]]

/-- The two digits of a stored byte. -/
def digits (guid : Guid) (position : Nat) : String :=
  Numeral.upperHex 2 (Bytes.byteAt guid.toList position).toNat

/-- The text of an identifier. -/
def text (guid : Guid) : String :=
  "-".intercalate (groups.map fun group => String.join (group.map guid.digits))

end Guid

namespace Gpt

/-- The fields of a partition entry, in the order they are stored. -/
structure Entry where
  typeGuid : Guid
  uniqueGuid : Guid
  startingLba : UInt64
  endingLba : UInt64
  attributes : UInt64
  name : Vector UInt8 72
deriving DecidableEq, Repr

namespace Entry

/-- The number of bytes of a slot. -/
def width : Nat := 128

/-- The number of bytes of the type, which come first. -/
def typeWidth : Nat := 16

/-- The entry that the bytes of a slot hold. -/
def decode (slot : Bytes) : Entry where
  typeGuid := slot.blockAt 0 16
  uniqueGuid := slot.blockAt 16 16
  startingLba := slot.word64At 32
  endingLba := slot.word64At 40
  attributes := slot.word64At 48
  name := slot.blockAt 56 72

/-- The bytes of an entry, each field from its offset on. -/
def fields (entry : Entry) : List (Nat × Bytes) := [
  (0, entry.typeGuid.toList),
  (16, entry.uniqueGuid.toList),
  (32, Bytes.littleEndian 8 entry.startingLba.toNat),
  (40, Bytes.littleEndian 8 entry.endingLba.toNat),
  (48, Bytes.littleEndian 8 entry.attributes.toNat),
  (56, entry.name.toList)]

/-- Stores an entry at the start of a buffer, if there is room for every field. -/
def writeTo (entry : Entry) (buffer : Bytes) : Option Bytes :=
  if buffer.hasRoom entry.fields then some (buffer.overwriteAll entry.fields) else none

/-- The 128 bytes of an entry. -/
def encode (entry : Entry) : Bytes := (Bytes.zeroes width).overwriteAll entry.fields

/-- Whether an entry has the type of an unused slot. -/
def isUnused (entry : Entry) : Bool := entry.typeGuid = Vector.replicate 16 0

/-- Whether a slot is unused, by its bytes alone. -/
def slotIsUnused (slot : Bytes) : Bool := Bytes.allZero (slot.take typeWidth)

end Entry

/-- The first `count` slots of an entry array. -/
def slots : (count : Nat) → (table : Bytes) → List Bytes
  | 0, _ => []
  | count + 1, table => table.take Entry.width :: slots count (table.drop Entry.width)

end Gpt

end TrustBoundary
