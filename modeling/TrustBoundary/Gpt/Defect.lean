import TrustBoundary.Word

/-!
# Defects of a partition table copy

A GUID partition table is kept in two copies.  A copy that has a defect is not
used, but the other one may still be good, so a defect is never the last word
about a disk.
-/

set_option autoImplicit false

namespace TrustBoundary.Gpt

open Numeral

/-- Why one copy of a partition table is not accepted. -/
inductive Defect where
  | offsetPastEnd (offset sectors : Nat)
  | invalidOffset (offset : Nat)
  | badSignature
  | badRevision (revision : Nat)
  | badHeaderCrc (myLba : Nat)
  | headerTooSmall (headerSize : Nat)
  | headerTooLarge (headerSize sectorSize : Nat)
  | entryTooSmall (entrySize : Nat)
  | entryTooLarge (entrySize sectorSize : Nat)
  | firstUsableTooLow (firstUsable : Nat)
  | noUsableSpace (first last : Nat)
  | backupAlternateNotPrimary (alternate : Nat)
  | usableOverlapsBackupTable (lastUsable tableLba : Nat)
  | backupTableAfterHeader (tableLba myLba : Nat)
  | primaryTableMisplaced (tableLba : Nat)
  | alternateOverlapsUsable (alternate lastUsable : Nat)
  | noPartitionEntries
  | tableDoesNotFit (tableBytes availableBytes : Nat)
  | badEntryCrc (tableLba : Nat)
  | entryEndsBeforeStart (index startingLba endingLba : Nat)
  | entryOutOfRange (index : Nat)
  | entryBeforeFirstUsable (index startingLba firstUsable : Nat)
  | entryAfterLastUsable (index endingLba lastUsable : Nat)
deriving DecidableEq, Repr

/-- The message for a defect. -/
def Defect.message : Defect → String
  | offsetPastEnd offset sectors =>
    s!"GPT header requested at sector {offset}, past the end of the disk ({sectors} sectors)"
  | invalidOffset offset =>
    s!"GPT header requested at invalid sector {offset}: offset must be 1 or at least 5"
  | badSignature => "wrong GPT signature"
  | badRevision revision =>
    s!"partition table revision {hexWide 10 revision} is not 0x00010000"
  | badHeaderCrc myLba => s!"GPT header at sector {hex myLba} has bad CRC"
  | headerTooSmall headerSize => s!"header size {headerSize} is less than 92"
  | headerTooLarge headerSize sectorSize =>
    s!"header size {headerSize} exceeds sector size {sectorSize}"
  | entryTooSmall entrySize => s!"partition entry size {entrySize} is less than 128"
  | entryTooLarge entrySize sectorSize =>
    s!"partition entry size {entrySize} exceeds sector size {sectorSize}"
  | firstUsableTooLow firstUsable => s!"first usable LBA {firstUsable} is less than 3"
  | noUsableSpace first last =>
    s!"no usable space: last usable LBA {last} is before first usable LBA {first}"
  | backupAlternateNotPrimary alternate =>
    s!"alternate LBA of backup GPT is {hex alternate}, not 1"
  | usableOverlapsBackupTable lastUsable tableLba =>
    s!"last usable LBA {hex lastUsable} is not before backup partition table at {hex tableLba}"
  | backupTableAfterHeader tableLba myLba =>
    s!"backup partition table LBA {hex tableLba} is not before backup header at {hex myLba}"
  | primaryTableMisplaced tableLba => s!"primary partition table at LBA {tableLba}, not 2"
  | alternateOverlapsUsable alternate lastUsable =>
    s!"alternate header {alternate} overlaps usable space ending at {lastUsable}"
  | noPartitionEntries => "header has no partition entries"
  | tableDoesNotFit tableBytes availableBytes =>
    s!"partition table of {tableBytes} bytes does not fit in {availableBytes} bytes"
  | badEntryCrc tableLba => s!"partition entry array at sector {hex tableLba} has bad CRC"
  | entryEndsBeforeStart index startingLba endingLba =>
    s!"partition {index}: ending LBA {endingLba} is before starting LBA {startingLba}"
  | entryOutOfRange index =>
    s!"partition {index}: LBA range does not fit in 64-bit byte offsets"
  | entryBeforeFirstUsable index startingLba firstUsable =>
    s!"partition {index}: starting LBA {startingLba} is less than first usable LBA {firstUsable}"
  | entryAfterLastUsable index endingLba lastUsable =>
    s!"partition {index}: ending LBA {endingLba} is greater than last usable LBA {lastUsable}"

end TrustBoundary.Gpt
