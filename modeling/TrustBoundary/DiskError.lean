import TrustBoundary.Gpt.Defect
import TrustBoundary.OsError

/-!
# Why a disk is not checked or repaired

Every reason for which work on a disk ends without success, with its message
and the status that the command line tool exits with.  Only a defect of one
partition table copy leaves a second chance, which is the other copy
(`DiskError.isRecoverable`).
-/

set_option autoImplicit false

namespace TrustBoundary

open Numeral

/-- Why an image file cannot be used as a disk. -/
inductive ImageError where
  /-- The file cannot be opened. -/
  | cannotOpen (cause : OsError)
  /-- The file is empty, so there is nothing to map. -/
  | emptyMap
deriving DecidableEq, Repr

/-- The message for an image error. -/
def ImageError.message : ImageError → String
  | .cannotOpen cause => s!"Unable to open image file: {cause.message}"
  | .emptyMap => "Unable to map image file: memory map must have a non-zero length"

/-- The status that the command line tool exits with. -/
inductive ExitStatus where
  | success
  | failure
  | io
  /-- The table might be valid but uses something that is not supported. -/
  | unsupported
  | notPartitioned
  | invalidGpt
  /-- A new table cannot be made without breaking a constraint. -/
  | constraint
  /-- A check found a table that has to be repaired. -/
  | needsFix
  | truncated
deriving DecidableEq, Repr

/-- The number of an exit status. -/
def ExitStatus.code : ExitStatus → Nat
  | success => 0
  | failure => 1
  | io => 2
  | unsupported => 3
  | notPartitioned => 4
  | invalidGpt => 5
  | constraint => 6
  | needsFix => 7
  | truncated => 8

/-- Why work on a disk ended without success. -/
inductive DiskError where
  | cannotOpen (path : String) (cause : OsError)
  | image (cause : ImageError)
  | notBlockDevice (path : String)
  | isPartition (path : String)
  | badSysfsEntry (path : String)
  | partitionCheck (path : String) (cause : OsError)
  | lock (cause : OsError)
  | reopen (cause : OsError)
  | io (context : String) (cause : OsError)
  | shortRead (offset expected actual : Nat)
  | shortWrite (offset expected actual : Nat)
  | readOnly
  | unsupportedSectorSize (bytes : Nat)
  | sizeOverflow (size : Nat)
  | sizeNotSectorMultiple (size sectorSize : Nat)
  | sizeNotMultipleOf4096 (size : Nat)
  | tooFewSectors (sectors : Nat)
  | badMbrSignature (first second : Nat)
  | mbrNotProtective (osType : Nat)
  | mbrRecordNotZero (number : Nat)
  | mbrBadStartingLba (startingLba : Nat)
  | bpbPresent
  | entrySizeUnsupported (entrySize : Nat)
  | tableTooLarge (tableBytes : Nat)
  | truncated (alternateLba sectors : Nat)
  | noUsedPartitions
  | noValidGpt
  | rejected (defect : Gpt.Defect)
  | startMisaligned (partition offset sectorSize : Nat)
  | endMisaligned (partition offset sectorSize : Nat)
  | noRoomForBackup (partition stop remaining required : Nat)
  | noRoomForPrimary (partition start required : Nat)
  | headerSizeTooLarge (headerSize sectorSize : Nat)
  | needsFix
  | reloadPartitionTable (cause : OsError)
deriving DecidableEq, Repr

namespace DiskError

/-- The message for an error. -/
def message : DiskError → String
  | cannotOpen path cause => s!"Cannot open {path}: {cause.message}"
  | image cause => cause.message
  | notBlockDevice path => s!"{path} is not a block device"
  | isPartition path =>
    s!"Refusing to operate on partition {path}: pass the whole block device instead"
  | badSysfsEntry path =>
    s!"Bad sysfs entry {path}: \"partition\" attribute is not a regular file"
  | partitionCheck path cause => s!"Cannot check if {path} is a partition: {cause.message}"
  | lock cause => s!"Device cannot be locked: {cause.namedMessage}"
  | reopen cause => s!"Cannot reopen block device for writing: {cause.message}"
  | io context cause => s!"I/O error {context}: {cause.message}"
  | shortRead offset expected actual =>
    s!"Short read at byte {hex offset}: expected {expected} bytes, got {actual}"
  | shortWrite offset expected actual =>
    s!"Short write at byte {hex offset}: expected {expected} bytes, wrote {actual}"
  | readOnly => "Device was not opened for writing"
  | unsupportedSectorSize bytes => s!"Sector size {hex bytes} is neither 512 nor 4096"
  | sizeOverflow size => s!"Size {hex size} does not fit in off_t"
  | sizeNotSectorMultiple size sectorSize =>
    s!"Size {hex size} is not a multiple of sector size {hex sectorSize}"
  | sizeNotMultipleOf4096 size => s!"Disk size {hex size} is not a multiple of 4096"
  | tooFewSectors sectors => s!"Device has too few sectors for GPT: need 6, found {sectors}"
  | badMbrSignature first second =>
    s!"Invalid MBR signature: expected 0x55 0xAA, got 0x{upperHex 2 first} 0x{upperHex 2 second}"
  | mbrNotProtective osType =>
    s!"Bad protective MBR: OS type {hexWide 4 osType} is not GPT Protective"
  | mbrRecordNotZero number =>
    s!"Partition record {number} is not zeroed - this device does not have a protective MBR"
  | mbrBadStartingLba startingLba =>
    s!"Bad protective MBR: starting LBA is {startingLba}, not the first block"
  | bpbPresent => "Refusing to change partition table that might overlap a FAT or NTFS volume"
  | entrySizeUnsupported entrySize =>
    s!"Partition entry size {entrySize} is greater than 128, which is not supported"
  | tableTooLarge tableBytes => s!"Partition table size {tableBytes} exceeds 1MiB limit"
  | truncated alternateLba sectors =>
    s!"Alternate partition header {alternateLba} after end of device at {sectors}"
  | noUsedPartitions => "No used partitions"
  | noValidGpt => "Cannot find valid GPT"
  | rejected defect => defect.message
  | startMisaligned partition offset sectorSize =>
    s!"Cannot preserve starting LBA for partition {partition}: " ++
      s!"starting byte offset {hex offset} is not a multiple of {sectorSize}"
  | endMisaligned partition offset sectorSize =>
    s!"Cannot preserve ending LBA for partition {partition}: " ++
      s!"ending byte offset {hex offset} is not a multiple of {sectorSize}"
  | noRoomForBackup partition stop remaining required =>
    s!"Partition {partition} ends at byte {hex stop}, leaving {hex remaining} bytes, " ++
      s!"but the backup GPT needs {hex required}"
  | noRoomForPrimary partition start required =>
    s!"The protective MBR and primary GPT need the first {required} bytes, " ++
      s!"but partition {partition} starts at offset {start}"
  | headerSizeTooLarge headerSize sectorSize =>
    s!"Header size {headerSize} does not fit in a {sectorSize}-byte sector"
  | needsFix => "GPT needs to be updated for new sector size"
  | reloadPartitionTable cause =>
    s!"Cannot reload kernel partition table: {cause.namedMessage}"

/-- Whether only one copy of a partition table is concerned, so that the other
one may be tried. -/
def isRecoverable : DiskError → Bool
  | rejected _ => true
  | _ => false

/-- The status that the command line tool exits with. -/
def exitStatus : DiskError → ExitStatus
  | cannotOpen .. | image _ | notBlockDevice _ | isPartition _ | badSysfsEntry _ | partitionCheck ..
  | lock _ | reopen _ => .failure
  | io .. | shortRead .. | shortWrite .. | readOnly | reloadPartitionTable _ => .io
  | unsupportedSectorSize _ | sizeOverflow _ | sizeNotSectorMultiple .. | sizeNotMultipleOf4096 _
  | tooFewSectors _ | mbrNotProtective _ | mbrRecordNotZero _ | bpbPresent
  | entrySizeUnsupported _ | tableTooLarge _ | noUsedPartitions => .unsupported
  | badMbrSignature .. => .notPartitioned
  | mbrBadStartingLba _ | noValidGpt | rejected _ => .invalidGpt
  | startMisaligned .. | endMisaligned .. | noRoomForBackup .. | noRoomForPrimary ..
  | headerSizeTooLarge .. => .constraint
  | needsFix => .needsFix
  | truncated .. => .truncated

end DiskError

end TrustBoundary
