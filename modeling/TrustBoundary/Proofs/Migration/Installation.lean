import TrustBoundary.Migration.Steps
import TrustBoundary.Proofs.Inspection.Search
import TrustBoundary.Proofs.Migration.Placement

/-!
# The writes of a rebuilt copy

The writes that install a rebuilt copy are those that blank old headers, then the
entry array and then the header (`copyWrites_eq`).  All of them lie on the disk,
and on the side of the partitions that is left to that copy (`owns_installation`).
For the blanked bytes this needs the old copy: the 4096 bytes at either end that
are blanked for small sectors lie where a large sector of the old copy was.

So the copy is stored after its writes, and stays stored while others keep to the
other side (`storedAt_installation`).
-/

set_option autoImplicit false

namespace TrustBoundary

open Gpt (Location)

/-! ## What there is to be migrated -/

/-- A table that was found at the other sector size, with its header at sector `lba`. -/
structure Inspection.Migratable (found : Inspection) (disk : Disk)
    (lba oldSectors : Nat) : Prop where
  minimumSectors_le : Disk.minimumSectors ≤ disk.sectors
  size_eq : disk.size = disk.sectors * disk.sectorSize.bytes
  oldSize_eq : disk.size = oldSectors * found.gpt.sectorSize.bytes
  differs : found.gpt.sectorSize = disk.sectorSize.other
  here : found.location.lba oldSectors = some lba
  stored : found.gpt.StoredAt disk lba oldSectors
  mbr : found.mbr.Fills disk.sectorSize.bytes

theorem Inspection.Sound.migratable {found : Inspection} {disk : Disk} {skipParameterBlock : Bool}
    (sound : found.Sound disk skipParameterBlock) (needed : found.needsMigration) :
    ∃ lba, found.Migratable disk lba (disk.size / disk.sectorSize.other.bytes) := by
  have differs := sound.sectorSize
  rw [if_pos needed] at differs
  have oldSize := sound.table_size_eq
  obtain ⟨lba, here, stored⟩ := sound.stored
  rw [differs] at oldSize here stored
  exact ⟨lba, sound.minimumSectors_le, sound.size_eq, by rw [differs]; exact oldSize, differs, here,
    stored, fills_of_checkMbr sound.mbr⟩

namespace Migration

/-! ## The writes -/

/-- The writes that blank what an old header could be found in. -/
def blanking (disk : Disk) (location : Location) (mbr : ProtectiveMbr) : List Write :=
  match location with
  | .backup => [⟨disk.size - staleHeaderBytes, Bytes.zeroes staleHeaderBytes⟩]
  | .primary =>
    match disk.sectorSize with
    | .large => [⟨0, mbr.sector⟩]
    | .small =>
      [⟨0, mbr.sector.take SectorSize.small.bytes⟩,
        ⟨SectorSize.small.bytes, Bytes.zeroes SectorSize.small.bytes⟩,
        ⟨staleHeaderBytes, Bytes.zeroes staleHeaderBytes⟩]

/-- The write of the entry array of a new copy. -/
def tableWrite (disk : Disk) (location : Location) (new : Gpt) : Write :=
  ⟨(geometryOf disk).tableStart location new.tableRoom, new.table⟩

/-- The write of the header of a new copy. -/
def headerWrite (disk : Disk) (location : Location) (new : Gpt) : Write :=
  ⟨(geometryOf disk).headerStart location, new.headerSector⟩

/-- All writes of a new copy. -/
def installation (disk : Disk) (location : Location) (mbr : ProtectiveMbr)
    (new : Gpt) : List Write :=
  blanking disk location mbr ++ [tableWrite disk location new, headerWrite disk location new]

end Migration

namespace Inspection.Migratable

open Migration

variable {found : Inspection} {disk : Disk} {lba oldSectors first last : Nat} {location : Location}
  {new : Gpt}

theorem geometry_size (migratable : found.Migratable disk lba oldSectors) :
    (geometryOf disk).size = disk.size := by
  rw [migratable.size_eq, Nat.mul_comm]
  rfl

/-- One of the two sector sizes is 4096 bytes. -/
theorem bytes_cases (migratable : found.Migratable disk lba oldSectors) :
    disk.sectorSize = .small ∧ found.gpt.sectorSize = .large ∨
      disk.sectorSize = .large ∧ found.gpt.sectorSize = .small := by
  have differs := migratable.differs
  cases same : disk.sectorSize with
  | small => exact .inl ⟨rfl, by rw [differs, same]; rfl⟩
  | large => exact .inr ⟨rfl, by rw [differs, same]; rfl⟩

/-- The last 4096 bytes lie behind the partitions. -/
theorem last_le (migratable : found.Migratable disk lba oldSectors)
    (rebuilt : Rebuilt new found.gpt location (geometryOf disk) first last) :
    last + staleHeaderBytes ≤ disk.size := by
  have stale : staleHeaderBytes = SectorSize.large.bytes := rfl
  obtain ⟨_, _, below⟩ := migratable.stored.partitions_usable rebuilt.isFirst rebuilt.isLast
  obtain ⟨_, old⟩ | ⟨new, _⟩ := migratable.bytes_cases
  · -- behind the usable sectors there was an old sector
    have lastUsable := migratable.stored.lastUsable_lt migratable.oldSize_eq
    have size := migratable.oldSize_eq
    rw [Gpt.usableStop, old] at below
    rw [old] at size
    rw [show SectorSize.large.bytes = 4096 from rfl] at size below stale
    omega
  · have behind := rebuilt.behind
    rw [migratable.geometry_size, show (geometryOf disk).sectorSize = disk.sectorSize from rfl, new]
      at behind
    omega

/-- The first two sectors of 4096 bytes lie in front of the partitions if they
were sectors of the old size. -/
theorem le_first (migratable : found.Migratable disk lba oldSectors)
    (rebuilt : Rebuilt new found.gpt location (geometryOf disk) first last)
    (small : disk.sectorSize = .small) : 2 * staleHeaderBytes ≤ first := by
  obtain ⟨above, _, _⟩ := migratable.stored.partitions_usable rebuilt.isFirst rebuilt.isLast
  have firstUsable := migratable.stored.accepted.firstUsable_ge
  have old := migratable.differs
  rw [small] at old
  rw [Gpt.usableStart, old, show SectorSize.small.other.bytes = staleHeaderBytes from rfl] at above
  exact Nat.le_trans (Nat.mul_le_mul_right _ (Nat.le_trans (by decide) firstUsable)) above

/-! ## The writes are these -/

theorem blankingWrites_eq (migratable : found.Migratable disk lba oldSectors)
    (rebuilt : Rebuilt new found.gpt location (geometryOf disk) first last) :
    blankingWrites disk new.header.myLba.toNat found.gpt.sectorSize found.mbr =
      some (blanking disk location found.mbr) := by
  have minimum := migratable.minimumSectors_le
  have least : Disk.minimumSectors = 6 := rfl
  have stale := migratable.last_le rebuilt
  have myLba : location.lba disk.sectors = some new.header.myLba.toNat := rebuilt.announces.myLba
  unfold blankingWrites
  obtain ⟨atOne, rfl⟩ | ⟨atEnd, rfl⟩ := Location.lba_eq_some myLba
  · rw [if_neg (by omega), if_pos atOne]
    obtain ⟨new, old⟩ | ⟨new, old⟩ := migratable.bytes_cases <;> simp only [blanking, new, old]
  · rw [if_pos (by omega), Word.sub, if_pos (by omega)]
    rfl

/-- **The writes of a rebuilt copy** can be made, and are those. -/
theorem copyWrites_eq (migratable : found.Migratable disk lba oldSectors)
    (rebuilt : Rebuilt new found.gpt location (geometryOf disk) first last) :
    (copyWrites disk new found.gpt.sectorSize found.mbr).outcome =
      .ok (installation disk location found.mbr new) := by
  have ordered := rebuilt.first_lt_last migratable.stored
  have tableInside := rebuilt.table_inside ordered
  have headerInside := rebuilt.header_inside ordered
  have small := rebuilt.size_lt
  have sectorSize : new.sectorSize = disk.sectorSize := rebuilt.sectorSize
  have validated : (Gpt.checkHeader new.headerSector new.header.myLba.toNat disk.sectorSize
      disk.sectors).outcome = .ok new.header.tableBytes := rebuilt.validated migratable.stored
  have table := rebuilt.tableStart_eq
  have header := rebuilt.headerStart_eq
  rw [Gpt.tableStart, sectorSize] at table
  simp only [copyWrites, Logged.outcome_bind_eq_ok, Logged.outcome_require_eq_ok, exists_const,
    Logged.outcome_after, Logged.outcome_liftOption_eq_ok, Word.mul_eq_some_iff,
    Logged.outcome_pure_eq_ok]
  refine ⟨sectorSize, by rw [validated]; rfl, (), rfl, _, migratable.blankingWrites_eq rebuilt,
    _, ⟨?_, table⟩, _, ⟨?_, header⟩, rfl⟩
  · rw [table]
    omega
  · have header : new.header.myLba.toNat * disk.sectorSize.bytes = _ := header
    omega

/-! ## Where they go -/

theorem length_table (migratable : found.Migratable disk lba oldSectors)
    (rebuilt : Rebuilt new found.gpt location (geometryOf disk) first last) :
    (tableWrite disk location new).data.length = new.tableRoom :=
  rebuilt.length_table migratable.stored

theorem length_header (rebuilt : Rebuilt new found.gpt location (geometryOf disk) first last) :
    (headerWrite disk location new).data.length = disk.sectorSize.bytes := by
  change new.headerSector.length = disk.sectorSize.bytes
  rw [Gpt.length_headerSector, rebuilt.sectorSize]
  rfl

/-- What is blanked lies on the side of the copy and on the disk. -/
theorem owns_blanking (migratable : found.Migratable disk lba oldSectors)
    (rebuilt : Rebuilt new found.gpt location (geometryOf disk) first last) :
    ∀ write ∈ blanking disk location found.mbr,
      location.Owns first last write.offset write.data.length ∧
        write.offset + write.data.length ≤ disk.size := by
  have inFront := rebuilt.inFront
  have ordered := rebuilt.first_lt_last migratable.stored
  have stale := migratable.last_le rebuilt
  have zeroes : (Bytes.zeroes staleHeaderBytes).length = staleHeaderBytes := Bytes.length_zeroes _
  cases location with
  | backup =>
      intro write member
      obtain rfl := List.mem_singleton.mp member
      change last ≤ disk.size - staleHeaderBytes ∧
        disk.size - staleHeaderBytes + (Bytes.zeroes staleHeaderBytes).length ≤ disk.size
      omega
  | primary =>
      have filled := migratable.mbr.length
      suffices inside : ∀ write ∈ blanking disk .primary found.mbr,
          write.offset + write.data.length ≤ first from
        fun write member => ⟨inside write member, by have := inside write member; omega⟩
      intro write member
      obtain ⟨new, _⟩ | ⟨new, _⟩ := migratable.bytes_cases
      · have room := migratable.le_first rebuilt new
        have small : (Bytes.zeroes SectorSize.small.bytes).length = SectorSize.small.bytes :=
          Bytes.length_zeroes _
        have bytes : SectorSize.small.bytes = 512 := rfl
        have staleBytes : staleHeaderBytes = 4096 := rfl
        simp only [blanking, new, List.mem_cons, List.not_mem_nil, or_false] at member
        obtain rfl | rfl | rfl := member <;> simp only [List.length_take] <;> omega
      · simp only [blanking, new, List.mem_singleton] at member
        subst member
        have whole : (geometryOf disk).sectorSize.bytes = disk.sectorSize.bytes := rfl
        change 0 + found.mbr.sector.length ≤ first
        omega

/-- **Every write of a rebuilt copy lies on the side of that copy,** and on the disk. -/
theorem owns_installation (migratable : found.Migratable disk lba oldSectors)
    (rebuilt : Rebuilt new found.gpt location (geometryOf disk) first last) :
    ∀ write ∈ installation disk location found.mbr new,
      location.Owns first last write.offset write.data.length ∧
        write.offset + write.data.length ≤ disk.size := by
  have ordered := rebuilt.first_lt_last migratable.stored
  have size := migratable.geometry_size
  intro write member
  rcases List.mem_append.mp member with blanks | copy
  · exact migratable.owns_blanking rebuilt write blanks
  · simp only [List.mem_cons, List.not_mem_nil, or_false] at copy
    obtain rfl | rfl := copy
    · rw [migratable.length_table rebuilt, ← size]
      exact ⟨rebuilt.owns_table, rebuilt.table_inside ordered⟩
    · rw [length_header rebuilt, ← size]
      exact ⟨rebuilt.owns_header, rebuilt.header_inside ordered⟩

/-! ## What they leave -/

/-- **After its writes a rebuilt copy is stored,** and stays so while nobody
writes to its side. -/
theorem storedAt_installation (migratable : found.Migratable disk lba oldSectors)
    (rebuilt : Rebuilt new found.gpt location (geometryOf disk) first last) {base : Disk}
    (size : base.size = disk.size) {later : List Write} {other : Location}
    (different : other ≠ location)
    (others : ∀ write ∈ later, other.Owns first last write.offset write.data.length) :
    new.StoredAt (base.storeAll (installation disk location found.mbr new ++ later))
      new.header.myLba.toNat disk.sectors := by
  have ordered := Nat.le_of_lt (rebuilt.first_lt_last migratable.stored)
  have header : installation disk location found.mbr new ++ later =
      (blanking disk location found.mbr ++ [tableWrite disk location new]) ++
        headerWrite disk location new :: later := by
    simp only [installation, List.append_assoc, List.cons_append, List.nil_append]
  have table : installation disk location found.mbr new ++ later =
      blanking disk location found.mbr ++
        tableWrite disk location new :: headerWrite disk location new :: later := by
    simp only [installation, List.append_assoc, List.cons_append, List.nil_append]
  refine rebuilt.storedAt migratable.stored ?_ ?_ ?_
  · rw [Disk.size_storeAll, size, migratable.geometry_size]
  · have apart : ∀ write ∈ later, write.Apart (headerWrite disk location new).offset
        (headerWrite disk location new).data.length := by
      intro write member
      rw [length_header rebuilt]
      exact (others write member).apart different rebuilt.owns_header ordered
    have kept := Disk.bytesAt_storeAll_of_mem base
      (blanking disk location found.mbr ++ [tableWrite disk location new]) _ apart
    rw [length_header rebuilt] at kept
    rw [header]
    exact kept
  · have apart : ∀ write ∈ headerWrite disk location new :: later,
        write.Apart (tableWrite disk location new).offset
          (tableWrite disk location new).data.length := by
      intro write member
      rw [migratable.length_table rebuilt]
      rcases List.mem_cons.mp member with rfl | behind
      · exact rebuilt.header_apart
      · exact (others write behind).apart different rebuilt.owns_table ordered
    have kept := Disk.bytesAt_storeAll_of_mem base (blanking disk location found.mbr) _ apart
    rw [migratable.length_table rebuilt] at kept
    rw [table]
    exact kept

end Inspection.Migratable

end TrustBoundary
