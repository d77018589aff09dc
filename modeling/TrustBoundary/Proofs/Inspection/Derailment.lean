import TrustBoundary.Proofs.Gpt.Derailment
import TrustBoundary.Proofs.Gpt.Sealed
import TrustBoundary.Proofs.Inspection.Search

/-!
# When an inspection derails

An inspection does not end in a verdict exactly if it comes to a backup copy with
an accepted header whose entry array is not on the disk (`ofDisk_derails_iff`).
The size, the boot record and the primary copies cannot make it derail, whatever
they hold, and neither can anything else about a backup copy.

It does happen: `farDisk` is a disk of eight sectors on which an inspection breaks
a rule of its own (`ofDisk_farDisk`).
-/

set_option autoImplicit false

namespace TrustBoundary.Inspection

open Gpt (Location TableOutside)

variable {disk : Disk} {sectorSize : SectorSize} {sectors : Nat}

/-! ## The boot record -/

theorem check_not_derails {mbr : ProtectiveMbr} {sectorBytes : Nat} (skipParameterBlock : Bool)
    (some : 1 ≤ sectors) (fills : mbr.Fills sectorBytes) :
    ¬(mbr.check sectors skipParameterBlock).Derails := by
  intro derails
  have long : ProtectiveMbr.width ≤ mbr.sector.length := fills.length ▸ fills.width_le
  obtain ⟨reason, isRefusal, impossible⟩ :=
    ProtectiveMbr.exists_refusal_of_check long some derails
  cases isRefusal <;> exact impossible

/-- The boot record never makes an inspection derail. -/
theorem checkMbr_not_derails (skipParameterBlock : Bool) (some : 1 ≤ sectors)
    (inside : disk.sectorSize.bytes ≤ disk.size) :
    ¬(checkMbr disk sectors skipParameterBlock).Derails := by
  have long : ¬(disk.bytesAt 0 disk.sectorSize.bytes).length < ProtectiveMbr.width := by
    rw [Disk.length_bytesAt]
    rcases disk.sectorSize.bytes_cases with bytes | bytes <;> rw [bytes] <;> decide
  have read := ProtectiveMbr.read_eq_ok_iff.mpr ⟨inside, if_neg long⟩
  have fills := ProtectiveMbr.ofSector?_eq_some (if_neg long)
  unfold Logged.Derails checkMbr
  rw [Logged.fails_bind_of_ok read, Logged.fails_bind,
    or_iff_right (check_not_derails skipParameterBlock some fills)]
  rintro ⟨_, _, derails⟩
  simp only [Logged.fails_bind, Logged.not_fails_debug, Logged.not_fails_pure, and_false,
    exists_const, or_self] at derails

/-! ## One copy -/

theorem verdict_derails_iff {location : Location} {attempt : Except (Halt DiskError) Gpt} :
    (verdict location sectorSize attempt).Derails ↔
    ∃ halt, attempt = .error halt ∧ halt.Derails := by
  unfold verdict
  split <;> simp only [Logged.fails_bind, Logged.not_fails_debug, Logged.not_fails_warn,
    Logged.not_fails_pure, Logged.fails_refuse, Logged.fails_fault, Halt.Derails,
    Except.error.injEq, reduceCtorEq, exists_eq_left', false_and, and_false, exists_false, or_self]

/-- Looking for a copy fails where the verdict about it does. -/
theorem fails_tryCopy {bad : Halt DiskError → Prop} {location : Location} {lba : Nat}
    (here : location.lba sectors = some lba) :
    (tryCopy disk location sectorSize sectors).Fails bad ↔
      (verdict location sectorSize (Gpt.read disk lba sectorSize sectors).outcome).Fails bad := by
  unfold tryCopy
  rw [Logged.fails_bind_of_ok (Logged.outcome_liftOption_eq_ok.mpr here), Logged.fails_after]

/-- Looking for a copy derails exactly if reading it does. -/
theorem tryCopy_derails_iff {location : Location} {lba : Nat}
    (here : location.lba sectors = some lba)
    (minimum : Disk.minimumSectors ≤ sectors) (whole : sectors * sectorSize.bytes ≤ disk.size)
    (small : disk.size < Word.limit) :
    (tryCopy disk location sectorSize sectors).Derails ↔
    TableOutside disk lba sectorSize sectors := by
  have least : Disk.minimumSectors = 6 := rfl
  have place := Location.lba_eq_some here
  exact (fails_tryCopy here).trans (verdict_derails_iff.trans
    (Gpt.read_derails_iff minimum (by omega) (by omega) whole small))

/-- Without a primary copy the search fails where the backup copy does. -/
theorem fails_findCopy_of_none {bad : Halt DiskError → Prop}
    (primary : (tryCopy disk .primary sectorSize sectors).outcome = .ok none) :
    (findCopy disk sectorSize sectors).Fails bad ↔
      (tryCopy disk .backup sectorSize sectors).Fails bad := by
  unfold findCopy
  rw [Logged.fails_bind_of_ok primary, Logged.fails_bind]
  refine or_iff_left ?_
  rintro ⟨backup?, _, failed⟩
  cases backup? with
  | some gpt => exact absurd failed (Logged.not_fails_pure _)
  | none => exact absurd failed (Logged.not_fails_pure _)

/-- Looking for both copies derails exactly if there is no primary copy and reading the
backup copy derails. -/
theorem findCopy_derails_iff (minimum : Disk.minimumSectors ≤ sectors)
    (whole : sectors * sectorSize.bytes ≤ disk.size) (small : disk.size < Word.limit) :
    (findCopy disk sectorSize sectors).Derails ↔
      (tryCopy disk .primary sectorSize sectors).outcome = .ok none ∧
        TableOutside disk (sectors - 1) sectorSize sectors := by
  have atEnd : Location.backup.lba sectors = some (sectors - 1) :=
    Word.sub_eq_some_iff.mpr ⟨Nat.le_trans (by decide) minimum, rfl⟩
  have primary : ¬(tryCopy disk .primary sectorSize sectors).Derails := by
    intro derails
    exact Gpt.not_tableOutside_of_primary whole
      ((tryCopy_derails_iff (rfl : Location.primary.lba sectors = some 1) minimum whole small).mp
        derails)
  constructor
  · intro derails
    obtain ⟨primary?, tried, rest⟩ := (Logged.fails_bind.mp derails).resolve_left primary
    cases primary? with
    | some gpt => exact absurd rest (Logged.not_fails_pure _)
    | none =>
        exact ⟨tried, (tryCopy_derails_iff atEnd minimum whole small).mp
          ((fails_findCopy_of_none tried).mp derails)⟩
  · rintro ⟨tried, outside⟩
    exact (fails_findCopy_of_none tried).mpr
      ((tryCopy_derails_iff atEnd minimum whole small).mpr outside)

/-! ## The whole inspection -/

/-- An inspection comes to the backup copy of a sector size: what it looked at before
was in order, or was a copy with a defect. -/
inductive ReachesBackup (disk : Disk) (skipParameterBlock : Bool) : SectorSize → Nat → Prop where
  | own {mbr : ProtectiveMbr} (size : disk.checkedSectors = .ok disk.sectors)
      (bootRecord : (checkMbr disk disk.sectors skipParameterBlock).outcome = .ok mbr)
      (primary : (tryCopy disk .primary disk.sectorSize disk.sectors).outcome = .ok none) :
      ReachesBackup disk skipParameterBlock disk.sectorSize disk.sectors
  | other {mbr : ProtectiveMbr} {sectors : Nat} (size : disk.checkedSectors = .ok disk.sectors)
      (bootRecord : (checkMbr disk disk.sectors skipParameterBlock).outcome = .ok mbr)
      (own : (findCopy disk disk.sectorSize disk.sectors).outcome = .ok none)
      (otherSize : (otherSectors disk).outcome = .ok sectors)
      (primary : (tryCopy disk .primary disk.sectorSize.other sectors).outcome = .ok none) :
      ReachesBackup disk skipParameterBlock disk.sectorSize.other sectors

theorem bytes_le_of_minimum (minimum : Disk.minimumSectors ≤ disk.sectors) :
    disk.sectorSize.bytes ≤ disk.size := by
  have least : Disk.minimumSectors = 6 := rfl
  unfold Disk.sectors at minimum
  rcases disk.sectorSize.bytes_cases with bytes | bytes <;> rw [bytes] at minimum ⊢ <;> omega

theorem checkedSectors_not_derails (disk : Disk) :
    ¬(liftM disk.checkedSectors : Logged DiskError Nat).Derails := by
  rw [Logged.Derails, Logged.fails_liftExcept]
  rintro ⟨reason, refused, derails⟩
  unfold Disk.checkedSectors at refused
  split at refused
  · cases refused
    exact derails
  · split at refused
    · cases refused
      exact derails
    · split at refused
      · cases refused
        exact derails
      · exact nomatch refused

theorem otherSectors_not_derails (disk : Disk) : ¬(otherSectors disk).Derails := by
  simp only [otherSectors, Logged.fails_bind,
    Gpt.refuseIf_not_derails (.sizeNotMultipleOf4096 _) id, Logged.fails_ite,
    Logged.not_fails_debug, Logged.not_fails_pure, Logged.fails_refuse,
    Halt.Derails, and_false, or_self, exists_const, not_false_eq_true]

/-- **An inspection derails exactly if it comes to a backup copy whose entry array is
not on the disk.** -/
theorem ofDisk_derails_iff (disk : Disk) (skipParameterBlock : Bool) :
    (ofDisk disk skipParameterBlock).Derails ↔ ∃ sectorSize sectors,
      ReachesBackup disk skipParameterBlock sectorSize sectors ∧
        TableOutside disk (sectors - 1) sectorSize sectors := by
  unfold Logged.Derails ofDisk
  constructor
  · intro derails
    rcases Logged.fails_bind.mp derails with derails | ⟨_, sized, derails⟩
    · exact absurd derails (checkedSectors_not_derails disk)
    have sized := Logged.outcome_liftExcept_eq_ok.mp sized
    obtain ⟨small, whole, minimum, rfl⟩ := Disk.checkedSectors_eq_ok_iff.mp sized
    have fits := Nat.lt_trans small Word.signedLimit_lt_limit
    have ownWhole : disk.sectors * disk.sectorSize.bytes ≤ disk.size := Nat.div_mul_le_self _ _
    rcases Logged.fails_bind.mp derails with derails | ⟨mbr, checked, derails⟩
    · exact absurd derails (checkMbr_not_derails _ (Nat.le_trans (by decide) minimum)
        (bytes_le_of_minimum minimum))
    rcases Logged.fails_bind.mp derails with derails | ⟨own?, searched, derails⟩
    · obtain ⟨tried, outside⟩ := (findCopy_derails_iff minimum ownWhole fits).mp derails
      exact ⟨_, _, .own sized checked tried, outside⟩
    cases own? with
    | some own => exact absurd derails (Logged.not_fails_pure _)
    | none =>
        rcases Logged.fails_bind.mp derails with derails | ⟨oldSectors, counted, derails⟩
        · exact absurd derails (otherSectors_not_derails disk)
        obtain ⟨_, oldMinimum, rfl⟩ := otherSectors_eq_ok_iff.mp counted
        rcases Logged.fails_bind.mp derails with derails | ⟨other?, _, derails⟩
        · obtain ⟨tried, outside⟩ :=
            (findCopy_derails_iff oldMinimum (Nat.div_mul_le_self _ _) fits).mp derails
          exact ⟨_, _, .other sized checked searched counted tried, outside⟩
        · cases other? with
          | some other => exact absurd derails (Logged.not_fails_pure _)
          | none => exact (Logged.fails_refuse.mp derails).elim
  · rintro ⟨_, _, reaches, outside⟩
    cases reaches with
    | own sized checked tried =>
        obtain ⟨small, _, minimum, _⟩ := Disk.checkedSectors_eq_ok_iff.mp sized
        have fits := Nat.lt_trans small Word.signedLimit_lt_limit
        rw [Logged.fails_bind_of_ok (Logged.outcome_liftExcept_eq_ok.mpr sized),
          Logged.fails_bind_of_ok checked, Logged.fails_bind]
        exact .inl ((findCopy_derails_iff minimum (Nat.div_mul_le_self _ _) fits).mpr
          ⟨tried, outside⟩)
    | other sized checked searched counted tried =>
        obtain ⟨small, _, minimum, _⟩ := Disk.checkedSectors_eq_ok_iff.mp sized
        have fits := Nat.lt_trans small Word.signedLimit_lt_limit
        rw [Logged.fails_bind_of_ok (Logged.outcome_liftExcept_eq_ok.mpr sized),
          Logged.fails_bind_of_ok checked, Logged.fails_bind_of_ok searched]
        obtain ⟨_, oldMinimum, rfl⟩ := otherSectors_eq_ok_iff.mp counted
        refine (Logged.fails_bind_of_ok counted).mpr (Logged.fails_bind.mpr (.inl ?_))
        exact (findCopy_derails_iff oldMinimum (Nat.div_mul_le_self _ _) fits).mpr ⟨tried, outside⟩

/-! ## A disk on which it happens -/

/-- A backup copy that claims a place far behind the end of any disk, with its entry
array in front of it. -/
def farBackup : Gpt where
  header :=
    { signature := Gpt.Header.magic
      revision := Gpt.Header.supportedRevision
      headerSize := 92
      headerCrc := 0
      reserved := 0
      myLba := 0x8000000000000001
      alternateLba := 1
      firstUsableLba := 3
      lastUsableLba := 5
      diskGuid := Vector.replicate 16 0x5A
      tableLba := 0x8000000000000000
      entryCount := 1
      entrySize := 128
      tableCrc := 0 }
  table := Bytes.zeroes 512
  sectorSize := .small
  usedEntries := 0

/-- A disk of eight sectors with a fresh boot record, and that copy's header in the last one. -/
def farDisk : Disk :=
  (Disk.blank .small 4096).storeAll
    [⟨0, ((ProtectiveMbr.fresh .small 8).getD ⟨[]⟩).sector⟩,
      ⟨3584, (farBackup.seal?.getD farBackup).headerSector⟩]

theorem farBackup_coherent : farBackup.header.Coherent 7 .small 8 :=
  ⟨by decide, by decide, rfl, rfl, by decide, by decide, by decide, by decide, by decide,
    (⟨rfl, by decide, by decide⟩ : Gpt.Header.PlacedAsBackup _), by decide, by decide, by decide⟩

theorem farDisk_size : farDisk.size = 4096 := Disk.size_storeAll _ _

theorem farDisk_sectorSize : farDisk.sectorSize = .small := Disk.sectorSize_storeAll _ _

theorem farDisk_sectors : farDisk.sectors = 8 := Disk.sectors_storeAll _ _

/-- What the sectors of that disk hold that an inspection looks at. -/
theorem farDisk_bytesAt : ∃ mbr sealed,
    ProtectiveMbr.fresh .small 8 = some mbr ∧ farBackup.seal? = some sealed ∧
      farDisk.bytesAt 0 512 = mbr.sector ∧
      farDisk.bytesAt 512 512 = (Disk.blank .small 4096).bytesAt 512 512 ∧
      farDisk.bytesAt 3584 512 = sealed.headerSector := by
  obtain ⟨mbr, fresh⟩ : ∃ mbr, ProtectiveMbr.fresh .small 8 = some mbr := ⟨_, rfl⟩
  obtain ⟨sealed, made⟩ := farBackup.exists_seal? (by decide) (by decide)
  have disk : farDisk =
      (Disk.blank .small 4096).storeAll [⟨0, mbr.sector⟩, ⟨3584, sealed.headerSector⟩] := by
    rw [farDisk, fresh, made]
    rfl
  have bootLength : mbr.sector.length = 512 := (ProtectiveMbr.fills_fresh fresh).length
  have lastLength : sealed.headerSector.length = 512 := by
    obtain ⟨_, rfl, _⟩ := Gpt.seal?_eq_some made
    exact Gpt.length_headerSector _
  have pairwise : [⟨0, mbr.sector⟩, ⟨3584, sealed.headerSector⟩].Pairwise
      fun earlier later : Write => later.Apart earlier.offset earlier.data.length := by
    simp [Write.Apart, bootLength]
  have apart : ∀ write ∈ [⟨0, mbr.sector⟩, ⟨3584, sealed.headerSector⟩],
      Write.Apart write 512 512 := by
    simp [Write.Apart, bootLength]
  have written := Disk.bytesAt_storeAll_of_pairwise (Disk.blank .small 4096) pairwise
  simp only [← disk, List.forall_mem_cons, bootLength, lastLength] at written
  obtain ⟨boot, last, _⟩ := written
  refine ⟨mbr, sealed, fresh, made, boot, ?_, last⟩
  rw [disk]
  exact Disk.bytesAt_storeAll_of_apart apart

/-- Reading its last sector breaks a rule, since the entry array has no 64-bit position. -/
theorem read_farDisk : (Gpt.read farDisk 7 .small 8).outcome = .error .fault := by
  obtain ⟨_, sealed, _, made, _, _, last⟩ := farDisk_bytesAt
  have accepted := Gpt.accepted_of_seal? made farBackup_coherent
  have fits : 8 * SectorSize.small.bytes ≤ farDisk.size ∧ farDisk.size < Word.limit := by
    rw [farDisk_size]
    decide
  refine Logged.fails_eq_iff.mp
    ((Gpt.fails_read (by decide) (by decide) fits.1 fits.2).mpr (.inr ?_))
  rw [show farDisk.bytesAt (7 * SectorSize.small.bytes) SectorSize.small.bytes = _ from last]
  have decoded := Gpt.decode_headerSector sealed
  obtain ⟨_, rfl, _⟩ := Gpt.seal?_eq_some made
  refine ⟨_, Gpt.Header.ofSector?_eq_some_iff.mpr
    ⟨Nat.le_trans accepted.width_le accepted.headerSize_le_length, decoded⟩, accepted, .inl ?_⟩
  exact Logged.fails_eq_iff.mpr (Gpt.readTable_of_limit_le accepted.tableBytes_le
    (show Word.limit ≤ farBackup.header.tableLba.toNat * SectorSize.small.bytes by decide))

/-- **An inspection may break a rule of its own.** -/
theorem ofDisk_farDisk : (ofDisk farDisk false).outcome = .error .fault := by
  obtain ⟨mbr, _, fresh, _, boot, second, _⟩ := farDisk_bytesAt
  have sized : farDisk.checkedSectors = .ok 8 := by
    refine Disk.checkedSectors_eq_ok_iff.mpr ⟨?_, ?_, ?_, farDisk_sectors⟩
    · rw [farDisk_size]
      decide
    · rw [farDisk_size, farDisk_sectorSize]
      rfl
    · rw [farDisk_sectors]
      decide
  have checked : (checkMbr farDisk 8 false).outcome = .ok mbr := by
    refine checkMbr_of_fresh false fresh ?_ boot
    rw [farDisk_size]
    decide
  have primary : (tryCopy farDisk .primary .small 8).outcome = .ok none := by
    refine tryCopy_of_unsigned (rfl : Location.primary.lba 8 = some 1) (by decide) ?_ ?_ ?_
    · rw [farDisk_size]
      decide
    · rw [farDisk_size]
      decide
    · rw [show farDisk.bytesAt (1 * SectorSize.small.bytes) SectorSize.small.bytes = _ from second]
      decide +kernel
  rw [← Logged.fails_eq_iff, ofDisk,
    Logged.fails_bind_of_ok (Logged.outcome_liftExcept_eq_ok.mpr sized),
    Logged.fails_bind_of_ok checked, Logged.fails_bind]
  refine .inl ((fails_findCopy_of_none primary).mpr ?_)
  rw [fails_tryCopy (rfl : Location.backup.lba 8 = some 7), read_farDisk]
  exact Logged.fails_fault.mpr rfl

end TrustBoundary.Inspection
