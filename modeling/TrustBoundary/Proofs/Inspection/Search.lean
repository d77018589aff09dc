import TrustBoundary.Inspection
import TrustBoundary.Proofs.Gpt.Refusal
import TrustBoundary.Proofs.Mbr.Checked

/-!
# What an inspection has found out

An inspection that succeeds has found a stored copy of a partition table at one
of two sector sizes, and a protective master boot record that passes its checks
(`Inspection.ofDisk_eq_ok`).  A primary copy at the disk's own sector size is
looked for first, so it is what is found when it is there
(`Inspection.ofDisk_of_primary`).  A table at the other sector size is found when
there is none at the disk's own (`Inspection.ofDisk_of_other`).
-/

set_option autoImplicit false

namespace TrustBoundary

/-- A size is usable exactly if it fits, is whole, and gives enough sectors. -/
theorem Disk.checkedSectors_eq_ok_iff {disk : Disk} {sectors : Nat} :
    disk.checkedSectors = .ok sectors ↔
      disk.size < Word.signedLimit ∧ disk.size % disk.sectorSize.bytes = 0 ∧
        Disk.minimumSectors ≤ disk.sectors ∧ disk.sectors = sectors := by
  unfold Disk.checkedSectors
  split
  · simp; omega
  · split
    · simp; omega
    · split <;> simp <;> omega

theorem ProtectiveMbr.read_eq_ok_iff {disk : Disk} {mbr : ProtectiveMbr} :
    (ProtectiveMbr.read disk).outcome = .ok mbr ↔ disk.sectorSize.bytes ≤ disk.size ∧
      ProtectiveMbr.ofSector? (disk.bytesAt 0 disk.sectorSize.bytes) = some mbr := by
  have fits := disk.sectorSize.bytes_le_greatestBuffer
  simp only [ProtectiveMbr.read, Logged.outcome_bind_eq_ok, Disk.load_eq_ok_iff,
    Logged.outcome_liftOption_eq_ok, Nat.zero_add]
  constructor
  · rintro ⟨_, ⟨_, inside, rfl⟩, found⟩
    exact ⟨inside, found⟩
  · rintro ⟨inside, found⟩
    exact ⟨_, ⟨fits, inside, rfl⟩, found⟩

namespace Inspection

open Gpt (Location)

variable {disk : Disk} {sectorSize : SectorSize} {sectors : Nat} {gpt : Gpt} {location : Location}

/-! ## The boot record -/

theorem checkMbr_eq_ok_iff {skipParameterBlock : Bool} {mbr : ProtectiveMbr} :
    (checkMbr disk sectors skipParameterBlock).outcome = .ok mbr ↔
      ∃ found, (ProtectiveMbr.read disk).outcome = .ok found ∧
        (found.check sectors skipParameterBlock).outcome = .ok mbr := by
  simp only [checkMbr, Logged.outcome_bind_eq_ok, Logged.outcome_debug, Logged.outcome_pure_eq_ok,
    exists_const, true_and, exists_eq_right]

/-- A checked boot record takes one sector. -/
theorem fills_of_checkMbr {skipParameterBlock : Bool} {mbr : ProtectiveMbr}
    (checked : (checkMbr disk sectors skipParameterBlock).outcome = .ok mbr) :
    mbr.Fills disk.sectorSize.bytes := by
  obtain ⟨found, read, checked⟩ := checkMbr_eq_ok_iff.mp checked
  obtain ⟨_, found⟩ := ProtectiveMbr.read_eq_ok_iff.mp read
  have fills := ProtectiveMbr.ofSector?_eq_some found
  rw [Disk.length_bytesAt] at fills
  exact fills.check checked

/-- A checked boot record that was written back passes the check and stays as it is. -/
theorem checkMbr_stable {other : Disk} {skipParameterBlock : Bool} {mbr : ProtectiveMbr}
    (checked : (checkMbr disk sectors skipParameterBlock).outcome = .ok mbr)
    (size : other.size = disk.size) (sectorSize : other.sectorSize = disk.sectorSize)
    (written : other.bytesAt 0 disk.sectorSize.bytes = mbr.sector) :
    (checkMbr other sectors skipParameterBlock).outcome = .ok mbr := by
  have fills := fills_of_checkMbr checked
  obtain ⟨found, read, checked⟩ := checkMbr_eq_ok_iff.mp checked
  obtain ⟨inside, _⟩ := ProtectiveMbr.read_eq_ok_iff.mp read
  refine checkMbr_eq_ok_iff.mpr ⟨mbr, ProtectiveMbr.read_eq_ok_iff.mpr ?_,
    ProtectiveMbr.check_stable checked⟩
  rw [sectorSize, size, written]
  exact ⟨inside, fills.ofSector?_eq⟩

/-- Checking the boot record is a matter of the shape of the disk and of the bytes of sector 0. -/
theorem checkMbr_of_same_bytes {other : Disk} {skipParameterBlock : Bool} {mbr : ProtectiveMbr}
    (checked : (checkMbr disk sectors skipParameterBlock).outcome = .ok mbr)
    (size : other.size = disk.size) (sectorSize : other.sectorSize = disk.sectorSize)
    (sector : other.bytesAt 0 disk.sectorSize.bytes = disk.bytesAt 0 disk.sectorSize.bytes) :
    (checkMbr other sectors skipParameterBlock).outcome = .ok mbr := by
  obtain ⟨found, read, checked⟩ := checkMbr_eq_ok_iff.mp checked
  refine checkMbr_eq_ok_iff.mpr ⟨found, ProtectiveMbr.read_eq_ok_iff.mpr ?_, checked⟩
  rw [sectorSize, size, sector]
  exact ProtectiveMbr.read_eq_ok_iff.mp read

/-- A fresh boot record in sector 0 is found as it is. -/
theorem checkMbr_of_fresh {mbr : ProtectiveMbr} (skipParameterBlock : Bool)
    (made : ProtectiveMbr.fresh disk.sectorSize sectors = some mbr)
    (inside : disk.sectorSize.bytes ≤ disk.size)
    (written : disk.bytesAt 0 disk.sectorSize.bytes = mbr.sector) :
    (checkMbr disk sectors skipParameterBlock).outcome = .ok mbr := by
  refine checkMbr_eq_ok_iff.mpr ⟨mbr, ProtectiveMbr.read_eq_ok_iff.mpr ⟨inside, ?_⟩,
    ProtectiveMbr.check_fresh made skipParameterBlock⟩
  rw [written]
  exact (ProtectiveMbr.fills_fresh made).ofSector?_eq

/-! ## Finding a copy -/

/-- The search ends with a table exactly if the attempt gave it. -/
theorem verdict_eq_some_iff {attempt : Except (Halt DiskError) Gpt} :
    (verdict location sectorSize attempt).outcome = .ok (some gpt) ↔ attempt = .ok gpt := by
  unfold verdict
  split <;> simp only [Logged.outcome_bind_eq_ok, Logged.outcome_debug, Logged.outcome_warn,
    Logged.outcome_pure_eq_ok, Logged.outcome_refuse_ne_ok, Logged.outcome_fault_ne_ok,
    Option.some_inj, Except.ok.injEq, true_and, exists_const, reduceCtorEq, and_false]

theorem tryCopy_eq_some_iff :
    (tryCopy disk location sectorSize sectors).outcome = .ok (some gpt) ↔
      gpt.sectorSize = sectorSize ∧
        ∃ lba, location.lba sectors = some lba ∧ gpt.StoredAt disk lba sectors := by
  simp only [tryCopy, Logged.outcome_bind_eq_ok, Logged.outcome_liftOption_eq_ok,
    Logged.outcome_after, verdict_eq_some_iff, Gpt.read_eq_ok_iff]
  constructor
  · rintro ⟨lba, here, same, stored⟩
    exact ⟨same, lba, here, stored⟩
  · rintro ⟨same, lba, here, stored⟩
    exact ⟨lba, here, same, stored⟩

/-- What is found is stored. -/
theorem findCopy_eq_some (found : (findCopy disk sectorSize sectors).outcome =
    .ok (some (gpt, location))) :
    gpt.sectorSize = sectorSize ∧
      ∃ lba, location.lba sectors = some lba ∧ gpt.StoredAt disk lba sectors := by
  rw [findCopy, Logged.outcome_bind_eq_ok] at found
  obtain ⟨primary?, tried, found⟩ := found
  cases primary? with
  | some primary =>
      cases Logged.outcome_pure_eq_ok.mp found
      exact tryCopy_eq_some_iff.mp tried
  | none =>
      obtain ⟨backup?, triedNext, found⟩ := Logged.outcome_bind_eq_ok.mp found
      cases backup? with
      | some backup =>
          cases Logged.outcome_pure_eq_ok.mp found
          exact tryCopy_eq_some_iff.mp triedNext
      | none => cases Logged.outcome_pure_eq_ok.mp found

/-- A primary copy is found if there is one. -/
theorem findCopy_of_primary (same : gpt.sectorSize = sectorSize)
    (stored : gpt.StoredAt disk 1 sectors) :
    (findCopy disk sectorSize sectors).outcome = .ok (some (gpt, .primary)) :=
  Logged.outcome_bind_eq_ok.mpr
    ⟨some gpt, tryCopy_eq_some_iff.mpr ⟨same, 1, rfl, stored⟩, rfl⟩

/-- A copy that is rejected is passed over. -/
theorem tryCopy_of_rejected {lba : Nat} {defect : Gpt.Defect}
    (here : location.lba sectors = some lba)
    (rejected : (Gpt.read disk lba sectorSize sectors).outcome =
      .error (.refused (.rejected defect))) :
    (tryCopy disk location sectorSize sectors).outcome = .ok none := by
  refine Logged.outcome_bind_eq_ok.mpr ⟨lba, Logged.outcome_liftOption_eq_ok.mpr here, ?_⟩
  rw [Logged.outcome_after, rejected]
  cases defect <;> rfl

/-- A sector that does not begin with the signature is passed over. -/
theorem tryCopy_of_unsigned {lba : Nat} (here : location.lba sectors = some lba)
    (minimum : Disk.minimumSectors ≤ sectors) (whole : sectors * sectorSize.bytes ≤ disk.size)
    (small : disk.size < Word.limit)
    (unsigned : (Gpt.Header.decode
      (disk.bytesAt (lba * sectorSize.bytes) sectorSize.bytes)).signature ≠ Gpt.Header.magic) :
    (tryCopy disk location sectorSize sectors).outcome = .ok none := by
  have least : Disk.minimumSectors = 6 := rfl
  have place := Location.lba_eq_some here
  exact tryCopy_of_rejected here
    (Gpt.read_of_unsigned minimum (by omega) (by omega) whole small unsigned)

/-- The backup copy is found if there is one and the primary copy is passed over. -/
theorem findCopy_of_backup (primary : (tryCopy disk .primary sectorSize sectors).outcome = .ok none)
    (same : gpt.sectorSize = sectorSize) (least : 1 ≤ sectors)
    (stored : gpt.StoredAt disk (sectors - 1) sectors) :
    (findCopy disk sectorSize sectors).outcome = .ok (some (gpt, .backup)) := by
  have here : Location.backup.lba sectors = some (sectors - 1) :=
    Word.sub_eq_some_iff.mpr ⟨least, rfl⟩
  exact Logged.outcome_bind_eq_ok.mpr ⟨none, primary, Logged.outcome_bind_eq_ok.mpr
    ⟨some gpt, tryCopy_eq_some_iff.mpr ⟨same, _, here, stored⟩, rfl⟩⟩

/-- Where neither copy is looked at any further, none is found. -/
theorem findCopy_of_neither
    (primary : (tryCopy disk .primary sectorSize sectors).outcome = .ok none)
    (backup : (tryCopy disk .backup sectorSize sectors).outcome = .ok none) :
    (findCopy disk sectorSize sectors).outcome = .ok none :=
  Logged.outcome_bind_eq_ok.mpr ⟨none, primary, Logged.outcome_bind_eq_ok.mpr ⟨none, backup, rfl⟩⟩

theorem otherSectors_eq_ok_iff :
    (otherSectors disk).outcome = .ok sectors ↔
      disk.size % SectorSize.large.bytes = 0 ∧ Disk.minimumSectors ≤ sectors ∧
        disk.size / disk.sectorSize.other.bytes = sectors := by
  simp only [otherSectors, Logged.outcome_bind_eq_ok, Logged.outcome_refuseIf_eq_ok, exists_const,
    Logged.outcome_ite_eq_ok, Logged.outcome_pure_eq_ok, Logged.outcome_refuse_ne_ok, ne_eq,
    Decidable.not_not]
  constructor
  · rintro ⟨whole, few, same⟩
    have enough : ¬disk.size / disk.sectorSize.other.bytes < Disk.minimumSectors := by
      intro short
      obtain ⟨_, impossible⟩ := few short
      exact impossible.2
    have same := same enough
    omega
  · rintro ⟨whole, enough, rfl⟩
    refine ⟨whole, ?_, fun _ => rfl⟩
    intro short
    exact absurd enough (Nat.not_le.mpr short)

/-! ## The whole inspection -/

/-- What holds of a disk when its inspection has found this. -/
structure Sound (found : Inspection) (disk : Disk) (skipParameterBlock : Bool) : Prop where
  size_lt : disk.size < Word.signedLimit
  minimumSectors_le : Disk.minimumSectors ≤ disk.sectors
  size_eq : disk.size = disk.sectors * disk.sectorSize.bytes
  sectors : found.sectors = disk.sectors
  mbr : (checkMbr disk disk.sectors skipParameterBlock).outcome = .ok found.mbr
  sectorSize : found.gpt.sectorSize =
    if found.needsMigration then disk.sectorSize.other else disk.sectorSize
  table_size_eq : disk.size = disk.size / found.gpt.sectorSize.bytes * found.gpt.sectorSize.bytes
  stored : ∃ lba, found.location.lba (disk.size / found.gpt.sectorSize.bytes) = some lba ∧
    found.gpt.StoredAt disk lba (disk.size / found.gpt.sectorSize.bytes)

variable {found : Inspection} {skipParameterBlock : Bool}

/-- **What an inspection finds is there.** -/
theorem ofDisk_eq_ok (inspected : (ofDisk disk skipParameterBlock).outcome = .ok found) :
    found.Sound disk skipParameterBlock := by
  simp only [ofDisk, Logged.outcome_bind_eq_ok, Logged.outcome_liftExcept_eq_ok,
    Disk.checkedSectors_eq_ok_iff] at inspected
  obtain ⟨_, ⟨small, whole, enough, rfl⟩, mbr, checked, own?, searched, inspected⟩ := inspected
  have size_eq : disk.size = disk.sectors * disk.sectorSize.bytes :=
    (Nat.div_mul_cancel (Nat.dvd_of_mod_eq_zero whole)).symm
  cases own? with
  | some own =>
      obtain ⟨gpt, location⟩ := own
      cases Logged.outcome_pure_eq_ok.mp inspected
      obtain ⟨same, stored⟩ := findCopy_eq_some searched
      have counted : disk.size / gpt.sectorSize.bytes = disk.sectors := by rw [same]; rfl
      exact ⟨small, enough, size_eq, rfl, checked, same, by rw [counted, same]; exact size_eq,
        by rw [counted]; exact stored⟩
  | none =>
      obtain ⟨oldSectors, counted, inspected⟩ := Logged.outcome_bind_eq_ok.mp inspected
      obtain ⟨other?, searchedAgain, inspected⟩ := Logged.outcome_bind_eq_ok.mp inspected
      obtain ⟨wholeLarge, _, rfl⟩ := otherSectors_eq_ok_iff.mp counted
      cases other? with
      | some other =>
          obtain ⟨gpt, location⟩ := other
          cases Logged.outcome_pure_eq_ok.mp inspected
          obtain ⟨same, stored⟩ := findCopy_eq_some searchedAgain
          have wholeOther : disk.size % disk.sectorSize.other.bytes = 0 := by
            rw [show SectorSize.large.bytes = 4096 from rfl] at wholeLarge
            rcases disk.sectorSize.other.bytes_cases with bytes | bytes <;> rw [bytes] <;> omega
          exact ⟨small, enough, size_eq, rfl, checked, same,
            by rw [same]; exact (Nat.div_mul_cancel (Nat.dvd_of_mod_eq_zero wholeOther)).symm,
            by rw [same]; exact stored⟩
      | none => exact absurd inspected Logged.outcome_refuse_ne_ok

/-- A copy at the disk's own sector size is what is found. -/
theorem ofDisk_of_own {mbr : ProtectiveMbr} (small : disk.size < Word.signedLimit)
    (enough : Disk.minimumSectors ≤ disk.sectors)
    (size_eq : disk.size = disk.sectors * disk.sectorSize.bytes)
    (checked : (checkMbr disk disk.sectors skipParameterBlock).outcome = .ok mbr)
    (own : (findCopy disk disk.sectorSize disk.sectors).outcome = .ok (some (gpt, location))) :
    (ofDisk disk skipParameterBlock).outcome = .ok
      { mbr, sectors := disk.sectors, gpt, location, needsMigration := false } := by
  have whole : disk.size % disk.sectorSize.bytes = 0 := by rw [size_eq, Nat.mul_mod_left]
  rw [ofDisk, Logged.outcome_bind_eq_ok]
  refine ⟨disk.sectors, Logged.outcome_liftExcept_eq_ok.mpr
    (Disk.checkedSectors_eq_ok_iff.mpr ⟨small, whole, enough, rfl⟩), ?_⟩
  rw [Logged.outcome_bind_eq_ok]
  refine ⟨mbr, checked, ?_⟩
  rw [Logged.outcome_bind_eq_ok]
  exact ⟨some (gpt, location), own, rfl⟩

/-- A primary copy at the disk's own sector size is what is found. -/
theorem ofDisk_of_primary {mbr : ProtectiveMbr} (small : disk.size < Word.signedLimit)
    (enough : Disk.minimumSectors ≤ disk.sectors)
    (size_eq : disk.size = disk.sectors * disk.sectorSize.bytes)
    (checked : (checkMbr disk disk.sectors skipParameterBlock).outcome = .ok mbr)
    (same : gpt.sectorSize = disk.sectorSize) (stored : gpt.StoredAt disk 1 disk.sectors) :
    (ofDisk disk skipParameterBlock).outcome = .ok
      { mbr, sectors := disk.sectors, gpt, location := .primary, needsMigration := false } :=
  ofDisk_of_own small enough size_eq checked (findCopy_of_primary same stored)

/-- Where neither copy can be at the disk's own sector size, what is found at the other
one has to be migrated. -/
theorem ofDisk_of_other {mbr : ProtectiveMbr} (small : disk.size < Word.signedLimit)
    (enough : Disk.minimumSectors ≤ disk.sectors)
    (size_eq : disk.size = disk.sectors * disk.sectorSize.bytes)
    (checked : (checkMbr disk disk.sectors skipParameterBlock).outcome = .ok mbr)
    (own : (findCopy disk disk.sectorSize disk.sectors).outcome = .ok none)
    (counted : (otherSectors disk).outcome = .ok sectors)
    (other : (findCopy disk disk.sectorSize.other sectors).outcome = .ok (some (gpt, location))) :
    (ofDisk disk skipParameterBlock).outcome = .ok
      { mbr, sectors := disk.sectors, gpt, location, needsMigration := true } := by
  have whole : disk.size % disk.sectorSize.bytes = 0 := by rw [size_eq, Nat.mul_mod_left]
  rw [ofDisk, Logged.outcome_bind_eq_ok]
  refine ⟨disk.sectors, Logged.outcome_liftExcept_eq_ok.mpr
    (Disk.checkedSectors_eq_ok_iff.mpr ⟨small, whole, enough, rfl⟩), ?_⟩
  refine Logged.outcome_bind_eq_ok.mpr ⟨mbr, checked, Logged.outcome_bind_eq_ok.mpr ⟨none, own, ?_⟩⟩
  refine Logged.outcome_bind_eq_ok.mpr ⟨sectors, counted,
    Logged.outcome_bind_eq_ok.mpr ⟨_, other, ?_⟩⟩
  rfl
end Inspection

end TrustBoundary
