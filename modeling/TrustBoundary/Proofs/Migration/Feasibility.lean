import TrustBoundary.Proofs.Migration.Interruption

/-!
# Which tables can be rebuilt

A table that was read from a disk can be rebuilt for another sector size of the same
disk exactly if it fits (`Fits`): its header fits a sector, its partitions begin and end
at sectors, and the slots that are in use fit in front of the first partition and behind
the last one.  A table that does not fit is refused for one of five reasons, each of
which names what is in the way (`Conflict`), and nothing else can happen
(`rebuilt_or_refused`).

Both copies share this fate.  What is checked is checked before anything is computed for
one of them (`assess`), and what is computed then does not fail (`fails_rebuild_iff`),
since the validation of the table has bounded its numbers by the size of the disk.
-/

set_option autoImplicit false

namespace TrustBoundary.Migration

open Gpt (Location)

/-! ## A table and the disk that it is rebuilt for -/

/-- A table that is stored on a disk, and a geometry for the bytes of that disk. -/
structure Offered (gpt : Gpt) (disk : Disk) (offset sectors : Nat)
    (geometry : Geometry) : Prop where
  stored : gpt.StoredAt disk offset sectors
  whole : disk.size = sectors * gpt.sectorSize.bytes
  size_eq : geometry.size = disk.size
  size_lt : disk.size < Word.signedLimit
  minimumSectors_le : Disk.minimumSectors ≤ geometry.sectors

/-- The room that the slots of a table up to the last used one take. -/
def usedRoom (gpt : Gpt) (sectorSize : SectorSize) : Nat :=
  sectorSize.wholeBytes (Gpt.Entry.width * gpt.usedEntries)

/-- A table fits a geometry, with its partitions where they are. -/
structure Fits (gpt : Gpt) (geometry : Geometry) (first last : Nat) : Prop where
  headerSize_le : gpt.header.headerSize.toNat ≤ geometry.sectorSize.bytes
  aligned : ∀ item ∈ gpt.used, item.2.startByte gpt.sectorSize % geometry.sectorSize.bytes = 0 ∧
    item.2.stopByte gpt.sectorSize % geometry.sectorSize.bytes = 0
  inFront : usedRoom gpt geometry.sectorSize + 2 * geometry.sectorSize.bytes ≤ first
  behind : usedRoom gpt geometry.sectorSize + geometry.sectorSize.bytes ≤ geometry.size - last

/-- What keeps a table from fitting, with the refusal that says so. -/
inductive Conflict (gpt : Gpt) (geometry : Geometry) (first last : Nat) : DiskError → Prop where
  | header (large : geometry.sectorSize.bytes < gpt.header.headerSize.toNat) :
      Conflict gpt geometry first last
        (.headerSizeTooLarge gpt.header.headerSize.toNat geometry.sectorSize.bytes)
  | start {index : Nat} {entry : Gpt.Entry} (used : (index, entry) ∈ gpt.used)
      (misaligned : entry.startByte gpt.sectorSize % geometry.sectorSize.bytes ≠ 0) :
      Conflict gpt geometry first last
        (.startMisaligned (index + 1) (entry.startByte gpt.sectorSize) geometry.sectorSize.bytes)
  | stop {index : Nat} {entry : Gpt.Entry} (used : (index, entry) ∈ gpt.used)
      (misaligned : entry.stopByte gpt.sectorSize % geometry.sectorSize.bytes ≠ 0) :
      Conflict gpt geometry first last
        (.endMisaligned (index + 1) (entry.stopByte gpt.sectorSize) geometry.sectorSize.bytes)
  | behind {index : Nat} {entry : Gpt.Entry} (used : (index, entry) ∈ gpt.used)
      (isLast : entry.stopByte gpt.sectorSize = last)
      (short : geometry.size - last < usedRoom gpt geometry.sectorSize +
        geometry.sectorSize.bytes) :
      Conflict gpt geometry first last
        (.noRoomForBackup (index + 1) last (geometry.size - last)
          (usedRoom gpt geometry.sectorSize + geometry.sectorSize.bytes))
  | inFront {index : Nat} {entry : Gpt.Entry} (used : (index, entry) ∈ gpt.used)
      (isFirst : entry.startByte gpt.sectorSize = first)
      (short : first < usedRoom gpt geometry.sectorSize + 2 * geometry.sectorSize.bytes) :
      Conflict gpt geometry first last
        (.noRoomForPrimary (index + 1) first
          (usedRoom gpt geometry.sectorSize + 2 * geometry.sectorSize.bytes))

variable {gpt new : Gpt} {location : Location} {disk : Disk} {offset sectors first last : Nat}
  {geometry : Geometry} {bad : Halt DiskError → Prop}

/-- A table that fits has no conflict. -/
theorem Fits.not_conflict (fits : Fits gpt geometry first last) {reason : DiskError} :
    ¬Conflict gpt geometry first last reason := by
  intro conflict
  cases conflict with
  | header large => exact absurd fits.headerSize_le (Nat.not_le.mpr large)
  | start used misaligned => exact misaligned (fits.aligned _ used).1
  | stop used misaligned => exact misaligned (fits.aligned _ used).2
  | behind _ _ short => exact absurd fits.behind (Nat.not_le.mpr short)
  | inFront _ _ short => exact absurd fits.inFront (Nat.not_le.mpr short)

/-- A copy that was rebuilt shows that the table fits. -/
theorem Rebuilt.fits (rebuilt : Rebuilt new gpt location geometry first last)
    (stored : gpt.StoredAt disk offset sectors) : Fits gpt geometry first last := by
  have inFront := rebuilt.inFront
  have behind := rebuilt.behind
  have fewer : usedRoom gpt geometry.sectorSize ≤ new.tableRoom := by
    have enough : Gpt.Entry.width * gpt.usedEntries ≤ new.header.tableBytes := by
      rw [Gpt.Header.tableBytes, rebuilt.entrySize stored, Nat.mul_comm]
      exact Nat.mul_le_mul_right _ rebuilt.used_le
    rw [Gpt.tableRoom, rebuilt.sectorSize]
    exact SectorSize.wholeBytes_le (Nat.le_trans enough (SectorSize.le_wholeBytes _ _))
      (SectorSize.wholeBytes_mod _ _)
  exact {
    headerSize_le := rebuilt.announces.headerSize ▸ rebuilt.headerSize_le
    aligned := fun item member =>
      ⟨(rebuilt.expressible item member).start_mod, (rebuilt.expressible item member).stop_mod⟩
    inFront := by omega
    behind := by omega }

/-! ## What an offered table has -/

namespace Offered

/-- There is a first and a last partition. -/
theorem exists_bounds (offered : Offered gpt disk offset sectors geometry) :
    ∃ first last, gpt.firstStart? = some first ∧ gpt.lastStop? = some last := by
  obtain ⟨item, isLast, _⟩ := offered.stored.usedEntries
  have used : item ∈ gpt.used := offered.stored.used_eq ▸ List.mem_of_getLast? isLast
  obtain ⟨first, isFirst⟩ := Option.isSome_iff_exists.mp (List.isSome_min?_of_mem
    (List.mem_map_of_mem used) : gpt.firstStart?.isSome)
  obtain ⟨last, isLast⟩ := Option.isSome_iff_exists.mp (List.isSome_max?_of_mem
    (List.mem_map_of_mem used) : gpt.lastStop?.isSome)
  exact ⟨first, last, isFirst, isLast⟩

/-- The usable sectors end on the disk. -/
theorem usableStop_le (offered : Offered gpt disk offset sectors geometry) :
    gpt.usableStop ≤ geometry.size := by
  have behind := offered.stored.lastUsable_lt offered.whole
  rw [offered.size_eq, offered.whole]
  exact Nat.mul_le_mul_right _ (by omega)

theorem size_lt_limit (offered : Offered gpt disk offset sectors geometry) :
    geometry.size < Word.limit := by
  rw [offered.size_eq]
  exact Nat.lt_trans offered.size_lt Word.signedLimit_lt_limit

/-- Every partition lies on the disk, so its positions fit 64 bits. -/
theorem positions_lt (offered : Offered gpt disk offset sectors geometry) : ∀ item ∈ gpt.used,
    item.2.startByte gpt.sectorSize < Word.limit ∧ item.2.stopByte gpt.sectorSize < Word.limit := by
  intro item member
  have usable : Gpt.EntriesUsable gpt.header gpt.used :=
    offered.stored.used_eq ▸ offered.stored.entries
  obtain ⟨_, ordered, below⟩ := usable item member
  have start : item.2.startByte gpt.sectorSize ≤ item.2.stopByte gpt.sectorSize :=
    Nat.mul_le_mul_right _ (Nat.le_succ_of_le ordered)
  have stop : item.2.stopByte gpt.sectorSize ≤ gpt.usableStop :=
    Nat.mul_le_mul_right _ (Nat.succ_le_succ below)
  have small := Nat.lt_of_le_of_lt (Nat.le_trans stop offered.usableStop_le) offered.size_lt_limit
  exact ⟨Nat.lt_of_le_of_lt start small, small⟩

/-- Slots of any number up to that of the table can be rounded up to sectors. -/
theorem roundUp_slots (offered : Offered gpt disk offset sectors geometry) {count : Nat}
    (fewer : count ≤ gpt.header.entryCount.toNat) (sectorSize : SectorSize) :
    sectorSize.roundUp (Gpt.Entry.width * count) =
      some (sectorSize.wholeBytes (Gpt.Entry.width * count)) := by
  refine Gpt.roundUp_tableBytes sectorSize (Nat.le_trans ?_ offered.stored.accepted.tableBytes_le)
  rw [Gpt.Header.tableBytes, offered.stored.accepted.entrySize, Nat.mul_comm]
  exact Nat.mul_le_mul_right _ fewer

/-- The bounds of the usable sectors can be given in bytes. -/
theorem usable_in_bytes (offered : Offered gpt disk offset sectors geometry) :
    Word.mul gpt.header.firstUsableLba.toNat gpt.sectorSize.bytes = some gpt.usableStart ∧
      Word.add gpt.header.lastUsableLba.toNat 1 = some (gpt.header.lastUsableLba.toNat + 1) ∧
      Word.mul (gpt.header.lastUsableLba.toNat + 1) gpt.sectorSize.bytes = some gpt.usableStop := by
  have small := Nat.lt_of_le_of_lt offered.usableStop_le offered.size_lt_limit
  have ordered : gpt.usableStart ≤ gpt.usableStop :=
    Nat.mul_le_mul_right _ (Nat.le_succ_of_le offered.stored.accepted.firstUsable_le)
  have afterLast : gpt.header.lastUsableLba.toNat + 1 ≤ gpt.usableStop :=
    Nat.le_mul_of_pos_right _ gpt.sectorSize.bytes_pos
  exact ⟨Word.mul_eq_some_iff.mpr ⟨Nat.lt_of_le_of_lt ordered small, rfl⟩,
    Word.add_eq_some_iff.mpr ⟨Nat.lt_of_le_of_lt afterLast small, rfl⟩,
    Word.mul_eq_some_iff.mpr ⟨small, rfl⟩⟩

section Room

variable {room : Nat}

/-- An entry array that fits the disk with a header behind it has a first sector. -/
theorem tableSectors_le (fits : room + geometry.sectorSize.bytes ≤ geometry.size) :
    1 + room / geometry.sectorSize.bytes ≤ geometry.sectors := by
  refine Nat.le_of_mul_le_mul_right ?_ geometry.sectorSize.bytes_pos
  have whole := Nat.div_mul_le_self room geometry.sectorSize.bytes
  rw [Nat.add_mul, Nat.one_mul, Nat.mul_comm geometry.sectors]
  change _ ≤ geometry.size
  omega

/-- New bounds of the usable sectors can be computed where an entry array has the room
for it on both sides of the partitions. -/
theorem usable_bounds (offered : Offered gpt disk offset sectors geometry)
    (isFirst : gpt.firstStart? = some first) (isLast : gpt.lastStop? = some last)
    (inFront : room + 2 * geometry.sectorSize.bytes ≤ first)
    (behind : last + (room + geometry.sectorSize.bytes) ≤ geometry.size) :
    let backupStart := geometry.size - (room + geometry.sectorSize.bytes)
    Word.sub geometry.size (room + geometry.sectorSize.bytes) = some backupStart ∧
      geometry.sectorSize.roundUp (max gpt.usableStart (room + 2 * geometry.sectorSize.bytes)) =
        some (geometry.sectorSize.wholeBytes
          (max gpt.usableStart (room + 2 * geometry.sectorSize.bytes))) ∧
      Word.sub (min gpt.usableStop backupStart / geometry.sectorSize.bytes) 1 =
        some (min gpt.usableStop backupStart / geometry.sectorSize.bytes - 1) := by
  intro backupStart
  obtain ⟨above, ordered, below⟩ := offered.stored.partitions_usable isFirst isLast
  have ends := offered.usableStop_le
  have signed := offered.size_eq ▸ offered.size_lt
  have limits : Word.limit = 2 ^ 64 ∧ Word.signedLimit = 2 ^ 63 := ⟨rfl, rfl⟩
  have width := geometry.sectorSize.bytes_cases
  refine ⟨Word.sub_eq_some_iff.mpr ⟨by omega, rfl⟩,
    SectorSize.roundUp_eq_some_iff.mpr ⟨by omega, rfl⟩, ?_⟩
  -- at least the sectors in front of the first partition come before the last usable one
  have reached : geometry.sectorSize.bytes ≤ min gpt.usableStop backupStart := by omega
  exact Word.sub_eq_some_iff.mpr
    ⟨(Nat.one_le_div_iff geometry.sectorSize.bytes_pos).mpr reached, rfl⟩

/-- A header can be made where its entry array has the room for it. -/
theorem exists_newHeader (offered : Offered gpt disk offset sectors geometry)
    (isFirst : gpt.firstStart? = some first) (isLast : gpt.lastStop? = some last)
    (location : Location) (count : Nat) (inFront : room + 2 * geometry.sectorSize.bytes ≤ first)
    (behind : last + (room + geometry.sectorSize.bytes) ≤ geometry.size) :
    ∃ header, newHeader gpt location geometry count room = some header := by
  have least : 1 ≤ geometry.sectors := Nat.le_trans (by decide) offered.minimumSectors_le
  obtain ⟨firstOldByte, afterLast, firstUnusable⟩ := offered.usable_in_bytes
  obtain ⟨backupStart, firstUsable, lastUsable⟩ :=
    offered.usable_bounds isFirst isLast inFront behind
  rw [Geometry.size] at backupStart lastUsable
  obtain ⟨myLba, here⟩ := location.exists_lba least
  obtain ⟨alternateLba, there⟩ := location.other.exists_lba least
  cases location with
  | primary =>
      simp only [newHeader, firstOldByte, afterLast, firstUnusable, backupStart, firstUsable,
        lastUsable, Option.bind_eq_bind, Option.bind_some, here, there]
      exact ⟨_, rfl⟩
  | backup =>
      have fits : room + geometry.sectorSize.bytes ≤ geometry.size :=
        Nat.le_trans (Nat.le_add_left _ _) behind
      have tableLba := Word.sub_eq_some_iff.mpr ⟨tableSectors_le fits, rfl⟩
      simp only [newHeader, firstOldByte, afterLast, firstUnusable, backupStart, firstUsable,
        lastUsable, Option.bind_eq_bind, Option.bind_some, here, there, tableLba]
      exact ⟨_, rfl⟩

/-- A copy whose header was made and fits a sector can be given its checksums. -/
theorem exists_sealed (offered : Offered gpt disk offset sectors geometry) {count : Nat}
    {header : Gpt.Header} (made : newHeader gpt location geometry count room = some header)
    (headerFits : gpt.header.headerSize.toNat ≤ geometry.sectorSize.bytes) (table : Bytes) :
    ∃ sealed, Gpt.seal? ⟨header, table, geometry.sectorSize, gpt.usedEntries⟩ = some sealed := by
  have headerSize :=
    (newHeader_eq_some offered.minimumSectors_le offered.size_lt_limit made).1.headerSize
  have fewest : Gpt.Header.crcOffset + 4 ≤ gpt.header.headerSize.toNat :=
    Nat.le_trans (by decide) offered.stored.accepted.width_le
  rw [← headerSize] at headerFits fewest
  exact Gpt.exists_seal? _ fewest headerFits

end Room

end Offered

/-! ## What is checked for both copies -/

/-- The checks of a rebuild, which do not depend on the copy that is made. -/
def assess (gpt : Gpt) (geometry : Geometry) : Logged DiskError Bounds := do
  Logged.refuseIf (gpt.header.headerSize.toNat > geometry.sectorSize.bytes)
    (.headerSizeTooLarge gpt.header.headerSize.toNat geometry.sectorSize.bytes)
  let bounds ← measureBounds gpt geometry.sectorSize.bytes geometry.size
  checkRoom bounds (usedRoom gpt geometry.sectorSize) geometry.sectorSize.bytes geometry.size
  return bounds

/-- **A table fails to be rebuilt exactly if the checks fail,** and in the same way,
whichever copy is made. -/
theorem fails_rebuild_iff (offered : Offered gpt disk offset sectors geometry) :
    (rebuild gpt location geometry).Fails bad ↔ (assess gpt geometry).Fails bad := by
  have minimum : (Logged.require (Disk.minimumSectors ≤ geometry.sectors) :
      Logged DiskError Unit).outcome = .ok () :=
    Logged.outcome_require_eq_ok.mpr offered.minimumSectors_le
  have size : Word.mul geometry.sectorSize.bytes geometry.sectors = some geometry.size :=
    Word.mul_eq_some_iff.mpr ⟨offered.size_lt_limit, rfl⟩
  unfold rebuild assess
  rw [Logged.fails_bind_of_ok minimum,
    Logged.fails_bind_of_ok (Logged.outcome_liftOption_eq_ok.mpr size)]
  refine Logged.fails_bind_congr fun _ headerFits => ?_
  refine Logged.fails_bind_congr fun bounds measured => ?_
  have used := offered.roundUp_slots offered.stored.usedEntries_le geometry.sectorSize
  rw [Logged.fails_bind_of_ok (Logged.outcome_liftOption_eq_ok.mpr used)]
  refine Logged.fails_bind_congr fun _ room => ?_
  -- from here on nothing fails any more
  obtain ⟨isFirst, isLast, _⟩ := measureBounds_eq_ok measured
  obtain ⟨behind, inFront⟩ := checkRoom_eq_ok_iff.mp room
  have enough := le_newEntryCount offered.stored.usedEntries_le behind inFront
  have fitting :
      (Logged.require (gpt.usedEntries ≤ fittingEntryCount bounds geometry.sectorSize.bytes
        geometry.size) : Logged DiskError Unit).outcome = .ok () :=
    Logged.outcome_require_eq_ok.mpr (Nat.le_trans enough (Nat.min_le_left _ _))
  have slots : geometry.sectorSize.roundUp (Gpt.Entry.width *
      newEntryCount gpt bounds geometry.sectorSize.bytes geometry.size) = some _ :=
    offered.roundUp_slots newEntryCount_le geometry.sectorSize
  obtain ⟨fitsInFront, fitsBehind⟩ :=
    newEntryCount_fits geometry.size_mod measured behind inFront
  obtain ⟨header, made⟩ := offered.exists_newHeader isFirst isLast location
    (newEntryCount gpt bounds geometry.sectorSize.bytes geometry.size) fitsInFront fitsBehind
  rw [Logged.fails_bind_of_ok fitting,
    Logged.fails_bind_of_ok (Logged.outcome_liftOption_eq_ok.mpr slots),
    Logged.fails_bind_of_ok (Logged.outcome_liftOption_eq_ok.mpr made),
    Logged.fails_bind_of_ok (Logged.outcome_debug _)]
  have headerFits := Nat.not_lt.mp (Logged.outcome_refuseIf_eq_ok.mp headerFits)
  refine iff_of_false ?_ (Logged.not_fails_pure _)
  intro unsealed
  obtain ⟨missing, _⟩ := Logged.fails_liftOption.mp unsealed
  exact Option.ne_none_iff_exists'.mpr (offered.exists_sealed made headerFits _) missing

/-- What bounds the partitions are two of them. -/
theorem partitions_of_measureBounds {newBytes size : Nat} {bounds : Bounds}
    (measured : (measureBounds gpt newBytes size).outcome = .ok bounds) :
    (∃ entry, (bounds.first.index, entry) ∈ gpt.used ∧
        entry.startByte gpt.sectorSize = bounds.first.start) ∧
      ∃ entry, (bounds.last.index, entry) ∈ gpt.used ∧
        entry.stopByte gpt.sectorSize = bounds.last.stop := by
  simp only [measureBounds, Logged.outcome_bind_eq_ok, Logged.outcome_liftOption_eq_ok,
    Logged.outcome_require_eq_ok, Logged.outcome_pure_eq_ok, exists_const] at measured
  obtain ⟨extents, measured, first, isFirst, last, isLast, _, _, rfl⟩ := measured
  obtain ⟨rfl, _⟩ := Extent.measure_eq_ok measured
  obtain ⟨⟨_, entry⟩, firstUsed, rfl⟩ := List.mem_map.mp (Extent.mem_of_first? isFirst)
  obtain ⟨⟨_, entry'⟩, lastUsed, rfl⟩ := List.mem_map.mp (Extent.mem_of_last? isLast)
  exact ⟨⟨entry, firstUsed, rfl⟩, ⟨entry', lastUsed, rfl⟩⟩

/-- Bounds that cannot be measured are those of a partition that is not at sectors. -/
theorem conflict_of_fails_measureBounds (offered : Offered gpt disk offset sectors geometry)
    (isFirst : gpt.firstStart? = some first) (isLast : gpt.lastStop? = some last)
    (failed : (measureBounds gpt geometry.sectorSize.bytes geometry.size).Fails bad) :
    ∃ reason, Conflict gpt geometry first last reason ∧ bad (.refused reason) := by
  obtain ⟨_, ordered, below⟩ := offered.stored.partitions_usable isFirst isLast
  rw [measureBounds, Logged.fails_bind] at failed
  rcases failed with misaligned | ⟨extents, measured, failed⟩
  · obtain ⟨index, entry, used, ⟨start, holds⟩ | ⟨stop, holds⟩⟩ :=
      Extent.fails_measure offered.positions_lt misaligned
    · exact ⟨_, .start used start, holds⟩
    · exact ⟨_, .stop used stop, holds⟩
  · -- partitions that were measured have bounds, and these are in order
    obtain ⟨starts, stops⟩ := bounds_of_taken (Extent.measure_eq_ok measured).1
    rw [isFirst, Option.map_eq_some_iff] at starts
    rw [isLast, Option.map_eq_some_iff] at stops
    obtain ⟨firstExtent, foundFirst, rfl⟩ := starts
    obtain ⟨lastExtent, foundLast, rfl⟩ := stops
    have inside := Nat.le_trans below offered.usableStop_le
    simp only [foundFirst, foundLast, ordered, inside, Logged.fails_bind, Logged.fails_liftOption,
      Logged.fails_require, Logged.not_fails_pure, Logged.outcome_liftOption_eq_ok, Option.some_inj,
      exists_eq_left', reduceCtorEq, not_true_eq_false, false_and, and_false, exists_false,
      or_self] at failed

/-- A failure of the checks is a refusal that names a conflict. -/
theorem conflict_of_fails_assess (offered : Offered gpt disk offset sectors geometry)
    (isFirst : gpt.firstStart? = some first) (isLast : gpt.lastStop? = some last)
    (failed : (assess gpt geometry).Fails bad) :
    ∃ reason, Conflict gpt geometry first last reason ∧ bad (.refused reason) := by
  rw [assess, Logged.fails_bind] at failed
  rcases failed with large | ⟨_, _, failed⟩
  · obtain ⟨large, holds⟩ := Logged.fails_refuseIf.mp large
    exact ⟨_, .header large, holds⟩
  rw [Logged.fails_bind] at failed
  rcases failed with unmeasured | ⟨bounds, measured, failed⟩
  · exact conflict_of_fails_measureBounds offered isFirst isLast unmeasured
  obtain ⟨sameFirst, sameLast, _⟩ := measureBounds_eq_ok measured
  cases Option.some_inj.mp (isFirst.symm.trans sameFirst)
  cases Option.some_inj.mp (isLast.symm.trans sameLast)
  obtain ⟨⟨_, firstUsed, starts⟩, _, lastUsed, stops⟩ := partitions_of_measureBounds measured
  rw [checkRoom, Logged.fails_bind] at failed
  rcases failed with cramped | ⟨_, _, impossible⟩
  · rw [Logged.fails_bind] at cramped
    rcases cramped with behind | ⟨_, _, inFront⟩
    · obtain ⟨short, holds⟩ := Logged.fails_refuseIf.mp behind
      exact ⟨_, .behind lastUsed stops short, holds⟩
    · obtain ⟨short, holds⟩ := Logged.fails_refuseIf.mp inFront
      exact ⟨_, .inFront firstUsed starts short, holds⟩
  · exact absurd impossible (Logged.not_fails_pure _)

/-! ## Rebuilt or refused -/

/-- A table can be rebuilt exactly if it fits. -/
theorem exists_rebuild_iff (offered : Offered gpt disk offset sectors geometry)
    (isFirst : gpt.firstStart? = some first) (isLast : gpt.lastStop? = some last)
    (location : Location) :
    (∃ new, (rebuild gpt location geometry).outcome = .ok new) ↔ Fits gpt geometry first last := by
  constructor
  · rintro ⟨new, made⟩
    exact (rebuild_eq_ok_around offered.stored isFirst isLast made).fits offered.stored
  · intro fits
    apply Logged.exists_ok_of_not_fails
    intro failed
    obtain ⟨_, conflict, _⟩ :=
      conflict_of_fails_assess offered isFirst isLast ((fails_rebuild_iff offered).mp failed)
    exact fits.not_conflict conflict

/-- A table that was read from a disk of usable size is offered for either sector size. -/
theorem offered_of_read {old new : SectorSize} (small : disk.size < Word.signedLimit)
    (whole : disk.size % SectorSize.large.bytes = 0)
    (minimum : Disk.minimumSectors ≤ disk.size / SectorSize.large.bytes)
    (read : (Gpt.read disk offset old (disk.size / old.bytes)).outcome = .ok gpt) :
    Offered gpt disk offset (disk.size / old.bytes) ⟨new, disk.size / new.bytes⟩ := by
  obtain ⟨same, stored⟩ := Gpt.read_eq_ok_iff.mp read
  have wholeFor : ∀ sectorSize : SectorSize, disk.size % sectorSize.bytes = 0 := by
    intro sectorSize
    rw [show SectorSize.large.bytes = 4096 from rfl] at whole
    rcases sectorSize.bytes_cases with bytes | bytes <;> rw [bytes] <;> omega
  have fewest : disk.size / SectorSize.large.bytes ≤ disk.size / new.bytes := by
    refine Nat.div_le_div_left ?_ new.bytes_pos
    cases new <;> decide
  exact {
    stored
    whole := by rw [same, Nat.div_mul_cancel (Nat.dvd_of_mod_eq_zero (wholeFor old))]
    size_eq := Nat.mul_div_cancel' (Nat.dvd_of_mod_eq_zero (wholeFor new))
    size_lt := small
    minimumSectors_le := Nat.le_trans minimum fewest }

/-- **A table that was read is rebuilt soundly or refused for a real reason.**  Neither
copy ends in a fault.  A copy is rebuilt exactly if the table fits, and then its header
is valid at its own place.  Otherwise both copies are refused for the same conflict. -/
theorem rebuilt_or_refused {old : SectorSize} (new : SectorSize)
    (small : disk.size < Word.signedLimit) (whole : disk.size % SectorSize.large.bytes = 0)
    (minimum : Disk.minimumSectors ≤ disk.size / SectorSize.large.bytes)
    (read : (Gpt.read disk offset old (disk.size / old.bytes)).outcome = .ok gpt) :
    let geometry : Geometry := ⟨new, disk.size / new.bytes⟩
    geometry.size = disk.size ∧
    ∃ first last, gpt.firstStart? = some first ∧ gpt.lastStop? = some last ∧
      ∀ location,
        (rebuild gpt location geometry).outcome ≠ .error .fault ∧
        ((∃ copy, (rebuild gpt location geometry).outcome = .ok copy) ↔
          Fits gpt geometry first last) ∧
        (∀ reason, (rebuild gpt location geometry).outcome = .error (.refused reason) →
          Conflict gpt geometry first last reason ∧
            (rebuild gpt location.other geometry).outcome = .error (.refused reason)) ∧
        ∀ copy, (rebuild gpt location geometry).outcome = .ok copy →
          ∃ lba, location.lba geometry.sectors = some lba ∧
            (Gpt.checkHeader copy.headerSector lba new geometry.sectors).outcome =
              .ok copy.header.tableBytes := by
  intro geometry
  have offered : Offered gpt disk offset (disk.size / old.bytes) geometry :=
    offered_of_read small whole minimum read
  obtain ⟨first, last, isFirst, isLast⟩ := offered.exists_bounds
  refine ⟨offered.size_eq, first, last, isFirst, isLast, fun location => ?_⟩
  have conflicts : ∀ bad, (rebuild gpt location geometry).Fails bad →
      ∃ reason, Conflict gpt geometry first last reason ∧ bad (.refused reason) := fun bad failed =>
    conflict_of_fails_assess offered isFirst isLast ((fails_rebuild_iff offered).mp failed)
  refine ⟨?_, exists_rebuild_iff offered isFirst isLast location, ?_, ?_⟩
  · intro fault
    obtain ⟨_, _, impossible⟩ := conflicts _ (Logged.fails_eq_iff.mpr fault)
    exact nomatch impossible
  · intro reason refused
    have failed := Logged.fails_eq_iff.mpr refused
    obtain ⟨_, conflict, same⟩ := conflicts _ failed
    cases same
    have other : (rebuild gpt location.other geometry).Fails (· = .refused reason) :=
      (fails_rebuild_iff offered).mpr ((fails_rebuild_iff offered).mp failed)
    exact ⟨conflict, Logged.fails_eq_iff.mp other⟩
  · intro copy made
    have rebuilt := rebuild_eq_ok_around offered.stored isFirst isLast made
    exact ⟨_, rebuilt.announces.myLba, rebuilt.validated offered.stored⟩

theorem sampleGpt_rebuilt : sampleDisk.size < Word.signedLimit ∧
    sampleDisk.size % SectorSize.large.bytes = 0 ∧
    Disk.minimumSectors ≤ sampleDisk.size / SectorSize.large.bytes ∧
    (Gpt.read sampleDisk 1 .large 6).outcome = .ok sampleGpt ∧
    ∀ location, ∃ copy lba, (rebuild sampleGpt location ⟨.small, 48⟩).outcome = .ok copy ∧
      location.lba 48 = some lba ∧
      (Gpt.checkHeader copy.headerSector lba .small 48).outcome = .ok copy.header.tableBytes := by
  have small : sampleDisk.size < Word.signedLimit := by rw [sampleDisk_size]; decide
  have whole : sampleDisk.size % SectorSize.large.bytes = 0 := by rw [sampleDisk_size]; decide
  have minimum : Disk.minimumSectors ≤ sampleDisk.size / SectorSize.large.bytes := by
    rw [sampleDisk_size]
    decide
  have read : (Gpt.read sampleDisk 1 .large (sampleDisk.size / SectorSize.large.bytes)).outcome =
      .ok sampleGpt := by
    rw [sampleDisk_size]
    exact Gpt.read_eq_ok_iff.mpr ⟨sampleGpt_sectorSize, sampleGpt_storedAt⟩
  obtain ⟨_, _, _, _, _, sound⟩ := rebuilt_or_refused .small small whole minimum read
  rw [sampleDisk_size] at read sound
  refine ⟨small, whole, minimum, read, fun location => ?_⟩
  obtain ⟨copy, made⟩ := rebuild_sampleGpt location
  have made : (rebuild sampleGpt location ⟨.small, 48⟩).outcome = .ok copy := by
    rw [← sampleDisk_sectors]
    exact made
  obtain ⟨lba, here, validated⟩ := (sound location).2.2.2 copy made
  exact ⟨copy, lba, made, here, validated⟩

end TrustBoundary.Migration
