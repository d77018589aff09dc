import TrustBoundary.Proofs.Gpt.Sealed
import TrustBoundary.Proofs.Migration.Extents

/-!
# What a rebuilt copy looks like

`Rebuilt` collects what is known about a copy that was made for another sector
size from a copy that is stored on a disk: the header and the slots it was given,
its checksums, and the room that it leaves to the partitions.  Nothing that
follows looks into the rebuild itself (`rebuild_eq_ok`).
-/

set_option autoImplicit false

namespace TrustBoundary.Migration

open Gpt (Location)

theorem toNat_ofNat64 {number : Nat} (small : number < Word.limit) :
    (UInt64.ofNat number).toNat = number := UInt64.toNat_ofNat_of_lt' small

/-! ## Room for the table -/

theorem checkRoom_eq_ok_iff {bounds : Bounds} {usedTableBytes sectorBytes size : Nat}
    {result : Unit} : (checkRoom bounds usedTableBytes sectorBytes size).outcome = .ok result ↔
      usedTableBytes + sectorBytes ≤ size - bounds.last.stop ∧
        usedTableBytes + 2 * sectorBytes ≤ bounds.first.start := by
  simp only [checkRoom, Logged.outcome_bind_eq_ok, Logged.outcome_refuseIf_eq_ok, exists_const,
    Nat.not_lt, gt_iff_lt]

section Room

variable {gpt : Gpt} {bounds : Bounds} {sectorSize : SectorSize} {size : Nat}

theorem newEntryCount_le :
    newEntryCount gpt bounds sectorSize.bytes size ≤ gpt.header.entryCount.toNat :=
  Nat.min_le_right _ _

/-- The new table has all the old slots that fit. -/
theorem le_newEntryCount {count : Nat} (counted : count ≤ gpt.header.entryCount.toNat)
    (behind : sectorSize.wholeBytes (Gpt.Entry.width * count) + sectorSize.bytes ≤
      size - bounds.last.stop)
    (inFront : sectorSize.wholeBytes (Gpt.Entry.width * count) + 2 * sectorSize.bytes ≤
      bounds.first.start) :
    count ≤ newEntryCount gpt bounds sectorSize.bytes size := by
  have whole := sectorSize.le_wholeBytes (Gpt.Entry.width * count)
  have fits : count * Gpt.Entry.width ≤
      min (size - sectorSize.bytes - bounds.last.stop)
        (bounds.first.start - 2 * sectorSize.bytes) := by
    rw [Nat.mul_comm]
    omega
  exact Nat.le_min.mpr ⟨(Nat.le_div_iff_mul_le (by decide)).mpr fits, counted⟩

/-- The new table fits into the room in front of the partitions and behind them. -/
theorem wholeBytes_newEntryCount_le (gpt : Gpt) (wholeSize : size % sectorSize.bytes = 0)
    (wholeStart : bounds.first.start % sectorSize.bytes = 0)
    (wholeStop : bounds.last.stop % sectorSize.bytes = 0)
    (behind : sectorSize.bytes ≤ size - bounds.last.stop)
    (inFront : 2 * sectorSize.bytes ≤ bounds.first.start) :
    sectorSize.wholeBytes (Gpt.Entry.width * newEntryCount gpt bounds sectorSize.bytes size) +
        2 * sectorSize.bytes ≤ bounds.first.start ∧
      bounds.last.stop + (sectorSize.wholeBytes (Gpt.Entry.width *
        newEntryCount gpt bounds sectorSize.bytes size) + sectorSize.bytes) ≤ size := by
  have fits : Gpt.Entry.width * newEntryCount gpt bounds sectorSize.bytes size ≤
      min (size - sectorSize.bytes - bounds.last.stop)
        (bounds.first.start - 2 * sectorSize.bytes) :=
    Nat.le_trans (Nat.mul_le_mul_left _ (Nat.min_le_left _ _)) (Nat.mul_div_le _ _)
  have wholeBehind : (size - sectorSize.bytes - bounds.last.stop) % sectorSize.bytes = 0 := by
    rcases sectorSize.bytes_cases with bytes | bytes <;>
      rw [bytes] at wholeSize wholeStop ⊢ <;> omega
  have wholeInFront : (bounds.first.start - 2 * sectorSize.bytes) % sectorSize.bytes = 0 := by
    rcases sectorSize.bytes_cases with bytes | bytes <;> rw [bytes] at wholeStart ⊢ <;> omega
  have fitsBehind := SectorSize.wholeBytes_le (Nat.le_trans fits (Nat.min_le_left _ _)) wholeBehind
  have fitsInFront :=
    SectorSize.wholeBytes_le (Nat.le_trans fits (Nat.min_le_right _ _)) wholeInFront
  have positive := sectorSize.bytes_pos
  omega

/-- The new table fits around the partitions if the used slots do. -/
theorem newEntryCount_fits (wholeSize : size % sectorSize.bytes = 0) {usedRoom : Nat}
    (measured : (measureBounds gpt sectorSize.bytes size).outcome = .ok bounds)
    (behind : usedRoom + sectorSize.bytes ≤ size - bounds.last.stop)
    (inFront : usedRoom + 2 * sectorSize.bytes ≤ bounds.first.start) :
    sectorSize.wholeBytes (Gpt.Entry.width * newEntryCount gpt bounds sectorSize.bytes size) +
        2 * sectorSize.bytes ≤ bounds.first.start ∧
      bounds.last.stop + (sectorSize.wholeBytes (Gpt.Entry.width *
        newEntryCount gpt bounds sectorSize.bytes size) + sectorSize.bytes) ≤ size := by
  obtain ⟨isFirst, isLast, _, _, expressible⟩ := measureBounds_eq_ok measured
  -- the first start and the last stop are those of some used entries
  obtain ⟨firstItem, firstMember, firstEq⟩ := (Gpt.firstStart?_eq_some_iff.mp isFirst).1
  obtain ⟨lastItem, lastMember, lastEq⟩ := (Gpt.lastStop?_eq_some_iff.mp isLast).1
  exact wholeBytes_newEntryCount_le gpt wholeSize
    (firstEq ▸ (expressible firstItem firstMember).start_mod)
    (lastEq ▸ (expressible lastItem lastMember).stop_mod)
    (Nat.le_trans (Nat.le_add_left _ _) behind) (Nat.le_trans (Nat.le_add_left _ _) inFront)

end Room

/-! ## The header -/

/-- The number of bytes of a disk. -/
def Geometry.size (geometry : Geometry) : Nat := geometry.sectorSize.bytes * geometry.sectors

theorem Geometry.size_mod (geometry : Geometry) : geometry.size % geometry.sectorSize.bytes = 0 :=
  Nat.mul_mod_right _ _

/-- The first sector of an entry array that takes `tableRoom` bytes. -/
def Geometry.tableLba (geometry : Geometry) (location : Location) (tableRoom : Nat) : Nat :=
  match location with
  | .primary => 2
  | .backup => geometry.sectors - (1 + tableRoom / geometry.sectorSize.bytes)

/-- What the header of a new copy says when its entry array takes `tableRoom` bytes. -/
structure Announces (header : Gpt.Header) (gpt : Gpt) (location : Location) (geometry : Geometry)
    (tableRoom : Nat) : Prop where
  signature : header.signature = Gpt.Header.magic
  revision : header.revision = gpt.header.revision
  headerSize : header.headerSize = gpt.header.headerSize
  entrySize : header.entrySize = gpt.header.entrySize
  diskGuid : header.diskGuid = gpt.header.diskGuid
  firstUsable : header.firstUsableLba.toNat = geometry.sectorSize.wholeBytes
    (max gpt.usableStart (tableRoom + 2 * geometry.sectorSize.bytes)) / geometry.sectorSize.bytes
  lastUsable : header.lastUsableLba.toNat + 1 =
    min gpt.usableStop (geometry.size - (tableRoom + geometry.sectorSize.bytes)) /
      geometry.sectorSize.bytes
  myLba : location.lba geometry.sectors = some header.myLba.toNat
  alternateLba : location.other.lba geometry.sectors = some header.alternateLba.toNat
  tableLba : header.tableLba.toNat = geometry.tableLba location tableRoom

variable {gpt new : Gpt} {location : Location} {geometry : Geometry}

theorem Geometry.sectors_lt (small : geometry.size < Word.limit) : geometry.sectors < Word.limit :=
  Nat.lt_of_le_of_lt (Nat.le_mul_of_pos_left _ geometry.sectorSize.bytes_pos) small

theorem Geometry.lba_lt (minimum : Disk.minimumSectors ≤ geometry.sectors)
    (small : geometry.size < Word.limit) {lba : Nat}
    (here : location.lba geometry.sectors = some lba) : lba < Word.limit := by
  have least : Disk.minimumSectors = 6 := rfl
  have sectors := Geometry.sectors_lt small
  obtain ⟨rfl, _⟩ | ⟨same, _⟩ := Location.lba_eq_some here <;> omega

theorem newHeader_eq_some {entryCount tableRoom : Nat} {header : Gpt.Header}
    (minimum : Disk.minimumSectors ≤ geometry.sectors) (small : geometry.size < Word.limit)
    (made : newHeader gpt location geometry entryCount tableRoom = some header) :
    Announces header gpt location geometry tableRoom ∧
      header.entryCount = UInt32.ofNat entryCount := by
  simp only [newHeader, Option.bind_eq_bind, Option.bind_eq_some_iff, Word.mul_eq_some_iff,
    Word.add_eq_some_iff, Word.sub_eq_some_iff, SectorSize.roundUp_eq_some_iff, Option.pure_def]
    at made
  obtain ⟨_, ⟨_, rfl⟩, _, ⟨_, rfl⟩, _, ⟨_, rfl⟩, _, ⟨fits, rfl⟩, _, ⟨rounded, rfl⟩, _,
    ⟨usable, rfl⟩, myLba, here, alternateLba, there, made⟩ := made
  -- every number of the new header fits 64 bits
  have above := geometry.sectorSize.wholeBytes_lt
    (max gpt.usableStart (tableRoom + 2 * geometry.sectorSize.bytes))
  have rounded : max gpt.usableStart (tableRoom + 2 * geometry.sectorSize.bytes) +
      (geometry.sectorSize.bytes - 1) < Word.limit := rounded
  have firstSmall : geometry.sectorSize.wholeBytes (max gpt.usableStart
      (tableRoom + 2 * geometry.sectorSize.bytes)) < Word.limit := by omega
  have firstUsable := toNat_ofNat64 (Nat.lt_of_le_of_lt
    (Nat.div_le_self _ geometry.sectorSize.bytes) firstSmall)
  have lastUsable :
      1 ≤ min gpt.usableStop (geometry.size - (tableRoom + geometry.sectorSize.bytes)) /
      geometry.sectorSize.bytes := usable
  have afterLast : min gpt.usableStop (geometry.size - (tableRoom + geometry.sectorSize.bytes)) /
      geometry.sectorSize.bytes ≤ geometry.size :=
    Nat.le_trans (Nat.div_le_self _ _) (Nat.le_trans (Nat.min_le_right _ _) (Nat.sub_le _ _))
  have lastNumber :=
    toNat_ofNat64 (Nat.lt_of_le_of_lt (Nat.sub_le _ 1) (Nat.lt_of_le_of_lt afterLast small))
  have lastUsable := (congrArg (· + 1) lastNumber).trans (Nat.sub_add_cancel usable)
  rw [← toNat_ofNat64 (Geometry.lba_lt minimum small here)] at here
  rw [← toNat_ofNat64 (Geometry.lba_lt minimum small there)] at there
  cases location with
  | primary =>
      cases made
      exact ⟨⟨rfl, rfl, rfl, rfl, rfl, firstUsable, lastUsable, here, there, rfl⟩, rfl⟩
  | backup =>
      obtain ⟨_, found, made⟩ := Option.bind_eq_some_iff.mp made
      cases made
      obtain ⟨room, rfl⟩ := Word.sub_eq_some_iff.mp found
      exact ⟨⟨rfl, rfl, rfl, rfl, rfl, firstUsable, lastUsable, here, there,
        toNat_ofNat64 (Nat.lt_of_le_of_lt (Nat.sub_le _ _) (Geometry.sectors_lt small))⟩, rfl⟩

/-! ## The copy -/

/-- What holds of a copy that was rebuilt from one whose partitions take the
bytes from `first` up to `last`. -/
structure Rebuilt (new gpt : Gpt) (location : Location) (geometry : Geometry) (first last : Nat) :
    Prop where
  minimumSectors_le : Disk.minimumSectors ≤ geometry.sectors
  size_lt : geometry.size < Word.limit
  isFirst : gpt.firstStart? = some first
  isLast : gpt.lastStop? = some last
  expressible : ∀ item ∈ gpt.used,
    Extent.Expressible item.2 gpt.sectorSize geometry.sectorSize.bytes
  sectorSize : new.sectorSize = geometry.sectorSize
  usedEntries : new.usedEntries = gpt.usedEntries
  used_le : gpt.usedEntries ≤ new.header.entryCount.toNat
  count_le : new.header.entryCount.toNat ≤ gpt.header.entryCount.toNat
  inFront : new.tableRoom + 2 * geometry.sectorSize.bytes ≤ first
  behind : last + (new.tableRoom + geometry.sectorSize.bytes) ≤ geometry.size
  announces : Announces new.header gpt location geometry new.tableRoom
  headerSize_le : new.header.headerSize.toNat ≤ geometry.sectorSize.bytes
  table : new.table =
    newTable gpt new.header.entryCount.toNat new.tableRoom geometry.sectorSize.bytes
  tableCrc : new.header.tableCrc = crc32 (new.table.take new.header.tableBytes)
  headerCrc : Gpt.Header.checksum new.headerSector new.header.headerSize.toNat =
    some new.header.headerCrc

/-- What a rebuild that succeeds has measured and made. -/
structure Made (new gpt : Gpt) (location : Location) (geometry : Geometry) (bounds : Bounds)
    (header : Gpt.Header) : Prop where
  minimumSectors_le : Disk.minimumSectors ≤ geometry.sectors
  size_lt : geometry.size < Word.limit
  headerSize_le : gpt.header.headerSize.toNat ≤ geometry.sectorSize.bytes
  measured : (measureBounds gpt geometry.sectorSize.bytes geometry.size).outcome = .ok bounds
  behind : geometry.sectorSize.wholeBytes (Gpt.Entry.width * gpt.usedEntries) +
    geometry.sectorSize.bytes ≤ geometry.size - bounds.last.stop
  inFront : geometry.sectorSize.wholeBytes (Gpt.Entry.width * gpt.usedEntries) +
    2 * geometry.sectorSize.bytes ≤ bounds.first.start
  announces : Announces header gpt location geometry (geometry.sectorSize.wholeBytes
    (Gpt.Entry.width * newEntryCount gpt bounds geometry.sectorSize.bytes geometry.size))
  entryCount : header.entryCount.toNat =
    newEntryCount gpt bounds geometry.sectorSize.bytes geometry.size
  sealed : Gpt.seal? ⟨header, newTable gpt header.entryCount.toNat (geometry.sectorSize.wholeBytes
    (Gpt.Entry.width * newEntryCount gpt bounds geometry.sectorSize.bytes geometry.size))
    geometry.sectorSize.bytes, geometry.sectorSize, gpt.usedEntries⟩ = some new

/-- The stages of a rebuild that succeeds. -/
theorem exists_made (rebuilt : (rebuild gpt location geometry).outcome = .ok new) :
    ∃ bounds header, Made new gpt location geometry bounds header := by
  simp only [rebuild, Logged.outcome_bind_eq_ok, Logged.outcome_require_eq_ok,
    Logged.outcome_liftOption_eq_ok, Logged.outcome_refuseIf_eq_ok, Word.mul_eq_some_iff,
    SectorSize.roundUp_eq_some_iff, checkRoom_eq_ok_iff, Logged.outcome_debug, exists_const,
    gt_iff_lt, Nat.not_lt] at rebuilt
  obtain ⟨minimum, _, ⟨small, rfl⟩, headerFits, bounds, measured, _, ⟨_, rfl⟩, ⟨behind, inFront⟩,
    _, _, ⟨_, rfl⟩, header, made, _, sealed⟩ := rebuilt
  obtain ⟨announces, counted⟩ := newHeader_eq_some minimum small made
  have entryCount : header.entryCount.toNat =
      newEntryCount gpt bounds geometry.sectorSize.bytes geometry.size := by
    rw [counted]
    exact UInt32.toNat_ofNat_of_lt'
      (Nat.lt_of_le_of_lt newEntryCount_le gpt.header.entryCount.toNat_lt)
  refine ⟨bounds, header, minimum, small, headerFits, measured, behind, inFront, announces,
    entryCount, ?_⟩
  rw [entryCount]
  exact sealed

/-- Sealing does not change the number of slots. -/
theorem Made.newEntryCount_eq {bounds : Bounds} {header : Gpt.Header}
    (made : Made new gpt location geometry bounds header) : new.header.entryCount.toNat =
      newEntryCount gpt bounds geometry.sectorSize.bytes geometry.size := by
  obtain ⟨_, rfl, _⟩ := Gpt.seal?_eq_some made.sealed
  exact made.entryCount

variable {disk : Disk} {offset sectors : Nat}

/-- **What a rebuild makes of a stored copy.** -/
theorem rebuild_eq_ok (stored : gpt.StoredAt disk offset sectors)
    (rebuilt : (rebuild gpt location geometry).outcome = .ok new) :
    ∃ first last, Rebuilt new gpt location geometry first last := by
  obtain ⟨bounds, header, made⟩ := exists_made rebuilt
  obtain ⟨isFirst, isLast, ordered, inside, expressible⟩ := measureBounds_eq_ok made.measured
  obtain ⟨headerCrc, rfl, computed⟩ := Gpt.seal?_eq_some made.sealed
  have room : geometry.sectorSize.wholeBytes header.tableBytes = geometry.sectorSize.wholeBytes
      (Gpt.Entry.width * newEntryCount gpt bounds geometry.sectorSize.bytes geometry.size) := by
    rw [Gpt.Header.tableBytes, made.entryCount, made.announces.entrySize, stored.accepted.entrySize,
      Nat.mul_comm]
  obtain ⟨fitsInFront, fitsBehind⟩ :=
    newEntryCount_fits geometry.size_mod made.measured made.behind made.inFront
  have announces := made.announces
  rw [← room] at fitsInFront fitsBehind announces
  have usedFit := le_newEntryCount stored.usedEntries_le made.behind made.inFront
  refine ⟨bounds.first.start, bounds.last.stop, ?_⟩
  exact {
    minimumSectors_le := made.minimumSectors_le
    size_lt := made.size_lt
    isFirst
    isLast
    expressible
    sectorSize := rfl
    usedEntries := rfl
    used_le := made.entryCount ▸ usedFit
    count_le := made.entryCount ▸ newEntryCount_le
    inFront := fitsInFront
    behind := fitsBehind
    announces := { announces with }
    headerSize_le := announces.headerSize.symm ▸ made.headerSize_le
    table := by
      change newTable .. = newTable gpt header.entryCount.toNat
        (geometry.sectorSize.wholeBytes header.tableBytes) _
      rw [room]
    tableCrc := rfl
    headerCrc := computed }

/-- Every rebuild leaves the same room, which is that of the partitions. -/
theorem rebuild_eq_ok_around {first last : Nat} (stored : gpt.StoredAt disk offset sectors)
    (isFirst : gpt.firstStart? = some first) (isLast : gpt.lastStop? = some last)
    (rebuilt : (rebuild gpt location geometry).outcome = .ok new) :
    Rebuilt new gpt location geometry first last := by
  obtain ⟨_, _, known⟩ := rebuild_eq_ok stored rebuilt
  cases Option.some_inj.mp (isFirst.symm.trans known.isFirst)
  cases Option.some_inj.mp (isLast.symm.trans known.isLast)
  exact known

end TrustBoundary.Migration
