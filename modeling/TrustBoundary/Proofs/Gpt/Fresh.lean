import TrustBoundary.Proofs.Gpt.Sealed
import TrustBoundary.Proofs.Gpt.Slots

/-!
# Fresh copies are found

A copy that is made from scratch lays out a disk, and the validation of a copy has rules
of its own for the layout of a disk.  They agree for either copy, both sector sizes, and
every number of slots that leaves room for a usable sector (`Buildable`).

The new header names the places of all parts (`FreshHeader`), and these places are coherent
(`FreshHeader.coherent`).  The entry array holds the given entries in its first slots and
zeroes in the others (`slots_freshTable`).  So its used entries are those among the given
ones (`used_of_mem_usedFrom_freshSlots`), and the last of them is the one that was counted
(`getLast?_usedFrom_freshSlots`).  Hence the copy is in order even before it gets its
checksums (`inOrder_unsealed`), and what is in order is found where it is written
(`read_fresh`).
-/

set_option autoImplicit false

namespace TrustBoundary.Gpt

/-- The number of sectors that an entry array of so many slots takes. -/
def tableSectors (sectorSize : SectorSize) (entryCount : UInt32) : Nat :=
  sectorSize.wholeBytes (entryCount.toNat * Entry.width) / sectorSize.bytes

/-- A table with these slots and entries can be laid out on a disk of so many sectors. -/
structure Buildable (sectorSize : SectorSize) (sectors : Nat) (entryCount : UInt32)
    (entries : List Entry) : Prop where
  entryCount_pos : 0 < entryCount.toNat
  tableBytes_le : entryCount.toNat * Entry.width ≤ greatestTableBytes
  sectors_ge : 2 * tableSectors sectorSize entryCount + 4 ≤ sectors
  size_lt : sectors * sectorSize.bytes < Word.limit
  length_le : entries.length ≤ entryCount.toNat
  exists_used : ∃ entry ∈ entries, ¬entry.isUnused
  usable : ∀ entry ∈ entries, ¬entry.isUnused →
    2 + tableSectors sectorSize entryCount ≤ entry.startingLba.toNat ∧
      entry.startingLba.toNat ≤ entry.endingLba.toNat ∧
      entry.endingLba.toNat ≤ sectors - 2 - tableSectors sectorSize entryCount

variable {location : Location} {sectorSize : SectorSize} {sectors : Nat} {entryCount : UInt32}
  {diskGuid : Guid} {entries : List Entry} {header : Header}

theorem tableSectors_mul_bytes (sectorSize : SectorSize) (entryCount : UInt32) :
    tableSectors sectorSize entryCount * sectorSize.bytes =
      sectorSize.wholeBytes (entryCount.toNat * Entry.width) :=
  Nat.div_mul_cancel (Nat.dvd_of_mod_eq_zero (sectorSize.wholeBytes_mod _))

namespace Buildable

theorem tableSectors_pos (buildable : Buildable sectorSize sectors entryCount entries) :
    0 < tableSectors sectorSize entryCount := by
  refine Nat.div_pos ?_ sectorSize.bytes_pos
  exact SectorSize.bytes_le_wholeBytes (Nat.mul_pos buildable.entryCount_pos (by decide))

theorem sectors_lt (buildable : Buildable sectorSize sectors entryCount entries) :
    sectors < Word.limit :=
  Nat.lt_of_le_of_lt (Nat.le_mul_of_pos_right _ sectorSize.bytes_pos) buildable.size_lt

end Buildable

/-! ## The header -/

/-- What a fresh header says. -/
structure FreshHeader (header : Header) (location : Location) (sectorSize : SectorSize)
    (sectors : Nat) (entryCount : UInt32) : Prop where
  signature : header.signature = Header.magic
  revision : header.revision = Header.supportedRevision
  headerSize : header.headerSize.toNat = Header.width
  entrySize : header.entrySize.toNat = Entry.width
  slotCount : header.entryCount = entryCount
  firstUsable : header.firstUsableLba.toNat = 2 + tableSectors sectorSize entryCount
  lastUsable : header.lastUsableLba.toNat = sectors - 2 - tableSectors sectorSize entryCount
  myLba : location.lba sectors = some header.myLba.toNat
  alternateLba : location.other.lba sectors = some header.alternateLba.toNat
  tableLba : header.tableLba.toNat =
    match location with
    | .primary => 2
    | .backup => header.myLba.toNat - tableSectors sectorSize entryCount

/-- A header can be made for every layout. -/
theorem exists_freshHeader (buildable : Buildable sectorSize sectors entryCount entries)
    (location : Location) (diskGuid : Guid) :
    ∃ header, freshHeader location sectorSize sectors entryCount diskGuid = some header := by
  have enough := buildable.sectors_ge
  have table := roundUp_tableBytes sectorSize buildable.tableBytes_le
  have subtract : ∀ {whole part}, part ≤ whole → Word.sub whole part = some (whole - part) :=
    fun fits => Word.sub_eq_some_iff.mpr ⟨fits, rfl⟩
  have aboveUsable := subtract (show 2 ≤ sectors by omega)
  have lastUsable := subtract (show tableSectors sectorSize entryCount ≤ sectors - 2 by omega)
  have tableLba := subtract (show tableSectors sectorSize entryCount ≤ sectors - 1 by omega)
  have firstLba : Location.primary.lba sectors = some 1 := rfl
  have lastLba : Location.backup.lba sectors = some (sectors - 1) := subtract (by omega)
  unfold tableSectors at lastUsable tableLba
  cases location <;>
    simp only [freshHeader, Location.other, table, aboveUsable, lastUsable, tableLba, firstLba,
      lastLba, Option.bind_eq_bind, Option.bind_some]
  · exact ⟨_, rfl⟩
  · exact ⟨_, rfl⟩

/-- What the header of a fresh copy says. -/
theorem freshHeader_eq_some (buildable : Buildable sectorSize sectors entryCount entries)
    (made : freshHeader location sectorSize sectors entryCount diskGuid = some header) :
    FreshHeader header location sectorSize sectors entryCount := by
  have enough := buildable.sectors_ge
  simp only [freshHeader, Option.bind_eq_bind, Option.bind_eq_some_iff, Word.sub_eq_some_iff,
    SectorSize.roundUp_eq_some_iff, Option.pure_def] at made
  obtain ⟨_, ⟨_, rfl⟩, myLba, here, alternateLba, there, _, ⟨_, rfl⟩, _, ⟨_, rfl⟩, made⟩ := made
  -- no number of the header is greater than the number of sectors
  have exact : ∀ number, number ≤ sectors → (UInt64.ofNat number).toNat = number :=
    fun number inside => UInt64.toNat_ofNat_of_lt' (Nat.lt_of_le_of_lt inside buildable.sectors_lt)
  have firstUsable := exact (2 + tableSectors sectorSize entryCount) (by omega)
  have lastUsable := exact (sectors - 2 - tableSectors sectorSize entryCount) (by omega)
  have lba_le : ∀ {place : Location} {lba}, place.lba sectors = some lba → lba ≤ sectors := by
    intro place lba found
    obtain ⟨_, _⟩ | ⟨_, _⟩ := Location.lba_eq_some found <;> omega
  have mine := exact myLba (lba_le here)
  rw [← mine] at here
  rw [← exact alternateLba (lba_le there)] at there
  cases location with
  | primary =>
      cases made
      exact ⟨rfl, rfl, rfl, rfl, rfl, firstUsable, lastUsable, here, there, rfl⟩
  | backup =>
      obtain ⟨_, found, made⟩ := Option.bind_eq_some_iff.mp made
      cases made
      obtain ⟨_, rfl⟩ := Word.sub_eq_some_iff.mp found
      refine ⟨rfl, rfl, rfl, rfl, rfl, firstUsable, lastUsable, here, there, ?_⟩
      rw [exact _ (Nat.le_trans (Nat.sub_le _ _) (mine ▸ lba_le here))]
      exact congrArg (· - _) mine.symm

namespace FreshHeader

/-- Where the parts of a fresh copy lie. -/
theorem places (fresh : FreshHeader header location sectorSize sectors entryCount) :
    header.myLba.toNat = 1 ∧ header.tableLba.toNat = 2 ∧ header.alternateLba.toNat = sectors - 1 ∨
      header.myLba.toNat + 1 = sectors ∧ header.alternateLba.toNat = 1 ∧
        header.tableLba.toNat = header.myLba.toNat - tableSectors sectorSize entryCount := by
  obtain ⟨mine, rfl⟩ | ⟨mine, rfl⟩ := Location.lba_eq_some fresh.myLba
  · exact .inl ⟨mine, fresh.tableLba, Location.lba_backup fresh.alternateLba⟩
  · exact .inr ⟨mine, (Option.some_inj.mp fresh.alternateLba).symm, fresh.tableLba⟩

theorem tableBytes (fresh : FreshHeader header location sectorSize sectors entryCount) :
    header.tableBytes = entryCount.toNat * Entry.width := by
  rw [Header.tableBytes, fresh.slotCount, fresh.entrySize]

/-- The places of a fresh copy are coherent. -/
theorem coherent (fresh : FreshHeader header location sectorSize sectors entryCount)
    (buildable : Buildable sectorSize sectors entryCount entries) :
    header.Coherent header.myLba.toNat sectorSize sectors := by
  have minimum : Disk.minimumSectors = 6 := rfl
  have positive := buildable.tableSectors_pos
  have enough := buildable.sectors_ge
  have firstUsable := fresh.firstUsable
  have lastUsable := fresh.lastUsable
  have places := fresh.places
  exact {
    minimumSectors_le := by omega
    offset_lt := by omega
    signature := fresh.signature
    revision := fresh.revision
    width_le := Nat.le_of_eq fresh.headerSize.symm
    headerSize_le := by
      rw [fresh.headerSize]
      rcases sectorSize.bytes_cases with bytes | bytes <;> rw [bytes] <;> decide
    entrySize := fresh.entrySize
    firstUsable_ge := by omega
    firstUsable_le := by omega
    placed := by
      unfold Header.Placed
      rcases places with ⟨mine, table, alternate⟩ | ⟨mine, alternate, table⟩
      · rw [if_pos mine]
        exact ⟨table, by omega, by omega⟩
      · rw [if_neg (by omega)]
        exact ⟨UInt64.toNat_inj.mp alternate, by omega, by omega⟩
    entryCount_ne := by
      rw [fresh.slotCount]
      rintro rfl
      exact absurd buildable.entryCount_pos (Nat.lt_irrefl 0)
    tableBytes_le_room := by
      have room : header.room header.myLba.toNat = tableSectors sectorSize entryCount := by
        unfold Header.room
        split <;> omega
      rw [room, tableSectors_mul_bytes, fresh.tableBytes]
      exact sectorSize.le_wholeBytes _
    tableBytes_le := fresh.tableBytes ▸ buildable.tableBytes_le }

end FreshHeader

/-! ## The entry array -/

/-- The slots of a fresh copy: the given entries, and zeroes behind them. -/
def freshSlots (entryCount : UInt32) (entries : List Entry) : List Bytes :=
  entries.map Entry.encode ++
    List.replicate (entryCount.toNat - entries.length) (Bytes.zeroes Entry.width)

/-- The entry array of a fresh copy. -/
def freshTable (sectorSize : SectorSize) (entryCount : UInt32) (entries : List Entry) : Bytes :=
  entries.flatMap Entry.encode ++ Bytes.zeroes
    (sectorSize.wholeBytes (entryCount.toNat * Entry.width) - (entries.flatMap Entry.encode).length)

theorem length_flatMap_encode (entries : List Entry) :
    (entries.flatMap Entry.encode).length = entries.length * Entry.width := by
  have wide : ∀ slot ∈ entries.map Entry.encode, slot.length = Entry.width :=
    List.forall_mem_map.mpr fun entry _ => entry.length_encode
  rw [List.flatMap_def, length_flatten wide, List.length_map]

theorem length_freshTable (fits : entries.length ≤ entryCount.toNat) :
    (freshTable sectorSize entryCount entries).length =
      sectorSize.wholeBytes (entryCount.toNat * Entry.width) := by
  have filled := Nat.mul_le_mul_right Entry.width fits
  have whole := sectorSize.le_wholeBytes (entryCount.toNat * Entry.width)
  rw [freshTable, List.length_append, Bytes.length_zeroes, length_flatMap_encode]
  omega

theorem length_freshSlots (fits : entries.length ≤ entryCount.toNat) :
    (freshSlots entryCount entries).length = entryCount.toNat := by
  rw [freshSlots, List.length_append, List.length_map, List.length_replicate]
  omega

/-- The entry array is made of these slots, and filled up with zeroes. -/
theorem freshTable_eq (sectorSize : SectorSize) (fits : entries.length ≤ entryCount.toNat) :
    freshTable sectorSize entryCount entries =
      (freshSlots entryCount entries).flatten ++ Bytes.zeroes
        (sectorSize.wholeBytes (entryCount.toNat * Entry.width) -
          entryCount.toNat * Entry.width) := by
  have filled := Nat.mul_le_mul_right Entry.width fits
  have whole := sectorSize.le_wholeBytes (entryCount.toNat * Entry.width)
  have unfilled :
      sectorSize.wholeBytes (entryCount.toNat * Entry.width) - entries.length * Entry.width =
      (entryCount.toNat - entries.length) * Entry.width +
        (sectorSize.wholeBytes (entryCount.toNat * Entry.width) -
          entryCount.toNat * Entry.width) := by
    rw [Nat.sub_mul]
    omega
  rw [freshTable, freshSlots, List.flatten_append, ← List.flatMap_def, Bytes.zeroes, Bytes.zeroes,
    List.flatten_replicate_replicate, List.append_assoc, Bytes.zeroes,
    List.replicate_append_replicate, length_flatMap_encode, unfilled]

/-- **The slots of a fresh copy hold its entries.** -/
theorem slots_freshTable (sectorSize : SectorSize) (fits : entries.length ≤ entryCount.toNat) :
    slots entryCount.toNat (freshTable sectorSize entryCount entries) =
      freshSlots entryCount entries := by
  have wide : ∀ slot ∈ freshSlots entryCount entries, slot.length = Entry.width := by
    intro slot member
    rcases List.mem_append.mp member with given | blank
    · obtain ⟨entry, _, rfl⟩ := List.mem_map.mp given
      exact entry.length_encode
    · rw [List.eq_of_mem_replicate blank, Bytes.length_zeroes]
  have found := slots_flatten wide (Bytes.zeroes
    (sectorSize.wholeBytes (entryCount.toNat * Entry.width) - entryCount.toNat * Entry.width))
  rwa [← freshTable_eq sectorSize fits, length_freshSlots fits] at found

/-! ## The used entries -/

/-- The slots behind the given entries are unused. -/
theorem usedFrom_freshSlots (entryCount : UInt32) (entries : List Entry) :
    usedFrom 0 (freshSlots entryCount entries) = usedFrom 0 (entries.map Entry.encode) := by
  have blank :
      ∀ slot ∈ List.replicate (entryCount.toNat - entries.length) (Bytes.zeroes Entry.width),
      Entry.slotIsUnused slot := by
    intro slot member
    rw [List.eq_of_mem_replicate member]
    decide
  rw [freshSlots, usedFrom_append, usedFrom_eq_nil blank, List.append_nil]

/-- Every used entry was given. -/
theorem used_of_mem_usedFrom_freshSlots {item : Nat × Entry}
    (member : item ∈ usedFrom 0 (freshSlots entryCount entries)) :
    item.2 ∈ entries ∧ ¬item.2.isUnused := by
  obtain ⟨index, entry⟩ := item
  rw [usedFrom_freshSlots, ← Nat.zero_add index, mem_usedFrom_iff] at member
  obtain ⟨slot, here, used, rfl⟩ := member
  obtain ⟨entry, given, rfl⟩ := List.mem_map.mp (List.mem_of_getElem? here)
  rw [Entry.slotIsUnused_encode] at used
  rw [Entry.decode_encode]
  exact ⟨given, used⟩

/-- The last used entry, with the unused ones behind it. -/
theorem exists_last_used (inUse : ∃ entry ∈ entries, ¬entry.isUnused) :
    ∃ front last back, entries = front ++ last :: back ∧ ¬last.isUnused ∧
      (∀ entry ∈ back, entry.isUnused) ∧ usedExtent entries = front.length + 1 := by
  have split := List.takeWhile_append_dropWhile (p := Entry.isUnused) (l := entries.reverse)
  have unused : ∀ entry ∈ entries.reverse.takeWhile Entry.isUnused, entry.isUnused :=
    List.all_eq_true.mp List.all_takeWhile
  cases behind : entries.reverse.dropWhile Entry.isUnused with
  | nil =>
      obtain ⟨entry, member, used⟩ := inUse
      rw [behind, List.append_nil] at split
      rw [split] at unused
      exact absurd (unused entry (List.mem_reverse.mpr member)) used
  | cons last front =>
      have used := List.head?_dropWhile_not Entry.isUnused entries.reverse
      rw [behind] at split used
      refine ⟨front.reverse, last, (entries.reverse.takeWhile Entry.isUnused).reverse, ?_,
        Bool.eq_false_iff.mp used, ?_, ?_⟩
      · have whole := congrArg List.reverse split
        rw [List.reverse_append, List.reverse_reverse, List.reverse_cons,
          List.append_assoc] at whole
        exact whole.symm
      · exact fun entry member => unused entry (List.mem_reverse.mp member)
      · rw [usedExtent, behind, List.length_cons, List.length_reverse]

/-- **The last used entry is the one that was counted.** -/
theorem getLast?_usedFrom_freshSlots (inUse : ∃ entry ∈ entries, ¬entry.isUnused) :
    ∃ last, (usedFrom 0 (freshSlots entryCount entries)).getLast? = some last ∧
      last.1 + 1 = usedExtent entries := by
  obtain ⟨front, last, back, rfl, used, unused, counted⟩ := exists_last_used inUse
  have behind : ∀ slot ∈ back.map Entry.encode, Entry.slotIsUnused slot := by
    intro slot member
    obtain ⟨entry, given, rfl⟩ := List.mem_map.mp member
    rw [Entry.slotIsUnused_encode]
    exact unused entry given
  refine ⟨(front.length, last), ?_, counted.symm⟩
  rw [usedFrom_freshSlots, List.map_append, List.map_cons, usedFrom_append, usedFrom,
    Entry.slotIsUnused_encode, if_neg used, usedFrom_eq_nil behind, Entry.decode_encode,
    Nat.zero_add, List.length_map, List.getLast?_concat]

/-! ## The copy -/

/-- A fresh copy before it gets its checksums. -/
def unsealed (header : Header) (sectorSize : SectorSize) (entryCount : UInt32)
    (entries : List Entry) : Gpt :=
  { header, table := freshTable sectorSize entryCount entries, sectorSize,
    usedEntries := usedExtent entries }

/-- A fresh copy is in order. -/
theorem inOrder_unsealed (buildable : Buildable sectorSize sectors entryCount entries)
    (fresh : FreshHeader header location sectorSize sectors entryCount) :
    (unsealed header sectorSize entryCount entries).InOrder header.myLba.toNat sectors := by
  have slots : (unsealed header sectorSize entryCount entries).allSlots =
      freshSlots entryCount entries := by
    rw [← slots_freshTable sectorSize buildable.length_le, ← fresh.slotCount]
    rfl
  exact {
    possible := by
      have positive := buildable.tableSectors_pos
      have enough := buildable.sectors_ge
      have places := fresh.places
      omega
    coherent := fresh.coherent buildable
    entries := by
      rw [slots]
      intro item member
      obtain ⟨given, used⟩ := used_of_mem_usedFrom_freshSlots member
      change header.firstUsableLba.toNat ≤ _ ∧ _ ∧ _ ≤ header.lastUsableLba.toNat
      rw [fresh.firstUsable, fresh.lastUsable]
      exact buildable.usable item.2 given used
    usedEntries := slots ▸ getLast?_usedFrom_freshSlots buildable.exists_used }

/-- Making a copy is making its header and its entry array, and sealing them. -/
theorem fresh_eq_seal? (buildable : Buildable sectorSize sectors entryCount entries)
    (made : freshHeader location sectorSize sectors entryCount diskGuid = some header) :
    fresh location sectorSize sectors entryCount diskGuid entries =
      (unsealed header sectorSize entryCount entries).seal? := by
  have table := roundUp_tableBytes sectorSize buildable.tableBytes_le
  rw [← (freshHeader_eq_some buildable made).tableBytes] at table
  have enough : (guard (entries.length ≤ entryCount.toNat) : Option Unit) = some () :=
    if_pos buildable.length_le
  rw [fresh, enough, made]
  simp only [Option.bind_eq_bind, Option.bind_some, table]
  rw [(freshHeader_eq_some buildable made).tableBytes]
  rfl

/-- The room for the entry array is that of its sectors. -/
theorem tableRoom_unsealed (fresh : FreshHeader header location sectorSize sectors entryCount) :
    (unsealed header sectorSize entryCount entries).tableRoom =
      tableSectors sectorSize entryCount * sectorSize.bytes := by
  rw [tableSectors_mul_bytes, ← fresh.tableBytes]
  rfl

/-- The entry array of a fresh copy lies on the disk, and apart from the header. -/
theorem ranges_unsealed (buildable : Buildable sectorSize sectors entryCount entries)
    (fresh : FreshHeader header location sectorSize sectors entryCount) :
    (unsealed header sectorSize entryCount entries).tableStart +
        (unsealed header sectorSize entryCount entries).tableRoom ≤ sectors * sectorSize.bytes ∧
      (header.myLba.toNat * sectorSize.bytes + sectorSize.bytes ≤
          (unsealed header sectorSize entryCount entries).tableStart ∨
        (unsealed header sectorSize entryCount entries).tableStart +
          (unsealed header sectorSize entryCount entries).tableRoom ≤
            header.myLba.toNat * sectorSize.bytes) := by
  have enough := buildable.sectors_ge
  have places := fresh.places
  have start : (unsealed header sectorSize entryCount entries).tableStart =
      header.tableLba.toNat * sectorSize.bytes := rfl
  rw [tableRoom_unsealed fresh, start, ← Nat.add_mul, ← Nat.succ_mul]
  constructor
  · exact Nat.mul_le_mul_right _ (by omega)
  · have apart : header.myLba.toNat + 1 ≤ header.tableLba.toNat ∨
        header.tableLba.toNat + tableSectors sectorSize entryCount ≤ header.myLba.toNat := by omega
    exact apart.imp (Nat.mul_le_mul_right _) (Nat.mul_le_mul_right _)

/-- **A fresh copy is found where it is written.**  For either copy, both sector sizes and every
layout, the copy can be made, its entry array and its header can be written to every disk of the
right size, and reading at the place of the copy gives back the very copy that was made. -/
theorem read_fresh (location : Location) (diskGuid : Guid)
    (buildable : Buildable sectorSize sectors entryCount entries) {disk : Disk}
    (size : disk.size = sectors * sectorSize.bytes) :
    ∃ gpt written final lba,
      fresh location sectorSize sectors entryCount diskGuid entries = some gpt ∧
      disk.write ⟨gpt.header.tableLba.toNat * sectorSize.bytes, gpt.table⟩ = .ok written ∧
      written.write ⟨gpt.header.myLba.toNat * sectorSize.bytes, gpt.headerSector⟩ = .ok final ∧
      location.lba sectors = some lba ∧
      (Gpt.read final lba sectorSize sectors).outcome = .ok gpt := by
  obtain ⟨header, made⟩ := exists_freshHeader buildable location diskGuid
  have fresh := freshHeader_eq_some buildable made
  have inOrder := inOrder_unsealed buildable fresh
  obtain ⟨gpt, sealed⟩ := (unsealed header sectorSize entryCount entries).exists_seal?
    (Nat.le_trans (by decide) inOrder.coherent.width_le) inOrder.coherent.headerSize_le
  obtain ⟨inside, apart⟩ := ranges_unsealed buildable fresh
  have tableLength : (freshTable sectorSize entryCount entries).length =
      (unsealed header sectorSize entryCount entries).tableRoom := by
    rw [length_freshTable buildable.length_le, tableRoom_unsealed fresh, tableSectors_mul_bytes]
  obtain ⟨written, final, tableWritten, headerWritten, found⟩ :=
    exists_read_of_write sealed inOrder size (size ▸ buildable.size_lt) tableLength
      (size ▸ inside) apart
  obtain ⟨_, _, sameTableLba, sameLba⟩ := eq_of_seal? sealed
  refine ⟨gpt, written, final, header.myLba.toNat,
    (fresh_eq_seal? buildable made).trans sealed, ?_, ?_, fresh.myLba, found⟩
  · rw [sameTableLba]
    exact tableWritten
  · rw [sameLba]
    exact headerWritten

/-- An unused entry in front of a partition of one sector. -/
def tightEntries : List Entry :=
  let used : Entry :=
    ⟨Vector.replicate 16 0xEE, Vector.replicate 16 0x11, 4, 4, 0, Vector.replicate 72 0⟩
  [{ used with typeGuid := Vector.replicate 16 0 }, used]

/-- These entries, in a table of five slots, leave no sector of the smallest disk over. -/
theorem tightEntries_buildable : Buildable .small 8 5 tightEntries where
  entryCount_pos := by decide
  tableBytes_le := by decide
  sectors_ge := by decide
  size_lt := by decide
  length_le := by decide
  exists_used := by decide
  usable := by decide

/-- The backup copy of that table is read back from a disk that has one usable sector. -/
theorem read_fresh_tightEntries :
    Buildable .small 8 5 tightEntries ∧
      (Disk.blank .large 4096).size = 8 * SectorSize.small.bytes ∧
      ∃ gpt written final lba,
        fresh .backup .small 8 5 (Vector.replicate 16 0x42) tightEntries = some gpt ∧
        (Disk.blank .large 4096).write
          ⟨gpt.header.tableLba.toNat * SectorSize.small.bytes, gpt.table⟩ = .ok written ∧
        written.write ⟨gpt.header.myLba.toNat * SectorSize.small.bytes, gpt.headerSector⟩ =
          .ok final ∧
        Location.backup.lba 8 = some lba ∧
        (Gpt.read final lba .small 8).outcome = .ok gpt :=
  ⟨tightEntries_buildable, rfl,
    read_fresh .backup (Vector.replicate 16 0x42) tightEntries_buildable rfl⟩

end TrustBoundary.Gpt
