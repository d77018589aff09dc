import TrustBoundary.Gpt.Validate

/-!
# Which headers are accepted

The stages of the validation of a header are here brought into one statement.
`Header.Accepted` lists what a header has to fulfil at a sector of a disk, and
`checkHeader_eq_ok_iff` says that validation succeeds exactly for the headers
that fulfil it.  All of it but the checksum is a matter of the header's fields
(`Header.Coherent`).

The list shows what validation does not ask for.  Nothing bounds the fields of a
backup header by the number of sectors: its table only has to lie in front of
the sector that the header itself claims to be in.
-/

set_option autoImplicit false

namespace TrustBoundary.Gpt

/-- Refusing a copy is refusing it for its defect. -/
@[simp] theorem outcome_rejectIf_eq_ok {condition : Prop} [Decidable condition] {defect : Defect}
    {result : Unit} : (rejectIf condition defect).outcome = .ok result ↔ ¬condition :=
  Logged.outcome_refuseIf_eq_ok

namespace Header

/-- A sector that is long enough holds a header. -/
theorem ofSector?_eq_some_iff {sector : Bytes} {header : Header} :
    ofSector? sector = some header ↔ width ≤ sector.length ∧ decode sector = header := by
  unfold ofSector?
  by_cases short : sector.length < width
  · rw [if_pos short]
    exact ⟨fun impossible => (nomatch impossible),
      fun ⟨long, _⟩ => absurd long (Nat.not_le.mpr short)⟩
  · rw [if_neg short, Option.some_inj]
    exact ⟨fun same => ⟨Nat.not_lt.mp short, same⟩, And.right⟩

/-! ## The place of a copy on the disk -/

/-- The order of the parts of a primary copy: its table, the usable sectors, and
the backup header. -/
structure PlacedAsPrimary (header : Header) (sectors : Nat) : Prop where
  tableLba : header.tableLba.toNat = 2
  alternate_gt : header.lastUsableLba.toNat < header.alternateLba.toNat
  alternate_lt : header.alternateLba.toNat < sectors

/-- The order of the parts of a backup copy: the usable sectors, its table, and
the sector that it claims for its header. -/
structure PlacedAsBackup (header : Header) : Prop where
  alternate : header.alternateLba = 1
  tableLba_gt : header.lastUsableLba.toNat < header.tableLba.toNat
  tableLba_lt : header.tableLba.toNat < header.myLba.toNat

/-- The order of the parts of a copy whose header is at sector `offset`. -/
def Placed (header : Header) (offset sectors : Nat) : Prop :=
  if offset = 1 then header.PlacedAsPrimary sectors else header.PlacedAsBackup

/-- The number of sectors for the table of a copy whose header is at sector `offset`. -/
def room (header : Header) (offset : Nat) : Nat :=
  if offset = 1 then header.firstUsableLba.toNat - header.tableLba.toNat
  else header.myLba.toNat - header.tableLba.toNat

/-- What the fields of a header at sector `offset` of a disk have to fulfil, whatever
its checksum. -/
structure Coherent (header : Header) (offset : Nat) (sectorSize : SectorSize) (sectors : Nat) :
    Prop where
  minimumSectors_le : Disk.minimumSectors ≤ sectors
  offset_lt : offset < sectors
  signature : header.signature = magic
  revision : header.revision = supportedRevision
  width_le : width ≤ header.headerSize.toNat
  headerSize_le : header.headerSize.toNat ≤ sectorSize.bytes
  entrySize : header.entrySize.toNat = Entry.width
  firstUsable_ge : 3 ≤ header.firstUsableLba.toNat
  firstUsable_le : header.firstUsableLba.toNat ≤ header.lastUsableLba.toNat
  placed : header.Placed offset sectors
  entryCount_ne : header.entryCount ≠ 0
  tableBytes_le_room : header.tableBytes ≤ header.room offset * sectorSize.bytes
  tableBytes_le : header.tableBytes ≤ greatestTableBytes

/-- What a header in `sector`, which is sector `offset` of a disk, has to fulfil. -/
structure Accepted (header : Header) (sector : Bytes) (offset : Nat) (sectorSize : SectorSize)
    (sectors : Nat) : Prop extends header.Coherent offset sectorSize sectors where
  headerSize_le_length : header.headerSize.toNat ≤ sector.length
  checksum : checksum sector header.headerSize.toNat = some header.headerCrc

end Header

/-! ## The stages -/

theorem checkIdentity_eq_ok_iff {header : Header} {sector : Bytes} {sectorSize : SectorSize}
    {result : Unit} :
    (checkIdentity header sector sectorSize).outcome = .ok result ↔
      header.signature = Header.magic ∧ header.revision = Header.supportedRevision ∧
        Header.width ≤ header.headerSize.toNat ∧ header.headerSize.toNat ≤ sectorSize.bytes ∧
        header.headerSize.toNat ≤ sector.length ∧
        Header.checksum sector header.headerSize.toNat = some header.headerCrc := by
  simp only [checkIdentity, Logged.outcome_bind_eq_ok, outcome_rejectIf_eq_ok,
    Logged.outcome_liftOption_eq_ok, exists_const, not_or, Nat.not_lt, ne_eq, Decidable.not_not]
  constructor
  · rintro ⟨signature, revision, wide, ⟨inSize, inSector⟩, _, computed, rfl⟩
    exact ⟨signature, revision, wide, inSize, inSector, computed⟩
  · rintro ⟨signature, revision, wide, inSize, inSector, computed⟩
    exact ⟨signature, revision, wide, ⟨inSize, inSector⟩, _, computed, rfl⟩

theorem checkEntrySize_eq_ok_iff {header : Header} {sectorSize : SectorSize} {result : Unit} :
    (checkEntrySize header sectorSize).outcome = .ok result ↔
      header.entrySize.toNat = Entry.width := by
  have entryWidth : Entry.width = 128 := rfl
  simp only [checkEntrySize, Logged.outcome_bind_eq_ok, outcome_rejectIf_eq_ok,
    Logged.outcome_refuseIf_eq_ok, exists_const]
  rcases sectorSize.bytes_cases with bytes | bytes <;> omega

theorem checkUsable_eq_ok_iff {header : Header} {result : Unit} :
    (checkUsable header).outcome = .ok result ↔
      3 ≤ header.firstUsableLba.toNat ∧
        header.firstUsableLba.toNat ≤ header.lastUsableLba.toNat := by
  simp only [checkUsable, Logged.outcome_bind_eq_ok, outcome_rejectIf_eq_ok, exists_const,
    Nat.not_lt]

theorem roomForTable_eq_ok_iff {header : Header} {offset sectors room : Nat} :
    (roomForTable header offset sectors).outcome = .ok room ↔
      header.Placed offset sectors ∧ header.room offset = room := by
  unfold roomForTable Header.Placed Header.room
  split
  · simp only [roomForPrimaryTable, Logged.outcome_bind_eq_ok, outcome_rejectIf_eq_ok,
      Logged.outcome_refuseIf_eq_ok, Logged.outcome_pure_eq_ok, exists_const, ne_eq,
      Decidable.not_not, Nat.not_le]
    constructor
    · rintro ⟨table, above, below, same⟩
      exact ⟨⟨table, above, below⟩, same⟩
    · rintro ⟨⟨table, above, below⟩, same⟩
      exact ⟨table, above, below, same⟩
  · simp only [roomForBackupTable, Logged.outcome_bind_eq_ok, outcome_rejectIf_eq_ok,
      Logged.outcome_pure_eq_ok, exists_const, ne_eq, Decidable.not_not, Nat.not_le]
    constructor
    · rintro ⟨alternate, above, below, same⟩
      exact ⟨⟨alternate, above, below⟩, same⟩
    · rintro ⟨⟨alternate, above, below⟩, same⟩
      exact ⟨alternate, above, below, same⟩

theorem checkTable_eq_ok_iff {header : Header} {availableBytes sectorBytes : Nat} {result : Unit} :
    (checkTable header availableBytes sectorBytes).outcome = .ok result ↔
      header.entryCount ≠ 0 ∧ header.tableBytes ≤ availableBytes ∧
        header.tableBytes ≤ greatestTableBytes := by
  simp only [checkTable, Logged.outcome_bind_eq_ok, outcome_rejectIf_eq_ok,
    Logged.outcome_warnIf, Logged.outcome_refuseIf_eq_ok, exists_const, Nat.not_lt, ne_eq]

/-! ## The whole validation -/

/-- **Validation succeeds exactly for accepted headers,** with the size of their tables. -/
theorem checkHeader_eq_ok_iff {sector : Bytes} {offset sectors tableBytes : Nat}
    {sectorSize : SectorSize} :
    (checkHeader sector offset sectorSize sectors).outcome = .ok tableBytes ↔
      ∃ header, Header.ofSector? sector = some header ∧
        header.Accepted sector offset sectorSize sectors ∧ header.tableBytes = tableBytes := by
  simp only [checkHeader, Logged.outcome_bind_eq_ok, Logged.outcome_require_eq_ok,
    Logged.outcome_liftOption_eq_ok, checkIdentity_eq_ok_iff, Logged.outcome_warnIf,
    checkEntrySize_eq_ok_iff, checkUsable_eq_ok_iff, roomForTable_eq_ok_iff, checkTable_eq_ok_iff,
    Logged.outcome_debug, Logged.outcome_pure_eq_ok, exists_const]
  constructor
  · rintro ⟨minimum, inside, header, found, ⟨signature, revision, wide, inSize, inSector, computed⟩,
      entrySize, ⟨low, usable⟩, _, ⟨placed, rfl⟩, ⟨counted, fits, bounded⟩, _, same⟩
    exact ⟨header, found,
      ⟨⟨minimum, inside, signature, revision, wide, inSize, entrySize, low, usable,
      placed, counted, Nat.le_trans fits (Nat.min_le_left _ _), bounded⟩, inSector, computed⟩, same⟩
  · rintro ⟨header, found, accepted, same⟩
    have fits : header.tableBytes ≤ min (header.room offset * sectorSize.bytes) Word.greatest :=
      Nat.le_min.mpr ⟨accepted.tableBytes_le_room,
        Nat.le_trans accepted.tableBytes_le (by decide)⟩
    exact ⟨accepted.minimumSectors_le, accepted.offset_lt, header, found,
      ⟨accepted.signature, accepted.revision, accepted.width_le, accepted.headerSize_le,
        accepted.headerSize_le_length, accepted.checksum⟩,
      accepted.entrySize, ⟨accepted.firstUsable_ge, accepted.firstUsable_le⟩, _,
      ⟨accepted.placed, rfl⟩, ⟨accepted.entryCount_ne, fits, accepted.tableBytes_le⟩, trivial, same⟩

end TrustBoundary.Gpt
