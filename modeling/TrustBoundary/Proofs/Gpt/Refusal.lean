import TrustBoundary.Proofs.Gpt.Stored

/-!
# When reading a copy fails

Reading a copy goes through its header, its entry array and its used entries, and
it fails where the first of them fails, in the same way (`fails_read`).  A sector
that is not recognised as a header is rejected for a defect
(`exists_defect_of_checkIdentity`).  One that does not begin with the signature of a
header fails at once and for that reason, whatever else is on the disk
(`read_of_unsigned`).  An entry array with another checksum than the stated one is
rejected too (`readTable_of_other_checksum`).
-/

set_option autoImplicit false

namespace TrustBoundary.Gpt

variable {disk : Disk} {offset sectors : Nat} {sectorSize : SectorSize}
  {bad : Halt DiskError → Prop}

/-- **Reading a copy of a sector on the disk fails** where its header does, where its
entry array does, where an entry does, or if no entry is used. -/
theorem fails_read (inside : offset < sectors) (possible : offset = 1 ∨ 5 ≤ offset)
    (whole : sectors * sectorSize.bytes ≤ disk.size) (small : disk.size < Word.limit) :
    (Gpt.read disk offset sectorSize sectors).Fails bad ↔
      (checkHeader (disk.bytesAt (offset * sectorSize.bytes) sectorSize.bytes) offset sectorSize
        sectors).Fails bad ∨
      ∃ header, Header.ofSector? (disk.bytesAt (offset * sectorSize.bytes) sectorSize.bytes) =
          some header ∧
        header.Accepted (disk.bytesAt (offset * sectorSize.bytes) sectorSize.bytes) offset
          sectorSize sectors ∧
        ((readTable disk header header.tableBytes sectorSize).Fails bad ∨
          ∃ table, (readTable disk header header.tableBytes sectorSize).outcome = .ok table ∧
            ((checkEntries header (usedFrom 0 (slots header.entryCount.toNat table))).Fails bad ∨
              EntriesUsable header (usedFrom 0 (slots header.entryCount.toNat table)) ∧
                usedFrom 0 (slots header.entryCount.toNat table) = [] ∧
                bad (.refused .noUsedPartitions))) := by
  have sectorEnd : offset * sectorSize.bytes + sectorSize.bytes ≤ disk.size := by
    rw [← Nat.succ_mul]
    exact Nat.le_trans (Nat.mul_le_mul_right _ inside) whole
  have allowed : (checkOffset offset sectors).outcome = .ok () :=
    checkOffset_eq_ok_iff.mpr ⟨inside, possible⟩
  rw [Gpt.read, Logged.fails_bind_of_ok allowed,
    Logged.fails_bind_of_ok (Logged.outcome_liftOption_eq_ok.mpr
      (Word.mul_eq_some_iff.mpr ⟨by omega, rfl⟩)),
    Logged.fails_bind_of_ok (Disk.load_eq_ok_iff.mpr
      ⟨sectorSize.bytes_le_greatestBuffer, sectorEnd, rfl⟩), Logged.fails_bind]
  refine or_congr_right ?_
  constructor
  · rintro ⟨_, validated, failed⟩
    obtain ⟨header, isHeader, accepted, rfl⟩ := checkHeader_eq_ok_iff.mp validated
    refine ⟨header, isHeader, accepted, ?_⟩
    rw [Logged.fails_bind_of_ok (Logged.outcome_liftOption_eq_ok.mpr isHeader), Logged.fails_bind]
      at failed
    rcases failed with failed | ⟨table, read, failed⟩
    · exact .inl failed
    · refine .inr ⟨table, read, ?_⟩
      rcases Logged.fails_bind.mp failed with failed | ⟨_, usable, failed⟩
      · exact .inl failed
      · refine .inr ⟨checkEntries_eq_ok_iff.mp usable, ?_⟩
        split at failed
        · rename_i last
          exact ⟨List.getLast?_eq_none_iff.mp last, Logged.fails_refuse.mp failed⟩
        · exact absurd failed (Logged.not_fails_pure _)
  · rintro ⟨header, isHeader, accepted, failed⟩
    refine ⟨header.tableBytes, checkHeader_eq_ok_iff.mpr ⟨header, isHeader, accepted, rfl⟩, ?_⟩
    rw [Logged.fails_bind_of_ok (Logged.outcome_liftOption_eq_ok.mpr isHeader), Logged.fails_bind]
    rcases failed with failed | ⟨table, read, failed⟩
    · exact .inl failed
    · refine .inr ⟨table, read, Logged.fails_bind.mpr ?_⟩
      rcases failed with failed | ⟨usable, unused, holds⟩
      · exact .inl failed
      · refine .inr ⟨(), checkEntries_eq_ok_iff.mpr usable, ?_⟩
        rw [unused]
        exact Logged.fails_refuse.mpr holds

/-! ## Headers that are rejected -/

@[simp] theorem fails_rejectIf {condition : Prop} [Decidable condition] {defect : Defect} :
    (rejectIf condition defect).Fails bad ↔ condition ∧ bad (.refused (.rejected defect)) :=
  Logged.fails_refuseIf

/-- A sector that is not recognised as a header is rejected for a defect.  Its checksum is asked
for only where it has enough bytes. -/
theorem exists_defect_of_checkIdentity {header : Header} {sector : Bytes}
    (fails : (checkIdentity header sector sectorSize).Fails bad) :
    ∃ defect, bad (.refused (.rejected defect)) := by
  simp only [checkIdentity, Logged.fails_bind, fails_rejectIf, outcome_rejectIf_eq_ok, exists_const,
    Logged.fails_liftOption, Logged.outcome_liftOption_eq_ok, not_or, Nat.not_lt] at fails
  obtain ⟨_, holds⟩ | ⟨_, ⟨_, holds⟩ | ⟨_, ⟨_, holds⟩ | ⟨wide, ⟨_, holds⟩ |
    ⟨⟨_, fits⟩, failed⟩⟩⟩⟩ := fails
  · exact ⟨_, holds⟩
  · exact ⟨_, holds⟩
  · exact ⟨_, holds⟩
  · exact ⟨_, holds⟩
  · obtain ⟨missing, _⟩ | ⟨_, _, _, holds⟩ := failed
    · unfold Header.checksum at missing
      rw [if_pos ⟨Nat.le_trans (by decide) wide, fits⟩] at missing
      cases missing
    · exact ⟨_, holds⟩

/-- A sector that is not recognised as a header is refused for that. -/
theorem checkHeader_of_checkIdentity {sector : Bytes} (minimum : Disk.minimumSectors ≤ sectors)
    (inside : offset < sectors) (long : Header.width ≤ sector.length)
    (fails : (checkIdentity (Header.decode sector) sector sectorSize).Fails bad) :
    (checkHeader sector offset sectorSize sectors).Fails bad := by
  have counted :
      (Logged.require (Disk.minimumSectors ≤ sectors) : Logged DiskError Unit).outcome = .ok () :=
    Logged.outcome_require_eq_ok.mpr minimum
  have placed : (Logged.require (offset < sectors) : Logged DiskError Unit).outcome = .ok () :=
    Logged.outcome_require_eq_ok.mpr inside
  rw [checkHeader, Logged.fails_bind_of_ok counted, Logged.fails_bind_of_ok placed,
    Logged.fails_bind_of_ok (Logged.outcome_liftOption_eq_ok.mpr
      (Header.ofSector?_eq_some_iff.mpr ⟨long, rfl⟩)), Logged.fails_bind]
  exact .inl fails

/-- A sector that does not begin with the signature is refused for that. -/
theorem checkHeader_of_unsigned {sector : Bytes} (minimum : Disk.minimumSectors ≤ sectors)
    (inside : offset < sectors) (long : Header.width ≤ sector.length)
    (unsigned : (Header.decode sector).signature ≠ Header.magic)
    (holds : bad (.refused (.rejected .badSignature))) :
    (checkHeader sector offset sectorSize sectors).Fails bad := by
  refine checkHeader_of_checkIdentity minimum inside long ?_
  rw [checkIdentity, Logged.fails_bind]
  exact .inl (fails_rejectIf.mpr ⟨unsigned, holds⟩)

theorem read_of_unsigned (minimum : Disk.minimumSectors ≤ sectors) (inside : offset < sectors)
    (possible : offset = 1 ∨ 5 ≤ offset) (whole : sectors * sectorSize.bytes ≤ disk.size)
    (small : disk.size < Word.limit)
    (unsigned : (Header.decode
      (disk.bytesAt (offset * sectorSize.bytes) sectorSize.bytes)).signature ≠ Header.magic) :
    (Gpt.read disk offset sectorSize sectors).outcome =
      .error (.refused (.rejected .badSignature)) := by
  have long := Header.width_le_sector disk (offset * sectorSize.bytes) sectorSize
  exact Logged.fails_eq_iff.mp ((fails_read inside possible whole small).mpr
    (.inl (checkHeader_of_unsigned minimum inside long unsigned rfl)))

/-! ## Entry arrays that are rejected -/

/-- An entry array on the disk that does not have the stated checksum is rejected for that. -/
theorem readTable_of_other_checksum {header : Header}
    (bounded : header.tableBytes ≤ greatestTableBytes)
    (start : header.tableLba.toNat * sectorSize.bytes < Word.limit)
    (inside : header.tableLba.toNat * sectorSize.bytes + sectorSize.wholeBytes header.tableBytes ≤
      disk.size)
    (wrong : header.tableCrc ≠ crc32 ((disk.bytesAt (header.tableLba.toNat * sectorSize.bytes)
      (sectorSize.wholeBytes header.tableBytes)).take header.tableBytes))
    (holds : bad (.refused (.rejected (.badEntryCrc header.tableLba.toNat)))) :
    (readTable disk header header.tableBytes sectorSize).Fails bad := by
  rw [readTable, Logged.fails_bind_of_ok (Logged.outcome_liftOption_eq_ok.mpr
      (roundUp_tableBytes sectorSize bounded)),
    Logged.fails_bind_of_ok (Logged.outcome_liftOption_eq_ok.mpr
      (Word.mul_eq_some_iff.mpr ⟨start, rfl⟩)),
    Logged.fails_bind_of_ok (Disk.load_eq_ok_iff.mpr
      ⟨wholeBytes_le_greatestBuffer sectorSize bounded, inside, rfl⟩), Logged.fails_bind]
  exact .inl (fails_rejectIf.mpr ⟨wrong, holds⟩)

end TrustBoundary.Gpt
