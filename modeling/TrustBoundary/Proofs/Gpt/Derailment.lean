import TrustBoundary.Proofs.Gpt.Refusal

/-!
# When reading a copy derails

An attempt to read a copy derails when it does not end in a verdict about what is
on the disk: it breaks a rule of its own, or it asks for bytes that the disk does
not have.  Every check that reads only the header keeps to its rules, whatever
the header says.  What is left is the place of the entry array, and reading
derails exactly if an accepted header puts it beyond the end of the disk
(`read_derails_iff`).  A primary header cannot do that
(`not_tableOutside_of_primary`).
-/

set_option autoImplicit false

namespace TrustBoundary

/-- The end of a computation that is no verdict about its input: a broken rule, or
a failure of reading. -/
def Halt.Derails : Halt DiskError → Prop
  | .fault => True
  | .refused (.shortRead ..) => True
  | .refused (.io ..) => True
  | .refused _ => False

/-- A computation ends without a verdict. -/
abbrev Logged.Derails {α : Type} (computation : Logged DiskError α) : Prop :=
  computation.Fails Halt.Derails

/-- Loading derails exactly beyond the end of the disk. -/
theorem Disk.load_derails_iff {disk : Disk} {offset count : Nat}
    (small : count ≤ Disk.greatestBuffer) :
    (disk.load offset count).Derails ↔ disk.size < offset + count := by
  simp only [Disk.load, Disk.read, Disk.holds, Logged.fails_bind, Logged.fails_require, small,
    Logged.outcome_require_eq_ok, not_true_eq_false, false_and, false_or, exists_const, true_and,
    Logged.fails_liftExcept, decide_eq_true_eq]
  by_cases inside : offset + count ≤ disk.size
  · simp [inside]
  · simp [inside, Halt.Derails]
    omega

namespace Gpt

/-! ## Checks that read only the header -/

theorem rejectIf_not_derails {condition : Prop} [Decidable condition] {defect : Defect} :
    ¬(rejectIf condition defect).Derails :=
  fun derails => (fails_rejectIf.mp derails).2

theorem refuseIf_not_derails {condition : Prop} [Decidable condition] (reason : DiskError)
    (verdict : ¬Halt.Derails (.refused reason)) : ¬(Logged.refuseIf condition reason).Derails := by
  intro derails
  exact verdict (Logged.fails_refuseIf.mp derails).2

theorem checkIdentity_not_derails (header : Header) (sector : Bytes) (sectorSize : SectorSize) :
    ¬(checkIdentity header sector sectorSize).Derails := by
  intro derails
  obtain ⟨_, impossible⟩ := exists_defect_of_checkIdentity derails
  exact impossible

theorem checkEntrySize_not_derails (header : Header) (sectorSize : SectorSize) :
    ¬(checkEntrySize header sectorSize).Derails := by
  simp only [checkEntrySize, Logged.fails_bind, rejectIf_not_derails, false_or,
    refuseIf_not_derails (.entrySizeUnsupported _) id, and_false, exists_const,
    not_false_eq_true]

theorem checkUsable_not_derails (header : Header) : ¬(checkUsable header).Derails := by
  simp only [checkUsable, Logged.fails_bind, rejectIf_not_derails, false_or, and_false,
    exists_const, not_false_eq_true]

theorem roomForTable_not_derails (header : Header) (offset sectors : Nat) :
    ¬(roomForTable header offset sectors).Derails := by
  unfold roomForTable
  split
  · simp only [roomForPrimaryTable, Logged.fails_bind, rejectIf_not_derails, false_or,
      refuseIf_not_derails (.truncated _ _) id, Logged.not_fails_pure, and_false,
      exists_const, not_false_eq_true]
  · simp only [roomForBackupTable, Logged.fails_bind, rejectIf_not_derails, false_or,
      Logged.not_fails_pure, and_false, exists_const, not_false_eq_true]

theorem checkTable_not_derails (header : Header) (availableBytes sectorBytes : Nat) :
    ¬(checkTable header availableBytes sectorBytes).Derails := by
  simp only [checkTable, Logged.fails_bind, rejectIf_not_derails, Logged.fails_ite,
    refuseIf_not_derails (.tableTooLarge _) id, Logged.not_fails_warn, and_false,
    exists_const, or_self, not_false_eq_true]

/-- Validating a header never derails. -/
theorem checkHeader_not_derails {sector : Bytes} {offset sectors : Nat} {sectorSize : SectorSize}
    (minimum : Disk.minimumSectors ≤ sectors) (inside : offset < sectors)
    (long : Header.width ≤ sector.length) :
    ¬(checkHeader sector offset sectorSize sectors).Derails := by
  have found : Header.ofSector? sector ≠ none := by
    intro missing
    have there := Header.ofSector?_eq_some_iff.mpr ⟨long, rfl⟩
    rw [missing] at there
    exact nomatch there
  simp only [checkHeader, Logged.fails_bind, Logged.fails_require, minimum, inside,
    Logged.fails_liftOption, found, checkIdentity_not_derails, checkEntrySize_not_derails,
    checkUsable_not_derails, roomForTable_not_derails, checkTable_not_derails, Logged.fails_ite,
    Logged.not_fails_warn, Logged.not_fails_debug, Logged.not_fails_pure, not_true_eq_false,
    false_and, and_false, exists_false, or_self, not_false_eq_true]

theorem checkEntries_not_derails (header : Header) (used : List (Nat × Entry)) :
    ¬(checkEntries header used).Derails := by
  induction used with
  | nil => exact Logged.not_fails_pure ()
  | cons item others ih =>
      simp only [checkEntries, checkEntry, Logged.fails_bind, rejectIf_not_derails, ih, and_false,
        exists_const, or_self, not_false_eq_true]

/-! ## Reading -/

variable {disk : Disk} {offset sectors : Nat} {sectorSize : SectorSize}

/-- Reading the entry array derails exactly beyond the end of the disk. -/
theorem readTable_derails_iff {header : Header} (bounded : header.tableBytes ≤ greatestTableBytes)
    (small : disk.size < Word.limit) :
    (readTable disk header header.tableBytes sectorSize).Derails ↔
      disk.size < header.tableLba.toNat * sectorSize.bytes +
        sectorSize.wholeBytes header.tableBytes := by
  have buffer := wholeBytes_le_greatestBuffer sectorSize bounded
  simp only [readTable, Logged.fails_bind, Logged.fails_liftOption,
    roundUp_tableBytes sectorSize bounded, Word.mul_eq_none_iff,
    Disk.load_derails_iff buffer, Logged.outcome_liftOption_eq_ok, Option.some_inj,
    Word.mul_eq_some_iff, rejectIf_not_derails, Logged.not_fails_pure, reduceCtorEq,
    false_or, and_false, exists_false, or_false, exists_eq_left', Halt.Derails, and_true]
  constructor
  · rintro (beyond | ⟨_, ⟨_, rfl⟩, beyond⟩)
    · omega
    · exact beyond
  · intro beyond
    by_cases fits : header.tableLba.toNat * sectorSize.bytes < Word.limit
    · exact .inr ⟨_, ⟨fits, rfl⟩, beyond⟩
    · exact .inl (Nat.le_of_not_lt fits)

/-- An entry array without a 64-bit position breaks a rule. -/
theorem readTable_of_limit_le {header : Header} (bounded : header.tableBytes ≤ greatestTableBytes)
    (far : Word.limit ≤ header.tableLba.toNat * sectorSize.bytes) :
    (readTable disk header header.tableBytes sectorSize).outcome = .error .fault := by
  have rounded : (liftM (sectorSize.roundUp header.tableBytes) : Logged DiskError Nat).outcome =
      .ok (sectorSize.wholeBytes header.tableBytes) :=
    Logged.outcome_liftOption_eq_ok.mpr (roundUp_tableBytes sectorSize bounded)
  refine Logged.fails_eq_iff.mp
    ((Logged.fails_bind_of_ok rounded).mpr (Logged.fails_bind.mpr (.inl ?_)))
  exact Logged.fails_liftOption.mpr ⟨Word.mul_eq_none_iff.mpr far, rfl⟩

/-- A disk has an accepted header at a sector whose entry array is not on the disk. -/
def TableOutside (disk : Disk) (offset : Nat) (sectorSize : SectorSize) (sectors : Nat) : Prop :=
  ∃ header, Header.ofSector? (disk.bytesAt (offset * sectorSize.bytes) sectorSize.bytes) =
      some header ∧
    header.Accepted (disk.bytesAt (offset * sectorSize.bytes) sectorSize.bytes) offset sectorSize
      sectors ∧
    disk.size < header.tableLba.toNat * sectorSize.bytes + sectorSize.wholeBytes header.tableBytes

/-- **Reading a copy derails exactly if its entry array is not on the disk.** -/
theorem read_derails_iff (minimum : Disk.minimumSectors ≤ sectors) (inside : offset < sectors)
    (possible : offset = 1 ∨ 5 ≤ offset) (whole : sectors * sectorSize.bytes ≤ disk.size)
    (small : disk.size < Word.limit) :
    (Gpt.read disk offset sectorSize sectors).Derails ↔
      TableOutside disk offset sectorSize sectors := by
  have long := Header.width_le_sector disk (offset * sectorSize.bytes) sectorSize
  unfold Logged.Derails
  rw [fails_read inside possible whole small,
    or_iff_right (checkHeader_not_derails minimum inside long)]
  -- the header is accepted, and behind the entry array nothing can go wrong either
  refine exists_congr fun header => and_congr_right fun _ => and_congr_right fun accepted => ?_
  refine Iff.trans (or_iff_left ?_) (readTable_derails_iff accepted.tableBytes_le small)
  rintro ⟨_, _, derails | ⟨_, _, derails⟩⟩
  · exact checkEntries_not_derails _ _ derails
  · exact derails

/-- A primary header keeps its entry array on the disk. -/
theorem not_tableOutside_of_primary (whole : sectors * sectorSize.bytes ≤ disk.size) :
    ¬TableOutside disk 1 sectorSize sectors := by
  rintro ⟨header, _, accepted, beyond⟩
  have placed := accepted.placed
  have room := SectorSize.wholeBytes_le accepted.tableBytes_le_room (Nat.mul_mod_left _ _)
  rw [Header.Placed, if_pos rfl] at placed
  rw [Header.room, if_pos rfl, placed.tableLba] at room
  rw [placed.tableLba] at beyond
  have usable := accepted.firstUsable_le
  have alternate := placed.alternate_gt
  have inside := placed.alternate_lt
  have fits :
      (2 + (header.firstUsableLba.toNat - 2)) * sectorSize.bytes ≤ sectors * sectorSize.bytes :=
    Nat.mul_le_mul_right _ (by have := accepted.firstUsable_ge; omega)
  rw [Nat.add_mul] at fits
  omega

end Gpt

end TrustBoundary
