import TrustBoundary.Mbr
import TrustBoundary.Proofs.Bytes.Lossless

/-!
# Checked master boot records

A protective master boot record that was checked may be written to its sector
and checked again: it is genuine with the size that was corrected, as it was
without, and nothing is left to correct (`ProtectiveMbr.check_stable`).  A fresh
one needs no correction at all (`ProtectiveMbr.check_fresh`).

Only the first 512 bytes of the sector mean anything.  A sector of any size that begins
with those of a genuine record holds one (`ProtectiveMbr.Genuine.congr`), and can be
checked for any disk (`ProtectiveMbr.Genuine.exists_check`).
-/

set_option autoImplicit false

namespace TrustBoundary

/-- Zeroes hold the record of a partition that does not exist. -/
theorem MbrRecord.decode_zeroes {count : Nat} (enough : MbrRecord.width ≤ count) (rest : Bytes) :
    MbrRecord.decode (Bytes.zeroes count ++ rest) = MbrRecord.zero := by
  have split :
      Bytes.zeroes count = MbrRecord.zero.encode ++ Bytes.zeroes (count - MbrRecord.width) := by
    have blank : MbrRecord.zero.encode = Bytes.zeroes MbrRecord.width := by decide
    rw [blank, Bytes.zeroes, Bytes.zeroes, Bytes.zeroes, List.replicate_append_replicate,
      Nat.add_sub_cancel' enough]
  rw [split, List.append_assoc]
  exact MbrRecord.lossless_layout.decode_encode _ _

namespace ProtectiveMbr

variable {mbr result : ProtectiveMbr} {sectors : Nat} {skipParameterBlock : Bool}

/-! ## The sector -/

/-- A record in a sector of a given size, with zeroes behind the bytes that mean anything. -/
structure Fills (mbr : ProtectiveMbr) (sectorBytes : Nat) : Prop where
  width_le : width ≤ sectorBytes
  length : mbr.sector.length = sectorBytes
  padding : mbr.sector.drop width = Bytes.zeroes (sectorBytes - width)

theorem ofSector?_eq_some {sector : Bytes} (found : ofSector? sector = some mbr) :
    mbr.Fills sector.length := by
  unfold ofSector? at found
  split at found
  · exact nomatch found
  · rename_i long
    cases found
    have front : (sector.take width).length = width := by rw [List.length_take]; omega
    refine ⟨by omega, ?_, List.drop_left' front⟩
    rw [List.length_append, front, Bytes.length_zeroes]
    omega

/-- A record that fills its sector is what is read from it. -/
theorem Fills.ofSector?_eq {sectorBytes : Nat} (fills : mbr.Fills sectorBytes) :
    ofSector? mbr.sector = some mbr := by
  rw [ofSector?, if_neg (by rw [fills.length]; exact Nat.not_lt.mpr fills.width_le), fills.length,
    ← fills.padding, List.take_append_drop]

/-! ## The first record -/

theorem setRecord?_eq_some {record : MbrRecord} (set : mbr.setRecord? 0 record = some result) :
    recordsOffset + MbrRecord.width ≤ mbr.sector.length ∧
      result = ⟨mbr.sector.overwrite recordsOffset record.encode⟩ := by
  unfold setRecord? at set
  split at set
  · rename_i inside
    cases set
    exact ⟨inside, rfl⟩
  · exact nomatch set

/-- Setting the first record is read back. -/
theorem record_setRecord? {record : MbrRecord} (set : mbr.setRecord? 0 record = some result) :
    result.record 0 = record := by
  obtain ⟨inside, rfl⟩ := setRecord?_eq_some set
  change MbrRecord.decode ((mbr.sector.overwrite recordsOffset record.encode).drop recordsOffset) =
    record
  rw [Bytes.drop_overwrite_self (by omega)]
  exact MbrRecord.lossless_layout.decode_encode record _

/-- Setting the first record changes no other one. -/
theorem record_setRecord?_other {record : MbrRecord} (set : mbr.setRecord? 0 record = some result)
    {index : Nat} (other : index ≠ 0) : result.record index = mbr.record index := by
  obtain ⟨inside, rfl⟩ := setRecord?_eq_some set
  have width : MbrRecord.width = 16 := rfl
  change MbrRecord.decode
    ((mbr.sector.overwrite recordsOffset record.encode).drop (recordOffset index)) = _
  rw [Bytes.drop_overwrite (by omega)
    (by rw [MbrRecord.length_encode, recordOffset, width]; omega)]
  rfl

theorem Fills.setRecord? {record : MbrRecord} {sectorBytes : Nat} (fills : mbr.Fills sectorBytes)
    (set : mbr.setRecord? 0 record = some result) : result.Fills sectorBytes := by
  obtain ⟨inside, rfl⟩ := setRecord?_eq_some set
  rw [← MbrRecord.length_encode record] at inside
  refine ⟨fills.width_le, (Bytes.length_overwrite _ _ _ inside).trans fills.length, ?_⟩
  change (mbr.sector.overwrite recordsOffset record.encode).drop width = _
  rw [Bytes.drop_overwrite (by omega) (by rw [MbrRecord.length_encode]; decide), fills.padding]

/-! ## The check -/

/-- What a record has to fulfil besides covering the disk. -/
structure Genuine (mbr : ProtectiveMbr) (skipParameterBlock : Bool) : Prop where
  signature : mbr.signature = magic
  osType : (mbr.record 0).osType = MbrRecord.protectiveType
  startingLba : (mbr.record 0).startingLba = 1
  others : (mbr.record 1).isZero ∧ (mbr.record 2).isZero ∧ (mbr.record 3).isZero
  parameterBlock : skipParameterBlock = false → mbr.hasParameterBlock = false

theorem check_eq_ok_iff : (mbr.check sectors skipParameterBlock).outcome = .ok result ↔
    mbr.Genuine skipParameterBlock ∧ (mbr.coverDisk sectors).outcome = .ok result := by
  simp only [check, checkOtherRecords, Logged.outcome_bind_eq_ok, Logged.outcome_refuseIf_eq_ok,
    exists_const, ne_eq, Decidable.not_not]
  cases skipParameterBlock with
  | true =>
      simp only [if_true, Logged.outcome_bind_eq_ok, Logged.outcome_warn, exists_const, true_and]
      constructor
      · rintro ⟨signature, osType, others, starting, covered⟩
        exact ⟨⟨signature, osType, starting, others, fun impossible => Bool.noConfusion impossible⟩,
          covered⟩
      · rintro ⟨genuine, covered⟩
        exact ⟨genuine.signature, genuine.osType, genuine.others, genuine.startingLba, covered⟩
  | false =>
      simp only [Bool.false_eq_true, if_false, Logged.outcome_bind_eq_ok,
        Logged.outcome_refuseIf_eq_ok, exists_const, Bool.not_eq_true]
      constructor
      · rintro ⟨signature, osType, others, starting, block, covered⟩
        exact ⟨⟨signature, osType, starting, others, fun _ => block⟩, covered⟩
      · rintro ⟨genuine, covered⟩
        exact ⟨genuine.signature, genuine.osType, genuine.others, genuine.startingLba,
          genuine.parameterBlock rfl, covered⟩

theorem coverDisk_eq_ok_iff : (mbr.coverDisk sectors).outcome = .ok result ↔
    ∃ expected, MbrRecord.coveringSize sectors = some expected ∧
      if (mbr.record 0).sizeInLba = expected then mbr = result
      else mbr.setRecord? 0 { mbr.record 0 with sizeInLba := expected } = some result := by
  simp only [coverDisk, Logged.outcome_bind_eq_ok, Logged.outcome_liftOption_eq_ok]
  refine exists_congr fun expected => and_congr_right fun _ => ?_
  split
  · exact Logged.outcome_pure_eq_ok
  · simp only [Logged.outcome_bind_eq_ok, Logged.outcome_debug, exists_const, true_and,
      Logged.outcome_liftOption_eq_ok]

/-- Correcting the size leaves a genuine record genuine. -/
theorem Genuine.coverDisk (genuine : mbr.Genuine skipParameterBlock)
    (covered : (mbr.coverDisk sectors).outcome = .ok result) :
    result.Genuine skipParameterBlock := by
  obtain ⟨expected, _, covered⟩ := coverDisk_eq_ok_iff.mp covered
  split at covered
  · exact covered ▸ genuine
  · have first := record_setRecord? covered
    obtain ⟨one, two, three⟩ := genuine.others
    refine ⟨?_, by rw [first]; exact genuine.osType, by rw [first]; exact genuine.startingLba,
      ⟨by rw [record_setRecord?_other covered (by decide)]; exact one,
        by rw [record_setRecord?_other covered (by decide)]; exact two,
        by rw [record_setRecord?_other covered (by decide)]; exact three⟩, fun checked => ?_⟩
    all_goals
      obtain ⟨inside, rfl⟩ := setRecord?_eq_some covered
    · rw [← genuine.signature]
      exact Bytes.slice_overwrite_behind (by omega) (by rw [MbrRecord.length_encode]; decide)
    · rw [← genuine.parameterBlock checked]
      change (!Bytes.allZero (Bytes.slice _ _ _)) = !Bytes.allZero (Bytes.slice _ _ _)
      rw [Bytes.slice_overwrite_before (by omega) (by decide)]

/-- **A checked record passes the check again,** and nothing is left to correct. -/
theorem check_stable (checked : (mbr.check sectors skipParameterBlock).outcome = .ok result) :
    (result.check sectors skipParameterBlock).outcome = .ok result := by
  obtain ⟨genuine, covered⟩ := check_eq_ok_iff.mp checked
  refine check_eq_ok_iff.mpr ⟨genuine.coverDisk covered, coverDisk_eq_ok_iff.mpr ?_⟩
  obtain ⟨expected, computed, covered⟩ := coverDisk_eq_ok_iff.mp covered
  refine ⟨expected, computed, ?_⟩
  split at covered <;> rename_i same
  · subst covered
    rw [if_pos same]
  · rw [if_pos (by rw [record_setRecord? covered])]

theorem Fills.check {sectorBytes : Nat} (fills : mbr.Fills sectorBytes)
    (checked : (mbr.check sectors skipParameterBlock).outcome = .ok result) :
    result.Fills sectorBytes := by
  obtain ⟨_, covered⟩ := check_eq_ok_iff.mp checked
  obtain ⟨expected, _, covered⟩ := coverDisk_eq_ok_iff.mp covered
  split at covered
  · exact covered ▸ fills
  · exact fills.setRecord? covered

/-- A disk that has sectors has a size that covers it. -/
theorem exists_coveringSize (least : 1 ≤ sectors) :
    ∃ expected, MbrRecord.coveringSize sectors = some expected :=
  ⟨_, congrArg (Option.map _) (Word.sub_eq_some_iff.mpr ⟨least, rfl⟩)⟩

/-- A genuine record can be made to cover a disk of any number of sectors. -/
theorem Genuine.exists_check (genuine : mbr.Genuine skipParameterBlock)
    (long : width ≤ mbr.sector.length) (least : 1 ≤ sectors) :
    ∃ result, (mbr.check sectors skipParameterBlock).outcome = .ok result := by
  obtain ⟨expected, covering⟩ := exists_coveringSize least
  suffices covered : ∃ result, (mbr.coverDisk sectors).outcome = .ok result by
    obtain ⟨result, covered⟩ := covered
    exact ⟨result, check_eq_ok_iff.mpr ⟨genuine, covered⟩⟩
  by_cases current : (mbr.record 0).sizeInLba = expected
  · refine ⟨mbr, coverDisk_eq_ok_iff.mpr ⟨expected, covering, ?_⟩⟩
    rw [if_pos current]
  · have room : recordOffset 0 + MbrRecord.width ≤ mbr.sector.length :=
      Nat.le_trans (by decide) long
    obtain ⟨result, set⟩ : ∃ result, mbr.setRecord? 0 { mbr.record 0 with sizeInLba := expected } =
      some result := ⟨_, if_pos room⟩
    refine ⟨result, coverDisk_eq_ok_iff.mpr ⟨expected, covering, ?_⟩⟩
    rw [if_neg current]
    exact set

/-! ## Refusals -/

/-- The reasons for which a boot record is refused. -/
inductive IsRefusal : DiskError → Prop where
  | signature (first second : Nat) : IsRefusal (.badMbrSignature first second)
  | osType (osType : Nat) : IsRefusal (.mbrNotProtective osType)
  | record (number : Nat) : IsRefusal (.mbrRecordNotZero number)
  | startingLba (startingLba : Nat) : IsRefusal (.mbrBadStartingLba startingLba)
  | parameterBlock : IsRefusal .bpbPresent

theorem not_fails_coverDisk {bad : Halt DiskError → Prop} (long : width ≤ mbr.sector.length)
    (least : 1 ≤ sectors) : ¬(mbr.coverDisk sectors).Fails bad := by
  have room : recordOffset 0 + MbrRecord.width ≤ mbr.sector.length := Nat.le_trans (by decide) long
  simp only [coverDisk, Logged.fails_bind, Logged.fails_liftOption, Logged.fails_ite,
    Logged.not_fails_pure, Logged.not_fails_debug, MbrRecord.coveringSize, Word.sub, least, room,
    setRecord?, if_true, Option.map_some, reduceCtorEq, false_and, and_false, exists_const, or_self,
    not_false_eq_true]

/-- **The check of a sector breaks no rule of its own**: it fails only for a reason of these. -/
theorem exists_refusal_of_check {bad : Halt DiskError → Prop} (long : width ≤ mbr.sector.length)
    (least : 1 ≤ sectors) (fails : (mbr.check sectors skipParameterBlock).Fails bad) :
    ∃ reason, IsRefusal reason ∧ bad (.refused reason) := by
  have refused : ∀ {condition : Prop} [Decidable condition] {reason : DiskError}, IsRefusal reason →
      (Logged.refuseIf condition reason).Fails bad →
      ∃ reason, IsRefusal reason ∧ bad (.refused reason) :=
    fun isRefusal failed => ⟨_, isRefusal, (Logged.fails_refuseIf.mp failed).2⟩
  unfold check checkOtherRecords at fails
  rcases Logged.fails_bind.mp fails with failed | ⟨_, _, fails⟩
  · exact refused (.signature _ _) failed
  rcases Logged.fails_bind.mp fails with failed | ⟨_, _, fails⟩
  · exact refused (.osType _) failed
  rcases Logged.fails_bind.mp fails with failed | ⟨_, _, fails⟩
  · simp only [Logged.fails_bind] at failed
    rcases failed with failed | ⟨_, _, failed | ⟨_, _, failed⟩⟩
    all_goals exact refused (.record _) failed
  rcases Logged.fails_bind.mp fails with failed | ⟨_, _, fails⟩
  · exact refused (.startingLba _) failed
  cases skipParameterBlock with
  | true =>
      rcases Logged.fails_bind.mp fails with failed | ⟨_, _, fails⟩
      · exact absurd failed (Logged.not_fails_warn _)
      · exact absurd fails (not_fails_coverDisk long least)
  | false =>
      rcases Logged.fails_bind.mp fails with failed | ⟨_, _, fails⟩
      · exact refused .parameterBlock failed
      · exact absurd fails (not_fails_coverDisk long least)

/-! ## Only the first bytes mean anything -/

/-- What is read from a sector has its first bytes. -/
theorem exists_ofSector? {sector : Bytes} (long : width ≤ sector.length) :
    ∃ found, ofSector? sector = some found ∧ width ≤ found.sector.length ∧
      found.sector.take width = sector.take width := by
  have front : (sector.take width).length = width := List.length_take_of_le long
  refine ⟨_, if_neg (Nat.not_lt.mpr long), ?_, List.take_left' front⟩
  rw [List.length_append, front]
  exact Nat.le_add_right _ _

section First

variable {other : ProtectiveMbr} (same : other.sector.take width = mbr.sector.take width)
  (long : width ≤ mbr.sector.length)

include same long

/-- The partition records lie in the first bytes. -/
theorem record_congr {index : Nat} (below : index < 4) : other.record index = mbr.record index := by
  have recordWidth : MbrRecord.width = 16 ∧ MbrRecord.layout.width = 16 := ⟨rfl, rfl⟩
  have inside : recordOffset index + MbrRecord.width ≤ width := by
    rw [recordOffset, recordWidth.1]
    change 446 + index * 16 + 16 ≤ 512
    omega
  refine MbrRecord.lossless_layout.decode_congr MbrRecord.exact_layout ?_ ?_
  · rw [List.length_drop]
    omega
  · exact Bytes.slice_congr same inside

/-- A sector that begins like a genuine record holds one. -/
theorem Genuine.congr (genuine : mbr.Genuine skipParameterBlock) :
    other.Genuine skipParameterBlock where
  signature := (Bytes.slice_congr same (by decide)).trans genuine.signature
  osType := by rw [record_congr same long (by decide)]; exact genuine.osType
  startingLba := by rw [record_congr same long (by decide)]; exact genuine.startingLba
  others := by
    rw [record_congr same long (by decide), record_congr same long (by decide),
      record_congr same long (by decide)]
    exact genuine.others
  parameterBlock checked := by
    rw [← genuine.parameterBlock checked, hasParameterBlock, hasParameterBlock,
      Bytes.slice_congr same (by decide)]

end First

/-! ## Fresh records -/

variable {sectorSize : SectorSize}

/-- The parts of a fresh record. -/
theorem fresh_eq_some (made : fresh sectorSize sectors = some mbr) :
    ∃ sizeInLba, MbrRecord.coveringSize sectors = some sizeInLba ∧
      mbr.sector = Bytes.zeroes recordsOffset ++ ((coveringRecord sizeInLba).encode ++
        (Bytes.zeroes (3 * MbrRecord.width) ++
          (magic ++ Bytes.zeroes (sectorSize.bytes - width)))) := by
  simp only [fresh, Option.bind_eq_bind, Option.bind_eq_some_iff] at made
  obtain ⟨sizeInLba, computed, made⟩ := made
  cases made
  exact ⟨sizeInLba, computed, by simp only [List.append_assoc]⟩

/-- A fresh record takes one sector. -/
theorem fills_fresh (made : fresh sectorSize sectors = some mbr) : mbr.Fills sectorSize.bytes := by
  obtain ⟨sizeInLba, _, parts⟩ := fresh_eq_some made
  have width_le : width ≤ sectorSize.bytes := by
    rcases sectorSize.bytes_cases with bytes | bytes <;> rw [bytes] <;> decide
  have front : (Bytes.zeroes recordsOffset ++ ((coveringRecord sizeInLba).encode ++
      (Bytes.zeroes (3 * MbrRecord.width) ++ magic))).length = width := by
    simp only [List.length_append, MbrRecord.length_encode, Bytes.length_zeroes]
    decide
  have split : mbr.sector = (Bytes.zeroes recordsOffset ++ ((coveringRecord sizeInLba).encode ++
      (Bytes.zeroes (3 * MbrRecord.width) ++ magic))) ++
        Bytes.zeroes (sectorSize.bytes - width) := by
    rw [parts]
    simp only [List.append_assoc]
  refine ⟨width_le, ?_, ?_⟩
  · rw [split, List.length_append, front, Bytes.length_zeroes]
    omega
  · rw [split, List.drop_left' front]

/-- **A fresh record passes the check as it is.** -/
theorem check_fresh (made : fresh sectorSize sectors = some mbr) (skipParameterBlock : Bool) :
    (mbr.check sectors skipParameterBlock).outcome = .ok mbr := by
  obtain ⟨sizeInLba, computed, parts⟩ := fresh_eq_some made
  have front : (Bytes.zeroes recordsOffset).length = recordsOffset := Bytes.length_zeroes _
  have length := (coveringRecord sizeInLba).length_encode
  have width : MbrRecord.width = 16 := rfl
  -- the records and the signature lie one behind the other
  have records : mbr.sector.drop recordsOffset = (coveringRecord sizeInLba).encode ++
      (Bytes.zeroes (3 * MbrRecord.width) ++
        (magic ++ Bytes.zeroes (sectorSize.bytes - ProtectiveMbr.width))) := by
    rw [parts, List.drop_left' front]
  have behind : ∀ count, mbr.sector.drop (recordsOffset + (MbrRecord.width + count)) =
      (Bytes.zeroes (3 * MbrRecord.width) ++
        (magic ++ Bytes.zeroes (sectorSize.bytes - ProtectiveMbr.width))).drop count := by
    intro count
    rw [← List.drop_drop, records, ← List.drop_drop, List.drop_left' length]
  have first : mbr.record 0 = coveringRecord sizeInLba := by
    change MbrRecord.decode (mbr.sector.drop recordsOffset) = _
    rw [records]
    exact MbrRecord.lossless_layout.decode_encode _ _
  have others : ∀ index, index < 3 → (mbr.record (index + 1)).isZero := by
    intro index below
    have place : recordOffset (index + 1) =
        recordsOffset + (MbrRecord.width + index * MbrRecord.width) := by
      rw [recordOffset, width]
      omega
    have enough : index * MbrRecord.width ≤ (Bytes.zeroes (3 * MbrRecord.width)).length := by
      rw [Bytes.length_zeroes, width]
      omega
    rw [record, place, behind, List.drop_append_of_le_length enough, Bytes.zeroes,
      List.drop_replicate, ← Bytes.zeroes, MbrRecord.decode_zeroes (by rw [width]; omega)]
    decide
  refine check_eq_ok_iff.mpr ⟨⟨?_, by rw [first]; rfl, by rw [first]; rfl,
    ⟨others 0 (by decide), others 1 (by decide), others 2 (by decide)⟩, fun _ => ?_⟩, ?_⟩
  · have place : signatureOffset = recordsOffset + (MbrRecord.width + 3 * MbrRecord.width) := rfl
    rw [signature, Bytes.slice, place, behind, List.drop_left' (Bytes.length_zeroes _)]
    rfl
  · have blank : mbr.sector.slice parameterBlockOffset parameterBlockWidth =
        Bytes.zeroes parameterBlockWidth := by
      rw [parts, Bytes.slice, List.drop_append_of_le_length (by rw [front]; decide), Bytes.zeroes,
        List.drop_replicate, List.take_append_of_le_length (by rw [List.length_replicate]; decide),
        List.take_replicate]
      rfl
    rw [hasParameterBlock, blank]
    decide
  · exact coverDisk_eq_ok_iff.mpr ⟨sizeInLba, computed, by rw [if_pos (by rw [first]; rfl)]⟩

end ProtectiveMbr

end TrustBoundary
