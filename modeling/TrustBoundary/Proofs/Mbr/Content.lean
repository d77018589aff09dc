import TrustBoundary.Proofs.Bytes.Difference
import TrustBoundary.Proofs.Mbr.Checked

/-!
# The bytes of a boot record

The check of a boot record speaks of its partition records and their fields.  Here it is said
which bytes of the sector these are.  A record is genuine exactly if certain bytes have certain
values (`genuine_iff`), and correcting its size overwrites four bytes (`sector_of_coverDisk`): the
whole first record is decoded and encoded again, but all its other fields come back as the
bytes that they were read from.
-/

set_option autoImplicit false

namespace TrustBoundary

/-! ## The bytes of a partition record -/

namespace MbrRecord

theorem isZero_decode_iff {bytes : Bytes} (enough : width ≤ bytes.length) :
    (decode bytes).isZero ↔ bytes.take width = Bytes.zeroes width := by
  have blank : zero.encode = Bytes.zeroes width := by decide
  rw [isZero, decide_eq_true_eq, ← blank]
  exact lossless_layout.decode_eq_iff exact_layout enough

/-- The size is written last, and no other byte depends on it. -/
theorem encode_sizeInLba (record : MbrRecord) (size : UInt32) :
    encode { record with sizeInLba := size } =
      record.encode.take 12 ++ Bytes.littleEndian 4 size.toNat := by
  have parts : ∀ size : UInt32, encode { record with sizeInLba := size } =
      ([record.bootIndicator] ++ record.startingChs.toList ++ [record.osType] ++
        record.endingChs.toList ++ Bytes.littleEndian 4 record.startingLba.toNat) ++
        Bytes.littleEndian 4 size.toNat := by
    intro size
    rw [encode_eq]
    simp only [fields, Bytes.contents, List.flatMap_cons, List.flatMap_nil, List.append_nil,
      List.append_assoc]
  rw [parts size, parts record.sizeInLba, List.take_left' (by simp)]

end MbrRecord

namespace ProtectiveMbr

variable {mbr result : ProtectiveMbr} {sectors : Nat} {skipParameterBlock : Bool}

/-! ## What is checked -/

/-- A sector whose bytes are those of a protective boot record. -/
structure IsProtective (sector : Bytes) (skipParameterBlock : Bool) : Prop where
  signature : sector.slice 510 2 = [0x55, 0xAA]
  osType : sector.byteAt 450 = 0xEE
  startingLba : sector.slice 454 4 = [1, 0, 0, 0]
  otherRecords : ∀ index, 462 ≤ index → index < 510 → sector.byteAt index = 0
  parameterBlock : skipParameterBlock ∨ ∀ index, 3 ≤ index → index < 14 → sector.byteAt index = 0

theorem startingLba_eq_one_iff (long : width ≤ mbr.sector.length) :
    (mbr.record 0).startingLba = 1 ↔ mbr.sector.slice 454 4 = [1, 0, 0, 0] := by
  have place : (mbr.record 0).startingLba = mbr.sector.word32At 454 :=
    mbr.sector.word32At_drop recordsOffset 8
  rw [place]
  exact Bytes.word32At_eq_iff (Nat.le_trans (by decide) long)

/-- A partition record is zero exactly if its bytes are. -/
theorem record_isZero_iff {index : Nat}
    (inside : recordOffset index + MbrRecord.width ≤ mbr.sector.length) :
    (mbr.record index).isZero ↔ ∀ position, recordOffset index ≤ position →
      position < recordOffset index + MbrRecord.width → mbr.sector.byteAt position = 0 := by
  rw [record, MbrRecord.isZero_decode_iff (by rw [List.length_drop]; omega)]
  exact Bytes.slice_eq_zeroes_iff inside

/-- The records behind the first one take the bytes up to the signature. -/
theorem others_isZero_iff (long : width ≤ mbr.sector.length) :
    (mbr.record 1).isZero ∧ (mbr.record 2).isZero ∧ (mbr.record 3).isZero ↔
      ∀ index, 462 ≤ index → index < 510 → mbr.sector.byteAt index = 0 := by
  rw [record_isZero_iff (Nat.le_trans (by decide) long),
    record_isZero_iff (Nat.le_trans (by decide) long),
    record_isZero_iff (Nat.le_trans (by decide) long)]
  have second : recordOffset 1 = 462 := rfl
  have third : recordOffset 2 = 478 := rfl
  have fourth : recordOffset 3 = 494 := rfl
  have recordWidth : MbrRecord.width = 16 := rfl
  rw [second, third, fourth, recordWidth]
  constructor
  · rintro ⟨one, two, three⟩ index above below
    rcases Nat.lt_or_ge index 478 with first | behind
    · exact one index above first
    · rcases Nat.lt_or_ge index 494 with inTwo | inThree
      · exact two index behind inTwo
      · exact three index inThree below
  · intro zero
    exact ⟨fun index _ _ => zero index (by omega) (by omega),
      fun index _ _ => zero index (by omega) (by omega),
      fun index _ _ => zero index (by omega) (by omega)⟩

theorem hasParameterBlock_eq_false_iff (long : width ≤ mbr.sector.length) :
    mbr.hasParameterBlock = false ↔
      ∀ index, 3 ≤ index → index < 14 → mbr.sector.byteAt index = 0 := by
  have inside : 3 + 11 ≤ mbr.sector.length := Nat.le_trans (by decide) long
  have length : (mbr.sector.slice parameterBlockOffset parameterBlockWidth).length = 11 :=
    Bytes.length_slice inside
  rw [hasParameterBlock, Bool.not_eq_false', Bytes.allZero_iff, length]
  exact Bytes.slice_eq_zeroes_iff inside

/-- **A boot record is genuine** exactly if its sector has the bytes of a protective one. -/
theorem genuine_iff (long : width ≤ mbr.sector.length) :
    mbr.Genuine skipParameterBlock ↔ IsProtective mbr.sector skipParameterBlock := by
  have osType : (mbr.record 0).osType = mbr.sector.byteAt 450 :=
    mbr.sector.byteAt_drop recordsOffset 4
  have block : (skipParameterBlock = false → mbr.hasParameterBlock = false) ↔
      (skipParameterBlock ∨ ∀ index, 3 ≤ index → index < 14 → mbr.sector.byteAt index = 0) := by
    rw [hasParameterBlock_eq_false_iff long]
    cases skipParameterBlock <;> simp
  constructor
  · intro genuine
    exact ⟨genuine.signature, osType.symm.trans genuine.osType,
      (startingLba_eq_one_iff long).mp genuine.startingLba,
      (others_isZero_iff long).mp genuine.others, block.mp genuine.parameterBlock⟩
  · intro bytes
    exact ⟨bytes.signature, osType.trans bytes.osType,
      (startingLba_eq_one_iff long).mpr bytes.startingLba,
      (others_isZero_iff long).mpr bytes.otherRecords, block.mpr bytes.parameterBlock⟩

/-! ## What is corrected -/

/-- The size is the last field of the first record. -/
def sizeOffset : Nat := 458

/-- The size that is expected of a disk fits the field. -/
theorem coveringSize_eq_some {size : UInt32}
    (computed : MbrRecord.coveringSize sectors = some size) :
    size.toNat = min (sectors - 1) 0xFFFFFFFF := by
  obtain ⟨covered, difference, rfl⟩ := Option.map_eq_some_iff.mp computed
  obtain ⟨_, rfl⟩ := Word.sub_eq_some_iff.mp difference
  exact UInt32.toNat_ofNat_of_lt' (by change _ < 4294967296; omega)

/-- Storing the first record with another size overwrites the size. -/
theorem setRecord?_sizeInLba (long : width ≤ mbr.sector.length) {size : UInt32}
    (set : mbr.setRecord? 0 { mbr.record 0 with sizeInLba := size } = some result) :
    result.sector = mbr.sector.overwrite sizeOffset (Bytes.littleEndian 4 size.toNat) := by
  obtain ⟨inside, rfl⟩ := setRecord?_eq_some set
  have wide : width = 512 := rfl
  have enough : MbrRecord.layout.width ≤ (mbr.sector.drop recordsOffset).length := by
    rw [List.length_drop]
    change 16 ≤ mbr.sector.length - 446
    omega
  have front : (mbr.record 0).encode.take 12 = mbr.sector.slice recordsOffset 12 := by
    have written := MbrRecord.exact_layout.encode_decode _ enough
    change (MbrRecord.encode (MbrRecord.decode (mbr.sector.drop recordsOffset))).take 12 = _
    exact (congrArg (List.take 12) written).trans (List.take_take ..)
  rw [MbrRecord.encode_sizeInLba, front]
  exact Bytes.overwrite_unchanged_append (Nat.le_trans (by decide) long) _

/-- **Correcting the size overwrites it**, with four bytes that say how much of the disk there is
behind its first sector, as far as they can. -/
theorem sector_of_coverDisk (long : width ≤ mbr.sector.length)
    (covered : (mbr.coverDisk sectors).outcome = .ok result) :
    result.sector = mbr.sector.overwrite sizeOffset
      (Bytes.littleEndian 4 (min (sectors - 1) 0xFFFFFFFF)) := by
  obtain ⟨size, computed, covered⟩ := coverDisk_eq_ok_iff.mp covered
  rw [← coveringSize_eq_some computed]
  split at covered
  · rename_i current
    subst covered
    have stated : mbr.sector.word32At sizeOffset = size := by
      rw [← current]
      exact (mbr.sector.word32At_drop recordsOffset 12).symm
    refine (Bytes.overwrite_slice_self ?_).symm
    rw [Bytes.length_littleEndian]
    exact (Bytes.word32At_eq_iff (Nat.le_trans (by decide) long)).mp stated
  · exact setRecord?_sizeInLba long covered

/-- What a checked record has in its sector: the size that covers the disk, and around it the
bytes of the sector that was checked. -/
structure Corrects (mbr result : ProtectiveMbr) (sectors : Nat) : Prop where
  length : result.sector.length = mbr.sector.length
  outside : ∀ index, index < 458 ∨ 462 ≤ index →
    result.sector.byteAt index = mbr.sector.byteAt index
  size : result.sector.slice 458 4 = Bytes.littleEndian 4 (min (sectors - 1) 0xFFFFFFFF)

/-- **The check changes nothing but the size.** -/
theorem corrects_of_check (long : width ≤ mbr.sector.length)
    (checked : (mbr.check sectors skipParameterBlock).outcome = .ok result) :
    mbr.Corrects result sectors := by
  have written := sector_of_coverDisk long (check_eq_ok_iff.mp checked).2
  have length := Bytes.length_littleEndian 4 (min (sectors - 1) 0xFFFFFFFF)
  have inside : sizeOffset + 4 ≤ mbr.sector.length := Nat.le_trans (by decide) long
  refine ⟨?_, fun index outside => ?_, ?_⟩
  · rw [written, Bytes.length_overwrite _ _ _ (length.symm ▸ inside)]
  · rw [written, Bytes.byteAt_overwrite (length.symm ▸ inside), length, if_neg]
    change ¬(458 ≤ index ∧ index < 458 + 4)
    omega
  · rw [written]
    change ((mbr.sector.overwrite sizeOffset _).drop sizeOffset).take 4 = _
    rw [Bytes.drop_overwrite_self (Nat.le_of_add_right_le inside), List.take_left' length]

end ProtectiveMbr

end TrustBoundary
