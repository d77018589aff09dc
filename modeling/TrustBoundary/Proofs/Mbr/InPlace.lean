import TrustBoundary.Mbr.InPlace
import TrustBoundary.Proofs.Mbr.Content

/-!
# Checking in place

A boot record that is checked in its buffer goes through the same steps as one that is checked
by value (`run_checkInPlace`).  The only step that touches the buffer is the last one, so a
record that passes is replaced by its corrected version, and one that is refused is still there.

With what is known of the bytes of a boot record this says what the check does to any sector
(`checkInPlace_is_exact`).  It passes exactly the protective ones and overwrites four of their
bytes, and doing it once more changes nothing.
-/

set_option autoImplicit false

namespace TrustBoundary.ProtectiveMbr

variable {sectors : Nat} {skipParameterBlock : Bool}

/-! ## In place and by value -/

/-- What the computation of a new record comes to when its result takes the place of the record
in a buffer, and a failure leaves the record there. -/
def settle (report : Logged DiskError ProtectiveMbr) (buffer : Buffer) :
    EStateM.Result (Halt DiskError) Buffer Unit :=
  match report.outcome with
  | .ok mbr => .ok () ⟨mbr, buffer.lines ++ report.lines⟩
  | .error halt => .error halt ⟨buffer.mbr, buffer.lines ++ report.lines⟩

theorem settle_after (reported : List LogLine) (report : Logged DiskError ProtectiveMbr)
    (mbr : ProtectiveMbr) (lines : List LogLine) :
    settle (Logged.after reported report) ⟨mbr, lines⟩ =
      settle report ⟨mbr, lines ++ reported⟩ := by
  unfold settle Logged.after
  cases report.outcome <;> simp only [List.append_assoc]

theorem settle_pure (mbr : ProtectiveMbr) (buffer : Buffer) :
    settle (pure mbr) buffer = .ok () ⟨mbr, buffer.lines⟩ := by
  change EStateM.Result.ok () (Buffer.mk mbr (buffer.lines ++ [])) = _
  rw [List.append_nil]

/-- Work in place that begins with a computation is settled if what follows it is. -/
theorem run_lift_bind {α : Type} {report : Logged DiskError α} {next : α → InPlace Unit}
    {rest : α → Logged DiskError ProtectiveMbr} {mbr : ProtectiveMbr}
    (settled : ∀ value lines, (next value).run ⟨mbr, lines⟩ = settle (rest value) ⟨mbr, lines⟩)
    (lines : List LogLine) :
    ((liftM report : InPlace α) >>= next).run ⟨mbr, lines⟩ =
      settle (report >>= rest) ⟨mbr, lines⟩ := by
  rcases report with ⟨reported, halt | value⟩
  · rfl
  · change (next value).run ⟨mbr, lines ++ reported⟩ =
      settle (Logged.after reported (rest value)) ⟨mbr, lines⟩
    rw [settled, settle_after]

theorem run_setRecord (mbr : ProtectiveMbr) (index : Nat) (record : MbrRecord)
    (lines : List LogLine) : (InPlace.setRecord index record).run ⟨mbr, lines⟩ =
      settle (liftM (mbr.setRecord? index record)) ⟨mbr, lines⟩ := by
  unfold InPlace.setRecord EStateM.run
  dsimp only
  cases mbr.setRecord? index record with
  | none =>
      change _ = EStateM.Result.error Halt.fault (Buffer.mk mbr (lines ++ []))
      rw [List.append_nil]
  | some next => exact (settle_pure next ⟨mbr, lines⟩).symm

theorem run_coverInPlace (mbr : ProtectiveMbr) (lines : List LogLine) :
    (coverInPlace sectors).run ⟨mbr, lines⟩ = settle (mbr.coverDisk sectors) ⟨mbr, lines⟩ := by
  refine run_lift_bind (fun expected lines => ?_) lines
  dsimp only
  by_cases current : (mbr.record 0).sizeInLba = expected
  · rw [if_pos current, if_pos current, settle_pure]
    rfl
  · rw [if_neg current, if_neg current]
    exact run_lift_bind (fun _ lines => run_setRecord mbr 0 _ lines) lines

/-- **The check in place is the check by value**: a record that passes is replaced by the
corrected one, and a record that is refused stays in the buffer. -/
theorem run_checkInPlace (mbr : ProtectiveMbr) (lines : List LogLine) :
    (checkInPlace sectors skipParameterBlock).run ⟨mbr, lines⟩ =
      settle (mbr.check sectors skipParameterBlock) ⟨mbr, lines⟩ := by
  -- one application for each of the four refusals in front of the choice
  refine run_lift_bind (fun _ lines => ?_) lines
  refine run_lift_bind (fun _ lines => ?_) lines
  refine run_lift_bind (fun _ lines => ?_) lines
  refine run_lift_bind (fun _ lines => ?_) lines
  cases skipParameterBlock with
  | true => exact run_lift_bind (fun _ lines => run_coverInPlace mbr lines) lines
  | false => exact run_lift_bind (fun _ lines => run_coverInPlace mbr lines) lines

/-! ## What becomes of a buffer -/

variable {buffer left : Buffer}

theorem settle_eq_ok_iff {report : Logged DiskError ProtectiveMbr} :
    settle report buffer = .ok () left ↔
      report.outcome = .ok left.mbr ∧ buffer.lines ++ report.lines = left.lines := by
  obtain ⟨mbr, lines⟩ := left
  unfold settle
  cases report.outcome <;> simp

theorem settle_eq_error_iff {report : Logged DiskError ProtectiveMbr} {halt : Halt DiskError} :
    settle report buffer = .error halt left ↔
      report.outcome = .error halt ∧ buffer.mbr = left.mbr ∧
      buffer.lines ++ report.lines = left.lines := by
  obtain ⟨mbr, lines⟩ := left
  unfold settle
  cases report.outcome <;> simp

/-- A buffer passes exactly if its record does, and is then left with the checked record. -/
theorem exists_run_eq_ok_iff {mbr : ProtectiveMbr} :
    (∃ left, (checkInPlace sectors skipParameterBlock).run buffer = .ok () left ∧ left.mbr = mbr) ↔
      (buffer.mbr.check sectors skipParameterBlock).outcome = .ok mbr := by
  rw [run_checkInPlace]
  simp only [settle_eq_ok_iff]
  constructor
  · rintro ⟨left, ⟨checked, _⟩, rfl⟩
    exact checked
  · intro checked
    exact ⟨⟨mbr, _⟩, ⟨checked, rfl⟩, rfl⟩

/-- **Exactly protective boot records pass.** -/
theorem exists_passed_iff (long : width ≤ buffer.mbr.sector.length) (least : 1 ≤ sectors) :
    (∃ left, (checkInPlace sectors skipParameterBlock).run buffer = .ok () left) ↔
      IsProtective buffer.mbr.sector skipParameterBlock := by
  rw [← genuine_iff long]
  constructor
  · rintro ⟨left, passed⟩
    exact (check_eq_ok_iff.mp (exists_run_eq_ok_iff.mp ⟨left, passed, rfl⟩)).1
  · intro genuine
    obtain ⟨result, checked⟩ := genuine.exists_check long least
    obtain ⟨left, passed, _⟩ := exists_run_eq_ok_iff.mpr checked
    exact ⟨left, passed⟩

/-- **A buffer that does not pass is refused**, and its record is left alone. -/
theorem left_alone_of_stopped (long : width ≤ buffer.mbr.sector.length) (least : 1 ≤ sectors)
    {halt : Halt DiskError}
    (stopped : (checkInPlace sectors skipParameterBlock).run buffer = .error halt left) :
    left.mbr = buffer.mbr ∧ ∃ reason, halt = .refused reason := by
  rw [run_checkInPlace] at stopped
  obtain ⟨fails, same, _⟩ := settle_eq_error_iff.mp stopped
  obtain ⟨reason, _, refused⟩ := exists_refusal_of_check long least (Logged.fails_eq_iff.mpr fails)
  exact ⟨same.symm, reason, refused.symm⟩

/-- **A buffer that passes** is left with the size corrected, and it passes again as it is. -/
theorem corrects_of_passed (long : width ≤ buffer.mbr.sector.length)
    (passed : (checkInPlace sectors skipParameterBlock).run buffer = .ok () left) :
    buffer.mbr.Corrects left.mbr sectors ∧
      ∃ again, (checkInPlace sectors skipParameterBlock).run left = .ok () again ∧
        again.mbr = left.mbr := by
  have checked := exists_run_eq_ok_iff.mp ⟨left, passed, rfl⟩
  exact ⟨corrects_of_check long checked, exists_run_eq_ok_iff.mpr (check_stable checked)⟩

/-- **A fresh record** can be made of any disk that has sectors, and it passes as it is. -/
theorem exists_fresh_passed (least : 1 ≤ sectors) (sectorSize : SectorSize) :
    ∃ mbr, fresh sectorSize sectors = some mbr ∧
      ∀ lines, ∃ left, (checkInPlace sectors skipParameterBlock).run ⟨mbr, lines⟩ = .ok () left ∧
        left.mbr = mbr := by
  obtain ⟨size, computed⟩ := exists_coveringSize least
  obtain ⟨mbr, made⟩ : ∃ mbr, fresh sectorSize sectors = some mbr :=
    ⟨_, congrArg (Option.bind · _) computed⟩
  exact ⟨mbr, made, fun lines => exists_run_eq_ok_iff.mpr (check_fresh made skipParameterBlock)⟩

/-- **The check of a boot record in its buffer is exact, atomic and idempotent.**  It passes
exactly for the bytes of a protective boot record.  If it does not pass, the record is refused and
stays as it was.  If it passes, the four bytes of the size say how many sectors there are behind
the first one, as far as they can, every other byte is as it was, and the same check passes again
and changes nothing.  It changes nothing in a fresh record either. -/
theorem checkInPlace_is_exact (long : width ≤ buffer.mbr.sector.length) (least : 1 ≤ sectors)
    (skipParameterBlock : Bool) :
    ((∃ left, (checkInPlace sectors skipParameterBlock).run buffer = .ok () left) ↔
      IsProtective buffer.mbr.sector skipParameterBlock) ∧
    (∀ halt left, (checkInPlace sectors skipParameterBlock).run buffer = .error halt left →
      left.mbr = buffer.mbr ∧ ∃ reason, halt = .refused reason) ∧
    (∀ left, (checkInPlace sectors skipParameterBlock).run buffer = .ok () left →
      left.mbr.sector.length = buffer.mbr.sector.length ∧
      (∀ index, index < 458 ∨ 462 ≤ index →
        left.mbr.sector.byteAt index = buffer.mbr.sector.byteAt index) ∧
      left.mbr.sector.slice 458 4 = Bytes.littleEndian 4 (min (sectors - 1) 0xFFFFFFFF) ∧
      ∃ again, (checkInPlace sectors skipParameterBlock).run left = .ok () again ∧
        again.mbr = left.mbr) ∧
    ∀ sectorSize, ∃ mbr, fresh sectorSize sectors = some mbr ∧
      ∀ lines, ∃ left, (checkInPlace sectors skipParameterBlock).run ⟨mbr, lines⟩ = .ok () left ∧
        left.mbr = mbr := by
  refine ⟨exists_passed_iff long least, fun halt left => left_alone_of_stopped long least,
    fun left passed => ?_, exists_fresh_passed least⟩
  obtain ⟨corrects, again⟩ := corrects_of_passed long passed
  exact ⟨corrects.length, corrects.outside, corrects.size, again⟩

/-- The boot record of a bootable disk that had 1001 sectors once. -/
def staleBuffer : Buffer where
  mbr := ⟨Bytes.zeroes recordsOffset ++
    MbrRecord.encode { coveringRecord 1000 with bootIndicator := 0x80 } ++
    Bytes.zeroes (3 * MbrRecord.width) ++ magic⟩
  lines := []

/-- A disk that grew beyond what 32 bits can count has a size that is as large as they allow, and
can still be booted from. -/
theorem staleBuffer_is_corrected : ∃ left,
    (checkInPlace 5000000000 false).run staleBuffer = .ok () left ∧
      left.mbr.sector.slice 458 4 = [0xFF, 0xFF, 0xFF, 0xFF] ∧
      left.mbr.sector.byteAt 446 = 0x80 := by
  have long : width ≤ staleBuffer.mbr.sector.length := by decide +kernel
  have others : staleBuffer.mbr.sector.slice 462 48 = Bytes.zeroes 48 := by decide +kernel
  have block : staleBuffer.mbr.sector.slice 3 11 = Bytes.zeroes 11 := by decide +kernel
  have protective : IsProtective staleBuffer.mbr.sector false := {
    signature := by decide +kernel
    osType := by decide +kernel
    startingLba := by decide +kernel
    otherRecords := (Bytes.slice_eq_zeroes_iff (Nat.le_trans (by decide) long)).mp others
    parameterBlock := .inr ((Bytes.slice_eq_zeroes_iff (Nat.le_trans (by decide) long)).mp block) }
  obtain ⟨passes, _, corrects, _⟩ := checkInPlace_is_exact long (by decide : 1 ≤ 5000000000) false
  obtain ⟨left, passed⟩ := passes.mpr protective
  obtain ⟨_, outside, size, _⟩ := corrects left passed
  have covered :
      Bytes.littleEndian 4 (min (5000000000 - 1) 0xFFFFFFFF) = [0xFF, 0xFF, 0xFF, 0xFF] := by
    decide
  have bootable : staleBuffer.mbr.sector.byteAt 446 = 0x80 := by decide +kernel
  exact ⟨left, passed, size.trans covered, (outside 446 (.inl (by decide))).trans bootable⟩

end TrustBoundary.ProtectiveMbr
