import TrustBoundary.Migration.Rebuild
import TrustBoundary.Proofs.Gpt.Partitions

/-!
# The bounds that a rebuild respects

A rebuild measures the used entries one by one and then looks for the least
start and the greatest end.  These are the two ends of the range that the
partitions take (`measureBounds_eq_ok`), and both lie at sectors of the new
size, as every start and end does.  Measuring fails only for an entry that does not
lie at sectors, as long as its positions fit 64 bits (`Extent.fails_measure`).
-/

set_option autoImplicit false

namespace TrustBoundary.Migration

namespace Extent

/-! ## The least start and the greatest end -/

theorem map_start_first? (extents : List Extent) :
    (first? extents).map start = (extents.map start).min? := by
  induction extents with
  | nil => rfl
  | cons extent others ih =>
      rw [first?, List.map_cons, List.min?_cons, ← ih]
      cases first? others with
      | none => rfl
      | some later =>
          change (if later.start < extent.start then some later else some extent).map start =
            some (min extent.start later.start)
          split <;> simp only [Option.map_some, Option.some_inj] <;> omega

theorem map_stop_last? (extents : List Extent) :
    (last? extents).map stop = (extents.map stop).max? := by
  induction extents with
  | nil => rfl
  | cons extent others ih =>
      rw [last?, List.map_cons, List.max?_cons, ← ih]
      cases last? others with
      | none => rfl
      | some later =>
          change (if later.stop < extent.stop then some extent else some later).map stop =
            some (max extent.stop later.stop)
          split <;> simp only [Option.map_some, Option.some_inj] <;> omega

theorem mem_of_first? {extents : List Extent} {extent : Extent}
    (found : first? extents = some extent) : extent ∈ extents := by
  induction extents with
  | nil => exact nomatch found
  | cons candidate others ih =>
      rw [first?] at found
      cases later : first? others with
      | none =>
          rw [later] at found
          cases found
          exact List.mem_cons_self
      | some best =>
          simp only [later] at found ih
          split at found
          · exact List.mem_cons_of_mem _ (ih found)
          · cases found
            exact List.mem_cons_self

theorem mem_of_last? {extents : List Extent} {extent : Extent}
    (found : last? extents = some extent) : extent ∈ extents := by
  induction extents with
  | nil => exact nomatch found
  | cons candidate others ih =>
      rw [last?] at found
      cases later : last? others with
      | none =>
          rw [later] at found
          cases found
          exact List.mem_cons_self
      | some best =>
          simp only [later] at found ih
          split at found
          · cases found
            exact List.mem_cons_self
          · exact List.mem_cons_of_mem _ (ih found)

/-! ## Measuring -/

/-- The bytes of an entry, whatever they are. -/
def taken (sectorSize : SectorSize) (item : Nat × Gpt.Entry) : Extent :=
  ⟨item.1, item.2.startByte sectorSize, item.2.stopByte sectorSize⟩

theorem ofEntry_eq_ok_iff {sectorSize : SectorSize} {index : Nat} {entry : Gpt.Entry}
    {extent : Extent} : ofEntry sectorSize.bytes index entry = .ok extent ↔
      entry.startByte sectorSize < Word.limit ∧ entry.stopByte sectorSize < Word.limit ∧
        taken sectorSize (index, entry) = extent := by
  simp only [ofEntry]
  constructor
  · intro made
    split at made
    · rename_i found
      cases made
      simp only [Option.bind_eq_bind, Option.bind_eq_some_iff, Word.mul_eq_some_iff,
        Word.add_eq_some_iff, Option.pure_def, Option.some_inj] at found
      obtain ⟨_, ⟨startSmall, rfl⟩, _, ⟨_, rfl⟩, _, ⟨stopSmall, rfl⟩, rfl⟩ := found
      exact ⟨startSmall, stopSmall, rfl⟩
    · exact nomatch made
  · rintro ⟨startSmall, stopSmall, rfl⟩
    have endSmall : entry.endingLba.toNat + 1 < Word.limit :=
      Nat.lt_of_le_of_lt (Nat.le_mul_of_pos_right _ sectorSize.bytes_pos) stopSmall
    have start := Word.mul_eq_some_iff.mpr ⟨startSmall, rfl⟩
    have afterEnd := Word.add_eq_some_iff.mpr ⟨endSmall, rfl⟩
    have stop := Word.mul_eq_some_iff.mpr ⟨stopSmall, rfl⟩
    simp only [start, afterEnd, stop, Option.bind_eq_bind, Option.bind_some, Option.pure_def]
    rfl

theorem checkAligned_eq_ok_iff {extent : Extent} {newBytes : Nat} {result : Unit} :
    (extent.checkAligned newBytes).outcome = .ok result ↔
      extent.start % newBytes = 0 ∧ extent.stop % newBytes = 0 := by
  simp only [checkAligned, Logged.outcome_bind_eq_ok, Logged.outcome_refuseIf_eq_ok, exists_const,
    Logged.outcome_debug, ne_eq, Decidable.not_not, true_and]

/-- A partition begins and ends at sectors of another size, at positions that fit 64 bits. -/
structure Expressible (entry : Gpt.Entry) (sectorSize : SectorSize) (newBytes : Nat) : Prop where
  start_mod : entry.startByte sectorSize % newBytes = 0
  stop_mod : entry.stopByte sectorSize % newBytes = 0
  start_lt : entry.startByte sectorSize < Word.limit
  stop_lt : entry.stopByte sectorSize < Word.limit

theorem measure_eq_ok {sectorSize : SectorSize} {newBytes : Nat} {used : List (Nat × Gpt.Entry)}
    {extents : List Extent}
    (measured : (measure sectorSize.bytes newBytes used).outcome = .ok extents) :
    extents = used.map (taken sectorSize) ∧
      ∀ item ∈ used, Expressible item.2 sectorSize newBytes := by
  induction used generalizing extents with
  | nil =>
      cases Logged.outcome_pure_eq_ok.mp measured
      exact ⟨rfl, fun _ impossible => absurd impossible List.not_mem_nil⟩
  | cons item others ih =>
      simp only [measure, Logged.outcome_bind_eq_ok, Logged.outcome_liftExcept_eq_ok,
        checkAligned_eq_ok_iff, exists_const] at measured
      obtain ⟨_, made, ⟨start, stop⟩, rest, measuredRest, measured⟩ := measured
      obtain ⟨startSmall, stopSmall, rfl⟩ := ofEntry_eq_ok_iff.mp made
      cases Logged.outcome_pure_eq_ok.mp measured
      obtain ⟨rfl, expressible⟩ := ih measuredRest
      exact ⟨rfl, List.forall_mem_cons.mpr ⟨⟨start, stop, startSmall, stopSmall⟩, expressible⟩⟩

/-- Entries whose positions fit 64 bits are refused only for a start or an end that is not
at a sector of the new size. -/
theorem fails_measure {sectorSize : SectorSize} {newBytes : Nat} {used : List (Nat × Gpt.Entry)}
    {bad : Halt DiskError → Prop}
    (small : ∀ item ∈ used, item.2.startByte sectorSize < Word.limit ∧
      item.2.stopByte sectorSize < Word.limit)
    (failed : (measure sectorSize.bytes newBytes used).Fails bad) :
    ∃ index entry, (index, entry) ∈ used ∧
      (entry.startByte sectorSize % newBytes ≠ 0 ∧
          bad (.refused (.startMisaligned (index + 1) (entry.startByte sectorSize) newBytes)) ∨
        entry.stopByte sectorSize % newBytes ≠ 0 ∧
          bad (.refused (.endMisaligned (index + 1) (entry.stopByte sectorSize) newBytes))) := by
  induction used with
  | nil => exact absurd failed (Logged.not_fails_pure _)
  | cons item others ih =>
      obtain ⟨index, entry⟩ := item
      obtain ⟨startSmall, stopSmall⟩ := small _ List.mem_cons_self
      have made : ofEntry sectorSize.bytes index entry = .ok (taken sectorSize (index, entry)) :=
        ofEntry_eq_ok_iff.mpr ⟨startSmall, stopSmall, rfl⟩
      rw [measure, Logged.fails_bind_of_ok (Logged.outcome_liftExcept_eq_ok.mpr made),
        Logged.fails_bind] at failed
      rcases failed with misaligned | ⟨_, _, behind⟩
      · refine ⟨index, entry, List.mem_cons_self, ?_⟩
        simp only [checkAligned, Logged.fails_bind, Logged.fails_refuseIf, Logged.not_fails_debug,
          false_or] at misaligned
        obtain ⟨_, _, start | ⟨_, _, stop⟩⟩ := misaligned
        · exact .inl start
        · exact .inr stop
      · rw [Logged.fails_bind] at behind
        rcases behind with later | ⟨_, _, impossible⟩
        · obtain ⟨index, entry, member, misaligned⟩ :=
            ih (fun other member => small other (List.mem_cons_of_mem _ member)) later
          exact ⟨index, entry, List.mem_cons_of_mem _ member, misaligned⟩
        · exact absurd impossible (Logged.not_fails_pure _)

end Extent

/-- The bounds among the partitions of a table are the first start and the last stop. -/
theorem bounds_of_taken {gpt : Gpt} {extents : List Extent}
    (measured : extents = gpt.used.map (Extent.taken gpt.sectorSize)) :
    (Extent.first? extents).map Extent.start = gpt.firstStart? ∧
      (Extent.last? extents).map Extent.stop = gpt.lastStop? := by
  rw [Extent.map_start_first?, Extent.map_stop_last?, measured, List.map_map, List.map_map]
  exact ⟨rfl, rfl⟩

/-- **The bounds of a rebuild are those of the partitions.** -/
theorem measureBounds_eq_ok {gpt : Gpt} {newBytes size : Nat} {bounds : Bounds}
    (measured : (measureBounds gpt newBytes size).outcome = .ok bounds) :
    gpt.firstStart? = some bounds.first.start ∧ gpt.lastStop? = some bounds.last.stop ∧
      bounds.first.start < bounds.last.stop ∧ bounds.last.stop ≤ size ∧
      ∀ item ∈ gpt.used, Extent.Expressible item.2 gpt.sectorSize newBytes := by
  simp only [measureBounds, Logged.outcome_bind_eq_ok, Logged.outcome_liftOption_eq_ok,
    Logged.outcome_require_eq_ok, Logged.outcome_pure_eq_ok, exists_const] at measured
  obtain ⟨extents, measured, first, isFirst, last, isLast, ordered, inside, rfl⟩ := measured
  obtain ⟨measured, expressible⟩ := Extent.measure_eq_ok measured
  obtain ⟨starts, stops⟩ := bounds_of_taken measured
  refine ⟨?_, ?_, ordered, inside, expressible⟩
  · rw [← starts, isFirst, Option.map_some]
  · rw [← stops, isLast, Option.map_some]

end TrustBoundary.Migration
