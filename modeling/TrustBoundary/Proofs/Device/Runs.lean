import TrustBoundary.Device
import TrustBoundary.Proofs.Disk.Content

/-!
# Runs on a device

Three ways of following a computation over a device.  If it succeeds, each of its
parts does, and the devices in between can be named (`Work.succeeds_bind`).  If it
stops without a value, one of its parts does, after those in front of it succeeded
(`Work.stops_bind`).  Whether or not it succeeds, what each of its parts maintains is
maintained by the whole (`Work.Maintains.bind`).

Writes that all succeed on a device that tears none of them leave exactly what
they say, one after the other (`Work.Succeeds.wrote`).  Writes that stay apart
from a range never change it, whatever fails and whatever is torn
(`Device.Keeps`).
-/

set_option autoImplicit false

namespace TrustBoundary

namespace Work

variable {α β : Type}

/-! ## Success -/

/-- A computation gives a value on a device, which is then this one. -/
def Succeeds (work : Work α) (device : Device) (value : α) (final : Device) : Prop :=
  (work.run device).1.outcome = .ok value ∧ (work.run device).2 = final

variable {device final : Device}

theorem run_bind (first : Work α) (next : α → Work β) (device : Device) :
    (first >>= next).run device =
      match (first.run device).1.outcome with
      | .error halt => (⟨(first.run device).1.lines, .error halt⟩, (first.run device).2)
      | .ok value =>
        (Logged.after (first.run device).1.lines ((next value).run (first.run device).2).1,
          ((next value).run (first.run device).2).2) := rfl

/-- Two computations in a row succeed exactly if both do. -/
theorem succeeds_bind {first : Work α} {next : α → Work β} {result : β} :
    (first >>= next).Succeeds device result final ↔
      ∃ value reached, first.Succeeds device value reached ∧
        (next value).Succeeds reached result final := by
  unfold Succeeds
  rw [run_bind]
  cases outcome : (first.run device).1.outcome with
  | error halt =>
      constructor
      · rintro ⟨impossible, _⟩
        exact nomatch impossible
      · rintro ⟨value, _, ⟨impossible, _⟩, _⟩
        exact nomatch impossible
  | ok value =>
      constructor
      · intro succeeded
        exact ⟨value, _, ⟨rfl, rfl⟩, succeeded⟩
      · rintro ⟨_, _, ⟨same, rfl⟩, succeeded⟩
        cases same
        exact succeeded

/-- The device after a first part that succeeds and a second part. -/
theorem Succeeds.run_bind {first : Work α} {next : α → Work β} {value : α} {reached : Device}
    (succeeded : first.Succeeds device value reached) :
    ((first >>= next).run device).2 = ((next value).run reached).2 := by
  obtain ⟨outcome, rfl⟩ := succeeded
  rw [Work.run_bind, outcome]

theorem succeeds_pure {value result : α} :
    (pure value : Work α).Succeeds device result final ↔ value = result ∧ device = final :=
  and_congr_left' Logged.outcome_pure_eq_ok

theorem succeeds_discard {work : Work α} {result : Unit} :
    (discard work).Succeeds device result final ↔ ∃ value, work.Succeeds device value final := by
  have same : discard work = work >>= fun _ => pure () := rfl
  rw [same, succeeds_bind]
  constructor
  · rintro ⟨value, _, succeeded, ended⟩
    obtain ⟨_, rfl⟩ := succeeds_pure.mp ended
    exact ⟨value, succeeded⟩
  · rintro ⟨value, succeeded⟩
    exact ⟨value, final, succeeded, succeeds_pure.mpr ⟨rfl, rfl⟩⟩

theorem succeeds_lift {report : Logged DiskError α} {value : α} :
    (liftM report : Work α).Succeeds device value final ↔
      report.outcome = .ok value ∧ device = final := Iff.rfl

theorem succeeds_disk {value : Disk} :
    Work.disk.Succeeds device value final ↔ device.disk = value ∧ device = final :=
  and_congr_left' Logged.outcome_pure_eq_ok

theorem succeeds_say {level : Level} {text : String} {result : Unit} :
    (Work.say level text).Succeeds device result final ↔ device = final :=
  and_iff_right rfl

theorem succeeds_prepare {result : Unit} :
    Work.prepare.Succeeds device result final ↔ device.faults.prepareFails = false ∧
      { device with requests := .prepare :: device.requests } = final := by
  refine and_congr_left' ?_
  change (if device.faults.prepareFails then Logged.refuse DiskError.readOnly
    else pure ()).outcome = .ok () ↔ _
  cases device.faults.prepareFails <;> simp

theorem succeeds_reload {result : Unit} :
    Work.reload.Succeeds device result final ↔ device.faults.reloadFails = false ∧
      { device with requests := .reload :: device.requests } = final := by
  refine and_congr_left' ?_
  change (if device.faults.reloadFails then Logged.refuse (DiskError.reloadPartitionTable .busy)
    else Logged.debug _).outcome = .ok () ↔ _
  cases device.faults.reloadFails <;> simp

/-! ## Stopping -/

/-- A computation ends without a value on a device, which is then this one. -/
def Stops (work : Work α) (device final : Device) : Prop :=
  (∃ halt, (work.run device).1.outcome = .error halt) ∧ (work.run device).2 = final

/-- A computation succeeds or stops, whatever device it runs on. -/
theorem succeeds_or_stops (work : Work α) (device : Device) :
    (∃ value, work.Succeeds device value (work.run device).2) ∨
      work.Stops device (work.run device).2 := by
  cases outcome : (work.run device).1.outcome with
  | ok value => exact .inl ⟨value, outcome, rfl⟩
  | error halt => exact .inr ⟨⟨halt, outcome⟩, rfl⟩

theorem Succeeds.not_stops {work : Work α} {value : α}
    (succeeded : work.Succeeds device value final) (other : Device) : ¬work.Stops device other := by
  rintro ⟨⟨_, stopped⟩, _⟩
  exact nomatch succeeded.1.symm.trans stopped

/-- Two computations in a row stop where the first one stops, or where the second one does
after the first one succeeded. -/
theorem stops_bind {first : Work α} {next : α → Work β} :
    (first >>= next).Stops device final ↔ first.Stops device final ∨
      ∃ value reached, first.Succeeds device value reached ∧ (next value).Stops reached final := by
  unfold Stops Succeeds
  rw [run_bind]
  cases outcome : (first.run device).1.outcome with
  | error halt =>
      constructor
      · rintro ⟨_, same⟩
        exact .inl ⟨⟨halt, rfl⟩, same⟩
      · rintro (⟨_, same⟩ | ⟨_, _, ⟨impossible, _⟩, _⟩)
        · exact ⟨⟨halt, rfl⟩, same⟩
        · exact nomatch impossible
  | ok value =>
      constructor
      · intro stopped
        exact .inr ⟨value, _, ⟨rfl, rfl⟩, stopped⟩
      · rintro (⟨⟨_, impossible⟩, _⟩ | ⟨_, _, ⟨same, rfl⟩, stopped⟩)
        · exact nomatch impossible
        · cases same
          exact stopped

/-- After a part that succeeds it is for the rest to stop. -/
theorem Succeeds.stops_bind {first : Work α} {next : α → Work β} {value : α} {reached : Device}
    (succeeded : first.Succeeds device value reached) :
    (first >>= next).Stops device final ↔ (next value).Stops reached final := by
  rw [Work.stops_bind]
  constructor
  · rintro (stopped | ⟨_, _, ⟨same, rfl⟩, stopped⟩)
    · exact absurd stopped (succeeded.not_stops _)
    · obtain ⟨outcome, rfl⟩ := succeeded
      cases outcome.symm.trans same
      exact stopped
  · exact fun stopped => .inr ⟨value, reached, succeeded, stopped⟩

/-- What does not touch the device leaves it as it is when it stops. -/
theorem Stops.eq_of_lift {report : Logged DiskError α}
    (stopped : (liftM report : Work α).Stops device final) : final = device := stopped.2.symm

/-! ## Writes that succeed -/

/-- A device on which the writes were carried out, and nothing else was asked for. -/
structure Wrote (device : Device) (writes : List Write) (final : Device) : Prop where
  disk : final.disk = device.disk.storeAll writes
  requests : final.requests = (writes.map fun write => .write write true).reverse ++ device.requests
  fates : final.fates = device.fates
  reloadFails : final.faults.reloadFails = device.faults.reloadFails

theorem Wrote.trans {middle : Device} {front back : List Write} (left : Wrote device front middle)
    (right : Wrote middle back final) : Wrote device (front ++ back) final where
  disk := by rw [right.disk, left.disk, Disk.storeAll_append]
  requests := by
    rw [right.requests, left.requests, List.map_append, List.reverse_append, List.append_assoc]
  fates := right.fates.trans left.fates
  reloadFails := right.reloadFails.trans left.reloadFails

/-- Where no write is torn, a write that succeeds was carried out. -/
theorem Succeeds.wrote_one {write : Write} {result : Unit} (untorn : device.fates = [])
    (succeeded : (Work.write write).Succeeds device result final) : Wrote device [write] final := by
  unfold Succeeds run Work.write at succeeded
  simp only [untorn] at succeeded
  split at succeeded
  · exact absurd succeeded.1 Logged.outcome_refuse_ne_ok
  · split at succeeded
    · exact absurd succeeded.1 Logged.outcome_refuse_ne_ok
    · obtain ⟨_, rfl⟩ := succeeded
      exact ⟨rfl, rfl, untorn.symm, rfl⟩

/-- Where no write is torn, writes that all succeed were carried out in order. -/
theorem Succeeds.wrote {writes : List Write} {result : Unit} (untorn : device.fates = [])
    (succeeded : (writeAll writes).Succeeds device result final) : Wrote device writes final := by
  induction writes generalizing device with
  | nil =>
      obtain ⟨_, rfl⟩ := succeeds_pure.mp succeeded
      exact ⟨rfl, rfl, rfl, rfl⟩
  | cons write others ih =>
      obtain ⟨_, reached, first, rest⟩ := succeeds_bind.mp succeeded
      have wrote := first.wrote_one untorn
      exact wrote.trans (ih (wrote.fates.trans untorn) rest)

/-- Where nothing fails, a write inside the disk succeeds. -/
theorem succeeds_write {write : Write} (unlimited : device.faults.writesLeft = none)
    (untorn : device.fates = []) (inside : write.offset + write.data.length ≤ device.disk.size) :
    ∃ final, (Work.write write).Succeeds device () final ∧ final.faults.writesLeft = none := by
  have fits : device.disk.holds write.offset write.data.length := decide_eq_true inside
  refine ⟨_, ⟨?_, rfl⟩, ?_⟩ <;> unfold run Work.write <;>
    simp only [unlimited, untorn, Disk.write, fits, if_true] <;> rfl

/-- Where nothing fails, writes inside the disk succeed. -/
theorem succeeds_writeAll (device : Device) {writes : List Write}
    (unlimited : device.faults.writesLeft = none) (untorn : device.fates = [])
    (inside : ∀ write ∈ writes, write.offset + write.data.length ≤ device.disk.size) :
    ∃ final, (writeAll writes).Succeeds device () final ∧ final.faults.writesLeft = none := by
  induction writes generalizing device with
  | nil => exact ⟨device, succeeds_pure.mpr ⟨rfl, rfl⟩, unlimited⟩
  | cons write others ih =>
      obtain ⟨reached, first, still⟩ :=
        succeeds_write unlimited untorn (inside write List.mem_cons_self)
      have wrote := first.wrote_one untorn
      have insideRest : ∀ other ∈ others,
          other.offset + other.data.length ≤ reached.disk.size := by
        intro other member
        rw [wrote.disk, Disk.size_storeAll]
        exact inside other (List.mem_cons_of_mem _ member)
      obtain ⟨final, rest, last⟩ := ih reached still (wrote.fates.trans untorn) insideRest
      exact ⟨final, succeeds_bind.mpr ⟨(), reached, first, rest⟩, last⟩

/-! ## What is maintained -/

/-- A computation keeps a property of the device, however it ends. -/
def Maintains (work : Work α) (good : Device → Prop) : Prop :=
  ∀ device, good device → good (work.run device).2

variable {good : Device → Prop}

/-- What both parts keep is kept.  Of the second part it is enough to know this
for the values that the first part gives on a device with the property. -/
theorem Maintains.bind {first : Work α} {next : α → Work β} (kept : first.Maintains good)
    (keptNext : ∀ device value, good device → (first.run device).1.outcome = .ok value →
      (next value).Maintains good) : (first >>= next).Maintains good := by
  intro device before
  rw [run_bind]
  cases outcome : (first.run device).1.outcome with
  | error halt => exact kept device before
  | ok value => exact keptNext device value before outcome _ (kept device before)

theorem maintains_pure (value : α) : (pure value : Work α).Maintains good := by
  intro device before
  exact before

theorem maintains_lift (report : Logged DiskError α) : (liftM report : Work α).Maintains good := by
  intro device before
  exact before

theorem maintains_disk : Work.disk.Maintains good := by
  intro device before
  exact before

theorem maintains_say (level : Level) (text : String) : (Work.say level text).Maintains good := by
  intro device before
  exact before

theorem maintains_writeAll {writes : List Write}
    (kept : ∀ write ∈ writes, (Work.write write).Maintains good) :
    (writeAll writes).Maintains good := by
  induction writes with
  | nil => exact maintains_pure ()
  | cons write others ih =>
      refine (kept write List.mem_cons_self).bind ?_
      intro _ _ _ _
      apply ih
      intro other member
      exact kept other (List.mem_cons_of_mem _ member)

end Work

/-! ## A range that nobody writes to -/

/-- A device on which a range of a disk was never written to: it holds what it
held at every moment, and no write that was asked for reaches into it. -/
structure Device.Keeps (device : Device) (disk : Disk) (offset count : Nat) : Prop where
  size : device.disk.size = disk.size
  sectorSize : device.disk.sectorSize = disk.sectorSize
  moments : ∀ moment ∈ device.moments, ∀ position, offset ≤ position → position < offset + count →
    moment.byteAt position = disk.byteAt position
  requests : ∀ write stored, .write write stored ∈ device.requests → write.Apart offset count

namespace Device

variable {disk : Disk} {offset count : Nat}

/-- On an unused device nothing was written to any range. -/
theorem keeps_withFaults (faults : FaultPlan) (fates : List Fate) :
    (withFaults disk faults fates).Keeps disk offset count where
  size := rfl
  sectorSize := rfl
  moments moment member _ _ _ := by
    rw [List.mem_singleton.mp member]
    rfl
  requests _ _ impossible := absurd impossible List.not_mem_nil

/-- Asking for something keeps a range, unless it is a write that reaches into it. -/
theorem Keeps.ask {device : Device} (before : device.Keeps disk offset count) {request : Request}
    (harmless : ∀ write stored, request = .write write stored → write.Apart offset count) :
    Keeps { device with requests := request :: device.requests } disk offset count := by
  refine ⟨before.size, before.sectorSize, before.moments, ?_⟩
  intro write stored asked
  rcases List.mem_cons.mp asked with same | earlier
  · exact harmless write stored same.symm
  · exact before.requests write stored earlier

theorem maintains_prepare : Work.prepare.Maintains (Keeps · disk offset count) := by
  intro device before
  apply before.ask
  intro write stored impossible
  cases impossible

theorem maintains_reload : Work.reload.Maintains (Keeps · disk offset count) := by
  intro device before
  apply before.ask
  intro write stored impossible
  cases impossible

/-- **A write that stays apart from a range keeps it,** whether the write is
carried out, fails, or is torn. -/
theorem maintains_write {write : Write} (apart : write.Apart offset count) :
    (Work.write write).Maintains (Keeps · disk offset count) := by
  intro device before
  have asked : ∀ stored,
      Keeps { device with requests := .write write stored :: device.requests } disk offset
        count := by
    intro stored
    apply before.ask
    intro other carried same
    cases same
    exact apart
  unfold Work.run Work.write
  simp only
  split
  · exact asked false
  · split
    · exact ⟨before.size, before.sectorSize, before.moments, (asked false).requests⟩
    · refine ⟨before.size, before.sectorSize, ?_, (asked _).requests⟩
      intro moment member position reached inside
      rcases List.mem_cons.mp member with rfl | earlier
      · rw [← before.moments device.disk List.mem_cons_self position reached inside]
        exact Disk.byteAt_store_of_apart (apart.within (Fate.within_landing _ _)) reached inside
      · exact before.moments moment earlier position reached inside

end Device

end TrustBoundary
