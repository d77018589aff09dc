import TrustBoundary.Proofs.Device.Runs

/-!
# Writes that are attempted

A device is honest if it reports every write that it does not carry out.  On such a device
an attempt at some writes either carries them all out, or it ends with a refusal and has left
parts of them on the disk (`Work.attempted_writeAll`).

A refusal is not for nothing.  Unless the device has used up its writes, the list of fates that are
still to come is shorter than before, so attempts that are repeated come to an end.
-/

set_option autoImplicit false

namespace TrustBoundary

/-- A write with this fate is carried out, or its failure is reported. -/
def Fate.isHonest (fate : Fate) : Bool := fate.isStored || fate.isReported

namespace Device

/-- A device that reports every write that it does not carry out. -/
def Honest (device : Device) : Prop := ∀ fate ∈ device.fates, fate.isHonest = true

/-- The fates still to come are the last of those that were to come before, and there is no new
limit. -/
structure Spent (device final : Device) : Prop where
  fates : final.fates <:+ device.fates
  unlimited : device.faults.writesLeft = none → final.faults.writesLeft = none

variable {device final : Device}

theorem Spent.refl (device : Device) : device.Spent device := ⟨List.suffix_refl _, id⟩

theorem Spent.honest (spent : device.Spent final) (honest : device.Honest) : final.Honest :=
  fun fate member => honest fate (spent.fates.mem member)

theorem maintains_write_spent (write : Write) : (Work.write write).Maintains device.Spent := by
  intro reached spent
  have stillUnlimited : device.faults.writesLeft = none →
      reached.faults.writesLeft.map (· - 1) = none := by
    intro unlimited
    rw [spent.unlimited unlimited]
    rfl
  unfold Work.run Work.write
  simp only
  split
  · exact ⟨spent.fates, spent.unlimited⟩
  · split
    · exact ⟨spent.fates, stillUnlimited⟩
    · exact ⟨(List.tail_suffix _).trans spent.fates, stillUnlimited⟩

end Device

namespace Work

variable {α β : Type} {device final : Device}

/-! ## Ending in either way -/

/-- A computation comes to an outcome on a device, which is then this one. -/
def Ends (work : Work α) (device : Device) (outcome : Except (Halt DiskError) α) (final : Device) :
    Prop :=
  (work.run device).1.outcome = outcome ∧ (work.run device).2 = final

/-- Two computations in a row end where the first one stops, or where the second one ends after
the first one succeeded. -/
theorem ends_bind {first : Work α} {next : α → Work β} {outcome : Except (Halt DiskError) β} :
    (first >>= next).Ends device outcome final ↔
      (∃ halt, first.Ends device (.error halt) final ∧ outcome = .error halt) ∨
        ∃ value reached, first.Succeeds device value reached ∧
          (next value).Ends reached outcome final := by
  unfold Ends Succeeds
  rw [run_bind]
  cases given : (first.run device).1.outcome with
  | error halt =>
      constructor
      · rintro ⟨rfl, rfl⟩
        exact .inl ⟨halt, ⟨rfl, rfl⟩, rfl⟩
      · rintro (⟨_, ⟨same, rfl⟩, rfl⟩ | ⟨_, _, ⟨impossible, _⟩, _⟩)
        · cases same
          exact ⟨rfl, rfl⟩
        · exact nomatch impossible
  | ok value =>
      constructor
      · intro ended
        exact .inr ⟨value, _, ⟨rfl, rfl⟩, ended⟩
      · rintro (⟨_, ⟨impossible, _⟩, _⟩ | ⟨_, _, ⟨same, rfl⟩, ended⟩)
        · exact nomatch impossible
        · cases same
          exact ended

/-- After a part that succeeds it is for the rest to end. -/
theorem Succeeds.ends_bind {first : Work α} {next : α → Work β} {value : α} {reached : Device}
    {outcome : Except (Halt DiskError) β} (succeeded : first.Succeeds device value reached) :
    (first >>= next).Ends device outcome final ↔ (next value).Ends reached outcome final := by
  obtain ⟨given, rfl⟩ := succeeded
  unfold Ends
  rw [Work.run_bind, given]
  rfl

/-- A computation followed by a value ends as it does alone, and gives that value. -/
theorem ends_bind_pure {work : Work α} {value : β} {outcome : Except (Halt DiskError) β} :
    (work >>= fun _ => pure value).Ends device outcome final ↔
      ∃ alone, work.Ends device alone final ∧ alone.map (fun _ => value) = outcome := by
  rw [ends_bind]
  constructor
  · rintro (⟨halt, stopped, rfl⟩ | ⟨given, _, succeeded, rfl, rfl⟩)
    · exact ⟨_, stopped, rfl⟩
    · exact ⟨_, succeeded, rfl⟩
  · rintro ⟨halt | given, ended, rfl⟩
    · exact .inl ⟨halt, ended, rfl⟩
    · exact .inr ⟨given, final, ended, rfl, rfl⟩

/-! ## Attempts -/

/-- What has become of some writes that were attempted one after the other. -/
inductive Attempted (writes : List Write) (device final : Device) :
    Except (Halt DiskError) Unit → Prop
  /-- All of them were carried out. -/
  | made (disk : final.disk = device.disk.storeAll writes) : Attempted writes device final (.ok ())
  /-- One of them was refused.  What has landed on the disk are parts of the writes. -/
  | broken {write : Write} {landed : List Write} (issued : write ∈ writes)
      (disk : final.disk = device.disk.storeAll landed)
      (parts : ∀ part ∈ landed, ∃ whole ∈ writes, part.Within whole)
      (cost : device.faults.writesLeft = none → final.fates.length < device.fates.length) :
      Attempted writes device final
        (.error (.refused (.shortWrite write.offset write.data.length 0)))

/-- An honest device carries out a write that lies on the disk, or reports that it did not. -/
theorem attempted_write {write : Write} {outcome : Except (Halt DiskError) Unit}
    (honest : device.Honest) (inside : write.offset + write.data.length ≤ device.disk.size)
    (ended : (Work.write write).Ends device outcome final) :
    Attempted [write] device final outcome := by
  obtain ⟨rfl, rfl⟩ := ended
  have fits : device.disk.write write = .ok (device.disk.store write) :=
    if_pos (decide_eq_true inside)
  have itself : ∀ fate : Fate, ∀ part ∈ [fate.landing write],
      ∃ whole ∈ [write], part.Within whole := by
    intro fate part member
    rw [List.mem_singleton.mp member]
    exact ⟨write, List.mem_singleton_self write, fate.within_landing write⟩
  unfold Work.run Work.write
  simp only [fits]
  split
  · -- no further write is allowed, and nothing lands
    rename_i exhausted
    have noCost : device.faults.writesLeft = none → device.fates.length < device.fates.length :=
      fun unlimited => nomatch exhausted.symm.trans unlimited
    exact .broken (List.mem_singleton_self write)
      (show device.disk = device.disk.storeAll [] from rfl) nofun noCost
  · -- the next fate decides, and what it leaves is a part of the write
    cases fates : device.fates with
    | nil => exact .made rfl
    | cons fate later =>
        cases fate with
        | stored => exact .made rfl
        | torn garbage reported =>
            have told : reported = true := honest (.torn garbage reported) (by simp [fates])
            subst told
            refine .broken (List.mem_singleton_self write)
              (show _ = device.disk.storeAll [(Fate.torn garbage true).landing write] from rfl)
              (itself _) fun _ => ?_
            rw [fates]
            exact Nat.lt_succ_self _

/-- Where the first write is refused, the others are not attempted. -/
theorem Attempted.of_first {write : Write} {halt : Halt DiskError} (others : List Write)
    (first : Attempted [write] device final (.error halt)) :
    Attempted (write :: others) device final (.error halt) := by
  cases first with
  | broken issued disk parts cost =>
      obtain rfl := List.mem_singleton.mp issued
      refine .broken List.mem_cons_self disk ?_ cost
      intro part member
      obtain ⟨whole, same, within⟩ := parts part member
      rw [List.mem_singleton.mp same] at within
      exact ⟨_, List.mem_cons_self, within⟩

/-- Where the first write was carried out, it is for the others to succeed. -/
theorem Attempted.cons {write : Write} {others : List Write} {reached : Device}
    {outcome : Except (Halt DiskError) Unit} (stored : reached.disk = device.disk.store write)
    (spent : device.Spent reached) (rest : Attempted others reached final outcome) :
    Attempted (write :: others) device final outcome := by
  cases rest with
  | made disk => exact .made (by rw [disk, stored, Disk.storeAll_cons])
  | @broken _ landed issued disk parts cost =>
      have both : final.disk = device.disk.storeAll (write :: landed) := by
        rw [disk, stored, Disk.storeAll_cons]
      refine .broken (List.mem_cons_of_mem _ issued) both
        (List.forall_mem_cons.mpr ⟨⟨write, List.mem_cons_self, .refl write⟩, ?_⟩) ?_
      · intro part member
        obtain ⟨whole, issuedWhole, within⟩ := parts part member
        exact ⟨whole, List.mem_cons_of_mem _ issuedWhole, within⟩
      · intro unlimited
        exact Nat.lt_of_lt_of_le (cost (spent.unlimited unlimited)) spent.fates.length_le

/-- **On an honest device writes are all carried out, or one of them is refused** and parts of
them are left. -/
theorem attempted_writeAll {writes : List Write} {outcome : Except (Halt DiskError) Unit}
    (honest : device.Honest)
    (inside : ∀ write ∈ writes, write.offset + write.data.length ≤ device.disk.size)
    (ended : (writeAll writes).Ends device outcome final) :
    Attempted writes device final outcome := by
  induction writes generalizing device with
  | nil =>
      obtain ⟨rfl, rfl⟩ := ended
      exact .made rfl
  | cons write others ih =>
      obtain ⟨insideFirst, insideOthers⟩ := List.forall_mem_cons.mp inside
      rcases ends_bind.mp ended with ⟨halt, stopped, rfl⟩ | ⟨_, reached, succeeded, rest⟩
      · exact (attempted_write honest insideFirst stopped).of_first others
      · have spent : device.Spent reached :=
          succeeded.2 ▸ Device.maintains_write_spent write device (.refl device)
        cases attempted_write honest insideFirst succeeded with
        | made stored =>
            have insideReached : ∀ other ∈ others,
                other.offset + other.data.length ≤ reached.disk.size := by
              rw [stored, Disk.size_storeAll]
              exact insideOthers
            exact .cons stored spent (ih (spent.honest honest) insideReached rest)

end Work

end TrustBoundary
