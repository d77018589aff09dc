import TrustBoundary.Proofs.Bytes.Lossless
import TrustBoundary.Proofs.Gpt.Partitions

/-!
# Slots that pose as headers

The slots of an entry array may come to lie where a header is looked for, and
whoever fills the slots may give them the shape of a header with a right checksum.
Even so they are no header of a copy.  Read as a header, a slot states the start of
its partition as the place of the other header, and the end of its partition as the
first usable sector (`alternateLba_eq_startingLba`, `firstUsableLba_eq_endingLba`).
A primary header has the other header behind the usable sectors, and so behind the
end of the partition.  A backup header has it at sector 1, where no partition starts.
An unused slot lacks the signature.

Hence no bytes that begin with a slot of a stored table, or with zeroes, are accepted
as a header at any place (`not_coherent_of_harmless`).
-/

set_option autoImplicit false

namespace TrustBoundary.Gpt

/-! ## One string of bytes read in two ways -/

section Reading

variable (bytes : Bytes)

theorem alternateLba_eq_startingLba :
    (Header.decode bytes).alternateLba = (Entry.decode bytes).startingLba := rfl

theorem firstUsableLba_eq_endingLba :
    (Header.decode bytes).firstUsableLba = (Entry.decode bytes).endingLba := rfl

variable {bytes}

/-- An entry is a matter of the bytes of its slot. -/
theorem Entry.decode_take (enough : Entry.width ≤ bytes.length) :
    Entry.decode (bytes.take Entry.width) = Entry.decode bytes := by
  have whole : min layout.width width = layout.width := rfl
  refine lossless_layout.decode_congr exact_layout enough ?_
  rw [List.take_take, whole]

theorem Entry.slotIsUnused_take :
    Entry.slotIsUnused (bytes.take Entry.width) = Entry.slotIsUnused bytes := by
  have inside : min Entry.typeWidth Entry.width = Entry.typeWidth := rfl
  rw [slotIsUnused, slotIsUnused, List.take_take, inside]

/-- The type of an unused slot lies where a header has its signature. -/
theorem signature_ne_of_slotIsUnused (enough : Header.width ≤ bytes.length)
    (unused : Entry.slotIsUnused bytes) :
    (Header.decode bytes).signature ≠ Header.magic := by
  intro signed
  have inside : 0 + 8 ≤ bytes.length := Nat.le_trans (by decide) enough
  have stored : bytes.take 8 = Header.magic.toList := by
    rw [← signed]
    exact (Bytes.toList_blockAt inside).symm
  have first : (0x45 : UInt8) ∈ bytes.take 8 := by
    rw [stored]
    decide
  have inType : (0x45 : UInt8) ∈ bytes.take Entry.typeWidth :=
    List.take_subset_take_left bytes (by decide) first
  have zero := List.all_eq_true.mp unused _ inType
  exact absurd zero (by decide)

end Reading

/-! ## Slots that are no headers -/

/-- A slot is unused, or its partition starts behind sector 2 and does not end before
it starts. -/
def Harmless (slot : Bytes) : Prop :=
  ¬Entry.slotIsUnused slot → 3 ≤ (Entry.decode slot).startingLba.toNat ∧
    (Entry.decode slot).startingLba.toNat ≤ (Entry.decode slot).endingLba.toNat

theorem harmless_zeroes : Harmless (Bytes.zeroes Entry.width) := by
  intro used
  exact absurd (by decide) used

variable {gpt : Gpt} {disk : Disk} {offset sectors : Nat}

/-- The slots of a stored table are harmless. -/
theorem StoredAt.harmless (stored : gpt.StoredAt disk offset sectors) :
    ∀ slot ∈ gpt.allSlots, Harmless slot := by
  intro slot member used
  obtain ⟨_, listed⟩ := exists_mem_usedFrom member used 0
  obtain ⟨low, ordered, _⟩ := stored.entries _ listed
  exact ⟨Nat.le_trans stored.accepted.firstUsable_ge low, ordered⟩

/-- **No bytes that begin with a harmless slot are a header,** whatever place they are
found in and whatever their checksum is. -/
theorem not_coherent_of_harmless {bytes : Bytes} (enough : Entry.width ≤ bytes.length)
    (harmless : Harmless (bytes.take Entry.width)) (offset : Nat) (sectorSize : SectorSize)
    (sectors : Nat) : ¬(Header.decode bytes).Coherent offset sectorSize sectors := by
  intro coherent
  have used : ¬Entry.slotIsUnused bytes := by
    intro unused
    exact signature_ne_of_slotIsUnused (Nat.le_trans (by decide) enough) unused coherent.signature
  obtain ⟨low, ordered⟩ := harmless (by rwa [Entry.slotIsUnused_take])
  rw [Entry.decode_take enough, ← alternateLba_eq_startingLba] at low
  rw [Entry.decode_take enough, ← alternateLba_eq_startingLba, ← firstUsableLba_eq_endingLba]
    at ordered
  have usable := coherent.firstUsable_le
  have placed := coherent.placed
  unfold Header.Placed at placed
  split at placed
  · have alternate := placed.alternate_gt
    omega
  · rw [placed.alternate] at low
    exact absurd low (by decide)

end TrustBoundary.Gpt
