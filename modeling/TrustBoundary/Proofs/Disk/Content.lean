import TrustBoundary.Device

/-!
# Content of a disk under writes

A write changes the bytes of its own range and no others, so what a range holds
after several writes is what the last write to it left, or what it held before
when every write stays apart from it.  What a range holds is a matter of its
bytes alone (`Disk.bytesAt_congr`).

`Disk.interrupted` is what a sequence of writes leaves when it breaks off: the
first writes are carried out, and the next one is torn.

Writes can be made again.  Whatever earlier attempts left in their ranges, once all of them
are carried out in order the disk holds what it would hold if nothing had gone wrong
(`Disk.AgreesOutside.storeAll`).
-/

set_option autoImplicit false

namespace TrustBoundary

/-- A write changes no byte of a range. -/
def Write.Apart (write : Write) (offset count : Nat) : Prop :=
  write.offset + write.data.length ≤ offset ∨ offset + count ≤ write.offset

/-- A write begins where another one does and is no longer than it. -/
def Write.Within (part whole : Write) : Prop :=
  part.offset = whole.offset ∧ part.data.length ≤ whole.data.length

theorem Write.Within.refl (write : Write) : write.Within write := ⟨rfl, Nat.le_refl _⟩

/-- A write that does not stay apart from a position has a byte for it. -/
theorem Write.not_apart_one_iff {write : Write} {position : Nat} :
    ¬write.Apart position 1 ↔
      write.offset ≤ position ∧ position - write.offset < write.data.length := by
  unfold Write.Apart
  omega

/-- A part of a write stays apart from what the write stays apart from. -/
theorem Write.Apart.within {part whole : Write} {offset count : Nat}
    (apart : whole.Apart offset count) (within : part.Within whole) : part.Apart offset count := by
  obtain ⟨same, shorter⟩ := within
  unfold Write.Apart at apart ⊢
  omega

/-- What lands of a write is a part of it. -/
theorem Fate.within_landing (fate : Fate) (write : Write) : (fate.landing write).Within write := by
  cases fate with
  | stored => exact Write.Within.refl write
  | torn garbage reported => exact ⟨rfl, List.length_take_le _ _⟩

namespace Disk

/-! ## One write -/

@[simp] theorem size_store (disk : Disk) (write : Write) :
    (disk.store write).size = disk.size := rfl

@[simp] theorem sectorSize_store (disk : Disk) (write : Write) :
    (disk.store write).sectorSize = disk.sectorSize := rfl

theorem byteAt_store_of_apart {disk : Disk} {write : Write} {offset count position : Nat}
    (apart : write.Apart offset count) (reached : offset ≤ position)
    (inside : position < offset + count) :
    (disk.store write).byteAt position = disk.byteAt position := by
  rw [byteAt_store]
  split
  · rename_i above
    have past : write.data.length ≤ position - write.offset := by
      rcases apart with before | behind <;> omega
    rw [List.getElem?_eq_none past, Option.getD_none]
  · rfl

@[simp] theorem length_bytesAt (disk : Disk) (offset count : Nat) :
    (disk.bytesAt offset count).length = count := by
  rw [bytesAt_eq, List.length_map, List.length_range']

/-- A byte of a range is the one at its position. -/
theorem byteAt_bytesAt (disk : Disk) (offset count index : Nat) :
    (disk.bytesAt offset count).byteAt index =
      if index < count then disk.byteAt (offset + index) else 0 := by
  rw [Bytes.byteAt, List.getD_eq_getElem?_getD, bytesAt_eq, List.getElem?_map]
  by_cases inside : index < count
  · rw [if_pos inside, List.getElem?_range' inside, Nat.one_mul]
    rfl
  · rw [if_neg inside, List.getElem?_eq_none (by rw [List.length_range']; omega)]
    rfl

/-- What a range holds is a matter of its bytes alone. -/
theorem bytesAt_congr {first second : Disk} {offset count : Nat}
    (same : ∀ position, offset ≤ position → position < offset + count →
      first.byteAt position = second.byteAt position) :
    first.bytesAt offset count = second.bytesAt offset count := by
  rw [bytesAt_eq, bytesAt_eq]
  apply List.map_congr_left
  intro position member
  rw [List.mem_range'_1] at member
  exact same position member.1 member.2

/-- A part of a range holds that part of its bytes. -/
theorem slice_bytesAt (disk : Disk) {offset whole start count : Nat}
    (inside : start + count ≤ whole) :
    (disk.bytesAt offset whole).slice start count = disk.bytesAt (offset + start) count := by
  apply List.ext_getElem
  · simp only [Bytes.slice, List.length_take, List.length_drop, length_bytesAt]
    omega
  · intro index _ _
    simp only [Bytes.slice, bytesAt_eq, List.getElem_take, List.getElem_drop, List.getElem_map,
      List.getElem_range', Nat.one_mul, Nat.add_assoc]

/-- The front of a range holds the front of its bytes. -/
theorem take_bytesAt (disk : Disk) (offset : Nat) {whole count : Nat} (inside : count ≤ whole) :
    (disk.bytesAt offset whole).take count = disk.bytesAt offset count := by
  have front : 0 + count ≤ whole := by omega
  exact slice_bytesAt disk front

/-- A write is read back from its range. -/
theorem bytesAt_store_self (disk : Disk) (write : Write) :
    (disk.store write).bytesAt write.offset write.data.length = write.data := by
  apply List.ext_getElem (length_bytesAt _ _ _)
  intro index _ inside
  simp only [bytesAt_eq, List.getElem_map, List.getElem_range', Nat.one_mul, byteAt_store,
    Nat.le_add_right, if_true, Nat.add_sub_cancel_left, List.getElem?_eq_getElem inside,
    Option.getD_some]

/-! ## Several writes -/

/-- The disk after several writes. -/
def storeAll (disk : Disk) (writes : List Write) : Disk := writes.foldl store disk

@[simp] theorem storeAll_nil (disk : Disk) : disk.storeAll [] = disk := rfl

@[simp] theorem storeAll_cons (disk : Disk) (write : Write) (others : List Write) :
    disk.storeAll (write :: others) = (disk.store write).storeAll others := rfl

theorem storeAll_append (disk : Disk) (first second : List Write) :
    disk.storeAll (first ++ second) = (disk.storeAll first).storeAll second := List.foldl_append

@[simp] theorem size_storeAll (disk : Disk) (writes : List Write) :
    (disk.storeAll writes).size = disk.size := by
  induction writes generalizing disk with
  | nil => rfl
  | cons write others ih => rw [storeAll_cons, ih, size_store]

@[simp] theorem sectorSize_storeAll (disk : Disk) (writes : List Write) :
    (disk.storeAll writes).sectorSize = disk.sectorSize := by
  induction writes generalizing disk with
  | nil => rfl
  | cons write others ih => rw [storeAll_cons, ih, sectorSize_store]

@[simp] theorem sectors_storeAll (disk : Disk) (writes : List Write) :
    (disk.storeAll writes).sectors = disk.sectors := by
  simp only [sectors, size_storeAll, sectorSize_storeAll]

/-- A range that every write stays apart from keeps its bytes. -/
theorem byteAt_storeAll_of_apart {disk : Disk} {writes : List Write} {offset count position : Nat}
    (apart : ∀ write ∈ writes, write.Apart offset count) (reached : offset ≤ position)
    (inside : position < offset + count) :
    (disk.storeAll writes).byteAt position = disk.byteAt position := by
  induction writes generalizing disk with
  | nil => rfl
  | cons write others ih =>
      rw [storeAll_cons, ih fun other member => apart other (List.mem_cons_of_mem _ member),
        byteAt_store_of_apart (apart write List.mem_cons_self) reached inside]

theorem bytesAt_storeAll_of_apart {disk : Disk} {writes : List Write} {offset count : Nat}
    (apart : ∀ write ∈ writes, write.Apart offset count) :
    (disk.storeAll writes).bytesAt offset count = disk.bytesAt offset count :=
  bytesAt_congr fun _ reached inside => byteAt_storeAll_of_apart apart reached inside

/-- The last write to a range is what is read back from it. -/
theorem bytesAt_storeAll_of_mem (disk : Disk) (before : List Write) (write : Write)
    {after : List Write}
    (apart : ∀ later ∈ after, later.Apart write.offset write.data.length) :
    (disk.storeAll (before ++ write :: after)).bytesAt write.offset write.data.length =
      write.data := by
  rw [storeAll_append, storeAll_cons, bytesAt_storeAll_of_apart apart, bytesAt_store_self]

/-- What a part of the range of the last write to it holds is that part of the write. -/
theorem bytesAt_storeAll_slice (disk : Disk) (before : List Write) (write : Write)
    {after : List Write} {start count : Nat} (inside : start + count ≤ write.data.length)
    (apart : ∀ later ∈ after, later.Apart (write.offset + start) count) :
    (disk.storeAll (before ++ write :: after)).bytesAt (write.offset + start) count =
      write.data.slice start count := by
  rw [storeAll_append, storeAll_cons, bytesAt_storeAll_of_apart apart, ← slice_bytesAt _ inside,
    bytesAt_store_self]

/-- Writes that stay apart from one another are all read back. -/
theorem bytesAt_storeAll_of_pairwise (disk : Disk) {writes : List Write}
    (apart : writes.Pairwise fun earlier later => later.Apart earlier.offset earlier.data.length) :
    ∀ write ∈ writes,
      (disk.storeAll writes).bytesAt write.offset write.data.length = write.data := by
  intro write member
  obtain ⟨before, after, rfl⟩ := List.append_of_mem member
  have behind := (List.pairwise_append.mp apart).2.1
  exact bytesAt_storeAll_of_mem disk before write (List.pairwise_cons.mp behind).1

/-! ## A sequence of writes that breaks off -/

/-- The disk after the first `count` of some writes were carried out and the
next one, if there is one, was torn and left `garbage` in its range. -/
def interrupted (disk : Disk) (writes : List Write) (count : Nat) (garbage : Bytes) : Disk :=
  match writes[count]? with
  | none => disk.storeAll (writes.take count)
  | some write => (disk.storeAll (writes.take count)).store ((Fate.torn garbage true).landing write)

/-- What really arrives on the disk before a sequence of writes breaks off. -/
theorem interrupted_eq (disk : Disk) (writes : List Write) (count : Nat) (garbage : Bytes) :
    ∃ landed, disk.interrupted writes count garbage = disk.storeAll landed ∧
      ∀ part ∈ landed, ∃ whole ∈ writes, part.Within whole := by
  unfold interrupted
  cases next : writes[count]? with
  | none =>
      exact ⟨_, rfl, fun part member => ⟨part, List.mem_of_mem_take member, .refl part⟩⟩
  | some write =>
      refine ⟨writes.take count ++ [(Fate.torn garbage true).landing write], ?_, ?_⟩
      · rw [storeAll_append]
        rfl
      · intro part member
        rcases List.mem_append.mp member with earlier | last
        · exact ⟨part, List.mem_of_mem_take earlier, .refl part⟩
        · rw [List.mem_singleton.mp last]
          exact ⟨write, List.mem_of_getElem? next, Fate.within_landing _ write⟩

/-- Before the first writes are all made, the others do not matter. -/
theorem interrupted_append_of_lt {disk : Disk} {first second : List Write} {count : Nat}
    (early : count < first.length) (garbage : Bytes) :
    disk.interrupted (first ++ second) count garbage = disk.interrupted first count garbage := by
  unfold interrupted
  rw [List.getElem?_append_left early, List.take_append_of_le_length (Nat.le_of_lt early)]

/-- After the first writes are all made, only the others may break off. -/
theorem interrupted_append_of_le {disk : Disk} {first second : List Write} {count : Nat}
    (late : first.length ≤ count) (garbage : Bytes) :
    disk.interrupted (first ++ second) count garbage =
      (disk.storeAll first).interrupted second (count - first.length) garbage := by
  unfold interrupted
  rw [List.getElem?_append_right late, List.take_append, List.take_of_length_le late,
    storeAll_append]

/-! ## Writes that are made again -/

/-- Two disks of one shape that hold the same wherever none of these writes reaches. -/
structure AgreesOutside (disk other : Disk) (writes : List Write) : Prop where
  size : disk.size = other.size
  sectorSize : disk.sectorSize = other.sectorSize
  byteAt : ∀ position, (∀ write ∈ writes, write.Apart position 1) →
    disk.byteAt position = other.byteAt position

/-- A byte is the same after the same writes if one of them reaches it, whatever it was before,
and else if it was the same before. -/
theorem byteAt_storeAll_congr {disk other : Disk} {writes : List Write} {position : Nat}
    (same : (∀ write ∈ writes, write.Apart position 1) →
      disk.byteAt position = other.byteAt position) :
    (disk.storeAll writes).byteAt position = (other.storeAll writes).byteAt position := by
  induction writes generalizing disk other with
  | nil => exact same nofun
  | cons write others ih =>
      rw [storeAll_cons, storeAll_cons]
      apply ih
      intro unreached
      by_cases apart : write.Apart position 1
      · rw [byteAt_store_of_apart apart (Nat.le_refl _) (Nat.lt_succ_self _),
          byteAt_store_of_apart apart (Nat.le_refl _) (Nat.lt_succ_self _)]
        exact same (List.forall_mem_cons.mpr ⟨apart, unreached⟩)
      · -- the write decides the byte
        obtain ⟨begun, inside⟩ := Write.not_apart_one_iff.mp apart
        simp only [byteAt_store, if_pos begun, List.getElem?_eq_getElem inside, Option.getD_some]

namespace AgreesOutside

variable {disk other : Disk} {writes : List Write}

theorem refl (disk : Disk) (writes : List Write) : disk.AgreesOutside disk writes :=
  ⟨rfl, rfl, fun _ _ => rfl⟩

/-- Disks that agree everywhere agree outside any writes. -/
theorem outside (everywhere : disk.AgreesOutside other []) (writes : List Write) :
    disk.AgreesOutside other writes :=
  ⟨everywhere.size, everywhere.sectorSize, fun position _ => everywhere.byteAt position nofun⟩

/-- What lands of the writes in the course of an attempt stays in their ranges. -/
theorem storeAll_parts (agrees : disk.AgreesOutside other writes) {landed : List Write}
    (parts : ∀ part ∈ landed, ∃ whole ∈ writes, part.Within whole) :
    (disk.storeAll landed).AgreesOutside other writes where
  size := (size_storeAll disk landed).trans agrees.size
  sectorSize := (sectorSize_storeAll disk landed).trans agrees.sectorSize
  byteAt position unreached := by
    have apart : ∀ part ∈ landed, part.Apart position 1 := by
      intro part member
      obtain ⟨whole, issued, within⟩ := parts part member
      exact (unreached whole issued).within within
    rw [byteAt_storeAll_of_apart apart (Nat.le_refl _) (Nat.lt_succ_self _)]
    exact agrees.byteAt position unreached

/-- **Once all the writes are made, the disks agree everywhere.** -/
theorem storeAll (agrees : disk.AgreesOutside other writes) :
    (disk.storeAll writes).AgreesOutside (other.storeAll writes) [] where
  size := by rw [size_storeAll, size_storeAll, agrees.size]
  sectorSize := by rw [sectorSize_storeAll, sectorSize_storeAll, agrees.sectorSize]
  byteAt position _ := byteAt_storeAll_congr (agrees.byteAt position)

end AgreesOutside

end Disk

end TrustBoundary
