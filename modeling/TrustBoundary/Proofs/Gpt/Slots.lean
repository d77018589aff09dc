import TrustBoundary.Gpt.Basic
import TrustBoundary.Proofs.Bytes.Lossless

/-!
# Slots and used entries

An entry array is a row of slots, and the used entries of a row of slots are the
entries of those that are not unused, each with its index.  A slot holds exactly one
entry, which says by its type whether the slot is used (`Entry.slotIsUnused_eq`).

Behind the last used slot there is nothing, so cutting the row there loses no entry
(`usedFrom_take`).
-/

set_option autoImplicit false

namespace TrustBoundary.Gpt

/-! ## Entries -/

namespace Entry

theorem decode_encode (entry : Entry) : decode entry.encode = entry :=
  lossless_layout.decode_encode_alone entry

/-- Whether a slot is unused can be seen from its bytes or from its entry. -/
theorem slotIsUnused_eq {slot : Bytes} (whole : slot.length = width) :
    slotIsUnused slot = (decode slot).isUnused := by
  have typeBytes : (decode slot).typeGuid.toList = slot.take typeWidth :=
    Bytes.toList_blockAt (by rw [whole]; decide)
  rw [slotIsUnused, ← typeBytes, isUnused, Bytes.allZero, Bool.eq_iff_iff, decide_eq_true_eq,
    List.all_eq_true]
  constructor
  · intro zero
    apply Vector.ext
    intro index inside
    rw [Vector.getElem_replicate]
    exact of_decide_eq_true (zero _ (Vector.mem_toList_iff.mpr (Vector.getElem_mem inside)))
  · intro same byte member
    rw [same, Vector.toList_replicate] at member
    exact decide_eq_true (List.eq_of_mem_replicate member)

/-- The slot of an entry is unused if the entry is. -/
theorem slotIsUnused_encode (entry : Entry) : slotIsUnused entry.encode = entry.isUnused := by
  rw [slotIsUnused_eq entry.length_encode, decode_encode]

end Entry

/-! ## Slots -/

@[simp] theorem length_slots (count : Nat) (table : Bytes) :
    (slots count table).length = count := by
  induction count generalizing table with
  | zero => rfl
  | succ count ih => rw [slots, List.length_cons, ih]

/-- The first of more slots are the slots that there would be of fewer. -/
theorem take_slots {fewer more : Nat} (le : fewer ≤ more) (table : Bytes) :
    (slots more table).take fewer = slots fewer table := by
  induction fewer generalizing more table with
  | zero => rfl
  | succ fewer ih =>
      cases more with
      | zero => omega
      | succ more => rw [slots, slots, List.take_succ_cons, ih (Nat.le_of_succ_le_succ le)]

/-- Slots that were laid end to end are found again. -/
theorem slots_flatten {pieces : List Bytes} (whole : ∀ piece ∈ pieces, piece.length = Entry.width)
    (rest : Bytes) : slots pieces.length (pieces.flatten ++ rest) = pieces := by
  induction pieces with
  | nil => rfl
  | cons piece pieces ih =>
      have width : piece.length = Entry.width := whole piece List.mem_cons_self
      rw [List.length_cons, slots, List.flatten_cons, List.append_assoc, List.take_left' width,
        List.drop_left' width, ih fun other member => whole other (List.mem_cons_of_mem _ member)]

/-- Pieces of one width take as many bytes together as there are pieces of it. -/
theorem length_flatten {pieces : List Bytes} {width : Nat}
    (whole : ∀ piece ∈ pieces, piece.length = width) :
    pieces.flatten.length = pieces.length * width := by
  rw [List.length_flatten, List.map_congr_left whole, List.map_const', List.sum_replicate_nat]

/-- The slots of a long enough array have the width of an entry. -/
theorem length_of_mem_slots {count : Nat} {table : Bytes}
    (long : count * Entry.width ≤ table.length)
    {slot : Bytes} (member : slot ∈ slots count table) : slot.length = Entry.width := by
  induction count generalizing table with
  | zero => exact absurd member List.not_mem_nil
  | succ count ih =>
      rw [Nat.succ_mul] at long
      rcases List.mem_cons.mp member with rfl | later
      · rw [List.length_take]
        omega
      · exact ih (by rw [List.length_drop]; omega) later

/-- A slot is the piece of the array at its place. -/
theorem getElem?_slots {count index : Nat} (inside : index < count) (table : Bytes) :
    (slots count table)[index]? = some ((table.drop (index * Entry.width)).take Entry.width) := by
  induction count generalizing index table with
  | zero => exact absurd inside (Nat.not_lt_zero _)
  | succ count ih =>
      cases index with
      | zero => rw [slots, List.getElem?_cons_zero, Nat.zero_mul, List.drop_zero]
      | succ index =>
          rw [slots, List.getElem?_cons_succ, ih (Nat.lt_of_succ_lt_succ inside), List.drop_drop,
            Nat.succ_mul, Nat.add_comm]

/-! ## Used entries -/

/-- The entry of a slot that is not unused is one of the used entries. -/
theorem exists_mem_usedFrom {slots : List Bytes} {slot : Bytes} (member : slot ∈ slots)
    (used : ¬Entry.slotIsUnused slot) (start : Nat) :
    ∃ index, (index, Entry.decode slot) ∈ usedFrom start slots := by
  induction slots generalizing start with
  | nil => exact absurd member List.not_mem_nil
  | cons first others ih =>
      rw [usedFrom]
      rcases List.mem_cons.mp member with rfl | later
      · rw [if_neg used]
        exact ⟨start, List.mem_cons_self⟩
      · obtain ⟨index, found⟩ := ih later (start + 1)
        refine ⟨index, ?_⟩
        split
        · exact found
        · exact List.mem_cons_of_mem _ found

theorem usedFrom_append (index : Nat) (front back : List Bytes) :
    usedFrom index (front ++ back) = usedFrom index front ++
      usedFrom (index + front.length) back := by
  induction front generalizing index with
  | nil => rfl
  | cons slot front ih =>
      have shifted : index + (slot :: front).length = index + 1 + front.length := by
        rw [List.length_cons]
        omega
      rw [List.cons_append, usedFrom, usedFrom, ih, shifted]
      split
      · rfl
      · rw [List.cons_append]

/-- Unused slots hold no used entry. -/
theorem usedFrom_eq_nil {slots : List Bytes} (unused : ∀ slot ∈ slots, Entry.slotIsUnused slot)
    (index : Nat) : usedFrom index slots = [] := by
  induction slots generalizing index with
  | nil => rfl
  | cons slot others ih =>
      obtain ⟨first, rest⟩ := List.forall_mem_cons.mp unused
      rw [usedFrom, if_pos first, ih rest]

/-- The used entries have the indices of their slots. -/
theorem index_of_mem_usedFrom {index : Nat} {slots : List Bytes} {used : Nat × Entry}
    (member : used ∈ usedFrom index slots) : index ≤ used.1 ∧ used.1 < index + slots.length := by
  induction slots generalizing index with
  | nil => exact absurd member List.not_mem_nil
  | cons slot others ih =>
      rw [usedFrom] at member
      rw [List.length_cons]
      split at member
      · have := ih member
        omega
      · rcases List.mem_cons.mp member with rfl | later
        · exact ⟨Nat.le_refl _, by change index < _; omega⟩
        · have := ih later
          omega

/-- The used entries are the entries of the slots that are not unused, each with the
index of its slot. -/
theorem mem_usedFrom_iff {start index : Nat} {slots : List Bytes} {entry : Entry} :
    (start + index, entry) ∈ usedFrom start slots ↔
      ∃ slot, slots[index]? = some slot ∧ ¬Entry.slotIsUnused slot ∧ Entry.decode slot = entry := by
  induction slots generalizing start index with
  | nil => simp [usedFrom]
  | cons first others ih =>
      cases index with
      | zero =>
          -- the later entries have greater indices
          have behind : (start, entry) ∉ usedFrom (start + 1) others := fun member =>
            absurd (index_of_mem_usedFrom member).1 (Nat.not_succ_le_self start)
          rw [usedFrom, List.getElem?_cons_zero]
          split
          · rename_i unused
            simp [behind, unused]
          · rename_i used
            simp only [Nat.add_zero, List.mem_cons, Prod.mk.injEq, true_and, behind, or_false,
              Option.some_inj, exists_eq_left', used, Bool.false_eq_true, not_false_eq_true]
            exact eq_comm
      | succ index =>
          have shifted : start + (index + 1) = start + 1 + index := by omega
          have later : (start + 1 + index, entry) ≠ (start, Entry.decode first) := fun same => by
            have same := congrArg Prod.fst same
            dsimp only at same
            omega
          rw [usedFrom, List.getElem?_cons_succ, shifted, ← ih]
          split
          · rfl
          · simp [later]

/-- A slot holds one entry. -/
theorem eq_of_mem_usedFrom {slots : List Bytes} {index : Nat} {first second : Entry}
    (one : (index, first) ∈ usedFrom 0 slots) (other : (index, second) ∈ usedFrom 0 slots) :
    first = second := by
  rw [← Nat.zero_add index, mem_usedFrom_iff] at one other
  obtain ⟨slot, here, _, rfl⟩ := one
  obtain ⟨_, same, _, rfl⟩ := other
  rw [Option.some_inj.mp (here.symm.trans same)]

/-- The used entries come in the order of their indices. -/
theorem pairwise_usedFrom (start : Nat) (slots : List Bytes) :
    (usedFrom start slots).Pairwise fun earlier later => earlier.1 < later.1 := by
  induction slots generalizing start with
  | nil => exact .nil
  | cons first others ih =>
      rw [usedFrom]
      split
      · exact ih (start + 1)
      · exact .cons (fun _ member => (index_of_mem_usedFrom member).1) (ih (start + 1))

/-- Cutting a row of slots behind its last used entry loses no entry. -/
theorem usedFrom_take {index count : Nat} {slots : List Bytes} {last : Nat × Entry}
    (found : (usedFrom index slots).getLast? = some last) (enough : last.1 < index + count) :
    usedFrom index (slots.take count) = usedFrom index slots := by
  have split := usedFrom_append index (slots.take count) (slots.drop count)
  rw [List.take_append_drop] at split
  cases behind : usedFrom (index + (slots.take count).length) (slots.drop count) with
  | nil => rw [split, behind, List.append_nil]
  | cons item others =>
      have lastBehind : last ∈ usedFrom (index + (slots.take count).length) (slots.drop count) := by
        rw [split, behind, List.getLast?_append, List.getLast?_cons, Option.some_or] at found
        rw [behind]
        exact List.mem_of_getLast? (List.getLast?_cons.trans found)
      have := index_of_mem_usedFrom lastBehind
      rw [List.length_take, List.length_drop] at this
      omega

/-- Changing every slot changes the used entries accordingly, if no slot
becomes used or unused by it. -/
theorem usedFrom_map {change : Bytes → Bytes} {convert : Entry → Entry} (index : Nat)
    (slots : List Bytes)
    (unused : ∀ slot ∈ slots, Entry.slotIsUnused (change slot) = Entry.slotIsUnused slot)
    (used : ∀ slot ∈ slots, ¬Entry.slotIsUnused slot →
      Entry.decode (change slot) = convert (Entry.decode slot)) :
    usedFrom index (slots.map change) =
      (usedFrom index slots).map fun (index, entry) => (index, convert entry) := by
  induction slots generalizing index with
  | nil => rfl
  | cons slot others ih =>
      have rest := ih (index + 1) (fun other member => unused other (List.mem_cons_of_mem _ member))
        fun other member => used other (List.mem_cons_of_mem _ member)
      rw [List.map_cons, usedFrom, usedFrom, unused slot List.mem_cons_self, rest]
      split
      · rfl
      · rename_i isUsed
        rw [List.map_cons, used slot List.mem_cons_self isUsed]

end TrustBoundary.Gpt
