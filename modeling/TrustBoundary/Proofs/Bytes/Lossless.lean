import TrustBoundary.Gpt.Header
import TrustBoundary.Mbr
import TrustBoundary.Proofs.Bytes.Parts

/-!
# Records lose nothing

A record is written by overwriting zeroes with its fields at one list of offsets, and read by
looking at another list of offsets.  What has to be known of the two lists is said here once for
all records.  If the fields are written in ascending order without overlap (`Bytes.Ascending`),
each of them is still there at the end (`Bytes.holds_overwriteAll`), so reading gives the value
back if it looks where they were written (`Layout.lossless`).  If they leave no gap either
(`Bytes.Tiled`), the bytes written are those of the fields and nothing else
(`Bytes.overwriteAll_eq`), so writing what was read gives back the bytes that it was read from
(`Layout.exact`).

A record that is both read and written without loss depends on the bytes of its own width and on
nothing else (`Layout.Lossless.decode_congr`).
-/

set_option autoImplicit false

namespace TrustBoundary

/-! ## Fields at ascending offsets -/

namespace Bytes

variable {bytes data : Bytes} {offset start stop count : Nat} {fields : List (Nat × Bytes)}

/-- The fields lie between two offsets, each of them behind the one before it. -/
def Ascending : (start : Nat) → (fields : List (Nat × Bytes)) → (stop : Nat) → Prop
  | start, [], stop => start ≤ stop
  | start, (offset, data) :: others, stop =>
      start ≤ offset ∧ Ascending (offset + data.length) others stop

/-- The fields fill the bytes between two offsets, each of them right behind the one before it. -/
def Tiled : (start : Nat) → (fields : List (Nat × Bytes)) → (stop : Nat) → Prop
  | start, [], stop => start = stop
  | start, (offset, data) :: others, stop =>
      offset = start ∧ Tiled (start + data.length) others stop

/-- The bytes of a field are found at its offset. -/
def Holds (bytes : Bytes) (field : Nat × Bytes) : Prop :=
  bytes.slice field.1 field.2.length = field.2

theorem Tiled.ascending (tiled : Tiled start fields stop) : Ascending start fields stop := by
  induction fields generalizing start with
  | nil => exact Nat.le_of_eq tiled
  | cons field others ih =>
      obtain ⟨rfl, rest⟩ := tiled
      exact ⟨Nat.le_refl _, ih rest⟩

theorem Ascending.le (ascending : Ascending start fields stop) : start ≤ stop := by
  induction fields generalizing start with
  | nil => exact ascending
  | cons field others ih =>
      exact Nat.le_trans ascending.1 (Nat.le_trans (Nat.le_add_right _ _) (ih ascending.2))

/-- Every field lies below the upper end. -/
theorem Ascending.inside_of_mem (ascending : Ascending start fields stop) {field : Nat × Bytes}
    (member : field ∈ fields) : field.1 + field.2.length ≤ stop := by
  induction fields generalizing start with
  | nil => exact nomatch member
  | cons first others ih =>
      rcases List.mem_cons.mp member with rfl | member
      · exact Ascending.le ascending.2
      · exact ih ascending.2 member

theorem hasRoom_of_ascending (ascending : Ascending start fields stop)
    (enough : stop ≤ bytes.length) : bytes.hasRoom fields :=
  List.all_eq_true.mpr fun _ member =>
    decide_eq_true (Nat.le_trans (ascending.inside_of_mem member) enough)

theorem length_overwriteAll (ascending : Ascending start fields stop)
    (enough : stop ≤ bytes.length) : (bytes.overwriteAll fields).length = bytes.length := by
  induction fields generalizing bytes start with
  | nil => rfl
  | cons field others ih =>
      have same := length_overwrite bytes field.1 field.2 (Nat.le_trans ascending.2.le enough)
      exact (ih ascending.2 (same ▸ enough)).trans same

/-- A part in front of all fields stays as it was. -/
theorem slice_overwriteAll_before (ascending : Ascending start fields stop)
    (enough : stop ≤ bytes.length) (before : offset + count ≤ start) :
    (bytes.overwriteAll fields).slice offset count = bytes.slice offset count := by
  induction fields generalizing bytes start with
  | nil => rfl
  | cons field others ih =>
      have inside := Nat.le_trans ascending.2.le enough
      have behind : offset + count ≤ field.1 := Nat.le_trans before ascending.1
      have same := length_overwrite bytes field.1 field.2 inside
      exact (ih ascending.2 (same ▸ enough) (Nat.le_trans behind (Nat.le_add_right _ _))).trans
        (slice_overwrite_before (Nat.le_trans (Nat.le_add_right _ _) inside) behind)

/-- **Every field is still there after the last one was written,** if they do not overlap. -/
theorem holds_overwriteAll (ascending : Ascending start fields stop)
    (enough : stop ≤ bytes.length) {field : Nat × Bytes} (member : field ∈ fields) :
    (bytes.overwriteAll fields).Holds field := by
  induction fields generalizing bytes start with
  | nil => exact nomatch member
  | cons first others ih =>
      have inside := Nat.le_trans ascending.2.le enough
      have same := length_overwrite bytes first.1 first.2 inside
      rcases List.mem_cons.mp member with rfl | member
      · -- the fields that are written later lie behind the first one
        exact (slice_overwriteAll_before ascending.2 (same ▸ enough) (Nat.le_refl _)).trans
          (slice_overwrite_self (Nat.le_trans (Nat.le_add_right _ _) inside))
      · exact ih ascending.2 (same ▸ enough) member

/-! ## Fields without a gap -/

/-- The bytes of all fields. -/
def contents (fields : List (Nat × Bytes)) : Bytes := fields.flatMap Prod.snd

/-- **Fields without a gap replace the bytes between their ends,** and no other byte. -/
theorem overwriteAll_eq (tiled : Tiled start fields stop) (enough : stop ≤ bytes.length) :
    bytes.overwriteAll fields = bytes.take start ++ contents fields ++ bytes.drop stop := by
  induction fields generalizing bytes start with
  | nil =>
      obtain rfl : start = stop := tiled
      change bytes = bytes.take start ++ [] ++ bytes.drop start
      rw [List.append_nil, List.take_append_drop]
  | cons field others ih =>
      obtain ⟨offset, data⟩ := field
      obtain ⟨rfl, rest⟩ : offset = start ∧ Tiled (start + data.length) others stop := tiled
      have behind := rest.ascending.le
      have within : offset ≤ bytes.length := by omega
      have same := length_overwrite bytes offset data (Nat.le_trans behind enough)
      have front : (bytes.overwrite offset data).take (offset + data.length) =
          bytes.take offset ++ data := by
        rw [overwrite, List.take_left' (by rw [List.length_append, List.length_take_of_le within])]
      change (bytes.overwrite offset data).overwriteAll others = _
      rw [ih rest (same ▸ enough), front, drop_overwrite within behind]
      simp only [contents, List.flatMap_cons, List.append_assoc]

/-- Fields without a gap that are all found in a byte string are the bytes between their ends. -/
theorem contents_eq_slice (tiled : Tiled start fields stop)
    (found : ∀ field ∈ fields, bytes.Holds field) :
    contents fields = bytes.slice start (stop - start) := by
  induction fields generalizing start with
  | nil =>
      obtain rfl : start = stop := tiled
      rw [Nat.sub_self]
      rfl
  | cons field others ih =>
      obtain ⟨offset, data⟩ := field
      obtain ⟨rfl, rest⟩ : offset = start ∧ Tiled (start + data.length) others stop := tiled
      obtain ⟨first, later⟩ := List.forall_mem_cons.mp found
      have here : bytes.slice offset data.length = data := first
      have behind := rest.ascending.le
      have parts : stop - offset = data.length + (stop - (offset + data.length)) := by omega
      calc contents ((offset, data) :: others)
        _ = data ++ contents others := List.flatMap_cons
        _ = bytes.slice offset data.length ++
            bytes.slice (offset + data.length) (stop - (offset + data.length)) := by
          rw [here, ih rest later]
        _ = bytes.slice offset (stop - offset) := by
          rw [parts, slice_append_slice]

/-! ## What is read at an offset -/

theorem Holds.append {field : Nat × Bytes} (holds : bytes.Holds field)
    (inside : field.1 + field.2.length ≤ bytes.length) (rest : Bytes) :
    (bytes ++ rest).Holds field :=
  (slice_append_left inside rest).trans holds

theorem Holds.byteAt_eq {value : UInt8} (holds : bytes.Holds (offset, [value])) :
    bytes.byteAt offset = value := by
  have first : (bytes.slice offset 1).byteAt 0 = value := congrArg (byteAt · 0) holds
  rwa [byteAt_slice, if_pos Nat.one_pos, Nat.add_zero] at first

theorem Holds.blockAt_eq {block : Vector UInt8 count} (holds : bytes.Holds (offset, block.toList)) :
    bytes.blockAt offset count = block := by
  have stored : bytes.slice offset count = block.toList := by
    rw [Holds, Vector.length_toList] at holds
    exact holds
  apply Vector.ext
  intro index inside
  have there : index < block.toList.toArray.size := by simpa using inside
  rw [blockAt, stored, Vector.getElem_ofFn, Array.getD, dif_pos there]
  simp

theorem Holds.word32At_eq {word : UInt32}
    (holds : bytes.Holds (offset, littleEndian 4 word.toNat)) : bytes.word32At offset = word := by
  have small : word.toNat < valueCount 4 := word.toNat_lt
  have stored : bytes.slice offset 4 = littleEndian 4 word.toNat := by
    rwa [Holds, length_littleEndian] at holds
  rw [word32At, stored, ofLittleEndian_littleEndian, Nat.mod_eq_of_lt small, UInt32.ofNat_toNat]

theorem Holds.word64At_eq {word : UInt64}
    (holds : bytes.Holds (offset, littleEndian 8 word.toNat)) : bytes.word64At offset = word := by
  have small : word.toNat < valueCount 8 := word.toNat_lt
  have stored : bytes.slice offset 8 = littleEndian 8 word.toNat := by
    rwa [Holds, length_littleEndian] at holds
  rw [word64At, stored, ofLittleEndian_littleEndian, Nat.mod_eq_of_lt small, UInt64.ofNat_toNat]

theorem holds_byteAt (inside : offset + 1 ≤ bytes.length) :
    bytes.Holds (offset, [bytes.byteAt offset]) := by
  refine ext_byteAt (length_slice inside) fun index => ?_
  rw [byteAt_slice]
  cases index with
  | zero => rfl
  | succ index => rfl

/-- A block holds the bytes that it was read from. -/
theorem toList_blockAt (inside : offset + count ≤ bytes.length) :
    (bytes.blockAt offset count).toList = bytes.slice offset count := by
  have length := length_slice inside
  apply List.ext_getElem (by rw [Vector.length_toList, length])
  intro index within _
  have there : index < (bytes.slice offset count).toArray.size := by simpa [length] using within
  simp only [blockAt, Vector.getElem_toList, Vector.getElem_ofFn, Array.getD, dif_pos there]
  simp

theorem holds_blockAt (inside : offset + count ≤ bytes.length) :
    bytes.Holds (offset, (bytes.blockAt offset count).toList) := by
  rw [Holds, Vector.length_toList, toList_blockAt inside]

/-- A word is written as the bytes that it was read from. -/
theorem littleEndian_word32At (inside : offset + 4 ≤ bytes.length) :
    littleEndian 4 (bytes.word32At offset).toNat = bytes.slice offset 4 := by
  have length := length_slice inside
  have small := ofLittleEndian_lt (bytes.slice offset 4)
  have written := littleEndian_ofLittleEndian (bytes.slice offset 4)
  rw [length] at small written
  rwa [word32At, UInt32.toNat_ofNat_of_lt' small]

theorem littleEndian_word64At (inside : offset + 8 ≤ bytes.length) :
    littleEndian 8 (bytes.word64At offset).toNat = bytes.slice offset 8 := by
  have length := length_slice inside
  have small := ofLittleEndian_lt (bytes.slice offset 8)
  have written := littleEndian_ofLittleEndian (bytes.slice offset 8)
  rw [length] at small written
  rwa [word64At, UInt64.toNat_ofNat_of_lt' small]

theorem holds_word32At (inside : offset + 4 ≤ bytes.length) :
    bytes.Holds (offset, littleEndian 4 (bytes.word32At offset).toNat) := by
  rw [Holds, length_littleEndian, littleEndian_word32At inside]

theorem holds_word64At (inside : offset + 8 ≤ bytes.length) :
    bytes.Holds (offset, littleEndian 8 (bytes.word64At offset).toNat) := by
  rw [Holds, length_littleEndian, littleEndian_word64At inside]

theorem word32At_drop (bytes : Bytes) (offset place : Nat) :
    word32At (bytes.drop offset) place = bytes.word32At (offset + place) := by
  rw [word32At, word32At, slice, slice, List.drop_drop]

/-- A word has a value exactly if the bytes at its place are those of the value. -/
theorem word32At_eq_iff (inside : offset + 4 ≤ bytes.length) {word : UInt32} :
    bytes.word32At offset = word ↔ bytes.slice offset 4 = littleEndian 4 word.toNat := by
  constructor
  · rintro rfl
    exact (littleEndian_word32At inside).symm
  · intro stored
    exact Holds.word32At_eq (by rw [Holds, length_littleEndian, stored])

end Bytes

/-! ## Records -/

/-- How the values of a type are written as records of fields, and read. -/
structure Layout (α : Type) where
  /-- The number of bytes of a record. -/
  width : Nat
  /-- The fields of the record of a value, each from its offset on. -/
  fields : α → List (Nat × Bytes)
  /-- The value of the record at the start of a byte string. -/
  decode : Bytes → α

namespace Layout

variable {α : Type} {layout : Layout α}

/-- The record of a value. -/
def encode (layout : Layout α) (value : α) : Bytes :=
  (Bytes.zeroes layout.width).overwriteAll (layout.fields value)

/-- What is written has the width of the layout and reads back as it was, whatever follows. -/
structure Lossless (layout : Layout α) : Prop where
  length_encode : ∀ value, (layout.encode value).length = layout.width
  decode_encode : ∀ value rest, layout.decode (layout.encode value ++ rest) = value

/-- Writing what was read gives the bytes that it was read from. -/
structure Exact (layout : Layout α) : Prop where
  encode_decode : ∀ bytes : Bytes, layout.width ≤ bytes.length →
    layout.encode (layout.decode bytes) = bytes.take layout.width

/-- **Nothing is lost if fields do not overlap and are read where they were written.** -/
theorem lossless (ascending : ∀ value, Bytes.Ascending 0 (layout.fields value) layout.width)
    (reads : ∀ value bytes, (∀ field ∈ layout.fields value, Bytes.Holds bytes field) →
      layout.decode bytes = value) : layout.Lossless := by
  have room : layout.width ≤ (Bytes.zeroes layout.width).length :=
    Nat.le_of_eq (Bytes.length_zeroes _).symm
  have length_encode : ∀ value, (layout.encode value).length = layout.width := fun value =>
    (Bytes.length_overwriteAll (ascending value) room).trans (Bytes.length_zeroes _)
  refine ⟨length_encode, fun value rest => reads value _ fun field member => ?_⟩
  have inside := (ascending value).inside_of_mem member
  rw [← length_encode value] at inside
  exact (Bytes.holds_overwriteAll (ascending value) room member).append inside rest

/-- The record of a value, if its fields leave no gap, consists of their bytes. -/
theorem encode_eq (layout : Layout α)
    (tiled : ∀ value, Bytes.Tiled 0 (layout.fields value) layout.width) (value : α) :
    layout.encode value = Bytes.contents (layout.fields value) := by
  have length := Bytes.length_zeroes layout.width
  rw [encode, Bytes.overwriteAll_eq (tiled value) (Nat.le_of_eq length.symm), List.take_zero,
    List.nil_append, List.drop_of_length_le (Nat.le_of_eq length), List.append_nil]

/-- **Nothing is made up if fields leave no gap and are written where they were read.** -/
theorem exact (tiled : ∀ value, Bytes.Tiled 0 (layout.fields value) layout.width)
    (found : ∀ bytes : Bytes, layout.width ≤ bytes.length →
      ∀ field ∈ layout.fields (layout.decode bytes), bytes.Holds field) : layout.Exact where
  encode_decode bytes enough := by
    rw [layout.encode_eq tiled, Bytes.contents_eq_slice (tiled _) (found bytes enough)]
    rfl

/-- A record reads back as it was with nothing behind it. -/
theorem Lossless.decode_encode_alone (lossless : layout.Lossless) (value : α) :
    layout.decode (layout.encode value) = value := by
  have decoded := lossless.decode_encode value []
  rwa [List.append_nil] at decoded

/-- **What is read is a matter of the bytes that were written.** -/
theorem Lossless.decode_congr (lossless : layout.Lossless) (exact : layout.Exact)
    {first second : Bytes} (enough : layout.width ≤ second.length)
    (same : first.take layout.width = second.take layout.width) :
    layout.decode first = layout.decode second := by
  have written : first = layout.encode (layout.decode second) ++ first.drop layout.width := by
    rw [exact.encode_decode second enough, ← same, List.take_append_drop]
  rw [written]
  exact lossless.decode_encode (layout.decode second) _

/-- Bytes hold a value exactly if they begin as it is written. -/
theorem Lossless.decode_eq_iff (lossless : layout.Lossless) (exact : layout.Exact) {bytes : Bytes}
    (enough : layout.width ≤ bytes.length) {value : α} :
    layout.decode bytes = value ↔ bytes.take layout.width = layout.encode value := by
  constructor
  · rintro rfl
    exact (exact.encode_decode bytes enough).symm
  · intro front
    rw [← List.take_append_drop layout.width bytes, front]
    exact lossless.decode_encode value _

end Layout

/-! ## The record formats of disks -/

open Bytes (hasRoom_of_ascending holds_byteAt holds_blockAt holds_word32At holds_word64At)

namespace Gpt.Header

/-- The format of a header of a partition table. -/
def layout : Layout Header := ⟨width, fields, decode⟩

theorem tiled_fields (header : Header) : Bytes.Tiled 0 header.fields width := by
  simp only [fields, Bytes.Tiled, Vector.length_toList, Bytes.length_littleEndian]
  decide

/-- Each field of a header is read where it was written. -/
theorem decode_eq_of_holds {header : Header} {bytes : Bytes}
    (holds : ∀ field ∈ header.fields, bytes.Holds field) : decode bytes = header := by
  simp only [fields, List.forall_mem_cons] at holds
  obtain ⟨signature, revision, headerSize, headerCrc, reserved, myLba, alternateLba, firstUsableLba,
    lastUsableLba, diskGuid, tableLba, entryCount, entrySize, tableCrc, _⟩ := holds
  rw [decode, signature.blockAt_eq, revision.word32At_eq, headerSize.word32At_eq,
    headerCrc.word32At_eq, reserved.word32At_eq, myLba.word64At_eq, alternateLba.word64At_eq,
    firstUsableLba.word64At_eq, lastUsableLba.word64At_eq, diskGuid.blockAt_eq,
    tableLba.word64At_eq, entryCount.word32At_eq, entrySize.word32At_eq, tableCrc.word32At_eq]

/-- Each field of a header is written where it was read. -/
theorem holds_of_decode {bytes : Bytes} (enough : 92 ≤ bytes.length) :
    ∀ field ∈ (decode bytes).fields, bytes.Holds field := by
  simp only [fields, List.forall_mem_cons]
  exact ⟨holds_blockAt (by omega), holds_word32At (by omega), holds_word32At (by omega),
    holds_word32At (by omega), holds_word32At (by omega), holds_word64At (by omega),
    holds_word64At (by omega), holds_word64At (by omega), holds_word64At (by omega),
    holds_blockAt (by omega), holds_word64At (by omega), holds_word32At (by omega),
    holds_word32At (by omega), holds_word32At (by omega), List.forall_mem_nil _⟩

theorem lossless_layout : layout.Lossless :=
  Layout.lossless (fun header => header.tiled_fields.ascending) fun _ _ => decode_eq_of_holds

theorem exact_layout : layout.Exact := Layout.exact tiled_fields fun _ => holds_of_decode

theorem length_encode (header : Header) : header.encode.length = width :=
  lossless_layout.length_encode header

theorem encode_eq (header : Header) : header.encode = Bytes.contents header.fields :=
  layout.encode_eq tiled_fields header

end Gpt.Header

namespace Gpt.Entry

/-- The format of a slot of an entry array. -/
def layout : Layout Entry := ⟨width, fields, decode⟩

theorem tiled_fields (entry : Entry) : Bytes.Tiled 0 entry.fields width := by
  simp only [fields, Bytes.Tiled, Vector.length_toList, Bytes.length_littleEndian]
  decide

theorem decode_eq_of_holds {entry : Entry} {bytes : Bytes}
    (holds : ∀ field ∈ entry.fields, bytes.Holds field) : decode bytes = entry := by
  simp only [fields, List.forall_mem_cons] at holds
  obtain ⟨typeGuid, uniqueGuid, startingLba, endingLba, attributes, name, _⟩ := holds
  rw [decode, typeGuid.blockAt_eq, uniqueGuid.blockAt_eq, startingLba.word64At_eq,
    endingLba.word64At_eq, attributes.word64At_eq, name.blockAt_eq]

theorem holds_of_decode {bytes : Bytes} (enough : 128 ≤ bytes.length) :
    ∀ field ∈ (decode bytes).fields, bytes.Holds field := by
  simp only [fields, List.forall_mem_cons]
  exact ⟨holds_blockAt (by omega), holds_blockAt (by omega), holds_word64At (by omega),
    holds_word64At (by omega), holds_word64At (by omega), holds_blockAt (by omega),
    List.forall_mem_nil _⟩

theorem lossless_layout : layout.Lossless :=
  Layout.lossless (fun entry => entry.tiled_fields.ascending) fun _ _ => decode_eq_of_holds

theorem exact_layout : layout.Exact := Layout.exact tiled_fields fun _ => holds_of_decode

theorem length_encode (entry : Entry) : entry.encode.length = width :=
  lossless_layout.length_encode entry

theorem encode_eq (entry : Entry) : entry.encode = Bytes.contents entry.fields :=
  layout.encode_eq tiled_fields entry

/-- **Storing an entry** changes the first bytes of a buffer, as many as a slot has, to those of the
entry, and leaves the bytes behind them alone. -/
theorem writeTo_eq (entry : Entry) {buffer : Bytes} (enough : width ≤ buffer.length) :
    entry.writeTo buffer = some (entry.encode ++ buffer.drop width) := by
  have tiled := entry.tiled_fields
  rw [writeTo, if_pos (hasRoom_of_ascending tiled.ascending enough),
    Bytes.overwriteAll_eq tiled enough, List.take_zero, List.nil_append, encode_eq]

end Gpt.Entry

namespace MbrRecord

/-- The format of a partition record of a boot record. -/
def layout : Layout MbrRecord := ⟨width, fields, decode⟩

theorem tiled_fields (record : MbrRecord) : Bytes.Tiled 0 record.fields width := by
  simp only [fields, Bytes.Tiled, List.length_singleton, Vector.length_toList,
    Bytes.length_littleEndian]
  decide

theorem decode_eq_of_holds {record : MbrRecord} {bytes : Bytes}
    (holds : ∀ field ∈ record.fields, bytes.Holds field) : decode bytes = record := by
  simp only [fields, List.forall_mem_cons] at holds
  obtain ⟨bootIndicator, startingChs, osType, endingChs, startingLba, sizeInLba, _⟩ := holds
  rw [decode, bootIndicator.byteAt_eq, startingChs.blockAt_eq, osType.byteAt_eq,
    endingChs.blockAt_eq, startingLba.word32At_eq, sizeInLba.word32At_eq]

theorem holds_of_decode {bytes : Bytes} (enough : 16 ≤ bytes.length) :
    ∀ field ∈ (decode bytes).fields, bytes.Holds field := by
  simp only [fields, List.forall_mem_cons]
  exact ⟨holds_byteAt (by omega), holds_blockAt (by omega), holds_byteAt (by omega),
    holds_blockAt (by omega), holds_word32At (by omega), holds_word32At (by omega),
    List.forall_mem_nil _⟩

theorem lossless_layout : layout.Lossless :=
  Layout.lossless (fun record => record.tiled_fields.ascending) fun _ _ => decode_eq_of_holds

theorem exact_layout : layout.Exact := Layout.exact tiled_fields fun _ => holds_of_decode

theorem length_encode (record : MbrRecord) : record.encode.length = width :=
  lossless_layout.length_encode record

theorem encode_eq (record : MbrRecord) : record.encode = Bytes.contents record.fields :=
  layout.encode_eq tiled_fields record

end MbrRecord

end TrustBoundary
