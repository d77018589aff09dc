import TrustBoundary.Proofs.Bytes.Lossless
import TrustBoundary.Transfer.Header

/-!
# The record formats, in both directions

A format whose layout is lossless and exact is a bijection between its values and the byte
strings of its width (`Layout.Lossless.bijective`).  The formats of partition tables, of boot
records and of entries of a transfer are all of this kind.

The result of a transfer has a gap.  It is written as zeroes whatever was read
(`ResultHeader.encode_decode`), so only those bytes come back that have zeroes there.  The
name behind the header takes all that follows its length, so an answer can be read in one
way only (`encodeResult_injective`).
-/

set_option autoImplicit false

namespace TrustBoundary

/-- Values and the byte strings of one width, with the two directions undoing each other. -/
structure Bijective {α : Type} (encode : α → Bytes) (decode : Bytes → α) (width : Nat) : Prop where
  length_encode : ∀ value, (encode value).length = width
  decode_encode : ∀ value, decode (encode value) = value
  encode_decode : ∀ bytes, bytes.length = width → encode (decode bytes) = bytes

theorem Layout.Lossless.bijective {α : Type} {layout : Layout α} (lossless : layout.Lossless)
    (exact : layout.Exact) : Bijective layout.encode layout.decode layout.width where
  length_encode := lossless.length_encode
  decode_encode := lossless.decode_encode_alone
  encode_decode bytes length := by
    rw [exact.encode_decode bytes (Nat.le_of_eq length.symm), ← length, List.take_length]

/-! ## Headers of a transfer -/

namespace Transfer

open Bytes (holds_word32At holds_word64At littleEndian_word32At littleEndian_word64At)

namespace EntryHeader

/-- The format of the header of a transferred entry. -/
def layout : Layout EntryHeader := ⟨width, fields, decode⟩

theorem tiled_fields (header : EntryHeader) : Bytes.Tiled 0 header.fields width := by
  simp only [fields, Bytes.Tiled, Bytes.length_littleEndian]
  decide

theorem decode_eq_of_holds {header : EntryHeader} {bytes : Bytes}
    (holds : ∀ field ∈ header.fields, bytes.Holds field) : decode bytes = header := by
  simp only [fields, List.forall_mem_cons] at holds
  obtain ⟨nameLength, mode, fileLength, accessSeconds, accessNanoseconds, changeSeconds,
    changeNanoseconds, _⟩ := holds
  rw [decode, nameLength.word32At_eq, mode.word32At_eq, fileLength.word64At_eq,
    accessSeconds.word32At_eq, accessNanoseconds.word32At_eq, changeSeconds.word32At_eq,
    changeNanoseconds.word32At_eq]

theorem holds_of_decode {bytes : Bytes} (enough : 32 ≤ bytes.length) :
    ∀ field ∈ (decode bytes).fields, bytes.Holds field := by
  simp only [fields, List.forall_mem_cons]
  exact ⟨holds_word32At (by omega), holds_word32At (by omega), holds_word64At (by omega),
    holds_word32At (by omega), holds_word32At (by omega), holds_word32At (by omega),
    holds_word32At (by omega), List.forall_mem_nil _⟩

theorem lossless_layout : layout.Lossless :=
  Layout.lossless (fun header => header.tiled_fields.ascending) fun _ _ => decode_eq_of_holds

theorem exact_layout : layout.Exact := Layout.exact tiled_fields fun _ => holds_of_decode

end EntryHeader

namespace ResultHeader

/-- The format of a result header. -/
def layout : Layout ResultHeader := ⟨width, fields, decode⟩

/-- The fields do not overlap, but they leave a gap. -/
theorem ascending_fields (header : ResultHeader) : Bytes.Ascending 0 header.fields width := by
  simp only [fields, Bytes.Ascending, Bytes.length_littleEndian]
  decide

theorem decode_eq_of_holds {header : ResultHeader} {bytes : Bytes}
    (holds : ∀ field ∈ header.fields, bytes.Holds field) : decode bytes = header := by
  simp only [fields, List.forall_mem_cons] at holds
  obtain ⟨errorCode, checksum, _⟩ := holds
  rw [decode, errorCode.word32At_eq, checksum.word64At_eq]

theorem lossless_layout : layout.Lossless :=
  Layout.lossless ascending_fields fun _ _ => decode_eq_of_holds

/-- The gap is written as zeroes. -/
theorem encode_eq (header : ResultHeader) : header.encode =
    Bytes.littleEndian 4 header.errorCode.toNat ++
      (Bytes.zeroes 4 ++ Bytes.littleEndian 8 header.checksum.toNat) := rfl

/-- Writing what was read gives back the bytes in front of the gap and behind it, and zeroes
in the gap. -/
theorem encode_decode {bytes : Bytes} (length : bytes.length = 16) :
    (decode bytes).encode = bytes.slice 0 4 ++ (Bytes.zeroes 4 ++ bytes.slice 8 8) := by
  rw [encode_eq, ← littleEndian_word32At (by omega), ← littleEndian_word64At (by omega)]
  rfl

/-- A result header is written back as it was read exactly if its gap is zero. -/
theorem encode_decode_iff {bytes : Bytes} (length : bytes.length = 16) :
    (decode bytes).encode = bytes ↔ bytes.slice 4 4 = Bytes.zeroes 4 := by
  have parts : bytes.slice 0 4 ++ (bytes.slice 4 4 ++ bytes.slice 8 8) = bytes := by
    rw [Bytes.slice_append_slice bytes 4, Bytes.slice_append_slice bytes 0]
    exact List.take_of_length_le (Nat.le_of_eq length)
  rw [encode_decode length]
  constructor
  · intro same
    have gap := List.append_cancel_left (same.trans parts.symm)
    exact (List.append_cancel_right gap).symm
  · intro zero
    rwa [zero] at parts

end ResultHeader

/-- What stands behind the result header of an answer. -/
def nameBytes : (lastName : Option Bytes) → Bytes
  | none => []
  | some name => Bytes.littleEndian 4 name.length ++ name

theorem encodeResult_eq (errorCode : UInt32) (checksum : UInt64) (lastName : Option Bytes) :
    encodeResult errorCode checksum lastName =
      (ResultHeader.mk errorCode checksum).encode ++ nameBytes lastName := by
  cases lastName with
  | none => exact (List.append_nil _).symm
  | some name => exact List.append_assoc _ _ _

/-- No name, the empty name and every other name are told apart. -/
theorem nameBytes_injective {lastName otherName : Option Bytes}
    (same : nameBytes lastName = nameBytes otherName) : lastName = otherName := by
  cases lastName with
  | none =>
      cases otherName with
      | none => rfl
      | some other => exact nomatch congrArg List.length same
  | some name =>
      cases otherName with
      | none => exact nomatch congrArg List.length same
      | some other =>
          have lengths : (Bytes.littleEndian 4 name.length).length =
              (Bytes.littleEndian 4 other.length).length := by
            rw [Bytes.length_littleEndian, Bytes.length_littleEndian]
          rw [(List.append_inj same lengths).2]

/-- **An answer can be read in one way only.** -/
theorem encodeResult_injective {errorCode otherCode : UInt32} {checksum otherChecksum : UInt64}
    {lastName otherName : Option Bytes}
    (same : encodeResult errorCode checksum lastName =
      encodeResult otherCode otherChecksum otherName) :
    errorCode = otherCode ∧ checksum = otherChecksum ∧ lastName = otherName := by
  rw [encodeResult_eq, encodeResult_eq] at same
  have read : ∀ (header : ResultHeader) (rest : Bytes),
      ResultHeader.decode (header.encode ++ rest) = header :=
    ResultHeader.lossless_layout.decode_encode
  have headers := congrArg ResultHeader.decode same
  rw [read, read] at headers
  cases headers
  exact ⟨rfl, rfl, nameBytes_injective (List.append_cancel_left same)⟩

end Transfer

/-! ## All formats -/

open Transfer (encodeResult)

/-- **The record formats lose nothing.**  Headers and entries of partition tables, records of
boot records and headers of transferred entries are bijections between values and byte strings
of their widths, and storing an entry leaves the bytes behind it alone.  A result header reads
back as it was written, and is written back as it was read exactly if its gap is zero; a whole
answer can be read in one way only. -/
theorem records_lossless :
    Bijective Gpt.Header.encode Gpt.Header.decode 92 ∧
    Bijective Gpt.Entry.encode Gpt.Entry.decode 128 ∧
    (∀ (entry : Gpt.Entry) (buffer : Bytes), 128 ≤ buffer.length →
      entry.writeTo buffer = some (entry.encode ++ buffer.drop 128)) ∧
    Bijective MbrRecord.encode MbrRecord.decode 16 ∧
    Bijective Transfer.EntryHeader.encode Transfer.EntryHeader.decode 32 ∧
    (∀ header : Transfer.ResultHeader, header.encode.length = 16 ∧
      Transfer.ResultHeader.decode header.encode = header) ∧
    (∀ bytes : Bytes, bytes.length = 16 →
      ((Transfer.ResultHeader.decode bytes).encode = bytes ↔ bytes.slice 4 4 = Bytes.zeroes 4)) ∧
    ∀ (errorCode otherCode : UInt32) (checksum otherChecksum : UInt64)
      (lastName otherName : Option Bytes),
      encodeResult errorCode checksum lastName = encodeResult otherCode otherChecksum otherName →
      errorCode = otherCode ∧ checksum = otherChecksum ∧ lastName = otherName := by
  refine ⟨Gpt.Header.lossless_layout.bijective Gpt.Header.exact_layout,
    Gpt.Entry.lossless_layout.bijective Gpt.Entry.exact_layout,
    fun entry buffer enough => entry.writeTo_eq enough,
    MbrRecord.lossless_layout.bijective MbrRecord.exact_layout,
    Transfer.EntryHeader.lossless_layout.bijective Transfer.EntryHeader.exact_layout,
    fun header => ⟨?_, ?_⟩,
    fun bytes length => Transfer.ResultHeader.encode_decode_iff length,
    fun _ _ _ _ _ _ same => Transfer.encodeResult_injective same⟩
  · exact Transfer.ResultHeader.lossless_layout.length_encode header
  · exact Transfer.ResultHeader.lossless_layout.decode_encode_alone header

/-- The bytes `0`, `1`, `2` and so on. -/
def countingBytes (count : Nat) : Bytes := (List.range count).map UInt8.ofNat

/-- A result header with no two equal bytes outside its gap. -/
def resultBytes : Bytes := [1, 2, 3, 4, 0, 0, 0, 0, 5, 6, 7, 8, 9, 10, 11, 12]

/-- Records in which no two bytes are equal come back as they were, an entry is stored in front of
other bytes, a result header comes back if its gap is zero and otherwise does not, and an answer
without a name is none with an empty name. -/
theorem records_lossless_countingBytes :
    Gpt.Header.encode (Gpt.Header.decode (countingBytes 92)) = countingBytes 92 ∧
    (Gpt.Header.decode (countingBytes 92)).tableLba = 0x4F4E4D4C4B4A4948 ∧
    (Gpt.Entry.decode (countingBytes 128)).encode = countingBytes 128 ∧
    (Gpt.Entry.decode (countingBytes 128)).endingLba = 0x2F2E2D2C2B2A2928 ∧
    (Gpt.Entry.decode (countingBytes 128)).writeTo (List.replicate 130 0xAA) =
      some (countingBytes 128 ++ [0xAA, 0xAA]) ∧
    (MbrRecord.decode (countingBytes 16)).encode = countingBytes 16 ∧
    (MbrRecord.decode (countingBytes 16)).sizeInLba = 0x0F0E0D0C ∧
    (Transfer.EntryHeader.decode (countingBytes 32)).encode = countingBytes 32 ∧
    (Transfer.EntryHeader.decode (countingBytes 32)).fileLength = 0x0F0E0D0C0B0A0908 ∧
    (Transfer.ResultHeader.decode resultBytes).encode = resultBytes ∧
    Transfer.ResultHeader.decode resultBytes = ⟨0x04030201, 0x0C0B0A0908070605⟩ ∧
    (Transfer.ResultHeader.decode (countingBytes 16)).encode ≠ countingBytes 16 ∧
    encodeResult 0x04030201 0x0C0B0A0908070605 none ≠
      encodeResult 0x04030201 0x0C0B0A0908070605 (some []) := by
  obtain ⟨header, entry, store, record, announcement, _, result, answer⟩ := records_lossless
  have entryWritten := entry.encode_decode (countingBytes 128) (by decide +kernel)
  refine ⟨header.encode_decode _ (by decide +kernel), by decide +kernel, entryWritten,
    by decide +kernel, ?_, record.encode_decode _ (by decide +kernel), by decide +kernel,
    announcement.encode_decode _ (by decide +kernel), by decide +kernel,
    (result resultBytes rfl).mpr rfl, by decide +kernel, ?_, ?_⟩
  · rw [store _ _ (by decide +kernel), entryWritten]
    rfl
  · exact fun same => absurd ((result _ (by decide +kernel)).mp same) (by decide +kernel)
  · intro same
    cases (answer _ _ _ _ _ _ same).2.2

end TrustBoundary
