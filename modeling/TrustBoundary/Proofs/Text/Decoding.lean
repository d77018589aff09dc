import TrustBoundary.Proofs.Text.Shortest

/-!
# What decoding accepts and where it refuses

Decoding gives a code point exactly if the shortest form of a scalar value that is no
control character comes next (`decodeHead_eq_ok_iff_encodes`).  So every such value is given
back from its encoding, and no two byte strings give the same one.

A byte that is refused is the first wrong one.  What was read in front of it can be
completed to an encoding, by the least byte that is allowed next and by tail bytes without
any bits behind it; and with this byte next, it is refused again whatever follows
(`Refused`).  A refused byte in the tail is followed back to the bytes in front of it by
induction on the bytes that are still to come (`exists_refused`).

NUL begins no character and continues none, so a text decodes like its part in front of
the first NUL (`decodeHead_untilNul`).  Together these say what decoding at a position
gives (`decodeAt_spec`).
-/

set_option autoImplicit false

namespace TrustBoundary.Utf8

/-! ## Accepted bytes -/

/-- **Decoding gives a code point** exactly if its encoding comes next. -/
theorem decodeHead_eq_ok_iff_encodes {position codePoint width : Nat} {rest : Bytes} :
    decodeHead position rest = .ok (codePoint, width) ↔
      ∃ bytes, Encodes codePoint bytes ∧ bytes <+: rest ∧ bytes.length = width := by
  rw [decodeHead_eq_ok_iff]
  constructor
  · rintro ⟨letter, rfl, graphic, follow, length⟩
    exact ⟨_, encodes_iff.mpr ⟨letter, rfl, graphic, rfl⟩, follow, length⟩
  · rintro ⟨bytes, encodes, follow, length⟩
    obtain ⟨letter, rfl, graphic, rfl⟩ := encodes_iff.mp encodes
    exact ⟨letter, rfl, graphic, follow, length⟩

/-- A code point has one encoding. -/
theorem Encodes.unique {codePoint : Nat} {one other : Bytes} (encodes : Encodes codePoint one)
    (otherEncodes : Encodes codePoint other) : one = other := by
  obtain ⟨letter, rfl, _, rfl⟩ := encodes_iff.mp encodes
  exact shortest_iff.mp otherEncodes.shortest

/-- Every code point that decoding may give has an encoding. -/
theorem exists_encodes {codePoint : Nat} (scalar : IsScalar codePoint)
    (graphic : 0x20 ≤ codePoint) : ∃ bytes, Encodes codePoint bytes := by
  obtain ⟨letter, rfl⟩ := isScalar_iff.mp scalar
  exact ⟨_, scalar, graphic, shortest_iff.mpr rfl⟩

/-- An encoding decodes in front of any bytes. -/
theorem Encodes.decodeHead {codePoint : Nat} {bytes : Bytes} (encodes : Encodes codePoint bytes)
    (position : Nat) (others : Bytes) :
    decodeHead position (bytes ++ others) = .ok (codePoint, bytes.length) :=
  decodeHead_eq_ok_iff_encodes.mpr ⟨bytes, encodes, List.prefix_append _ _, rfl⟩

/-! ## The refused byte -/

variable {count position bits : Nat} {low high : UInt8}

/-- A byte between the bounds is read. -/
theorem readTail_cons {byte : UInt8} (above : low ≤ byte) (below : byte ≤ high) (others : Bytes) :
    readTail (count + 1) low high position bits (byte :: others) =
      readTail count 0x80 0xBF (position + 1) (bits * 64 + (byte.toNat - 0x80)) others :=
  if_pos ⟨above, below⟩

/-- A byte outside the bounds is refused. -/
theorem readTail_of_outside {rest : Bytes}
    (outside : ¬(low ≤ rest.byteAt 0 ∧ rest.byteAt 0 ≤ high)) :
    readTail (count + 1) low high position bits rest =
      .error (.invalidContinuation (rest.byteAt 0) position) :=
  if_neg outside

/-- No bits are missing that tail bytes cannot bring. -/
theorem exists_readTail_fill (count position bits : Nat) : ∃ value,
    readTail count 0x80 0xBF position bits (List.replicate count 0x80) = .ok value := by
  induction count generalizing position bits with
  | zero => exact ⟨bits, rfl⟩
  | succ count ih =>
      rw [List.replicate_succ, readTail_cons (by decide) (by decide)]
      exact ih _ _

/-- The tail bytes `read` have been read and the next byte is refused: what was read can be
completed, and the byte is refused whatever follows it. -/
structure Refused (count : Nat) (low high : UInt8) (position bits : Nat) (read : Bytes)
    (byte : UInt8) : Prop where
  completes : ∃ fill value, fill ≠ [] ∧ read.length + fill.length = count ∧
    readTail count low high position bits (read ++ fill) = .ok value
  refuses : ∀ others, readTail count low high position bits (read ++ byte :: others) =
    .error (.invalidContinuation byte (position + read.length))

/-- The first tail byte may be the refused one. -/
theorem Refused.of_outside {byte : UInt8} (ordered : low ≤ high)
    (outside : ¬(low ≤ byte ∧ byte ≤ high)) :
    Refused (count + 1) low high position bits [] byte where
  completes := by
    obtain ⟨value, reads⟩ := exists_readTail_fill count (position + 1)
      (bits * 64 + (low.toNat - 0x80))
    refine ⟨low :: List.replicate count 0x80, value, List.cons_ne_nil _ _, ?_, ?_⟩
    · rw [List.length_nil, List.length_cons, List.length_replicate, Nat.zero_add]
    · rw [List.nil_append, readTail_cons (UInt8.le_refl _) ordered, reads]
  refuses others := readTail_of_outside outside

/-- A byte that is read stands in front of the refused one. -/
theorem Refused.cons {next byte : UInt8} {read : Bytes} (above : low ≤ next) (below : next ≤ high)
    (refused : Refused count 0x80 0xBF (position + 1) (bits * 64 + (next.toNat - 0x80)) read byte) :
    Refused (count + 1) low high position bits (next :: read) byte where
  completes := by
    obtain ⟨fill, value, some, counted, reads⟩ := refused.completes
    refine ⟨fill, value, some, ?_, ?_⟩
    · rw [List.length_cons, ← counted, Nat.add_right_comm]
    · rw [List.cons_append, readTail_cons above below, reads]
  refuses others := by
    rw [List.cons_append, readTail_cons above below, refused.refuses, List.length_cons,
      Nat.add_right_comm, Nat.add_assoc]

/-- **Where reading the tail fails**, it refuses a byte behind the ones that were read. -/
theorem exists_refused {rest : Bytes} {malformation : Malformation} (low_ge : 0x80 ≤ low)
    (ordered : low ≤ high)
    (fails : readTail count low high position bits rest = .error malformation) :
    ∃ read byte, malformation = .invalidContinuation byte (position + read.length) ∧
      read <+: rest ∧ rest.byteAt read.length = byte ∧
      Refused count low high position bits read byte := by
  induction count generalizing low high position bits rest with
  | zero => cases fails
  | succ count ih =>
      by_cases inside : low ≤ rest.byteAt 0 ∧ rest.byteAt 0 ≤ high
      · cases rest with
        | nil => exact absurd (UInt8.le_trans low_ge inside.1) (by decide)
        | cons next others =>
            have within : low ≤ next ∧ next ≤ high := inside
            rw [readTail_cons within.1 within.2] at fails
            obtain ⟨read, byte, rfl, follow, isByte, refused⟩ :=
              ih (by decide) (by decide) fails
            refine ⟨next :: read, byte, ?_, List.cons_prefix_cons.mpr ⟨rfl, follow⟩, isByte,
              refused.cons within.1 within.2⟩
            rw [List.length_cons, Nat.add_right_comm, Nat.add_assoc]
      · rw [readTail_of_outside inside] at fails
        cases fails
        exact ⟨[], _, rfl, List.nil_prefix, rfl, .of_outside ordered inside⟩

/-- What a first byte announces leaves room for a second one. -/
theorem announced_ordered {lead : UInt8} {announcement : Announcement}
    (announces : announced lead = some announcement) : announcement.low ≤ announcement.high := by
  unfold announced at announces
  -- one case for each line of the grammar
  repeat' split at announces
  all_goals cases announces
  all_goals
    dsimp only
    decide

section

variable {lead byte : UInt8} {announcement : Announcement} {read : Bytes}

/-- What was read in front of a refused byte begins an encoding, and is not all of it. -/
theorem Refused.exists_encodes (announces : announced lead = some announcement)
    (refused : Refused announcement.following announcement.low announcement.high (position + 1)
      announcement.leadBits read byte) :
    ∃ codePoint bytes, Encodes codePoint bytes ∧ lead :: read <+: bytes ∧ lead :: read ≠ bytes := by
  obtain ⟨fill, value, some, counted, reads⟩ := refused.completes
  have decodes := decodeHead_eq_readTail announces position (read ++ fill)
  rw [reads] at decodes
  obtain ⟨bytes, encodes, whole, width⟩ := decodeHead_eq_ok_iff_encodes.mp decodes
  -- all the bytes that were appended belong to the encoding
  have length : bytes.length = (lead :: (read ++ fill)).length := by
    rw [width, ← counted, List.length_cons, List.length_append]
  obtain rfl := whole.eq_of_length length
  refine ⟨value, _, encodes, List.prefix_append (lead :: read) fill, fun same => some ?_⟩
  exact List.self_eq_append_right.mp (List.cons.inj same).2

/-- With a refused byte behind it, what was read begins no encoding. -/
theorem Refused.not_prefix (announces : announced lead = some announcement)
    (refused : Refused announcement.following announcement.low announcement.high (position + 1)
      announcement.leadBits read byte) {codePoint : Nat} {bytes : Bytes}
    (encodes : Encodes codePoint bytes) : ¬(lead :: read) ++ [byte] <+: bytes := by
  rintro ⟨rest, rfl⟩
  have decodes := encodes.decodeHead position []
  rw [List.append_nil, List.append_assoc, List.cons_append, decodeHead_eq_readTail announces,
    List.singleton_append, refused.refuses] at decodes
  cases decodes

end

/-- **Where decoding refuses a byte** behind the first one, the bytes in front of it are a
proper prefix of an encoding, and with it they are a prefix of none. -/
theorem decodeHead_refuses {position refusedAt : Nat} {rest : Bytes} {byte : UInt8}
    (fails : decodeHead position rest = .error (.invalidContinuation byte refusedAt)) :
    ∃ front, front <+: rest ∧ front ≠ [] ∧ refusedAt = position + front.length ∧
      rest.byteAt front.length = byte ∧
      (∃ codePoint bytes, Encodes codePoint bytes ∧ front <+: bytes ∧ front ≠ bytes) ∧
      ∀ codePoint bytes, Encodes codePoint bytes → ¬front ++ [byte] <+: bytes := by
  obtain ⟨_, refused | refused⟩ | ⟨lead, others, rfl, graphic, ascii⟩ |
    ⟨lead, others, announcement, rfl, announces⟩ := decodeHead_cases position rest
  · rw [refused] at fails
    cases fails
  · rw [refused] at fails
    cases fails
  · rw [decodeHead_of_ascii others graphic ascii] at fails
    cases fails
  · obtain ⟨_, _, _, _, low_ge, _⟩ := announced_spec announces
    rw [decodeHead_eq_readTail announces] at fails
    cases outcome : readTail announcement.following announcement.low announcement.high
        (position + 1) announcement.leadBits others with
    | ok codePoint =>
        rw [outcome] at fails
        cases fails
    | error malformation =>
        obtain ⟨read, refusedByte, rfl, follow, isByte, refused⟩ :=
          exists_refused low_ge (announced_ordered announces) outcome
        rw [outcome] at fails
        cases fails
        refine ⟨lead :: read, List.cons_prefix_cons.mpr ⟨rfl, follow⟩, List.cons_ne_nil _ _,
          ?_, isByte, refused.exists_encodes announces, fun codePoint bytes =>
            refused.not_prefix announces⟩
        rw [List.length_cons, Nat.add_right_comm, Nat.add_assoc]

/-! ## Bytes behind a NUL -/

/-- Reading the tail looks at no byte behind a NUL. -/
theorem readTail_untilNul (low_ge : 0x80 ≤ low) (rest : Bytes) :
    readTail count low high position bits rest.untilNul =
      readTail count low high position bits rest := by
  induction count generalizing low high position bits rest with
  | zero => rfl
  | succ count ih =>
      cases rest with
      | nil => rfl
      | cons next others =>
          by_cases nul : next = 0
          · have outside : ¬(low ≤ 0 ∧ 0 ≤ high) := fun inside =>
              absurd (UInt8.le_trans low_ge inside.1) (by decide)
            rw [nul, Bytes.untilNul_nul, readTail_of_outside outside, readTail_of_outside outside]
            rfl
          · rw [Bytes.untilNul_cons nul]
            by_cases inside : low ≤ next ∧ next ≤ high
            · rw [readTail_cons inside.1 inside.2, readTail_cons inside.1 inside.2, ih (by decide)]
            · rw [readTail_of_outside inside, readTail_of_outside inside]
              rfl

/-- **Decoding looks at no byte behind a NUL.** -/
theorem decodeHead_untilNul (position : Nat) (rest : Bytes) :
    decodeHead position rest.untilNul = decodeHead position rest := by
  cases rest with
  | nil => rfl
  | cons lead others =>
      by_cases nul : lead = 0
      · rw [nul, Bytes.untilNul_nul]
        rfl
      · rw [Bytes.untilNul_cons nul]
        cases announces : announced lead with
        | none => simp only [decodeHead, Bytes.byteAt, List.getD_cons_zero, announces]
        | some announcement =>
            obtain ⟨_, _, _, _, low_ge, _⟩ := announced_spec announces
            rw [decodeHead_eq_readTail announces, decodeHead_eq_readTail announces,
              readTail_untilNul low_ge]

/-! ## Decoding at a position -/

/-- A code point is decoded exactly if as many bytes as it took are its encoding. -/
theorem decodeAt_eq_ok_iff {text : Bytes} {position codePoint width : Nat} :
    decodeAt text position = .ok (codePoint, width) ↔
      (text.slice position width).length = width ∧
      Encodes codePoint (text.slice position width) := by
  rw [decodeAt, decodeHead_eq_ok_iff_encodes]
  constructor
  · rintro ⟨bytes, encodes, follow, rfl⟩
    rw [Bytes.slice, ← List.prefix_iff_eq_take.mp follow]
    exact ⟨rfl, encodes⟩
  · rintro ⟨length, encodes⟩
    exact ⟨_, encodes, List.take_prefix _ _, length⟩

/-- A byte that is refused stands behind the position, and the bytes between them are a
proper prefix of an encoding. -/
theorem decodeAt_refuses {text : Bytes} {position refusedAt : Nat} {byte : UInt8}
    (fails : decodeAt text position = .error (.invalidContinuation byte refusedAt)) :
    position < refusedAt ∧ refusedAt ≤ text.length ∧ text.byteAt refusedAt = byte ∧
      (∃ codePoint bytes, Encodes codePoint bytes ∧
        text.slice position (refusedAt - position) <+: bytes ∧
        text.slice position (refusedAt - position) ≠ bytes) ∧
      ∀ codePoint bytes, Encodes codePoint bytes →
        ¬text.slice position (refusedAt - position) ++ [byte] <+: bytes := by
  obtain ⟨front, ⟨rest, whole⟩, some, rfl, isByte, completable, wrong⟩ := decodeHead_refuses fails
  have read : text.slice position front.length = front := by
    rw [Bytes.slice, ← whole, List.take_left]
  have length := congrArg List.length whole
  rw [List.length_append, List.length_drop] at length
  have positive := List.length_pos_iff.mpr some
  rw [Nat.add_sub_cancel_left, read]
  refine ⟨by omega, by omega, ?_, completable, wrong⟩
  rw [← isByte, Bytes.byteAt, Bytes.byteAt, List.getD_eq_getElem?_getD,
    List.getD_eq_getElem?_getD, List.getElem?_drop]

/-- **What decoding at a position gives.**  A code point comes out exactly if the bytes there
are the shortest form of it and it is a scalar value from the space on; so every such value
comes back from its encoding, whatever stands around it, and from no other bytes.  A refused
byte is the first one that does not continue an encoding.  Nothing behind the first NUL from
the position on is looked at. -/
theorem decodeAt_spec (text : Bytes) (position : Nat) :
    (∀ codePoint width, decodeAt text position = .ok (codePoint, width) ↔
      (text.slice position width).length = width ∧ IsScalar codePoint ∧ 0x20 ≤ codePoint ∧
        Shortest codePoint (text.slice position width)) ∧
    (∀ codePoint, IsScalar codePoint → 0x20 ≤ codePoint → ∃ bytes, Shortest codePoint bytes ∧
      ∀ front back, decodeAt (front ++ bytes ++ back) front.length =
        .ok (codePoint, bytes.length)) ∧
    (∀ other otherPosition codePoint width otherWidth,
      decodeAt text position = .ok (codePoint, width) →
      decodeAt other otherPosition = .ok (codePoint, otherWidth) →
      text.slice position width = other.slice otherPosition otherWidth) ∧
    (∀ byte refusedAt, decodeAt text position = .error (.invalidContinuation byte refusedAt) →
      position < refusedAt ∧ refusedAt ≤ text.length ∧ text.byteAt refusedAt = byte ∧
      (∃ codePoint bytes, Encodes codePoint bytes ∧
        text.slice position (refusedAt - position) <+: bytes ∧
        text.slice position (refusedAt - position) ≠ bytes) ∧
      ∀ codePoint bytes, Encodes codePoint bytes →
        ¬text.slice position (refusedAt - position) ++ [byte] <+: bytes) ∧
    ∀ other, Bytes.untilNul (text.drop position) = Bytes.untilNul (other.drop position) →
      decodeAt text position = decodeAt other position := by
  refine ⟨fun codePoint width => ?_, fun codePoint scalar graphic => ?_,
    fun other otherPosition codePoint width otherWidth decodes otherDecodes => ?_,
    fun byte refusedAt fails => decodeAt_refuses fails, fun other same => ?_⟩
  · rw [decodeAt_eq_ok_iff]
    exact and_congr_right fun _ => ⟨fun ⟨scalar, graphic, shortest⟩ => ⟨scalar, graphic, shortest⟩,
      fun ⟨scalar, graphic, shortest⟩ => ⟨scalar, graphic, shortest⟩⟩
  · obtain ⟨bytes, encodes⟩ := exists_encodes scalar graphic
    refine ⟨bytes, encodes.shortest, fun front back => ?_⟩
    rw [decodeAt, List.append_assoc, List.drop_left, encodes.decodeHead]
  · exact (decodeAt_eq_ok_iff.mp decodes).2.unique (decodeAt_eq_ok_iff.mp otherDecodes).2
  · rw [decodeAt, decodeAt, ← decodeHead_untilNul, same, decodeHead_untilNul]

/-- The sign of the euro behind a letter, whole and cut off after two of its three bytes. -/
theorem decodeAt_spec_euroSign :
    decodeAt [0x41, 0xE2, 0x82, 0xAC] 1 = .ok (0x20AC, 3) ∧
    (∃ bytes, Shortest 0x20AC bytes ∧
      ∀ front back, decodeAt (front ++ bytes ++ back) front.length = .ok (0x20AC, bytes.length)) ∧
    Bytes.slice [0x41, 0xE2, 0x82, 0xAC] 1 3 = Bytes.slice [0xE2, 0x82, 0xAC, 0xAC] 0 3 ∧
    (∃ codePoint bytes, Encodes codePoint bytes ∧ [0xE2, 0x82] <+: bytes ∧ [0xE2, 0x82] ≠ bytes) ∧
    (∀ codePoint bytes, Encodes codePoint bytes → ¬[0xE2, 0x82, 0x00] <+: bytes) ∧
    decodeAt [0x41, 0xE2, 0x82, 0x00, 0xAC] 1 = decodeAt [0x41, 0xE2, 0x82, 0x00, 0x41] 1 := by
  obtain ⟨_, decodes, unique, _, _⟩ := decodeAt_spec [0x41, 0xE2, 0x82, 0xAC] 1
  obtain ⟨_, _, _, refuses, untilNul⟩ := decodeAt_spec [0x41, 0xE2, 0x82, 0x00, 0xAC] 1
  obtain ⟨_, _, _, completable, wrong⟩ := refuses 0x00 3 rfl
  exact ⟨rfl, decodes 0x20AC (by decide) (by decide),
    unique [0xE2, 0x82, 0xAC, 0xAC] 0 0x20AC 3 3 rfl rfl, completable, wrong,
    untilNul [0x41, 0xE2, 0x82, 0x00, 0x41] rfl⟩

end TrustBoundary.Utf8
