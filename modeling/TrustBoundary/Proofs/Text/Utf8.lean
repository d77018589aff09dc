import TrustBoundary.Text.Utf8

/-!
# Decoding undoes encoding

The encoding of a character is its standard UTF-8 encoding, `String.utf8EncodeChar`.
It consists of a first byte and of as many tail bytes as the code point needs
(`utf8EncodeChar_eq`); a tail byte holds six bits of the code point.  Reading tail
bytes checks and collects exactly these (`readTail_eq_ok_iff`), and what a first byte
announces says exactly which code points are encoded with it (`announced_spec`).

So decoding gives a code point exactly if its encoding comes next, and the code point
is no control character (`decodeHead_eq_ok_iff`).
-/

set_option autoImplicit false

namespace TrustBoundary.Utf8

/-! ## The shape of an encoding -/

/-- The bits of a code point above its lowest `count` groups of six. -/
def bitsAbove : (count codePoint : Nat) → Nat
  | 0, codePoint => codePoint
  | count + 1, codePoint => bitsAbove count codePoint / 64

/-- The bytes that hold the lowest `count` groups of six bits of a code point. -/
def tailBytes : (count codePoint : Nat) → Bytes
  | 0, _ => []
  | count + 1, codePoint =>
    UInt8.ofNat (bitsAbove count codePoint % 64 + 0x80) :: tailBytes count codePoint

/-- How many tail bytes the encoding of a code point has. -/
def following (codePoint : Nat) : Nat :=
  if codePoint ≤ 0x7F then 0
  else if codePoint ≤ 0x7FF then 1
  else if codePoint ≤ 0xFFFF then 2
  else 3

theorem following_eq_zero_iff {codePoint : Nat} : following codePoint = 0 ↔ codePoint ≤ 0x7F := by
  grind [following]

theorem following_eq_one_iff {codePoint : Nat} :
    following codePoint = 1 ↔ 0x7F < codePoint ∧ codePoint ≤ 0x7FF := by
  grind [following]

theorem following_eq_two_iff {codePoint : Nat} :
    following codePoint = 2 ↔ 0x7FF < codePoint ∧ codePoint ≤ 0xFFFF := by
  grind [following]

theorem following_eq_three_iff {codePoint : Nat} : following codePoint = 3 ↔
    0xFFFF < codePoint := by
  grind [following]

/-- The least first byte of an encoding with `count` tail bytes, which marks it as such. -/
def leadMark (count : Nat) : Nat :=
  match count with
  | 0 => 0
  | 1 => 0xC0
  | 2 => 0xE0
  | 3 => 0xF0
  | _ => 0xF8

theorem leadMark_mono {fewer more : Nat} (ordered : fewer ≤ more) :
    leadMark fewer ≤ leadMark more := by
  induction ordered with
  | refl => exact Nat.le_refl _
  | @step more _ ih =>
      refine Nat.le_trans ih ?_
      match more with
      | 0 | 1 | 2 | 3 => decide
      | _ + 4 => exact Nat.le_refl _

/-- The first byte of the encoding of a code point. -/
def leadByte (codePoint : Nat) : UInt8 :=
  UInt8.ofNat (bitsAbove (following codePoint) codePoint + leadMark (following codePoint))

@[simp] theorem length_tailBytes (count codePoint : Nat) :
    (tailBytes count codePoint).length = count := by
  induction count with
  | zero => rfl
  | succ count ih => rw [tailBytes, List.length_cons, ih]

/-- Tail bytes are no ASCII characters. -/
theorem le_of_mem_tailBytes {count codePoint : Nat} {byte : UInt8}
    (member : byte ∈ tailBytes count codePoint) : 0x80 ≤ byte := by
  induction count with
  | zero => exact nomatch member
  | succ count ih =>
      rcases List.mem_cons.mp member with rfl | member
      · rw [UInt8.le_iff_toNat_le, UInt8.toNat_ofNat']
        have : (0x80 : UInt8).toNat = 0x80 := rfl
        omega
      · exact ih member

/-- Code points end at 10FFFF. -/
theorem codePoint_lt (letter : Char) : letter.toNat < 0x110000 := by
  rcases letter.valid with below | ⟨_, below⟩
  · exact Nat.lt_trans below (by decide)
  · exact below

/-- The encoding of a character is its first byte and its tail bytes. -/
theorem utf8EncodeChar_eq (letter : Char) : String.utf8EncodeChar letter =
    leadByte letter.toNat :: tailBytes (following letter.toNat) letter.toNat := by
  have small := codePoint_lt letter
  have value : letter.val.toNat = letter.toNat := rfl
  unfold String.utf8EncodeChar leadByte following
  simp only [value]
  split
  · simp [tailBytes, bitsAbove, leadMark]
  · split
    · simp only [leadMark, tailBytes, bitsAbove]
      rw [Nat.mod_eq_of_lt (by omega : letter.toNat / 64 < 32)]
    · split
      · simp only [leadMark, tailBytes, bitsAbove, Nat.div_div_eq_div_mul, Nat.reduceMul]
        rw [Nat.mod_eq_of_lt (by omega : letter.toNat / 4096 < 16)]
      · simp only [leadMark, tailBytes, bitsAbove, Nat.div_div_eq_div_mul, Nat.reduceMul]
        rw [Nat.mod_eq_of_lt (by omega : letter.toNat / 262144 < 8)]

/-! ## Reading tail bytes -/

/-- One more byte is read if there is one between the bounds. -/
theorem readTail_succ_eq_ok_iff {count position bits codePoint : Nat} {low high : UInt8}
    {rest : Bytes} (low_ge : 0x80 ≤ low) :
    readTail (count + 1) low high position bits rest = .ok codePoint ↔
      ∃ byte others, rest = byte :: others ∧ low ≤ byte ∧ byte ≤ high ∧
        readTail count 0x80 0xBF (position + 1) (bits * 64 + (byte.toNat - 0x80)) others =
          .ok codePoint := by
  cases rest with
  | nil =>
      have outside : ¬(low ≤ 0 ∧ 0 ≤ high) := fun inside =>
        absurd (UInt8.le_trans low_ge inside.1) (by decide)
      have refused : readTail (count + 1) low high position bits [] =
          .error (.invalidContinuation 0 position) := if_neg outside
      rw [refused]
      constructor
      · intro impossible
        cases impossible
      · rintro ⟨_, _, impossible, _⟩
        cases impossible
  | cons byte others =>
      by_cases inside : low ≤ byte ∧ byte ≤ high
      · have continues : readTail (count + 1) low high position bits (byte :: others) =
            readTail count 0x80 0xBF (position + 1) (bits * 64 + (byte.toNat - 0x80)) others :=
          if_pos inside
        rw [continues]
        constructor
        · intro read
          exact ⟨byte, others, rfl, inside.1, inside.2, read⟩
        · rintro ⟨_, _, same, _, _, read⟩
          cases same
          exact read
      · have refused : readTail (count + 1) low high position bits (byte :: others) =
            .error (.invalidContinuation byte position) := if_neg inside
        rw [refused]
        constructor
        · intro impossible
          cases impossible
        · rintro ⟨_, _, same, above, below, _⟩
          cases same
          exact absurd ⟨above, below⟩ inside

/-- A byte adds the next six bits of a code point exactly if it is their tail byte. -/
theorem tail_byte_iff {byte : UInt8} {bits value : Nat} :
    (0x80 ≤ byte ∧ byte ≤ 0xBF) ∧ value = bits * 64 + (byte.toNat - 0x80) ↔
      value / 64 = bits ∧ UInt8.ofNat (value % 64 + 0x80) = byte := by
  have least : (0x80 : UInt8).toNat = 0x80 := rfl
  have greatest : (0xBF : UInt8).toNat = 0xBF := rfl
  rw [UInt8.le_iff_toNat_le, UInt8.le_iff_toNat_le, ← UInt8.toNat_inj, UInt8.toNat_ofNat', least,
    greatest]
  omega

/-- **Reading tail bytes** completes the bits to a code point exactly if its tail bytes
come next. -/
theorem readTail_eq_ok_iff {count position bits codePoint : Nat} {rest : Bytes} :
    readTail count 0x80 0xBF position bits rest = .ok codePoint ↔
      bitsAbove count codePoint = bits ∧ tailBytes count codePoint <+: rest := by
  induction count generalizing position bits rest with
  | zero => simp [readTail, tailBytes, bitsAbove, eq_comm]
  | succ count ih =>
      rw [readTail_succ_eq_ok_iff (UInt8.le_refl _), bitsAbove, tailBytes]
      constructor
      · rintro ⟨byte, others, rfl, above, below, read⟩
        obtain ⟨value, follow⟩ := ih.mp read
        obtain ⟨lead, isByte⟩ := tail_byte_iff.mp ⟨⟨above, below⟩, value⟩
        exact ⟨lead, List.cons_prefix_cons.mpr ⟨isByte, follow⟩⟩
      · rintro ⟨lead, others, rfl⟩
        obtain ⟨⟨above, below⟩, value⟩ := tail_byte_iff.mpr ⟨lead, rfl⟩
        exact ⟨_, _, rfl, above, below, ih.mpr ⟨value, List.prefix_append _ _⟩⟩

/-- With bounds for the first of the tail bytes, they bound the six bits that it holds. -/
theorem readTail_bounded_eq_ok_iff {count position bits codePoint : Nat} {low high : UInt8}
    {rest : Bytes} (low_ge : 0x80 ≤ low) (high_le : high ≤ 0xBF) :
    readTail (count + 1) low high position bits rest = .ok codePoint ↔
      bitsAbove (count + 1) codePoint = bits ∧ tailBytes (count + 1) codePoint <+: rest ∧
        low.toNat ≤ bitsAbove count codePoint % 64 + 0x80 ∧
        bitsAbove count codePoint % 64 + 0x80 ≤ high.toNat := by
  have value : (UInt8.ofNat (bitsAbove count codePoint % 64 + 0x80)).toNat =
      bitsAbove count codePoint % 64 + 0x80 := by
    rw [UInt8.toNat_ofNat']
    omega
  have unbounded := @readTail_eq_ok_iff (count + 1) position bits codePoint rest
  rw [readTail_succ_eq_ok_iff (UInt8.le_refl _)] at unbounded
  rw [readTail_succ_eq_ok_iff low_ge]
  constructor
  · rintro ⟨byte, others, rfl, above, below, read⟩
    obtain ⟨lead, follow⟩ := unbounded.mp
      ⟨byte, others, rfl, UInt8.le_trans low_ge above, UInt8.le_trans below high_le, read⟩
    have isByte := (List.cons_prefix_cons.mp follow).1
    rw [← isByte, UInt8.le_iff_toNat_le, value] at above below
    exact ⟨lead, follow, above, below⟩
  · rintro ⟨lead, follow, above, below⟩
    obtain ⟨byte, others, rfl, _, _, read⟩ := unbounded.mpr ⟨lead, follow⟩
    have isByte := (List.cons_prefix_cons.mp follow).1
    rw [← value, isByte] at above below
    exact ⟨byte, others, rfl, UInt8.le_iff_toNat_le.mpr above,
      UInt8.le_iff_toNat_le.mpr below, read⟩

/-! ## First bytes -/

/-- The first byte of the encoding of a longer character holds the remaining bits, next to
a mark that stays recognisable. -/
theorem toNat_leadByte {letter : Char} (long : 0x7F < letter.toNat) :
    (leadByte letter.toNat).toNat =
        bitsAbove (following letter.toNat) letter.toNat + leadMark (following letter.toNat) ∧
      (leadByte letter.toNat).toNat < leadMark (following letter.toNat + 1) ∧
      0xC2 ≤ (leadByte letter.toNat).toNat ∧ (leadByte letter.toNat).toNat ≤ 0xF4 := by
  have small := codePoint_lt letter
  rw [leadByte, UInt8.toNat_ofNat']
  unfold following
  split
  · omega
  · split
    · simp only [leadMark, bitsAbove]
      omega
    · split <;> simp only [leadMark, bitsAbove] <;> omega

/-- Some first bytes announce tail bytes. -/
theorem exists_announced_iff {lead : UInt8} :
    (∃ announcement, announced lead = some announcement) ↔
    0xC2 ≤ lead.toNat ∧ lead.toNat ≤ 0xF4 := by
  simp only [announced, UInt8.le_iff_toNat_le, ← UInt8.toNat_inj, UInt8.reduceToNat]
  repeat' split
  all_goals simp
  all_goals omega

/-- **What a first byte announces**: as many tail bytes as it is marked for, and such
bounds that the code points between them are the characters with that many. -/
theorem announced_spec {lead : UInt8} {announcement : Announcement}
    (announces : announced lead = some announcement) :
    0 < announcement.following ∧ announcement.following ≤ 3 ∧
      lead.toNat = announcement.leadBits + leadMark announcement.following ∧
      lead.toNat < leadMark (announcement.following + 1) ∧
      0x80 ≤ announcement.low ∧ announcement.high ≤ 0xBF ∧
      ∀ codePoint, bitsAbove announcement.following codePoint = announcement.leadBits →
        (announcement.low.toNat ≤ bitsAbove (announcement.following - 1) codePoint % 64 + 0x80 ∧
            bitsAbove (announcement.following - 1) codePoint % 64 + 0x80 ≤ announcement.high.toNat ↔
          codePoint.isValidChar ∧ following codePoint = announcement.following) := by
  simp only [announced, UInt8.le_iff_toNat_le, ← UInt8.toNat_inj, UInt8.reduceToNat] at announces
  -- one case for each line of the grammar
  repeat' split at announces
  all_goals cases announces
  all_goals
    simp only [leadMark, bitsAbove, Nat.isValidChar, following_eq_one_iff, following_eq_two_iff,
      following_eq_three_iff, UInt8.reduceToNat, Nat.reduceSub]
    refine ⟨by decide, by decide, by omega, by omega, by decide, by decide, ?_⟩
    omega

/-- The first byte of the encoding of a longer character announces its tail bytes. -/
theorem announced_leadByte {letter : Char} (long : 0x7F < letter.toNat) :
    ∃ announcement, announced (leadByte letter.toNat) = some announcement ∧
      announcement.following = following letter.toNat ∧
      announcement.leadBits = bitsAbove (following letter.toNat) letter.toNat := by
  obtain ⟨value, marked, above, below⟩ := toNat_leadByte long
  obtain ⟨announcement, announces⟩ := exists_announced_iff.mpr ⟨above, below⟩
  obtain ⟨positive, atMost, announcedValue, announcedMark, _⟩ := announced_spec announces
  have least : leadMark (following letter.toNat) ≤ (leadByte letter.toNat).toNat := by
    rw [value]
    exact Nat.le_add_left _ _
  -- the ranges between the marks do not overlap
  have same : announcement.following = following letter.toNat := by
    rcases Nat.lt_trichotomy announcement.following (following letter.toNat) with less | same | more
    · have between : leadMark (announcement.following + 1) ≤ leadMark (following letter.toNat) :=
        leadMark_mono less
      omega
    · exact same
    · have between : leadMark (following letter.toNat + 1) ≤ leadMark announcement.following :=
        leadMark_mono more
      omega
  rw [same] at announcedValue
  exact ⟨announcement, announces, same, Nat.add_right_cancel (announcedValue.symm.trans value)⟩

/-! ## Characters -/

/-- The encoding of an ASCII character is one byte with its value. -/
theorem utf8EncodeChar_of_ascii {letter : Char} (ascii : letter.toNat ≤ 0x7F) :
    String.utf8EncodeChar letter = [UInt8.ofNat letter.toNat] := by
  rw [utf8EncodeChar_eq, leadByte, following_eq_zero_iff.mpr ascii]
  simp [leadMark, tailBytes, bitsAbove]

/-- Decoding a longer character is reading the tail bytes that its first byte announces. -/
theorem decodeHead_eq_readTail {lead : UInt8} {announcement : Announcement}
    (announces : announced lead = some announcement) (position : Nat) (others : Bytes) :
    decodeHead position (lead :: others) =
      (readTail announcement.following announcement.low announcement.high (position + 1)
        announcement.leadBits others).map fun codePoint =>
          (codePoint, announcement.following + 1) := by
  have above := (exists_announced_iff.mp ⟨_, announces⟩).1
  have control : ¬lead < 0x20 := fun below => by
    have below : lead.toNat < 0x20 := UInt8.lt_iff_toNat_lt.mp below
    omega
  have ascii : ¬lead < 0x80 := fun below => by
    have below : lead.toNat < 0x80 := UInt8.lt_iff_toNat_lt.mp below
    omega
  simp only [decodeHead, Bytes.byteAt, List.getD_cons_zero, control, ascii, if_false, announces,
    List.tail_cons]

/-- A longer character decodes exactly if its first byte and its tail bytes come next. -/
theorem decodeHead_of_announced {position codePoint width : Nat} {lead : UInt8} {others : Bytes}
    {announcement : Announcement} (announces : announced lead = some announcement) :
    decodeHead position (lead :: others) = .ok (codePoint, width) ↔
      (codePoint.isValidChar ∧ following codePoint = announcement.following ∧
        bitsAbove announcement.following codePoint = announcement.leadBits ∧
        tailBytes announcement.following codePoint <+: others) ∧
        announcement.following + 1 = width := by
  obtain ⟨positive, _, _, _, low_ge, high_le, bounds⟩ := announced_spec announces
  obtain ⟨count, counted⟩ := Nat.exists_eq_add_one_of_ne_zero (Nat.ne_of_gt positive)
  have read := @readTail_bounded_eq_ok_iff count (position + 1) announcement.leadBits codePoint
    announcement.low announcement.high others low_ge high_le
  rw [← counted] at read
  have final : announcement.following - 1 = count := by omega
  rw [final] at bounds
  rw [decodeHead_eq_readTail announces]
  constructor
  · intro decodes
    cases outcome :
      readTail announcement.following announcement.low announcement.high (position + 1)
        announcement.leadBits others with
    | error malformation =>
        rw [outcome] at decodes
        cases decodes
    | ok found =>
        rw [outcome] at decodes
        cases decodes
        obtain ⟨bits, follow, within⟩ := read.mp outcome
        obtain ⟨valid, long⟩ := (bounds codePoint bits).mp within
        exact ⟨⟨valid, long, bits, follow⟩, rfl⟩
  · rintro ⟨⟨valid, long, bits, follow⟩, rfl⟩
    rw [read.mpr ⟨bits, follow, (bounds codePoint bits).mpr ⟨valid, long⟩⟩]
    rfl

/-- An ASCII byte that is no control character decodes as itself. -/
theorem decodeHead_of_ascii {position : Nat} {lead : UInt8} (others : Bytes)
    (graphic : 0x20 ≤ lead.toNat) (ascii : lead.toNat < 0x80) :
    decodeHead position (lead :: others) = .ok (lead.toNat, 1) := by
  have control : ¬lead < 0x20 := Nat.not_lt.mpr graphic
  have below : lead < 0x80 := ascii
  simp only [decodeHead, Bytes.byteAt, List.getD_cons_zero, control, below, if_true, if_false]

/-- Nothing that begins with a control character decodes. -/
theorem decodeHead_of_control {position : Nat} {lead : UInt8} (others : Bytes)
    (control : lead.toNat < 0x20) :
    decodeHead position (lead :: others) = .error (.controlCharacter lead) :=
  if_pos control

/-- Nothing decodes that begins with a byte which announces nothing. -/
theorem decodeHead_of_unannounced {position : Nat} {lead : UInt8} (others : Bytes)
    (outside : 0x80 ≤ lead.toNat) (unannounced : announced lead = none) :
    decodeHead position (lead :: others) = .error (.invalidLeadByte lead) := by
  have control : ¬lead < 0x20 := Nat.not_lt.mpr (Nat.le_trans (by decide) outside)
  have ascii : ¬lead < 0x80 := Nat.not_lt.mpr outside
  simp only [decodeHead, Bytes.byteAt, List.getD_cons_zero, control, ascii, if_false, unannounced]

/-- **Decoding an encoding** gives back its character, unless that is a control character. -/
theorem decodeHead_encode {position : Nat} {letter : Char} (graphic : 0x20 ≤ letter.toNat)
    (others : Bytes) : decodeHead position (String.utf8EncodeChar letter ++ others) =
      .ok (letter.toNat, (String.utf8EncodeChar letter).length) := by
  by_cases ascii : letter.toNat ≤ 0x7F
  · have value : (UInt8.ofNat letter.toNat).toNat = letter.toNat := by
      rw [UInt8.toNat_ofNat']
      omega
    rw [utf8EncodeChar_of_ascii ascii, List.singleton_append,
      decodeHead_of_ascii others (by omega) (by omega), value]
    rfl
  · obtain ⟨announcement, announces, same, bits⟩ := announced_leadByte (Nat.not_le.mp ascii)
    rw [utf8EncodeChar_eq, List.cons_append, decodeHead_of_announced announces, same, bits,
      List.length_cons, length_tailBytes]
    exact ⟨⟨letter.valid, rfl, rfl, List.prefix_append _ _⟩, rfl⟩

/-- **How decoding begins**: the first byte is refused, or it is a printable ASCII character, or
it announces tail bytes. -/
theorem decodeHead_cases (position : Nat) (rest : Bytes) :
    (∃ lead, decodeHead position rest = .error (.controlCharacter lead) ∨
      decodeHead position rest = .error (.invalidLeadByte lead)) ∨
    (∃ lead others, rest = lead :: others ∧ 0x20 ≤ lead.toNat ∧ lead.toNat < 0x80) ∨
    ∃ lead others announcement, rest = lead :: others ∧ announced lead = some announcement := by
  cases rest with
  | nil => exact .inl ⟨0, .inl rfl⟩
  | cons lead others =>
      by_cases control : lead.toNat < 0x20
      · exact .inl ⟨lead, .inl (decodeHead_of_control others control)⟩
      · by_cases ascii : lead.toNat < 0x80
        · exact .inr (.inl ⟨lead, others, rfl, Nat.not_lt.mp control, ascii⟩)
        · cases announces : announced lead with
          | none =>
              exact .inl
                ⟨lead, .inr (decodeHead_of_unannounced others (Nat.not_lt.mp ascii) announces)⟩
          | some announcement => exact .inr (.inr ⟨lead, others, announcement, rfl, announces⟩)

/-- What decodes begins with the encoding of a character. -/
theorem exists_letter_of_decodeHead {position codePoint width : Nat} {rest : Bytes}
    (decodes : decodeHead position rest = .ok (codePoint, width)) :
    ∃ letter : Char, letter.toNat = codePoint ∧ 0x20 ≤ codePoint ∧
      String.utf8EncodeChar letter <+: rest ∧ (String.utf8EncodeChar letter).length = width := by
  obtain ⟨_, refused | refused⟩ | ⟨lead, others, rfl, graphic, ascii⟩ |
    ⟨lead, others, announcement, rfl, announces⟩ := decodeHead_cases position rest
  · rw [refused] at decodes
    cases decodes
  · rw [refused] at decodes
    cases decodes
  · rw [decodeHead_of_ascii others graphic ascii] at decodes
    cases decodes
    have valid : lead.toNat.isValidChar := .inl (Nat.lt_trans ascii (by decide))
    have encoded : String.utf8EncodeChar (Char.ofNatAux lead.toNat valid) =
        [UInt8.ofNat lead.toNat] :=
      utf8EncodeChar_of_ascii (Nat.le_of_lt_succ ascii : _ ≤ 0x7F)
    refine ⟨Char.ofNatAux lead.toNat valid, rfl, graphic, ?_⟩
    rw [encoded, UInt8.ofNat_toNat]
    exact ⟨List.prefix_append [lead] others, rfl⟩
  · obtain ⟨⟨valid, long, bits, follow⟩, rfl⟩ := (decodeHead_of_announced announces).mp decodes
    obtain ⟨positive, _, value, _⟩ := announced_spec announces
    have isLead : leadByte codePoint = lead := by
      rw [leadByte, long, bits, ← value]
      exact UInt8.ofNat_toNat
    have above : ¬codePoint ≤ 0x7F := by
      rw [← following_eq_zero_iff]
      omega
    refine ⟨Char.ofNatAux codePoint valid, rfl, by omega, ?_⟩
    have encoded : String.utf8EncodeChar (Char.ofNatAux codePoint valid) =
        lead :: tailBytes announcement.following codePoint := by
      rw [utf8EncodeChar_eq, ← isLead, ← long]
      rfl
    rw [encoded, List.length_cons, length_tailBytes]
    exact ⟨List.cons_prefix_cons.mpr ⟨rfl, follow⟩, rfl⟩

/-- **Decoding gives a character exactly if its encoding comes next**, unless it is a
control character. -/
theorem decodeHead_eq_ok_iff {position codePoint width : Nat} {rest : Bytes} :
    decodeHead position rest = .ok (codePoint, width) ↔
      ∃ letter : Char, letter.toNat = codePoint ∧ 0x20 ≤ codePoint ∧
        String.utf8EncodeChar letter <+: rest ∧ (String.utf8EncodeChar letter).length = width := by
  refine ⟨exists_letter_of_decodeHead, ?_⟩
  rintro ⟨letter, rfl, graphic, ⟨others, rfl⟩, rfl⟩
  exact decodeHead_encode graphic others

/-- At most one character that is no control character comes next. -/
theorem eq_of_encode_prefix {one other : Char} {text : Bytes} (graphic : 0x20 ≤ one.toNat)
    (otherGraphic : 0x20 ≤ other.toNat) (first : String.utf8EncodeChar one <+: text)
    (second : String.utf8EncodeChar other <+: text) : one = other := by
  have decodes := @decodeHead_eq_ok_iff 0 one.toNat _ text |>.mpr ⟨one, rfl, graphic, first, rfl⟩
  rw [decodeHead_eq_ok_iff.mpr ⟨other, rfl, otherGraphic, second, rfl⟩] at decodes
  exact Char.toNat_inj.mp (Prod.mk.inj (Except.ok.inj decodes)).1.symm

/-- An ASCII byte in the encoding of a character is all of it. -/
theorem utf8EncodeChar_of_mem {letter : Char} {byte : UInt8} (ascii : byte.toNat < 0x80)
    (member : byte ∈ String.utf8EncodeChar letter) : String.utf8EncodeChar letter = [byte] := by
  by_cases short : letter.toNat ≤ 0x7F
  · rw [utf8EncodeChar_of_ascii short] at member ⊢
    rw [List.mem_singleton.mp member]
  · have lead := (toNat_leadByte (Nat.not_le.mp short)).2.2.1
    rw [utf8EncodeChar_eq] at member
    rcases List.mem_cons.mp member with rfl | member
    · omega
    · exact absurd (le_of_mem_tailBytes member) (Nat.not_le.mpr ascii)

end TrustBoundary.Utf8
