import Mathlib.Algebra.Group.Nat.Defs
import TrustBoundary.Proofs.Text.Utf8

/-!
# The shortest form of a code point

UTF-8 has four forms for a code point, of one to four bytes.  The first byte is marked
with the number of bytes and holds the upper bits, and each tail byte holds six bits
(`Form`).  A code point that fits into one form also fits into every longer one, and it
is to be written in the shortest (`Shortest`).

These are statements about bits, and say nothing of how a character is found or
encoded.  For a scalar value, the shortest form is the standard encoding of the
character with this code point (`shortest_iff`), so every scalar value has exactly one.
-/

set_option autoImplicit false

namespace TrustBoundary.Utf8

/-- The code points that are characters: all but surrogates, up to the last one. -/
def IsScalar (codePoint : Nat) : Prop :=
  codePoint ≤ 0x10FFFF ∧ ¬(0xD800 ≤ codePoint ∧ codePoint ≤ 0xDFFF)

instance : DecidablePred IsScalar := fun codePoint =>
  inferInstanceAs (Decidable (codePoint ≤ 0x10FFFF ∧ ¬(0xD800 ≤ codePoint ∧ codePoint ≤ 0xDFFF)))

/-- The bytes that write a code point in one of the four forms of UTF-8, be it longer than
necessary or not.  The marks of the bytes are written in binary. -/
inductive Form : (codePoint : Nat) → (bytes : Bytes) → Prop where
  | one {a : Nat} (first : a < 2 ^ 7) : Form a [UInt8.ofNat a]
  | two {a b : Nat} (first : a < 2 ^ 5) (second : b < 2 ^ 6) :
      Form (a * 2 ^ 6 + b) [UInt8.ofNat (a + 0b11000000), UInt8.ofNat (b + 0b10000000)]
  | three {a b c : Nat} (first : a < 2 ^ 4) (second : b < 2 ^ 6) (third : c < 2 ^ 6) :
      Form ((a * 2 ^ 6 + b) * 2 ^ 6 + c)
        [UInt8.ofNat (a + 0b11100000), UInt8.ofNat (b + 0b10000000), UInt8.ofNat (c + 0b10000000)]
  | four {a b c d : Nat} (first : a < 2 ^ 3) (second : b < 2 ^ 6) (third : c < 2 ^ 6)
      (fourth : d < 2 ^ 6) :
      Form (((a * 2 ^ 6 + b) * 2 ^ 6 + c) * 2 ^ 6 + d)
        [UInt8.ofNat (a + 0b11110000), UInt8.ofNat (b + 0b10000000), UInt8.ofNat (c + 0b10000000),
          UInt8.ofNat (d + 0b10000000)]

/-- No form is without bytes. -/
theorem Form.ne_nil {codePoint : Nat} {bytes : Bytes}
    (form : Form codePoint bytes) : bytes ≠ [] := by
  cases form <;> exact List.cons_ne_nil _ _

/-- A form of a code point that no form of it is shorter than. -/
structure Shortest (codePoint : Nat) (bytes : Bytes) : Prop where
  form : Form codePoint bytes
  least : ∀ other, Form codePoint other → bytes.length ≤ other.length

/-! ## Forms by their numbers of tail bytes -/

/-- The number of values that the first byte of a form with `count` tail bytes can hold. -/
def leadRoom : (count : Nat) → Nat
  | 0 => 2 ^ 7
  | 1 => 2 ^ 5
  | 2 => 2 ^ 4
  | _ => 2 ^ 3

/-- The form of a code point with `count` tail bytes, where it has one. -/
def formBytes (count codePoint : Nat) : Bytes :=
  UInt8.ofNat (bitsAbove count codePoint + leadMark count) :: tailBytes count codePoint

@[simp] theorem length_formBytes (count codePoint : Nat) :
    (formBytes count codePoint).length = count + 1 := by
  rw [formBytes, List.length_cons, length_tailBytes]

/-- Six bits are taken off by a division. -/
theorem append_bits {upper lower : Nat} (small : lower < 2 ^ 6) :
    (upper * 2 ^ 6 + lower) / 64 = upper ∧ (upper * 2 ^ 6 + lower) % 64 = lower := by
  omega

/-- The four forms, taken together. -/
theorem form_iff {codePoint : Nat} {bytes : Bytes} : Form codePoint bytes ↔
    ∃ count ≤ 3, bitsAbove count codePoint < leadRoom count ∧
      formBytes count codePoint = bytes := by
  constructor
  · intro form
    cases form with
    | one first => exact ⟨0, by decide, first, rfl⟩
    | two first second =>
        refine ⟨1, by decide, ?_, ?_⟩
        · simpa only [bitsAbove, leadRoom, append_bits second] using first
        · simp only [formBytes, tailBytes, bitsAbove, leadMark, append_bits second]
    | three first second third =>
        refine ⟨2, by decide, ?_, ?_⟩
        · simpa only [bitsAbove, leadRoom, append_bits second, append_bits third] using first
        · simp only [formBytes, tailBytes, bitsAbove, leadMark, append_bits second,
            append_bits third]
    | four first second third fourth =>
        refine ⟨3, by decide, ?_, ?_⟩
        · simpa only [bitsAbove, leadRoom, append_bits second, append_bits third,
            append_bits fourth] using first
        · simp only [formBytes, tailBytes, bitsAbove, leadMark, append_bits second,
            append_bits third, append_bits fourth]
  · rintro ⟨count, few, fits, rfl⟩
    have low : ∀ bits, bits % 64 < 2 ^ 6 := fun bits => Nat.mod_lt bits (by decide)
    have join : ∀ bits, bits / 64 * 2 ^ 6 + bits % 64 = bits := fun bits => Nat.div_add_mod' bits 64
    obtain rfl | rfl | rfl | rfl : count = 0 ∨ count = 1 ∨ count = 2 ∨ count = 3 := by omega
    · exact .one fits
    · have form := Form.two fits (low codePoint)
      simp only [bitsAbove, join] at form
      exact form
    · have form := Form.three fits (low (codePoint / 64)) (low codePoint)
      simp only [bitsAbove, join] at form
      exact form
    · have form := Form.four fits (low (codePoint / 64 / 64)) (low (codePoint / 64)) (low codePoint)
      simp only [bitsAbove, join] at form
      exact form

/-- A code point fits into a form exactly if the form has at least as many tail bytes as
its encoding. -/
theorem fits_iff {count codePoint : Nat} (few : count ≤ 3) (small : codePoint < 0x110000) :
    bitsAbove count codePoint < leadRoom count ↔ following codePoint ≤ count := by
  match count with
  | 0 | 1 | 2 | 3 =>
      unfold following
      simp only [bitsAbove, leadRoom]
      grind
  | _ + 4 => omega

/-! ## Shortest forms -/

/-- The shortest form of a code point has as many tail bytes as its encoding. -/
theorem shortest_iff_formBytes {codePoint : Nat} {bytes : Bytes} (small : codePoint < 0x110000) :
    Shortest codePoint bytes ↔ formBytes (following codePoint) codePoint = bytes := by
  have few : following codePoint ≤ 3 := by
    unfold following
    grind
  have standard : Form codePoint (formBytes (following codePoint) codePoint) :=
    form_iff.mpr ⟨_, few, (fits_iff few small).mpr (Nat.le_refl _), rfl⟩
  constructor
  · rintro ⟨form, least⟩
    obtain ⟨count, atMost, fits, rfl⟩ := form_iff.mp form
    have more := (fits_iff atMost small).mp fits
    have fewer := least _ standard
    rw [length_formBytes, length_formBytes] at fewer
    rw [Nat.le_antisymm more (Nat.le_of_succ_le_succ fewer)]
  · rintro rfl
    refine ⟨standard, fun other form => ?_⟩
    obtain ⟨count, atMost, fits, rfl⟩ := form_iff.mp form
    rw [length_formBytes, length_formBytes]
    exact Nat.succ_le_succ ((fits_iff atMost small).mp fits)

/-- **The shortest form of a character** is its standard encoding. -/
theorem shortest_iff {letter : Char} {bytes : Bytes} :
    Shortest letter.toNat bytes ↔ String.utf8EncodeChar letter = bytes := by
  rw [shortest_iff_formBytes (codePoint_lt letter), utf8EncodeChar_eq, formBytes, leadByte]

/-- The scalar values are the code points of characters. -/
theorem isScalar_iff {codePoint : Nat} :
    IsScalar codePoint ↔ ∃ letter : Char, letter.toNat = codePoint := by
  constructor
  · rintro ⟨small, noSurrogate⟩
    have valid : codePoint.isValidChar := by
      unfold Nat.isValidChar
      omega
    exact ⟨Char.ofNatAux codePoint valid, rfl⟩
  · rintro ⟨letter, rfl⟩
    have valid : letter.toNat.isValidChar := letter.valid
    unfold Nat.isValidChar at valid
    unfold IsScalar
    omega

/-- A code point and its encoding, for the code points that decoding gives: the scalar
values from the space on. -/
structure Encodes (codePoint : Nat) (bytes : Bytes) : Prop where
  scalar : IsScalar codePoint
  graphic : 0x20 ≤ codePoint
  shortest : Shortest codePoint bytes

/-- What encodes a code point is the standard encoding of a character. -/
theorem encodes_iff {codePoint : Nat} {bytes : Bytes} : Encodes codePoint bytes ↔
    ∃ letter : Char, letter.toNat = codePoint ∧ 0x20 ≤ codePoint ∧
      String.utf8EncodeChar letter = bytes := by
  constructor
  · rintro ⟨scalar, graphic, shortest⟩
    obtain ⟨letter, rfl⟩ := isScalar_iff.mp scalar
    exact ⟨letter, rfl, graphic, shortest_iff.mp shortest⟩
  · rintro ⟨letter, rfl, graphic, rfl⟩
    exact ⟨isScalar_iff.mpr ⟨letter, rfl⟩, graphic, shortest_iff.mpr rfl⟩

end TrustBoundary.Utf8
