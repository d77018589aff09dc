/-!
# Byte strings

Everything that arrives from the other side of a trust boundary is a finite
string of bytes: a path, a wire header, the contents of a disk.  This module
fixes the type and the operations that every later module shares.

Text that comes with a length and text that ends in a NUL byte are handled by
one convention: the text of a byte string is what stands before its first NUL
(`Bytes.untilNul`), and looking past the end of a byte string finds a NUL
(`Bytes.byteAt`).

A record on a disk or on a wire is a byte string with a field at each of some
offsets.  It is written by putting the bytes of its fields over a string of
zeroes (`Bytes.overwriteAll`) and read by looking at the offsets one by one
(`Bytes.blockAt`, `Bytes.word32At`, `Bytes.word64At`).  The offsets of the two
directions are two lists, and only theorems can say that they fit together.
-/

set_option autoImplicit false

namespace TrustBoundary

/-- A finite string of bytes. -/
abbrev Bytes := List UInt8

namespace Bytes

/-- The byte at `index`, or NUL past the end. -/
def byteAt (bytes : Bytes) (index : Nat) : UInt8 := bytes.getD index 0

/-- The bytes before the first NUL, or all of them when there is none. -/
def untilNul (bytes : Bytes) : Bytes := bytes.takeWhile (· ≠ 0)

/-- A run of `count` zero bytes. -/
def zeroes (count : Nat) : Bytes := List.replicate count 0

/-- Whether every byte is zero. -/
def allZero (bytes : Bytes) : Bool := bytes.all (· = 0)

/-- The `count` bytes from `offset` on, or as many of them as there are. -/
def slice (bytes : Bytes) (offset count : Nat) : Bytes := (bytes.drop offset).take count

/-- The same bytes with `data` in place of those from `offset` on. -/
def overwrite (bytes : Bytes) (offset : Nat) (data : Bytes) : Bytes :=
  bytes.take offset ++ data ++ bytes.drop (offset + data.length)

@[simp] theorem length_zeroes (count : Nat) : (zeroes count).length = count :=
  List.length_replicate

/-- Overwriting inside a byte string keeps its length. -/
theorem length_overwrite (bytes : Bytes) (offset : Nat) (data : Bytes)
    (inside : offset + data.length ≤ bytes.length) :
    (bytes.overwrite offset data).length = bytes.length := by
  simp only [overwrite, List.length_append, List.length_take, List.length_drop]
  omega

/-- A NUL at the start leaves no text. -/
theorem untilNul_nul (others : Bytes) : untilNul (0 :: others) = [] := rfl

/-- Another byte than NUL belongs to the text. -/
theorem untilNul_cons {byte : UInt8} (notNul : byte ≠ 0) (others : Bytes) :
    untilNul (byte :: others) = byte :: untilNul others :=
  List.takeWhile_cons_of_pos (decide_eq_true notNul)

/-- The ASCII bytes of a string. -/
def ofText (text : String) : Bytes := text.toUTF8.toList

/-! ## Little-endian words

Every multi-byte field of a record is stored with its least significant byte first.  Reading
what was written gives the number modulo `valueCount width`, and writing what was read gives the
bytes, so a word of fixed width and its bytes determine one another. -/

/-- The `width` low bytes of `number`, least significant first. -/
def littleEndian : (width : Nat) → (number : Nat) → Bytes
  | 0, _ => []
  | width + 1, number => UInt8.ofNat (number % 256) :: littleEndian width (number / 256)

/-- The number whose bytes, least significant first, are these. -/
def ofLittleEndian : Bytes → Nat
  | [] => 0
  | byte :: rest => byte.toNat + 256 * ofLittleEndian rest

/-- The number of values that so many bytes can have. -/
def valueCount : (width : Nat) → Nat
  | 0 => 1
  | width + 1 => 256 * valueCount width

@[simp] theorem length_littleEndian (width number : Nat) :
    (littleEndian width number).length = width := by
  induction width generalizing number with
  | zero => rfl
  | succ width ih => simp only [littleEndian, List.length_cons, ih]

/-- Reading a written number keeps what fits in its width. -/
theorem ofLittleEndian_littleEndian (width number : Nat) :
    ofLittleEndian (littleEndian width number) = number % valueCount width := by
  induction width generalizing number with
  | zero => simp only [littleEndian, ofLittleEndian, valueCount, Nat.mod_one]
  | succ width ih =>
    have low : (UInt8.ofNat (number % 256)).toNat = number % 256 :=
      UInt8.toNat_ofNat_of_lt' (Nat.mod_lt _ (by decide))
    rw [littleEndian, ofLittleEndian, ih, low, valueCount, Nat.mod_mul]

/-- A number read from bytes is below the bound of their width. -/
theorem ofLittleEndian_lt (bytes : Bytes) : ofLittleEndian bytes < valueCount bytes.length := by
  induction bytes with
  | nil => exact Nat.one_pos
  | cons byte rest ih =>
    have bound : byte.toNat < 256 := byte.toNat_lt
    rw [ofLittleEndian, List.length_cons, valueCount]
    omega

/-- Writing a number that was read gives the bytes back. -/
theorem littleEndian_ofLittleEndian (bytes : Bytes) :
    littleEndian bytes.length (ofLittleEndian bytes) = bytes := by
  induction bytes with
  | nil => rfl
  | cons byte rest ih =>
    have bound : byte.toNat < 256 := byte.toNat_lt
    have low : (byte.toNat + 256 * ofLittleEndian rest) % 256 = byte.toNat := by omega
    have high : (byte.toNat + 256 * ofLittleEndian rest) / 256 = ofLittleEndian rest := by omega
    rw [List.length_cons, ofLittleEndian, littleEndian, low, high, ih, UInt8.ofNat_toNat]

/-! ## Fields at offsets

Reading is total: bytes that are missing count as zero.  Callers that must refuse a short string
check its length first. -/

/-- The block of `count` bytes at `offset`, as it is. -/
def blockAt (bytes : Bytes) (offset count : Nat) : Vector UInt8 count :=
  let stored := (bytes.slice offset count).toArray
  Vector.ofFn fun index => stored.getD index 0

/-- The little-endian word of 32 bits at `offset`. -/
def word32At (bytes : Bytes) (offset : Nat) : UInt32 :=
  UInt32.ofNat (ofLittleEndian (bytes.slice offset 4))

/-- The little-endian word of 64 bits at `offset`. -/
def word64At (bytes : Bytes) (offset : Nat) : UInt64 :=
  UInt64.ofNat (ofLittleEndian (bytes.slice offset 8))

/-- Overwrites the bytes of some fields, each from its offset on, one field after the other. -/
def overwriteAll (bytes : Bytes) (fields : List (Nat × Bytes)) : Bytes :=
  fields.foldl (fun bytes (offset, data) => bytes.overwrite offset data) bytes

/-- Whether there is room for every one of some fields. -/
def hasRoom (bytes : Bytes) (fields : List (Nat × Bytes)) : Bool :=
  fields.all fun (offset, data) => offset + data.length ≤ bytes.length

end Bytes

/-! ## The CRC-32 checksum

The checksum of zip files, of partition tables and of file transfers: the reflected polynomial
`0xEDB88320`, a register that starts as all ones, and a final complement.  The register takes in
one byte at a time, so the checksum of a stream is a left fold and a running checksum is the
register between two pieces. -/

namespace Checksum

/-- The reflected generator polynomial. -/
def polynomial : UInt32 := 0xEDB88320

/-- The register before any byte, and the mask of the final complement. -/
def allOnes : UInt32 := 0xFFFFFFFF

/-- One division step of the register by the polynomial. -/
def shift (register : UInt32) : UInt32 :=
  if register &&& 1 = 1 then (register >>> 1) ^^^ polynomial else register >>> 1

/-- The register after one more byte. -/
def absorbByte (register : UInt32) (byte : UInt8) : UInt32 :=
  shift (shift (shift (shift (shift (shift (shift (shift (register ^^^ byte.toUInt32))))))))

/-- The register after more bytes. -/
def absorb (register : UInt32) (bytes : Bytes) : UInt32 := bytes.foldl absorbByte register

/-- Taking in two pieces one after the other is taking in their concatenation. -/
theorem absorb_append (register : UInt32) (front back : Bytes) :
    absorb register (front ++ back) = absorb (absorb register front) back :=
  List.foldl_append

/-- The checksum that a register stands for. -/
def finish (register : UInt32) : UInt32 := register ^^^ allOnes

end Checksum

/-- The CRC-32 checksum of a byte string. -/
def crc32 (bytes : Bytes) : UInt32 := Checksum.finish (Checksum.absorb Checksum.allOnes bytes)

end TrustBoundary
