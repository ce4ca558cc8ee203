import Mathlib.Data.UInt

/-! The byte orders of words, the host's (little endian) and the network's, and signed words
masked to the width they were extended from.
-/

namespace RtlTcpAndro.ByteStreams

/-- The word whose bytes, least significant first, are the given ones. -/
def ofLittleEndian (first second third fourth : UInt8) : UInt32 :=
  UInt32.ofNat
    (first.toNat + 2 ^ 8 * second.toNat + 2 ^ 16 * third.toNat + 2 ^ 24 * fourth.toNat)

/-- The word whose bytes, most significant first, are the given ones. -/
def ofBigEndian (first second third fourth : UInt8) : UInt32 :=
  ofLittleEndian fourth third second first

/-- The bytes of a word, least significant first. -/
def littleEndian (word : UInt32) : List UInt8 :=
  [UInt8.ofNat word.toNat, UInt8.ofNat (word.toNat / 2 ^ 8),
    UInt8.ofNat (word.toNat / 2 ^ 16), UInt8.ofNat (word.toNat / 2 ^ 24)]

/-- The bytes of a word, most significant first. -/
def bigEndian (word : UInt32) : List UInt8 := (littleEndian word).reverse

/-- Reverse the bytes of a word. -/
def byteSwap (word : UInt32) : UInt32 :=
  ofBigEndian (UInt8.ofNat word.toNat) (UInt8.ofNat (word.toNat / 2 ^ 8))
    (UInt8.ofNat (word.toNat / 2 ^ 16)) (UInt8.ofNat (word.toNat / 2 ^ 24))

/-- Reverse the two bytes of a short word. -/
def byteSwapShort (word : UInt16) : UInt16 :=
  UInt16.ofNat (word.toNat % 256 * 256 + word.toNat / 256)

/-- Swapping the bytes twice gives the word back. Witness: quotient and remainder by 256. -/
theorem byteSwapShort_byteSwapShort (word : UInt16)
    : byteSwapShort (byteSwapShort word) = word := by
  have small := word.toNat_lt
  have low := Nat.mod_lt word.toNat (show 0 < 256 by decide)
  have swapped
      : (byteSwapShort word).toNat = word.toNat % 256 * 256 + word.toNat / 256 := by
    simp only [byteSwapShort, UInt16.toNat_ofNat']
    omega
  have first : (byteSwapShort word).toNat % 256 = word.toNat / 256 := by
    omega
  have second : (byteSwapShort word).toNat / 256 = word.toNat % 256 := by
    omega
  apply UInt16.toNat_inj.mp
  rw [byteSwapShort, UInt16.toNat_ofNat']
  omega

/-- A word built from bytes has exactly that numeric value: four bytes do not overflow. -/
theorem toNat_ofLittleEndian (first second third fourth : UInt8)
    : (ofLittleEndian first second third fourth).toNat
      = first.toNat + 2 ^ 8 * second.toNat + 2 ^ 16 * third.toNat + 2 ^ 24 * fourth.toNat := by
  have h₁ := first.toNat_lt
  have h₂ := second.toNat_lt
  have h₃ := third.toNat_lt
  have h₄ := fourth.toNat_lt
  simp only [ofLittleEndian, UInt32.toNat_ofNat']
  omega

/-- Bytes survive the trip through a word, by comparing their values modulo 256. -/
theorem littleEndian_ofLittleEndian (first second third fourth : UInt8)
    : littleEndian (ofLittleEndian first second third fourth)
      = [first, second, third, fourth] := by
  have h₁ := first.toNat_lt
  have h₂ := second.toNat_lt
  have h₃ := third.toNat_lt
  have h₄ := fourth.toNat_lt
  simp only [littleEndian, toNat_ofLittleEndian, List.cons.injEq, and_true,
    ← UInt8.toNat_inj, UInt8.toNat_ofNat']
  omega

/-- Swapping turns one byte order into the other. -/
theorem littleEndian_byteSwap (word : UInt32)
    : littleEndian (byteSwap word) = bigEndian word := by
  simp only [byteSwap, ofBigEndian, littleEndian_ofLittleEndian]
  rfl

/-- Swapping a word read in host order reads the same bytes in network order. -/
theorem byteSwap_ofLittleEndian (first second third fourth : UInt8)
    : byteSwap (ofLittleEndian first second third fourth)
      = ofBigEndian first second third fourth := by
  have bytes := littleEndian_ofLittleEndian first second third fourth
  simp only [littleEndian, List.cons.injEq, and_true] at bytes
  simp only [byteSwap, bytes]

/-- Masking a sign-extended word to its old width leaves the word, bit by bit. -/
theorem signExtend_and_mask {width wider : Nat} (word : BitVec width)
    : word.signExtend wider &&& BitVec.ofNat wider (2 ^ width - 1) = word.setWidth wider := by
  refine BitVec.eq_of_getLsbD_eq ?_
  intro i inside
  simp only [BitVec.getLsbD_and, BitVec.getLsbD_signExtend, BitVec.getLsbD_ofNat,
    Nat.testBit_two_pow_sub_one, BitVec.getLsbD_setWidth]
  by_cases low : i < width
  · simp [low, inside]
  · simp [low, BitVec.getLsbD_of_ge word i (by omega)]

/-- A word in a wider signed type is never negative. -/
theorem toInt_setWidth_of_wider {width wider : Nat} (word : BitVec width)
    (more : width < wider)
    : (word.setWidth wider).toInt = word.toNat := by
  have small := word.isLt
  have power : 2 * 2 ^ width ≤ 2 ^ wider := by
    rw [← Nat.pow_succ']
    exact Nat.pow_le_pow_right (by omega) more
  have same : word.toNat % 2 ^ wider = word.toNat := Nat.mod_eq_of_lt (by omega)
  rw [BitVec.toInt_eq_toNat_of_lt] <;> simp only [BitVec.toNat_setWidth, same]
  omega

end RtlTcpAndro.ByteStreams
