/-! Bytes of which a mask selects some bits, and what a read-modify-write leaves in them. -/

namespace RtlTcpAndro.Registers

variable {byte value mask other : UInt8}

/-- A byte with the bits that a mask selects taken from a value. -/
def merge (byte value mask : UInt8) : UInt8 := (byte &&& ~~~mask) ||| (value &&& mask)

/-- Two bytes are equal if their bits are. -/
theorem byte_ext {left right : UInt8}
    (bits : ∀ i (inside : i < 8), left.toBitVec[i] = right.toBitVec[i])
    : left = right :=
  UInt8.toBitVec_inj.mp (BitVec.eq_of_getElem_eq bits)

/-- Inside the mask a merge has the bits of the value. -/
theorem merge_and_mask : merge byte value mask &&& mask = value &&& mask := by
  refine byte_ext fun i inside => ?_
  simp only [merge, UInt8.toBitVec_and, UInt8.toBitVec_or, UInt8.toBitVec_not,
    BitVec.getElem_and, BitVec.getElem_or, BitVec.getElem_not]
  cases mask.toBitVec[i] <;> simp

/-- Outside the mask a merge has the bits of the byte. -/
theorem merge_and_not_mask : merge byte value mask &&& ~~~mask = byte &&& ~~~mask := by
  refine byte_ext fun i inside => ?_
  simp only [merge, UInt8.toBitVec_and, UInt8.toBitVec_or, UInt8.toBitVec_not,
    BitVec.getElem_and, BitVec.getElem_or, BitVec.getElem_not]
  cases mask.toBitVec[i] <;> simp

/-- Inside another mask that shares no bit with it, a merge has the bits of the byte. -/
theorem merge_and_of_disjoint (disjoint : other &&& mask = 0)
    : merge byte value mask &&& other = byte &&& other := by
  refine byte_ext fun i inside => ?_
  have apart := congrArg (fun bits => bits.toBitVec[i]) disjoint
  simp only [merge, UInt8.toBitVec_and, UInt8.toBitVec_or, UInt8.toBitVec_not,
    UInt8.toBitVec_zero, BitVec.getElem_and, BitVec.getElem_or, BitVec.getElem_not,
    BitVec.getElem_zero] at apart ⊢
  cases set : other.toBitVec[i] with
  | false => rw [Bool.and_false, Bool.and_false]
  | true =>
      rw [set, Bool.true_and] at apart
      rw [apart]
      simp

/-- The bits of two masks together. -/
theorem and_or_mask : byte &&& (mask ||| other) = (byte &&& mask) ||| (byte &&& other) := by
  refine byte_ext fun i inside => ?_
  simp only [UInt8.toBitVec_and, UInt8.toBitVec_or, BitVec.getElem_and, BitVec.getElem_or]
  cases byte.toBitVec[i] <;> simp

end RtlTcpAndro.Registers
