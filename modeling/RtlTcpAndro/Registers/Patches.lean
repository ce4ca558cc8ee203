import Mathlib.Data.List.GetD
import Mathlib.Logic.Function.Basic

/-! Memories of 256 cells, of which some are written one after the other. Nothing here depends on
what the cells hold.
-/

namespace RtlTcpAndro.Registers

variable {α : Type} {cells : UInt8 → α} {offset addr : UInt8} {data rest : List α} {byte : α}

/-- The cells once the ones from an offset on are written. -/
def patched (cells : UInt8 → α) (offset : UInt8) : List α → UInt8 → α
  | [] => cells
  | byte :: rest => patched (Function.update cells offset byte) (offset + 1) rest

/-- An address by its distance from an offset. -/
theorem sub_toNat_eq_zero_iff : (addr - offset).toNat = 0 ↔ addr = offset := by
  constructor
  · intro none
    have same : addr - offset = 0 := UInt8.toNat_inj.mp none
    rw [← UInt8.sub_add_cancel addr offset, same, UInt8.zero_add]
  · rintro rfl
    rw [UInt8.sub_self]
    rfl

/-- Another address is nearer to the next offset. -/
theorem sub_toNat_succ (other : addr ≠ offset)
    : (addr - offset).toNat = (addr - (offset + 1)).toNat + 1 := by
  have away : (addr - offset).toNat ≠ 0 := mt sub_toNat_eq_zero_iff.mp other
  have := addr.toNat_lt
  have := offset.toNat_lt
  rw [UInt8.toNat_sub] at away
  rw [UInt8.toNat_sub, UInt8.toNat_sub, UInt8.toNat_add, UInt8.toNat_one]
  omega

/-- An address is the last one from the next address on. -/
theorem sub_succ_toNat : (addr - (addr + 1)).toNat = 255 := by
  have := addr.toNat_lt
  rw [UInt8.toNat_sub, UInt8.toNat_add, UInt8.toNat_one]
  omega

/-- What a cell holds, if the cells that are written are not more than there are. By induction on
them.
-/
theorem patched_apply (fits : data.length ≤ 256)
    : patched cells offset data addr = data.getD (addr - offset).toNat (cells addr) := by
  induction data generalizing cells offset with
  | nil => rfl
  | cons byte rest ih =>
      have fewer : rest.length ≤ 255 := Nat.le_of_succ_le_succ fits
      rw [patched, ih (Nat.le_succ_of_le fewer)]
      by_cases same : addr = offset
      · subst same
        rw [sub_toNat_eq_zero_iff.mpr rfl, sub_succ_toNat, Function.update_self]
        exact List.getD_eq_default rest byte fewer
      · rw [sub_toNat_succ same, Function.update_of_ne same]
        rfl

/-- The cell before the offset is not written. -/
theorem patched_before (fits : data.length ≤ 255)
    : patched cells (addr + 1) data addr = cells addr := by
  rw [patched_apply (Nat.le_succ_of_le fits), sub_succ_toNat]
  exact List.getD_eq_default data (cells addr) fits

/-- A patch over the first part of itself. -/
theorem patched_take (fits : data.length ≤ 256) (count : Nat)
    : patched (patched cells offset (data.take count)) offset data = patched cells offset data := by
  funext addr
  rw [patched_apply fits, patched_apply fits, patched_apply]
  · by_cases inside : (addr - offset).toNat < data.length
    · rw [List.getD_eq_getElem _ _ inside, List.getD_eq_getElem _ _ inside]
    · have beyond := Nat.le_of_not_lt inside
      rw [List.getD_eq_default _ _ beyond, List.getD_eq_default _ _ beyond]
      refine List.getD_eq_default _ _ ?_
      rw [List.length_take]
      exact Nat.le_trans (Nat.min_le_right ..) beyond
  · rw [List.length_take]
    exact Nat.le_trans (Nat.min_le_right ..) fits

/-- The cells from an address on. -/
def cellsFrom (cells : UInt8 → α) (addr : UInt8) : Nat → List α
  | 0 => []
  | count + 1 => cells addr :: cellsFrom cells (addr + 1) count

/-- The cells that were written are read back. By induction on what was written. -/
theorem cellsFrom_patched (fits : data.length ≤ 256)
    : cellsFrom (patched cells offset data) offset data.length = data := by
  induction data generalizing cells offset with
  | nil => rfl
  | cons byte rest ih =>
      have fewer : rest.length ≤ 255 := Nat.le_of_succ_le_succ fits
      rw [List.length_cons, cellsFrom, patched, ih (Nat.le_succ_of_le fewer), patched_before fewer,
        Function.update_self]

end RtlTcpAndro.Registers
