import Mathlib.Tactic.Ring
import RtlTcpAndro.Tuners.R82xx

/-! When the parts of `r82xx_set_pll` end: its transfers, the search for a divider and the sdm
calculator, which may come to divide by a counter that has been shifted out.
-/

namespace RtlTcpAndro.Tuners

open RtlTcpAndro.Faults

-----------------------------------------------------------------------------------------
-- Transfers
-----------------------------------------------------------------------------------------

section Transfers

variable {environment : Environment.Bus R82xxConfig}

/-- With room for a register and a value in a message, a write ends after as many messages as
there are values at most. By induction on the rounds.
-/
theorem writeMessages_ends (room : 2 ≤ environment.config.maxI2cMsgLen.toNat) {rounds : Nat}
    {reg : UInt8} {val : List UInt8} (enough : val.length < rounds)
    : (writeMessages rounds reg val).Ends environment (fun _ => True) := by
  induction rounds generalizing reg val with
  | zero => exact absurd enough (Nat.not_lt_zero _)
  | succ rounds ih =>
      have moved : 1 ≤ (environment.config.maxI2cMsgLen - 1).toNat := by
        have one : (1 : UInt32) ≤ environment.config.maxI2cMsgLen :=
          UInt32.le_iff_toNat_le.mpr (Nat.le_of_succ_le room)
        rw [UInt32.toNat_sub_of_le _ _ one]
        exact Nat.le_sub_of_add_le room
      refine .bind Program.read_returns.ends fun _ same => ?_
      subst same
      refine .bind (rtlsdrI2cWriteFn_returns _ _).ends fun _ _ => ?_
      refine .bind Program.require_ends fun _ _ => ?_
      split
      · refine ih ?_
        rw [List.length_drop]
        omega
      · exact .pure trivial

/-- `r82xx_write` ends: after the shadow is stored, its loop has a round for each value at
most.
-/
theorem r82xxWrite_ends (room : 2 ≤ environment.config.maxI2cMsgLen.toNat) (reg : UInt8)
    (val : List UInt8)
    : (r82xxWrite reg val).Ends environment (fun _ => True) :=
  .bind Program.modify_returns.ends fun _ _ => writeMessages_ends room (Nat.lt_succ_self _)

/-- Reading the shadow ends, with the value or with the error for a register that has none. -/
theorem r82xxReadCacheReg_ends (reg : UInt8)
    : (r82xxReadCacheReg reg).Ends environment (fun _ => True) := by
  refine .bind Program.require_ends fun _ _ => ?_
  exact .bind Program.get_returns.ends fun _ _ => .pure trivial

/-- A masked write ends, since reading the shadow does and the write of the merged value does.
-/
theorem r82xxWriteRegMask_ends (room : 2 ≤ environment.config.maxI2cMsgLen.toNat)
    (reg val bitMask : UInt8)
    : (r82xxWriteRegMask reg val bitMask).Ends environment (fun _ => True) :=
  .bind (r82xxReadCacheReg_ends reg) fun _ _ => r82xxWrite_ends room _ _

/-- A read ends, with its bytes or with the error of one of its two transfers. -/
theorem r82xxRead_ends (reg : UInt8) (len : Nat)
    : (r82xxRead reg len).Ends environment (fun _ => True) := by
  refine .bind (rtlsdrI2cWriteFn_returns _ _).ends fun _ _ => ?_
  refine .bind Program.require_ends fun _ _ => ?_
  refine .bind (rtlsdrI2cReadFn_returns _).ends fun _ _ => ?_
  refine .bind Program.require_ends fun _ _ => ?_
  exact .pure trivial

/-- Where every transfer moves all its bytes, one value is written with one message. Witness:
the message has room for the register and the value.
-/
theorem r82xxWriteReg_returns (room : 2 ≤ environment.config.maxI2cMsgLen.toNat)
    (moves : environment.Moves) (reg val : UInt8)
    : (r82xxWriteReg reg val).Returns environment (fun _ => True) := by
  have size : min 1 (environment.config.maxI2cMsgLen - 1).toNat = 1 := by
    have one : (1 : UInt32) ≤ environment.config.maxI2cMsgLen :=
      UInt32.le_iff_toNat_le.mpr (Nat.le_of_succ_le room)
    rw [UInt32.toNat_sub_of_le _ _ one]
    exact Nat.min_eq_left (Nat.le_sub_of_add_le room)
  refine .bind Program.modify_returns fun _ _ => ?_
  refine .bind Program.read_returns fun _ same => ?_
  subst same
  rw [List.length_singleton, size]
  refine .bind (rtlsdrI2cWriteFn_returns _ _) fun rc returned => ?_
  obtain ⟨number, same⟩ := returned
  refine .bind (Program.require_returns (same.trans (moves number _))) fun _ _ => ?_
  exact .pure trivial

/-- A register that has a shadow. -/
def Shadowed (reg : UInt8) : Prop :=
  regShadowStart ≤ reg.toNat ∧ reg.toNat - regShadowStart < numRegs

instance (reg : UInt8) : Decidable (Shadowed reg) := inferInstanceAs (Decidable (_ ∧ _))

/-- Where every transfer moves all its bytes, a masked write of a register with a shadow
returns.
-/
theorem r82xxWriteRegMask_returns (room : 2 ≤ environment.config.maxI2cMsgLen.toNat)
    (moves : environment.Moves) {reg : UInt8} (shadowed : Shadowed reg) (val bitMask : UInt8)
    : (r82xxWriteRegMask reg val bitMask).Returns environment (fun _ => True) := by
  have cached : (r82xxReadCacheReg reg).Returns environment (fun _ => True) := by
    refine .bind (Program.require_returns shadowed) fun _ _ => ?_
    exact .bind Program.get_returns fun _ _ => .pure trivial
  exact .bind cached fun _ _ => r82xxWriteReg_returns room moves reg _

/-- Where every transfer moves all its bytes, a read returns. Witness: neither of its two
checks fails.
-/
theorem r82xxRead_returns (moves : environment.Moves) (reg : UInt8) (len : Nat)
    : (r82xxRead reg len).Returns environment (fun _ => True) := by
  refine .bind (rtlsdrI2cWriteFn_returns _ _) fun rc returned => ?_
  obtain ⟨number, same⟩ := returned
  refine .bind (Program.require_returns (same.trans (moves number _))) fun _ _ => ?_
  refine .bind (rtlsdrI2cReadFn_returns _) fun answer returned => ?_
  obtain ⟨number, rfl⟩ := returned
  refine .bind (Program.require_returns (moves number len)) fun _ _ => ?_
  exact .pure trivial

end Transfers

-----------------------------------------------------------------------------------------
-- The loops
-----------------------------------------------------------------------------------------

section Loops

/-- Enough rounds are left to halve a divider down to two. -/
def Halving.Within (rounds : Nat) (state : Halving) : Prop :=
  state.divBuf.toNat ≤ 2 ^ (rounds + 1)

/-- The logarithm of any divider is taken within eight rounds. -/
theorem halve_ends (divBuf : UInt8) : ∃ halving, halve divBuf = .ok halving := by
  have stops (rounds : Nat) (state : Halving) (_ : Halving.Within rounds state)
      (_ : decide (2 < state.divBuf) = false)
      : True :=
    trivial
  have last (state : Halving) (within : Halving.Within 0 state)
      : decide (2 < state.divBuf) = false := by
    rw [decide_eq_false_iff_not, UInt8.lt_iff_toNat_lt]
    exact Nat.not_lt.mpr within
  have round (rounds : Nat) (state : Halving) (within : Halving.Within (rounds + 1) state)
      (_ : decide (2 < state.divBuf) = true)
      : (∃ next, halvingRound state = .ok (.yield next) ∧ Halving.Within rounds next)
        ∨ ∃ next, halvingRound state = .ok (.done next) ∧ True := by
    refine .inl ⟨_, rfl, ?_⟩
    have half : (state.divBuf >>> 1).toNat = state.divBuf.toNat / 2 := by
      rw [UInt8.toNat_shiftRight]
      exact Nat.shiftRight_succ _ 0
    change (state.divBuf >>> 1).toNat ≤ 2 ^ (rounds + 1)
    unfold Halving.Within at within
    omega
  have first : Halving.Within 8 ⟨divBuf, 0⟩ := Nat.le_of_lt (divBuf.toNat_lt.trans (by decide))
  obtain ⟨halving, ended, -⟩ := whileLoop_ends stops last round first
  exact ⟨halving, ended⟩

/-- Enough rounds are left to double a divider up to one hundred and twenty-eight. -/
def Divider.Within (rounds : Nat) (divider : Divider) : Prop :=
  128 ≤ divider.mixDiv.toNat * 2 ^ rounds

/-- Where no divider up to sixty-four puts the frequency in range, the search ends as well. -/
theorem calculateDivider_ends (freqKhz : UInt32)
    : ∃ divider, calculateDivider freqKhz = .ok divider := by
  have stops (rounds : Nat) (divider : Divider) (_ : Divider.Within rounds divider)
      (_ : decide (divider.mixDiv ≤ 64) = false)
      : True :=
    trivial
  have last (divider : Divider) (within : Divider.Within 0 divider)
      : decide (divider.mixDiv ≤ 64) = false := by
    rw [decide_eq_false_iff_not, UInt8.le_iff_toNat_le]
    unfold Divider.Within at within
    change ¬ divider.mixDiv.toNat ≤ 64
    omega
  have round (rounds : Nat) (divider : Divider) (within : Divider.Within (rounds + 1) divider)
      (goes : decide (divider.mixDiv ≤ 64) = true)
      : (∃ next, dividerRound freqKhz divider = .ok (.yield next) ∧ Divider.Within rounds next)
        ∨ ∃ next, dividerRound freqKhz divider = .ok (.done next) ∧ True := by
    unfold dividerRound
    simp only []
    split
    · obtain ⟨halving, ended⟩ := halve_ends divider.mixDiv
      rw [ended]
      exact .inr ⟨_, rfl, trivial⟩
    · refine .inl ⟨_, rfl, ?_⟩
      have bound : divider.mixDiv.toNat ≤ 64 := UInt8.le_iff_toNat_le.mp (of_decide_eq_true goes)
      have double : (divider.mixDiv <<< 1).toNat = 2 * divider.mixDiv.toNat := by
        rw [UInt8.toNat_shiftLeft]
        change divider.mixDiv.toNat <<< 1 % 256 = _
        rw [Nat.shiftLeft_eq]
        omega
      unfold Divider.Within at within ⊢
      rw [double]
      rw [pow_succ] at within
      calc
        128 ≤ divider.mixDiv.toNat * (2 ^ rounds * 2) := within
        _ = 2 * divider.mixDiv.toNat * 2 ^ rounds := by ring
  have first : Divider.Within 8 ⟨2, 0⟩ := by
    change 128 ≤ 2 * 2 ^ 8
    decide
  obtain ⟨divider, ended, -⟩ := whileLoop_ends stops last round first
  exact ⟨divider, ended⟩

/-- The counter of the sdm calculator, doubled in each round that is left, comes to twice its
modulus.
-/
def SdmCalculator.Counts (rounds : Nat) (state : SdmCalculator) : Prop :=
  2 ≤ state.nSdm.toNat ∧ state.nSdm.toNat * 2 ^ rounds = 2 ^ 17

section Counts

variable {rounds : Nat} {state : SdmCalculator}

/-- The counter counts down the rounds that are left, so there is always one. -/
theorem SdmCalculator.Counts.not_zero : ¬ SdmCalculator.Counts 0 state := by
  intro counts
  have bound := state.nSdm.toNat_lt
  unfold SdmCalculator.Counts at counts
  omega

/-- At the beginning sixteen rounds are left, since the counter is two. -/
theorem SdmCalculator.counts_first {vcoFra : UInt32}
    : SdmCalculator.Counts 16 ⟨2, 0, vcoFra⟩ := by
  refine ⟨le_refl 2, ?_⟩
  change 2 * 2 ^ 16 = 2 ^ 17
  norm_num

/-- Only in the last two rounds does the counter reach its top bit. Witness: the product of
counter and rounds is the same throughout.
-/
theorem SdmCalculator.Counts.le (counts : SdmCalculator.Counts (rounds + 1) state)
    : state.nSdm.toNat ≤ 32768 := by
  have bound := state.nSdm.toNat_lt
  obtain ⟨-, total⟩ := counts
  rw [pow_succ] at total
  have power : 2 ≤ 2 ^ rounds := by
    have positive : rounds ≠ 0 := by
      rintro rfl
      omega
    exact Nat.le_self_pow positive 2
  have least := Nat.mul_le_mul_left state.nSdm.toNat power
  rw [← mul_assoc] at total
  omega

/-- The counter is doubled exactly while its top bit is not set. -/
theorem double_toNat {nSdm : UInt16} (below : nSdm.toNat < 32768)
    : (nSdm <<< 1).toNat = 2 * nSdm.toNat := by
  rw [UInt16.toNat_shiftLeft]
  change nSdm.toNat <<< 1 % 65536 = _
  rw [Nat.shiftLeft_eq]
  omega

/-- A round that doubles the counter has one round less to go. -/
theorem SdmCalculator.Counts.double (counts : SdmCalculator.Counts (rounds + 1) state)
    (below : state.nSdm.toNat < 32768) {sdm : UInt16} {vcoFra : UInt32}
    : SdmCalculator.Counts rounds ⟨state.nSdm <<< 1, sdm, vcoFra⟩ := by
  obtain ⟨least, total⟩ := counts
  refine ⟨?_, ?_⟩
  · rw [double_toNat below]
    omega
  · rw [double_toNat below, ← total, pow_succ]
    ring

end Counts

/-- The contribution of a bit of the sdm to the frequency, in kHz. -/
def contribution (pllRefKhz : UInt32) (nSdm : UInt16) : UInt32 :=
  2 * pllRefKhz / nSdm.toUInt32

/-- What a bit contributes is twice the crystal divided by the counter, without a wrap of the
product.
-/
theorem contribution_toNat {pllRefKhz : UInt32} (bound : pllRefKhz.toNat < 2 ^ 31)
    (nSdm : UInt16)
    : (contribution pllRefKhz nSdm).toNat = 2 * pllRefKhz.toNat / nSdm.toNat := by
  have double : (2 * pllRefKhz).toNat = 2 * pllRefKhz.toNat := by
    rw [UInt32.toNat_mul]
    exact Nat.mod_eq_of_lt (by simpa using by omega)
  rw [contribution, UInt32.toNat_div, double]
  rfl

/-- A round while the counter is not lost: the bit is set where its contribution fits, the
last one leaves the loop, and otherwise the counter is doubled. Witness: neither division is
by zero.
-/
theorem sdmRound_of_counts {pllRefKhz : UInt32} {state : SdmCalculator}
    (counts : 2 ≤ state.nSdm.toNat)
    : sdmRound pllRefKhz state
      = .ok (if contribution pllRefKhz state.nSdm < state.vcoFra then
          if 0x8000 ≤ state.nSdm then
            .done ⟨state.nSdm, state.sdm + 32768 / (state.nSdm / 2),
              state.vcoFra - contribution pllRefKhz state.nSdm⟩
          else
            .yield ⟨state.nSdm <<< 1, state.sdm + 32768 / (state.nSdm / 2),
              state.vcoFra - contribution pllRefKhz state.nSdm⟩
        else .yield ⟨state.nSdm <<< 1, state.sdm, state.vcoFra⟩) := by
  have divisor : state.nSdm.toUInt32 ≠ 0 := by
    intro zero
    have same := congrArg UInt32.toNat zero
    change state.nSdm.toNat = 0 at same
    omega
  have half : state.nSdm / 2 ≠ 0 := by
    intro zero
    have same := congrArg UInt16.toNat zero
    rw [UInt16.toNat_div] at same
    change state.nSdm.toNat / 2 = 0 at same
    omega
  unfold sdmRound
  rw [divide_of_ne divisor, divide_of_ne half]
  change (if contribution pllRefKhz state.nSdm < state.vcoFra then _ else _) = _
  split
  · change (if 0x8000 ≤ state.nSdm then _ else _) = _
    split <;> rfl
  · rfl

/-- For a crystal below 32768 kHz the last bit contributes at most one, so that the sdm
calculator leaves its loop there.
-/
theorem calculateSdm_ends {pllRefKhz : UInt32} (small : pllRefKhz.toNat < 32768)
    (vcoFra : UInt32)
    : ∃ state, calculateSdm pllRefKhz vcoFra = .ok state := by
  have stops (rounds : Nat) (state : SdmCalculator) (_ : SdmCalculator.Counts rounds state)
      (_ : decide (1 < state.vcoFra) = false)
      : True :=
    trivial
  have last (state : SdmCalculator) (counts : SdmCalculator.Counts 0 state)
      : decide (1 < state.vcoFra) = false :=
    absurd counts SdmCalculator.Counts.not_zero
  have round (rounds : Nat) (state : SdmCalculator)
      (counts : SdmCalculator.Counts (rounds + 1) state)
      (goes : decide (1 < state.vcoFra) = true)
      : (∃ next,
          sdmRound pllRefKhz state = .ok (.yield next) ∧ SdmCalculator.Counts rounds next)
        ∨ ∃ next, sdmRound pllRefKhz state = .ok (.done next) ∧ True := by
    rw [sdmRound_of_counts counts.1]
    by_cases top : state.nSdm.toNat < 32768
    · have going : ¬ 0x8000 ≤ state.nSdm := by
        rw [UInt16.le_iff_toNat_le]
        exact Nat.not_le.mpr top
      rw [if_neg going]
      split
      · exact .inl ⟨_, rfl, counts.double top⟩
      · exact .inl ⟨_, rfl, counts.double top⟩
    · have highest : state.nSdm.toNat = 32768 := le_antisymm counts.le (Nat.not_lt.mp top)
      have contributes : contribution pllRefKhz state.nSdm < state.vcoFra := by
        have above := UInt32.lt_iff_toNat_lt.mp (of_decide_eq_true goes)
        change 1 < state.vcoFra.toNat at above
        rw [UInt32.lt_iff_toNat_lt, contribution_toNat (by omega), highest]
        omega
      have going : 0x8000 ≤ state.nSdm := UInt16.le_iff_toNat_le.mpr (Nat.not_lt.mp top)
      rw [if_pos contributes, if_pos going]
      exact .inr ⟨_, rfl, trivial⟩
  obtain ⟨state, ended, -⟩ := whileLoop_ends stops last round SdmCalculator.counts_first
  exact ⟨state, ended⟩

/-- Whether the sdm calculator comes to a division by zero, on numbers: some remainder above one
is left in every round, and none is taken off in the last.
-/
def losesCounter (pllRefKhz : Nat) : Nat → Nat → Nat → Bool
  | 0, _, vcoFra => decide (1 < vcoFra)
  | rounds + 1, nSdm, vcoFra =>
      decide (1 < vcoFra)
      && if 2 * pllRefKhz / nSdm < vcoFra then
          decide (nSdm < 32768)
          && losesCounter pllRefKhz rounds (2 * nSdm) (vcoFra - 2 * pllRefKhz / nSdm)
        else losesCounter pllRefKhz rounds (2 * nSdm) vcoFra

/-- The counter is lost only while there is a remainder to take off. -/
theorem one_lt_of_losesCounter {pllRefKhz rounds nSdm vcoFra : Nat}
    (loses : losesCounter pllRefKhz rounds nSdm vcoFra = true)
    : 1 < vcoFra := by
  cases rounds with
  | zero => exact of_decide_eq_true loses
  | succ rounds =>
      rw [losesCounter, Bool.and_eq_true] at loses
      exact of_decide_eq_true loses.1

/-- A remainder above one that no bit reaches is never taken off. By induction on the rounds. -/
theorem losesCounter_of_unreached {pllRefKhz rounds nSdm vcoFra : Nat} (above : 1 < vcoFra)
    (positive : 0 < nSdm) (counts : nSdm * 2 ^ rounds ≤ 65536)
    (below : vcoFra ≤ 2 * pllRefKhz / 32768)
    : losesCounter pllRefKhz rounds nSdm vcoFra = true := by
  induction rounds generalizing nSdm with
  | zero => exact decide_eq_true above
  | succ rounds ih =>
      rw [pow_succ] at counts
      have power : 1 ≤ 2 ^ rounds := Nat.one_le_two_pow
      have top : nSdm ≤ 32768 := by
        have least := Nat.mul_le_mul_left nSdm power
        rw [← mul_assoc] at counts
        omega
      have unreached : ¬ 2 * pllRefKhz / nSdm < vcoFra :=
        Nat.not_lt.mpr (below.trans (Nat.div_le_div_left top positive))
      rw [losesCounter, if_neg unreached, decide_eq_true above, Bool.true_and]
      refine ih (Nat.mul_pos two_pos positive) ?_
      calc
        2 * nSdm * 2 ^ rounds = nSdm * (2 ^ rounds * 2) := by ring
        _ ≤ 65536 := counts

/-- The counter is about to be lost, or is lost and the remainder above one. -/
def SdmCalculator.Loses (pllRefKhz : UInt32) (rounds : Nat) (state : SdmCalculator) : Prop :=
  ∃ later,
    rounds = later + 1
    ∧ (SdmCalculator.Counts rounds state ∨ later = 0 ∧ state.nSdm = 0)
    ∧ losesCounter pllRefKhz.toNat later state.nSdm.toNat state.vcoFra.toNat = true

/-- A round that goes on while the counter is to be lost leads to one where it is. Witness:
the counter is doubled, or its top bit is shifted out.
-/
theorem SdmCalculator.Counts.loses {pllRefKhz : UInt32} {later : Nat} {state : SdmCalculator}
    (counts : SdmCalculator.Counts (later + 2) state) {sdm : UInt16} {rest : UInt32}
    (loses : losesCounter pllRefKhz.toNat later (2 * state.nSdm.toNat) rest.toNat = true)
    : SdmCalculator.Loses pllRefKhz (later + 1) ⟨state.nSdm <<< 1, sdm, rest⟩ := by
  by_cases top : state.nSdm.toNat < 32768
  · refine ⟨later, rfl, .inl (counts.double top), ?_⟩
    rw [double_toNat top]
    exact loses
  · have highest : state.nSdm = 0x8000 :=
      UInt16.toNat_inj.mp (le_antisymm counts.le (Nat.not_lt.mp top))
    have total := counts.2
    rw [highest, pow_succ, pow_succ] at total
    obtain rfl : later = 0 := by
      have power : 2 ^ later = 2 ^ 0 := by
        change 32768 * (2 ^ later * 2 * 2) = 2 ^ 17 at total
        omega
      exact Nat.pow_right_injective (le_refl 2) power
    have lost : state.nSdm <<< 1 = 0 := by
      rw [highest]
      decide
    exact ⟨0, rfl, .inr ⟨rfl, lost⟩, loses⟩

/-- Where the counter is lost before the remainder is gone, the sdm calculator divides by zero. -/
theorem calculateSdm_faults {pllRefKhz vcoFra : UInt32} (bound : pllRefKhz.toNat < 2 ^ 31)
    (loses : losesCounter pllRefKhz.toNat 15 2 vcoFra.toNat = true)
    : calculateSdm pllRefKhz vcoFra = .error .divisionByZero := by
  have never (state : SdmCalculator) : ¬ SdmCalculator.Loses pllRefKhz 0 state := by
    rintro ⟨later, last, -⟩
    cases last
  have round (rounds : Nat) (state : SdmCalculator)
      (stuck : SdmCalculator.Loses pllRefKhz (rounds + 1) state)
      : decide (1 < state.vcoFra) = true
        ∧ (sdmRound pllRefKhz state = .error .divisionByZero
          ∨ ∃ next,
            sdmRound pllRefKhz state = .ok (.yield next)
            ∧ SdmCalculator.Loses pllRefKhz rounds next) := by
    obtain ⟨later, same, counts, loses⟩ := stuck
    obtain rfl : rounds = later := Nat.succ.inj same
    have above : 1 < state.vcoFra := UInt32.lt_iff_toNat_lt.mpr (one_lt_of_losesCounter loses)
    refine ⟨decide_eq_true above, ?_⟩
    obtain counts | ⟨rfl, lost⟩ := counts
    · right
      obtain ⟨later, rfl⟩ : ∃ later, rounds = later + 1 := by
        refine Nat.exists_eq_succ_of_ne_zero ?_
        rintro rfl
        have total := counts.2
        have limit := state.nSdm.toNat_lt
        omega
      have value := contribution_toNat bound state.nSdm
      rw [losesCounter, Bool.and_eq_true] at loses
      obtain ⟨-, loses⟩ := loses
      rw [sdmRound_of_counts counts.1]
      split at loses
      next reached =>
        rw [Bool.and_eq_true] at loses
        have contributes : contribution pllRefKhz state.nSdm < state.vcoFra := by
          rw [UInt32.lt_iff_toNat_lt, value]
          exact reached
        have going : ¬ 0x8000 ≤ state.nSdm := by
          rw [UInt16.le_iff_toNat_le]
          exact Nat.not_le.mpr (of_decide_eq_true loses.1)
        rw [if_pos contributes, if_neg going]
        refine ⟨_, rfl, counts.loses ?_⟩
        rw [UInt32.toNat_sub_of_le _ _ (UInt32.le_of_lt contributes), value]
        exact loses.2
      next unreached =>
        have unreached : ¬ contribution pllRefKhz state.nSdm < state.vcoFra := by
          rw [UInt32.lt_iff_toNat_lt, value]
          exact unreached
        rw [if_neg unreached]
        exact ⟨_, rfl, counts.loses loses⟩
    · left
      unfold sdmRound
      rw [lost]
      rfl
  exact whileLoop_faults never round ⟨15, rfl, .inl SdmCalculator.counts_first, loses⟩

end Loops

end RtlTcpAndro.Tuners
