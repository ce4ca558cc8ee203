import Mathlib.Data.Rat.Cast.Order
import Mathlib.Tactic.Linarith
import RtlTcpAndro.Tuners.R82xxPll

/-! How close the sdm calculator of `r82xx_set_pll` comes, and what its words hold meanwhile. -/

namespace RtlTcpAndro.Tuners

open RtlTcpAndro.Faults
open RtlTcpAndro.Fractions

-----------------------------------------------------------------------------------------
-- Rounds
-----------------------------------------------------------------------------------------

/-- The sdm calculator comes to a round. -/
def SdmCalculator.InRound (pllRefKhz vcoFra : UInt32) (round : Nat) (state : SdmCalculator)
    : Prop :=
  Faults.InRound (fun state => decide (1 < state.vcoFra)) (sdmRound pllRefKhz) ⟨2, 0, vcoFra⟩
    round state

/-- A round divides by numbers that are not zero, and what it adds and subtracts is what it would
without the widths of its words.
-/
structure SdmCalculator.ExactRound (pllRefKhz : Nat) (state next : SdmCalculator) : Prop where
  divisor : state.nSdm ≠ 0
  half : state.nSdm / 2 ≠ 0
  sdm
    : next.sdm.toNat
      = state.sdm.toNat
        + if 2 * pllRefKhz / state.nSdm.toNat < state.vcoFra.toNat then
            32768 / (state.nSdm.toNat / 2)
          else 0
  vcoFra
    : (next.vcoFra.toNat : Int)
      = state.vcoFra.toNat
        - if 2 * pllRefKhz / state.nSdm.toNat < state.vcoFra.toNat then
            2 * pllRefKhz / state.nSdm.toNat
          else 0

variable {pllRefKhz vcoFra : UInt32} {whole rounds round : Nat} {state : SdmCalculator}

/-- At a frequency that is halved so far, a round is exact. -/
theorem SdmCalculator.Approaches.exactRound (small : pllRefKhz.toNat < 32768)
    (approaches : SdmCalculator.Approaches pllRefKhz.toNat whole (rounds + 1) state)
    : ∃ step,
        sdmRound pllRefKhz state = .ok step ∧ state.ExactRound pllRefKhz.toNat step.value := by
  have least := approaches.counts.1
  have part : (contribution pllRefKhz state.nSdm).toNat = 2 * pllRefKhz.toNat / state.nSdm.toNat :=
    contribution_toNat (by omega) state.nSdm
  have digit : 32768 / (state.nSdm.toNat / 2) = 2 ^ rounds := by
    rw [← approaches.digit_toNat, UInt16.toNat_div, UInt16.toNat_div]
    rfl
  have divisor : state.nSdm ≠ 0 := by
    intro zero
    rw [zero, UInt16.toNat_zero] at least
    omega
  have half : state.nSdm / 2 ≠ 0 := by
    intro zero
    have same := congrArg UInt16.toNat zero
    rw [UInt16.toNat_div] at same
    change state.nSdm.toNat / 2 = 0 at same
    omega
  refine ⟨_, sdmRound_of_counts least, ?_⟩
  by_cases above : contribution pllRefKhz state.nSdm < state.vcoFra
  · have contributes := UInt32.lt_iff_toNat_lt.mp above
    have left := UInt32.toNat_sub_of_le _ _ (UInt32.le_of_lt above)
    rw [part] at contributes left
    have exact_ (nSdm : UInt16)
        : state.ExactRound pllRefKhz.toNat
            ⟨nSdm, state.sdm + 32768 / (state.nSdm / 2),
              state.vcoFra - contribution pllRefKhz state.nSdm⟩ := by
      refine ⟨divisor, half, ?_, ?_⟩
      · rw [if_pos contributes, approaches.sum_toNat, digit]
      · rw [if_pos contributes, left]
        omega
    rw [if_pos above]
    split
    · exact exact_ _
    · exact exact_ _
  · have contributes := above
    rw [UInt32.lt_iff_toNat_lt, part] at contributes
    rw [if_neg above]
    refine ⟨divisor, half, ?_, ?_⟩
    · rw [if_neg contributes]
      rfl
    · rw [if_neg contributes, Int.natCast_zero, Int.sub_zero]
      rfl

/-- In every round a frequency is halved so far, and the next round is not the sixteenth. -/
theorem SdmCalculator.InRound.approaches (small : pllRefKhz.toNat < 32768)
    (fits : vcoFra.toNat ≤ 2 * pllRefKhz.toNat)
    (reached : SdmCalculator.InRound pllRefKhz vcoFra round state)
    : round ≤ 15
      ∧ ∃ left, SdmCalculator.Approaches pllRefKhz.toNat vcoFra.toNat (left + 1) state := by
  have last (state : SdmCalculator)
      (approaches : SdmCalculator.Approaches pllRefKhz.toNat vcoFra.toNat 0 state)
      : decide (1 < state.vcoFra) = false :=
    absurd approaches.counts SdmCalculator.Counts.not_zero
  have yields (left : Nat) (state following : SdmCalculator)
      (approaches : SdmCalculator.Approaches pllRefKhz.toNat vcoFra.toNat (left + 1) state)
      (goes : decide (1 < state.vcoFra) = true)
      (ran : sdmRound pllRefKhz state = .ok (.yield following))
      : SdmCalculator.Approaches pllRefKhz.toNat vcoFra.toNat left following := by
    obtain ⟨next, yielded, kept⟩ | ⟨next, ended, -⟩ :=
      approaches.round small (of_decide_eq_true goes)
    · cases ran.symm.trans yielded
      exact kept
    · cases ran.symm.trans ended
  obtain ⟨-, left, total, approaches⟩ :=
    @Faults.InRound.invariant _ _ _ (SdmCalculator.Approaches pllRefKhz.toNat vcoFra.toNat) _ _ _ _
      reached last yields (.first fits)
  refine ⟨?_, left, approaches⟩
  -- a counter of seventeen bits would be needed in the sixteenth round
  have another : left ≠ 0 := by
    rintro rfl
    have bound := state.nSdm.toNat_lt
    have counts := approaches.counts.2
    omega
  omega

/-- The sum of the bits is within sixteen kilohertz. -/
theorem SdmCalculator.Approached.within
    (approached : state.Approached pllRefKhz.toNat whole)
    : |(2 * pllRefKhz.toNat * state.sdm.toNat : ℚ) / 65536 - whole| ≤ 16 := by
  obtain ⟨little, divisor, steps, few, halved⟩ := approached
  have part := halved.part
  have lower := halved.lower
  have upper := halved.upper
  have least : (65536 * whole : ℚ) ≤ 2 * pllRefKhz.toNat * state.sdm.toNat + 65536 * 16 := by
    have bound : 65536 * whole ≤ 2 * pllRefKhz.toNat * state.sdm.toNat + 65536 * 16 := by omega
    exact_mod_cast bound
  have most : (2 * pllRefKhz.toNat * state.sdm.toNat : ℚ) ≤ 65536 * whole + 65536 * 16 := by
    have bound : 2 * pllRefKhz.toNat * state.sdm.toNat ≤ 65536 * whole + 65536 * 16 := by omega
    exact_mod_cast bound
  rw [abs_le]
  constructor <;> linarith

-----------------------------------------------------------------------------------------
-- The calculator
-----------------------------------------------------------------------------------------

/-- For a crystal below 32768 kHz and at most twice its frequency, the sdm calculator ends after
fifteen rounds at most, which are all exact, and within sixteen kilohertz.
-/
theorem calculateSdm_accurate (small : pllRefKhz.toNat ≤ 32767)
    (fits : vcoFra.toNat ≤ 2 * pllRefKhz.toNat)
    : (∃ state,
        calculateSdm pllRefKhz vcoFra = .ok state
        ∧ |(2 * pllRefKhz.toNat * state.sdm.toNat : ℚ) / 65536 - vcoFra.toNat| ≤ 16)
      ∧ ∀ round state,
          SdmCalculator.InRound pllRefKhz vcoFra round state
          → round ≤ 15
            ∧ ∃ step,
                sdmRound pllRefKhz state = .ok step
                ∧ state.ExactRound pllRefKhz.toNat step.value := by
  have below := Nat.lt_succ_of_le small
  constructor
  · obtain ⟨state, ended, approached⟩ := calculateSdm_approaches below fits
    exact ⟨state, ended, approached.within⟩
  · intro round state reached
    obtain ⟨few, left, approaches⟩ := reached.approaches below fits
    exact ⟨few, approaches.exactRound below⟩

/-- The usual crystal, and the most that is left to the sdm. -/
theorem calculateSdm_accurate_28800
    : (∃ state,
        calculateSdm 28800 57600 = .ok state
        ∧ |(2 * (28800 : UInt32).toNat * state.sdm.toNat : ℚ) / 65536 - (57600 : UInt32).toNat|
          ≤ 16)
      ∧ ∀ round state,
          SdmCalculator.InRound 28800 57600 round state
          → round ≤ 15
            ∧ ∃ step,
                sdmRound 28800 state = .ok step
                ∧ state.ExactRound (28800 : UInt32).toNat step.value :=
  calculateSdm_accurate (by decide) (by decide)

end RtlTcpAndro.Tuners
