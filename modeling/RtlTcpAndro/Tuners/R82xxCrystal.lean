import RtlTcpAndro.Tuners.R82xxLoops

/-! The crystals with which the phase-locked loop of the R82xx is programmed for every frequency:
all others bring one of its divisors to zero.
-/

namespace RtlTcpAndro.Tuners

open RtlTcpAndro.Faults

/-- A crystal that keeps the divisors of `r82xx_set_pll` away from zero. -/
def LoopFits (xtal : UInt32) : Prop := xtal ≠ 0 ∧ (xtal + 500) / 1000 < 32768

instance (xtal : UInt32) : Decidable (LoopFits xtal) := inferInstanceAs (Decidable (_ ∧ _))

/-- The reference in kHz, with the wrap of the sum that rounds it. -/
theorem pllRefKhz_toNat (xtal : UInt32)
    : ((xtal + 500) / 1000).toNat = (xtal.toNat + 500) % 2 ^ 32 / 1000 := by
  rw [UInt32.toNat_div, UInt32.toNat_add]
  rfl

/-- Twice the crystal, wrapped to 32 bits before it is widened. -/
theorem reference_toNat (xtal : UInt32)
    : (2 * xtal).toUInt64.toNat = 2 * xtal.toNat % 2 ^ 32 := by
  rw [UInt32.toNat_toUInt64, UInt32.toNat_mul]
  rfl

/-- Where the loop fits the crystal, twice the crystal is not zero, so the division by it goes
through.
-/
theorem LoopFits.reference {xtal : UInt32} (fits : LoopFits xtal) : (2 * xtal).toUInt64 ≠ 0 := by
  intro zero
  have same := congrArg UInt64.toNat zero
  rw [reference_toNat] at same
  have nonzero : xtal.toNat ≠ 0 := fun zero => fits.1 (UInt32.toNat_inj.mp zero)
  have small := UInt32.lt_iff_toNat_lt.mp fits.2
  rw [pllRefKhz_toNat] at small
  have bound := xtal.toNat_lt
  change 2 * xtal.toNat % 2 ^ 32 = 0 at same
  change _ < 32768 at small
  omega

section Ends

variable {environment : Environment.Bus R82xxConfig}

/-- Programming the divider ends, with room for a register and a value in a message. -/
theorem programDivider_ends (room : 2 ≤ environment.config.maxI2cMsgLen.toNat)
    (divNum vcoPowerRef : UInt8)
    : (programDivider divNum vcoPowerRef).Ends environment (fun _ => True) :=
  .bind (r82xxRead_ends _ _) fun _ _ => r82xxWriteRegMask_ends room _ _ _

/-- Programming the fraction ends for a crystal below 32768 kHz, since its calculation does.
-/
theorem programSdm_ends (room : 2 ≤ environment.config.maxI2cMsgLen.toNat)
    {pllRefKhz : UInt32} (small : pllRefKhz.toNat < 32768) (vcoFra : UInt32)
    : (programSdm pllRefKhz vcoFra).Ends environment (fun _ => True) := by
  obtain ⟨state, ended⟩ := calculateSdm_ends small vcoFra
  refine .bind (r82xxWriteRegMask_ends room _ _ _) fun _ _ => ?_
  refine .bind (Program.lift_returns ended).ends fun _ _ => ?_
  refine .bind (r82xxWrite_ends room _ _) fun _ _ => ?_
  exact r82xxWrite_ends room _ _

/-- Looking for the lock ends after two looks at most. -/
theorem awaitLock_ends (room : 2 ≤ environment.config.maxI2cMsgLen.toNat)
    : awaitLock.Ends environment (fun _ => True) := by
  refine .bind (r82xxRead_ends _ _) fun _ _ => ?_
  split
  · exact .pure trivial
  · refine .bind (r82xxWriteRegMask_ends room _ _ _) fun _ _ => ?_
    refine .bind (r82xxRead_ends _ _) fun _ _ => ?_
    exact .pure trivial

/-- With a crystal that fits, `r82xx_set_pll` ends for every frequency, whatever the transfers
return and the tuner says.
-/
theorem r82xxSetPll_ends (room : 2 ≤ environment.config.maxI2cMsgLen.toNat)
    (fits : LoopFits environment.config.xtal) (freq : UInt32)
    : (r82xxSetPll freq).Ends environment (fun _ => True) := by
  obtain ⟨divider, found⟩ := calculateDivider_ends ((freq + 500) / 1000)
  have small := UInt32.lt_iff_toNat_lt.mp fits.2
  refine .bind Program.read_returns.ends fun _ same => ?_
  subst same
  refine .bind (r82xxWriteRegMask_ends room _ _ _) fun _ _ => ?_
  refine .bind (r82xxWriteRegMask_ends room _ _ _) fun _ _ => ?_
  refine .bind (r82xxWriteRegMask_ends room _ _ _) fun _ _ => ?_
  refine .bind (Program.lift_returns found).ends fun _ _ => ?_
  refine .bind (programDivider_ends room _ _) fun _ _ => ?_
  refine .bind (Program.lift_returns (divide_of_ne fits.reference)).ends fun _ _ => ?_
  refine .bind Program.require_ends fun _ _ => ?_
  refine .bind (r82xxWrite_ends room _ _) fun _ _ => ?_
  refine .bind (programSdm_ends room small _) fun _ _ => ?_
  refine .bind (awaitLock_ends room) fun locked _ => ?_
  refine .bind Program.modify_returns.ends fun _ _ => ?_
  split
  · exact r82xxWriteRegMask_ends room _ _ _
  · exact .pure trivial

end Ends

-----------------------------------------------------------------------------------------
-- Crystals that do not fit
-----------------------------------------------------------------------------------------

/-- Below 27.656 MHz no divider brings the frequency in range. -/
theorem calculateDivider_low {freqKhz : UInt32} (low : freqKhz.toNat < 27656)
    : calculateDivider freqKhz = .ok ⟨128, 0⟩ := by
  have round (mixDiv doubled : UInt8) (small : mixDiv.toNat ≤ 64) (same : mixDiv <<< 1 = doubled)
      : dividerRound freqKhz ⟨mixDiv, 0⟩ = .ok (.yield ⟨doubled, 0⟩) := by
    have below : ¬ (vcoMin ≤ freqKhz * mixDiv.toUInt32
        ∧ freqKhz * mixDiv.toUInt32 < vcoMax) := by
      rintro ⟨least, -⟩
      replace least := UInt32.le_iff_toNat_le.mp least
      rw [UInt32.toNat_mul] at least
      change 1770000 ≤ freqKhz.toNat * mixDiv.toNat % 2 ^ 32 at least
      have product : freqKhz.toNat * mixDiv.toNat ≤ 27655 * 64 :=
        Nat.mul_le_mul (Nat.le_of_lt_succ low) small
      have reduced := Nat.mod_le (freqKhz.toNat * mixDiv.toNat) (2 ^ 32)
      omega
    unfold dividerRound
    simp only []
    rw [if_neg below, same]
    rfl
  rw [calculateDivider, whileLoop_yield rfl (round 2 4 (by decide) rfl),
    whileLoop_yield rfl (round 4 8 (by decide) rfl),
    whileLoop_yield rfl (round 8 16 (by decide) rfl),
    whileLoop_yield rfl (round 16 32 (by decide) rfl),
    whileLoop_yield rfl (round 32 64 (by decide) rfl),
    whileLoop_yield rfl (round 64 128 (by decide) rfl)]
  exact whileLoop_stops rfl

section Faults

variable {environment : Environment.Bus R82xxConfig}

/-- Where every transfer moves all its bytes, programming the divider returns. -/
theorem programDivider_returns (room : 2 ≤ environment.config.maxI2cMsgLen.toNat)
    (moves : environment.Moves) (divNum vcoPowerRef : UInt8)
    : (programDivider divNum vcoPowerRef).Returns environment (fun _ => True) :=
  .bind (r82xxRead_returns moves _ _) fun _ _ =>
    r82xxWriteRegMask_returns room moves (by decide) _ _

/-- A crystal that is doubled to zero divides the frequency by zero. -/
theorem r82xxSetPll_divides (room : 2 ≤ environment.config.maxI2cMsgLen.toNat)
    (moves : environment.Moves) (zero : (2 * environment.config.xtal).toUInt64 = 0)
    (freq : UInt32)
    : (r82xxSetPll freq).FaultsWith environment .divisionByZero := by
  obtain ⟨divider, found⟩ := calculateDivider_ends ((freq + 500) / 1000)
  refine .after Program.read_returns fun _ same => ?_
  subst same
  refine .after (r82xxWriteRegMask_returns room moves (by decide) _ _) fun _ _ => ?_
  refine .after (r82xxWriteRegMask_returns room moves (by decide) _ _) fun _ _ => ?_
  refine .after (r82xxWriteRegMask_returns room moves (by decide) _ _) fun _ _ => ?_
  refine .after (Program.lift_returns found) fun _ _ => ?_
  refine .after (programDivider_returns room moves _ _) fun _ _ => ?_
  simp only []
  rw [zero]
  exact .bind (Program.lift_faults divide_zero)

/-- Where the calculation of the fraction divides by zero, programming it faults: the write
before it goes through.
-/
theorem programSdm_faults (room : 2 ≤ environment.config.maxI2cMsgLen.toNat)
    (moves : environment.Moves) {pllRefKhz vcoFra : UInt32}
    (faults : calculateSdm pllRefKhz vcoFra = .error .divisionByZero)
    : (programSdm pllRefKhz vcoFra).FaultsWith environment .divisionByZero := by
  refine .after (r82xxWriteRegMask_returns room moves (by decide) _ _) fun _ _ => ?_
  exact .bind (Program.lift_faults faults)

/-- A low frequency whose integer part comes out as zero leaves all of it to the sdm calculator,
which may lose its counter.
-/
theorem r82xxSetPll_loses (room : 2 ≤ environment.config.maxI2cMsgLen.toNat)
    (moves : environment.Moves) {freq : UInt32} (low : freq.toNat < 27655000)
    (nonzero : (2 * environment.config.xtal).toUInt64 ≠ 0)
    (whole : freq.toNat * 128 / (2 * environment.config.xtal).toUInt64.toNat % 256 = 0)
    (loses
      : losesCounter ((environment.config.xtal + 500) / 1000).toNat 15 2 (freq.toNat * 128 / 1000)
        = true)
    : (r82xxSetPll freq).FaultsWith environment .divisionByZero := by
  have found : calculateDivider ((freq + 500) / 1000) = .ok ⟨128, 0⟩ := by
    refine calculateDivider_low ?_
    rw [pllRefKhz_toNat]
    omega
  have vcoFreq : (freq.toUInt64 * (128 : UInt8).toUInt64).toNat = freq.toNat * 128 := by
    rw [UInt64.toNat_mul]
    have bound := freq.toNat_lt
    change freq.toNat * 128 % 2 ^ 64 = _
    omega
  have nint
      : (freq.toUInt64 * (128 : UInt8).toUInt64
          / (2 * environment.config.xtal).toUInt64).toUInt8 = 0 := by
    rw [← UInt8.toNat_inj, UInt64.toNat_toUInt8, UInt64.toNat_div, vcoFreq]
    exact whole
  have vcoFra
      : ((freq.toUInt64 * (128 : UInt8).toUInt64
            - (2 * environment.config.xtal * (0 : UInt8).toUInt32).toUInt64) / 1000).toUInt32.toNat
        = freq.toNat * 128 / 1000 := by
    have none : (2 * environment.config.xtal * (0 : UInt8).toUInt32).toUInt64 = 0 := by
      change (2 * environment.config.xtal * 0).toUInt64 = 0
      rw [UInt32.mul_zero]
      rfl
    rw [none, UInt64.sub_zero, UInt64.toNat_toUInt32, UInt64.toNat_div, vcoFreq]
    change freq.toNat * 128 / 1000 % 2 ^ 32 = _
    omega
  refine .after Program.read_returns fun _ same => ?_
  subst same
  refine .after (r82xxWriteRegMask_returns room moves (by decide) _ _) fun _ _ => ?_
  refine .after (r82xxWriteRegMask_returns room moves (by decide) _ _) fun _ _ => ?_
  refine .after (r82xxWriteRegMask_returns room moves (by decide) _ _) fun _ _ => ?_
  refine .after (Program.lift_returns found) fun divider same => ?_
  subst same
  refine .after (programDivider_returns room moves _ _) fun _ _ => ?_
  refine .after (Program.lift_returns (divide_of_ne nonzero)) fun quotient same => ?_
  subst same
  simp only []
  rw [nint]
  refine .after (Program.require_returns (UInt8.le_iff_toNat_le.mpr (Nat.zero_le _))) fun _ _ => ?_
  refine .after (r82xxWriteReg_returns room moves _ _) fun _ _ => ?_
  refine .bind (programSdm_faults room moves (calculateSdm_faults ?_ ?_))
  · rw [pllRefKhz_toNat]
    omega
  · rw [vcoFra]
    exact loses

/-- Just above half the range of a crystal, one of four frequencies makes the sdm calculator lose
its counter.
-/
theorem losesCounter_near
    : ∀ above < 1024,
        ∃ times ∈ [512, 1, 511, 4],
          losesCounter ((2 ^ 31 + (above + 1) + 500) / 1000) 15 2
            (4 * (above + 1) * times * 128 / 1000)
          = true := by
  decide +kernel

/-- With any other crystal, there is a frequency for which `r82xx_set_pll` divides by zero. -/
theorem r82xxSetPll_faults (room : 2 ≤ environment.config.maxI2cMsgLen.toNat)
    (moves : environment.Moves) (unfit : ¬ LoopFits environment.config.xtal)
    : ∃ freq, (r82xxSetPll freq).FaultsWith environment .divisionByZero := by
  by_cases zero : (2 * environment.config.xtal).toUInt64 = 0
  · exact ⟨0, r82xxSetPll_divides room moves zero 0⟩
  · have nonzero : (2 * environment.config.xtal).toUInt64.toNat ≠ 0 :=
      fun none => zero (UInt64.toNat_inj.mp none)
    have large : 32768 ≤ ((environment.config.xtal + 500) / 1000).toNat := by
      by_contra small
      refine unfit ⟨?_, UInt32.lt_iff_toNat_lt.mpr (Nat.not_le.mp small)⟩
      intro none
      rw [none] at zero
      exact zero rfl
    rw [reference_toNat] at nonzero
    by_cases far : 2048 < 2 * environment.config.xtal.toNat % 2 ^ 32
    · refine ⟨16, r82xxSetPll_loses room moves (by decide) zero ?_ ?_⟩
      · rw [reference_toNat]
        change 2048 / _ % 256 = 0
        rw [Nat.div_eq_of_lt far]
      · refine losesCounter_of_unreached (by decide) (by decide) (by decide) ?_
        change 2 ≤ _
        omega
    · rw [pllRefKhz_toNat] at large
      have bound := environment.config.xtal.toNat_lt
      obtain ⟨above, near, same⟩
          : ∃ above < 1024, environment.config.xtal.toNat = 2 ^ 31 + (above + 1) :=
        ⟨environment.config.xtal.toNat - 2 ^ 31 - 1, by omega, by omega⟩
      obtain ⟨times, chosen, loses⟩ := losesCounter_near above near
      have few : times ≤ 512 := by
        simp only [List.mem_cons, List.not_mem_nil, or_false] at chosen
        omega
      have product : 4 * (above + 1) * times ≤ 4 * 1024 * 512 :=
        Nat.mul_le_mul (Nat.mul_le_mul_left 4 near) few
      have freq : (UInt32.ofNat (4 * (above + 1) * times)).toNat = 4 * (above + 1) * times :=
        UInt32.toNat_ofNat_of_lt' (by change _ < 2 ^ 32; omega)
      refine ⟨UInt32.ofNat (4 * (above + 1) * times), r82xxSetPll_loses room moves ?_ zero ?_ ?_⟩
      · rw [freq]
        omega
      · have reference : 2 * environment.config.xtal.toNat % 2 ^ 32 = 2 * (above + 1) := by
          rw [same]
          omega
        have quotient : 4 * (above + 1) * times * 128 = 2 * (above + 1) * (256 * times) := by ring
        rw [reference_toNat, reference, freq, quotient, Nat.mul_div_cancel_left _ (by omega)]
        exact Nat.mul_mod_right 256 times
      · have modulus : (2 ^ 31 + (above + 1) + 500) % 2 ^ 32 = 2 ^ 31 + (above + 1) + 500 := by
          omega
        rw [freq, pllRefKhz_toNat, same, modulus]
        exact loses

end Faults

end RtlTcpAndro.Tuners
