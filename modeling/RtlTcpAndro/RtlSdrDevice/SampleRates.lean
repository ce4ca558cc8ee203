import Mathlib.Data.Nat.Bitwise
import RtlTcpAndro.RtlSdrDevice.Doubles
import RtlTcpAndro.RtlSdrDevice.Retuning
import RtlTcpAndro.RtlSdrDevice.ZeroIf

/-! The resampler ratio that `rtlsdr_set_sample_rate` writes, of which bit 28 is read back from bit
27, and the rate that it stands for.
-/

namespace RtlTcpAndro.RtlSdrDevice

-----------------------------------------------------------------------------------------
-- Ratios in exact arithmetic
-----------------------------------------------------------------------------------------

/-- The ratio of a crystal and a rate before it is masked. -/
def exactRatio (rtlXtal sampRate : UInt32) : Nat := rtlXtal.toNat * 2 ^ 22 / sampRate.toNat

/-- `real_rsamp_ratio` -/
def realRsampRatio (ratio : UInt32) : UInt32 := ratio ||| ((ratio &&& 0x08000000) <<< 1)

/-- The integer part of the rate that a ratio stands for. -/
def exactRate (rtlXtal ratio : UInt32) : Nat :=
  rtlXtal.toNat * 2 ^ 22 / (realRsampRatio ratio).toNat

/-- Bit 28 of the ratio is bit 27, and there is no higher one. -/
def RatioFits (rtlXtal sampRate : UInt32) : Prop :=
  exactRatio rtlXtal sampRate < 2 ^ 27
  ∨ 2 ^ 28 + 2 ^ 27 ≤ exactRatio rtlXtal sampRate ∧ exactRatio rtlXtal sampRate < 2 ^ 29

/-- The mask of a ratio takes the bits from 2 to 27. -/
theorem and_ratioMask (n : Nat) : n &&& 0x0ffffffc = n % 2 ^ 28 - n % 4 := by
  have mask : 0x0ffffffc = (2 ^ 26 - 1) <<< 2 := rfl
  have bits : n &&& 0x0ffffffc = (n >>> 2 &&& (2 ^ 26 - 1)) <<< 2 := by
    rw [mask]
    refine Nat.eq_of_testBit_eq fun i => ?_
    simp only [Nat.testBit_and, Nat.testBit_shiftLeft, Nat.testBit_shiftRight]
    by_cases low : 2 ≤ i
    · simp [low, Nat.add_sub_cancel' low]
    · simp [low]
  rw [bits, Nat.and_two_pow_sub_one_eq_mod, Nat.shiftLeft_eq, Nat.shiftRight_eq_div_pow]
  omega

/-- Reading a ratio back copies its highest bit to the next one. -/
theorem realRsampRatio_toNat {ratio : UInt32} (small : ratio.toNat < 2 ^ 28)
    : (realRsampRatio ratio).toNat
      = if ratio.toNat < 2 ^ 27 then ratio.toNat else ratio.toNat + 2 ^ 28 := by
  have real : (realRsampRatio ratio).toNat
      = ratio.toNat ||| ((ratio.toNat &&& 2 ^ 27) <<< 1 % 2 ^ 32) := by
    simp only [realRsampRatio, UInt32.toNat_or, UInt32.toNat_shiftLeft, UInt32.toNat_and]
    rfl
  rw [real, Nat.and_two_pow, Nat.testBit_eq_decide_div_mod_eq]
  split
  next low =>
    have clear : ratio.toNat / 2 ^ 27 % 2 ≠ 1 := by omega
    simp only [clear, decide_false, Bool.toNat_false, Nat.zero_mul]
    exact Nat.or_zero ratio.toNat
  next high =>
    have set : ratio.toNat / 2 ^ 27 % 2 = 1 := by omega
    simp only [set, decide_true, Bool.toNat_true]
    change ratio.toNat ||| 2 ^ 28 = _
    rw [Nat.or_comm, ← Nat.mul_one (2 ^ 28), ← Nat.two_pow_add_eq_or_of_lt small 1, Nat.add_comm]

-----------------------------------------------------------------------------------------
-- The double quotients
-----------------------------------------------------------------------------------------

/-- The quotient of a crystal and any divisor, as the code forms it, without its fraction. -/
theorem truncate_xtalQuotient (rtlXtal : UInt32) {divisor : Nat} (positive : 0 < divisor)
    (small : rtlXtal.toNat ≤ 28801000)
    : truncate (toDouble (toDouble (rtlXtal.toNat * twoPow 22) / divisor))
      = (rtlXtal.toNat * 2 ^ 22 / divisor : Nat) := by
  have product : (rtlXtal.toNat : ℚ) * twoPow 22 = ((rtlXtal.toNat * 2 ^ 22 : Nat) : ℚ) := by
    rw [twoPow]
    push_cast
    rfl
  have bound : rtlXtal.toNat * 2 ^ 22 < 2 ^ 53 := by omega
  have quotient := truncate_toDouble_div (n := (rtlXtal.toNat * 2 ^ 22 : Nat))
    (by rwa [Int.natAbs_natCast]) positive
  rw [product, toDouble_natCast bound]
  rw [Int.cast_natCast] at quotient
  rw [quotient]
  exact Int.tdiv_eq_ediv_of_nonneg (Int.natCast_nonneg _)

section Accepted

variable {rtlXtal sampRate : UInt32}

/-- The crystal's bounds, as numbers. Witness: both constants are computed. -/
theorem rtlXtal_toNat_bounds (least : minRtlXtalFreq ≤ rtlXtal) (most : rtlXtal ≤ maxRtlXtalFreq)
    : 28799000 ≤ rtlXtal.toNat ∧ rtlXtal.toNat ≤ 28801000 := by
  have first : minRtlXtalFreq.toNat = 28799000 := by decide
  have last : maxRtlXtalFreq.toNat = 28801000 := by decide
  rw [← first, ← last]
  exact ⟨UInt32.le_iff_toNat_le.mp least, UInt32.le_iff_toNat_le.mp most⟩

/-- A supported rate lies above 225 kHz and at most at 3.2 MHz. Witness: the three tests of
the code, as numbers.
-/
theorem rateSupported_bounds (supported : rateSupported sampRate)
    : 225000 < sampRate.toNat ∧ sampRate.toNat ≤ 3200000 := by
  simp only [rateSupported, UInt32.le_iff_toNat_le, UInt32.lt_iff_toNat_lt] at supported
  change ¬ (sampRate.toNat ≤ 225000 ∨ 3200000 < sampRate.toNat
    ∨ 300000 < sampRate.toNat ∧ sampRate.toNat ≤ 900000) at supported
  omega

/-- Accepted crystals and rates have ratios of at most 30 bits, well above the rate. -/
theorem exactRatio_bounds (least : 28799000 ≤ rtlXtal.toNat) (most : rtlXtal.toNat ≤ 28801000)
    (supported : rateSupported sampRate)
    : 4 * sampRate.toNat + 3 ≤ exactRatio rtlXtal sampRate
      ∧ exactRatio rtlXtal sampRate < 2 ^ 29 + 2 ^ 27 := by
  obtain ⟨lower, upper⟩ := rateSupported_bounds supported
  constructor
  · rw [exactRatio, Nat.le_div_iff_mul_le (by omega)]
    have scaled := Nat.mul_le_mul (show 4 * sampRate.toNat + 3 ≤ 12800003 by omega) upper
    have room : 28799000 * 2 ^ 22 ≤ rtlXtal.toNat * 2 ^ 22 := Nat.mul_le_mul_right _ least
    exact le_trans scaled (le_trans (by norm_num) room)
  · rw [exactRatio, Nat.div_lt_iff_lt_mul (by omega)]
    omega

/-- The code masks the exact ratio. -/
theorem rsampRatio_toNat (most : rtlXtal.toNat ≤ 28801000)
    (bound : exactRatio rtlXtal sampRate < 2 ^ 32) (positive : 0 < sampRate.toNat)
    : (rsampRatio rtlXtal sampRate).toNat
      = exactRatio rtlXtal sampRate % 2 ^ 28 - exactRatio rtlXtal sampRate % 4 := by
  have masked : (UInt32.ofInt (exactRatio rtlXtal sampRate : Nat)).toNat
      = exactRatio rtlXtal sampRate := by
    have reduced : ((exactRatio rtlXtal sampRate : ℤ) % 2 ^ 32).toNat
        = exactRatio rtlXtal sampRate := by
      omega
    rw [UInt32.ofInt, reduced, UInt32.toNat_ofNat_of_lt' bound]
  rw [rsampRatio, truncate_xtalQuotient rtlXtal positive most, UInt32.toNat_and]
  change (UInt32.ofInt (exactRatio rtlXtal sampRate : Nat)).toNat &&& 0x0ffffffc = _
  rw [masked, and_ratioMask]

/-- Where the ratio is read back as it was before the mask, the rate is the one it was made for.
-/
theorem exactRate_eq_of_kept {product rate ratio : Nat} (positive : 0 < rate)
    (above : 4 * rate + 3 ≤ product / rate) (read : ratio = product / rate - product / rate % 4)
    : product / ratio = rate := by
  have least := Nat.div_mul_le_self product rate
  have most := Nat.lt_mul_div_succ product positive
  have kept : product / rate ≤ ratio + 3 := by omega
  rw [Nat.div_eq_iff (by omega)]
  constructor
  · calc
      rate * ratio ≤ rate * (product / rate) := Nat.mul_le_mul_left rate (by omega)
      _ = product / rate * rate := Nat.mul_comm _ _
      _ ≤ product := least
  · have close : rate * (product / rate + 1) ≤ rate * (ratio + 4) :=
      Nat.mul_le_mul_left rate (by omega)
    rw [Nat.mul_add rate ratio 4] at close
    omega

/-- Where it is read back larger, or not half as large, the rate is another one. -/
theorem exactRate_ne_of_changed {product rate ratio : Nat} (positive : 0 < rate)
    (read : product / rate < ratio ∨ 2 * ratio ≤ product / rate)
    : product / ratio ≠ rate := by
  intro same
  have least := Nat.div_mul_le_self product rate
  have most := Nat.lt_mul_div_succ product positive
  obtain more | less := read
  · have reached : rate * ratio ≤ product := same ▸ Nat.div_mul_le_self product ratio
    have scaled := Nat.mul_le_mul_left rate (show product / rate + 1 ≤ ratio from more)
    omega
  · obtain rfl | some := Nat.eq_zero_or_pos ratio
    · rw [Nat.div_zero] at same
      omega
    · have short := Nat.lt_mul_div_succ product some
      rw [same, Nat.mul_comm, Nat.add_mul] at short
      have scaled := Nat.mul_le_mul_left rate less
      have once := Nat.mul_le_mul_right ratio positive
      rw [Nat.mul_comm (product / rate)] at least
      have twice : rate * (2 * ratio) = rate * ratio + rate * ratio := by ring
      omega

/-- The masked ratio stands for the rate it was made for exactly if it fits. -/
theorem exactRate_rsampRatio_iff (least : 28799000 ≤ rtlXtal.toNat)
    (most : rtlXtal.toNat ≤ 28801000) (supported : rateSupported sampRate)
    : exactRate rtlXtal (rsampRatio rtlXtal sampRate) = sampRate.toNat
      ↔ RatioFits rtlXtal sampRate := by
  obtain ⟨lower, -⟩ := rateSupported_bounds supported
  obtain ⟨above, below⟩ := exactRatio_bounds least most supported
  have masked := rsampRatio_toNat most (by omega) (show 0 < sampRate.toNat by omega)
  have read := realRsampRatio_toNat (show (rsampRatio rtlXtal sampRate).toNat < 2 ^ 28 by omega)
  constructor
  · intro same
    by_contra unfit
    unfold RatioFits at unfit
    refine exactRate_ne_of_changed (show 0 < sampRate.toNat by omega) ?_ same
    change exactRatio rtlXtal sampRate < _ ∨ _ ≤ exactRatio rtlXtal sampRate
    split at read <;> omega
  · intro fits
    refine exactRate_eq_of_kept (show 0 < sampRate.toNat by omega) above ?_
    change _ = exactRatio rtlXtal sampRate - exactRatio rtlXtal sampRate % 4
    unfold RatioFits at fits
    split at read <;> omega

/-- The rate that is stored is the one in exact arithmetic, if that is one that can be asked for.
-/
theorem realRate_of_exactRate (most : rtlXtal.toNat ≤ 28801000)
    (supported : rateSupported sampRate)
    (exact : exactRate rtlXtal (rsampRatio rtlXtal sampRate) = sampRate.toNat)
    : realRate rtlXtal sampRate = sampRate := by
  obtain ⟨lower, -⟩ := rateSupported_bounds supported
  have positive : 0 < (realRsampRatio (rsampRatio rtlXtal sampRate)).toNat := by
    refine Nat.pos_of_ne_zero fun zero => ?_
    rw [exactRate, zero, Nat.div_zero] at exact
    omega
  have truncated := truncate_xtalQuotient rtlXtal positive most
  change truncate _ = (exactRate rtlXtal (rsampRatio rtlXtal sampRate) : ℤ) at truncated
  rw [exact] at truncated
  refine (congrArg UInt32.ofInt truncated).trans ?_
  have bound := sampRate.toNat_lt
  have reduced : ((sampRate.toNat : ℤ) % 2 ^ 32).toNat = sampRate.toNat := by omega
  rw [UInt32.ofInt, reduced, UInt32.ofNat_toNat]

end Accepted

-----------------------------------------------------------------------------------------
-- The registers of the ratio
-----------------------------------------------------------------------------------------

/-- The ratio in the registers of the demodulator. -/
def Chip.rsampRatio (chip : Chip) : Nat :=
  (chip.demod 1 0x9f).toNat * 2 ^ 24 + (chip.demod 1 0xa0).toNat * 2 ^ 16
    + (chip.demod 1 0xa1).toNat * 2 ^ 8 + (chip.demod 1 0xa2).toNat

/-- The bytes of a word that is written in two halves. -/
theorem word_of_bytes (ratio : UInt32)
    : ((ratio >>> 16).toUInt16 >>> 8).toUInt8.toNat * 2 ^ 24
        + (ratio >>> 16).toUInt16.toUInt8.toNat * 2 ^ 16
        + ((ratio &&& 0xffff).toUInt16 >>> 8).toUInt8.toNat * 2 ^ 8
        + (ratio &&& 0xffff).toUInt16.toUInt8.toNat
      = ratio.toNat := by
  have low : (ratio &&& 0xffff).toNat = ratio.toNat % 2 ^ 16 := by
    rw [UInt32.toNat_and, ← Nat.and_two_pow_sub_one_eq_mod]
    rfl
  have bound := ratio.toNat_lt
  simp only [UInt16.toNat_toUInt8, UInt16.toNat_shiftRight, UInt32.toNat_toUInt16,
    UInt32.toNat_shiftRight, low, Nat.shiftRight_eq_div_pow]
  change ratio.toNat / 2 ^ 16 % 2 ^ 16 / 2 ^ 8 % 2 ^ 8 * 2 ^ 24
      + ratio.toNat / 2 ^ 16 % 2 ^ 16 % 2 ^ 8 * 2 ^ 16
      + ratio.toNat % 2 ^ 16 % 2 ^ 16 / 2 ^ 8 % 2 ^ 8 * 2 ^ 8
      + ratio.toNat % 2 ^ 16 % 2 ^ 16 % 2 ^ 8
    = _
  omega

section Runs

variable {environment : Environment.Radio} {radio : Radio}

/-- The rate and the ratio of a radio. -/
def Radio.rateAndRatio (radio : Radio) : UInt32 × Nat :=
  (radio.settings.rate, radio.chip.rsampRatio)

/-- Tuning again leaves the rate and the resampler's ratio. Witness: neither is among what it
changes.
-/
theorem Tuning.Retunes.preserves_rateAndRatio {α : Type} {tuning : Tuning α}
    (retunes : tuning.Retunes)
    : tuning.Preserves Radio.rateAndRatio := by
  intro environment radio
  have retuned := retunes environment radio
  unfold Radio.rateAndRatio Chip.rsampRatio
  rw [retuned.rate, retuned.registers 0x9f (by decide), retuned.registers 0xa0 (by decide),
    retuned.registers 0xa1 (by decide), retuned.registers 0xa2 (by decide)]

/-- A write of a byte to another register leaves the rate and the ratio. -/
theorem rtlsdrDemodWriteReg_preserves_rateAndRatio {addr : UInt16} (val : UInt16)
    (other : addr ∉ [0x9f, 0xa0, 0xa1, 0xa2])
    : (rtlsdrDemodWriteReg 1 addr val 1).Preserves Radio.rateAndRatio := by
  refine rtlsdrDemodWriteReg_preserves (fun _ => rfl) fun radio => ?_
  simp only [List.mem_cons, List.not_mem_nil, or_false, not_or] at other
  unfold Radio.rateAndRatio Chip.rsampRatio Radio.written
  simp only [demod_written_of_ne _ _ val (Ne.symm other.1),
    demod_written_of_ne _ _ val (Ne.symm other.2.1),
    demod_written_of_ne _ _ val (Ne.symm other.2.2.1),
    demod_written_of_ne _ _ val (Ne.symm other.2.2.2)]
  rfl

/-- The correction's two writes leave the rate and the resampler's ratio. Witness: their
registers are not the ratio's.
-/
theorem rtlsdrSetSampleFreqCorrection_preserves_rateAndRatio (ppm : Int32)
    : (rtlsdrSetSampleFreqCorrection ppm).Preserves Radio.rateAndRatio := by
  refine .bind (rtlsdrDemodWriteReg_preserves_rateAndRatio _ (by decide)) fun _ => ?_
  exact .bind (rtlsdrDemodWriteReg_preserves_rateAndRatio _ (by decide)) fun _ => .pure

/-- What is left of a call once the ratio is written. -/
theorem afterRatio_preserves (r : Int32)
    : (do
        if (← setting Settings.offsFreq) ≠ 0 then
          let _ ← rtlsdrSetOffsetTuning 1
        return r : Tuning Int32).Preserves Radio.rateAndRatio := by
  refine .bind (setting_preserves _) fun offsFreq => ?_
  split
  · exact .bind (rtlsdrSetOffsetTuning_retunes 1).preserves_rateAndRatio fun _ => .pure
  · exact .pure

/-- Programming the ratio leaves the rate stored. Witness: each write changes the demodulator
only.
-/
theorem writeRsampRatio_rate (ratio : UInt32) (corr : Int32)
    : (writeRsampRatio ratio corr).Preserves fun radio => radio.settings.rate := by
  have write (addr val : UInt16) (len : UInt8)
      : (rtlsdrDemodWriteReg 1 addr val len).Preserves fun radio => radio.settings.rate :=
    rtlsdrDemodWriteReg_preserves (fun _ => rfl) (fun _ => rfl)
  refine .bind (write _ _ _) fun _ => .bind (write _ _ _) fun _ => ?_
  refine .bind (.bind (write _ _ _) fun _ => .bind (write _ _ _) fun _ => .pure) fun _ => ?_
  exact .bind (write _ _ _) fun _ => .bind (write _ _ _) fun _ => .pure

/-- Where all bytes are moved, the registers hold the ratio. -/
theorem writeRsampRatio_ratio (moves : ∀ number, environment.transfers number = true)
    (ratio : UInt32) (corr : Int32)
    : (writeRsampRatio ratio corr environment radio).2.chip.rsampRatio = ratio.toNat := by
  have rest (r : Int32)
      : (do
          let r := r ||| (← rtlsdrSetSampleFreqCorrection corr)
          let r := r ||| (← rtlsdrDemodWriteReg 1 0x01 0x14 1)
          let r := r ||| (← rtlsdrDemodWriteReg 1 0x01 0x10 1)
          return r : Tuning Int32).Preserves Radio.rateAndRatio := by
    refine .bind (rtlsdrSetSampleFreqCorrection_preserves_rateAndRatio corr) fun _ => ?_
    refine .bind (rtlsdrDemodWriteReg_preserves_rateAndRatio _ (by decide)) fun _ => ?_
    exact .bind (rtlsdrDemodWriteReg_preserves_rateAndRatio _ (by decide)) fun _ => .pure
  have written (radio : Radio) (addr val : UInt16) (len : UInt8)
      : rtlsdrDemodWriteReg 1 addr val len environment radio
        = (0, radio.written 1 addr val len) := by
    rw [rtlsdrDemodWriteReg_run, if_pos (moves _)]
  rw [writeRsampRatio, Tuning.bind_run (written radio _ _ _), Tuning.bind_run (written _ _ _ _)]
  refine (congrArg Prod.snd (rest _ environment _)).trans ?_
  exact word_of_bytes ratio

/-- The rate is stored and stays. -/
theorem applySampleRate_rate (rate ratio : UInt32)
    : (applySampleRate rate ratio environment radio).2.settings.rate = rate := by
  have rest
      : (do
          setRateBandwidth
          let r ← writeRsampRatio ratio (← setting Settings.corr)
          if (← setting Settings.offsFreq) ≠ 0 then
            let _ ← rtlsdrSetOffsetTuning 1
          return r : Tuning Int32).Preserves fun radio => radio.settings.rate := by
    refine .bind (fun environment radio => (setRateBandwidth_retunes environment radio).rate)
      fun _ => ?_
    refine .bind (setting_preserves _) fun corr => ?_
    refine .bind (writeRsampRatio_rate ratio corr) fun r => ?_
    exact fun environment radio => congrArg Prod.fst (afterRatio_preserves r environment radio)
  exact rest environment _

/-- The ratio is written and stays. -/
theorem applySampleRate_ratio (moves : ∀ number, environment.transfers number = true)
    (rate ratio : UInt32)
    : (applySampleRate rate ratio environment radio).2.chip.rsampRatio = ratio.toNat :=
  (congrArg Prod.snd (afterRatio_preserves _ environment _)).trans
    (writeRsampRatio_ratio moves ratio _)

/-- The rate that was asked for is configured: it is stored, the ratio stands for it, and the
ratio is in the registers if all bytes were moved.
-/
structure RateConfigured (environment : Environment.Radio) (sampRate : UInt32)
    (before after : Radio)
    : Prop where
  stored : after.settings.rate = sampRate
  exact
    : exactRate before.settings.rtlXtal (rsampRatio before.settings.rtlXtal sampRate)
      = sampRate.toNat
  written
    : (∀ number, environment.transfers number = true)
      → after.chip.rsampRatio = (rsampRatio before.settings.rtlXtal sampRate).toNat

/-- An accepted rate is configured exactly if bit 28 of its ratio is bit 27. -/
theorem rtlsdrSetSampleRate_configures_iff {sampRate : UInt32}
    (least : minRtlXtalFreq ≤ radio.settings.rtlXtal)
    (most : radio.settings.rtlXtal ≤ maxRtlXtalFreq) (supported : rateSupported sampRate)
    : RateConfigured environment sampRate radio
          (rtlsdrSetSampleRate sampRate environment radio).2
        ↔ RatioFits radio.settings.rtlXtal sampRate := by
  obtain ⟨lower, upper⟩ := rtlXtal_toNat_bounds least most
  rw [← exactRate_rsampRatio_iff lower upper supported]
  have accepted : rtlsdrSetSampleRate sampRate environment radio
      = applySampleRate (realRate radio.settings.rtlXtal sampRate)
          (rsampRatio radio.settings.rtlXtal sampRate) environment radio := by
    have crystal : setting Settings.rtlXtal environment radio
        = (radio.settings.rtlXtal, radio) :=
      rfl
    rw [rtlsdrSetSampleRate, if_neg (not_not.mpr supported)]
    exact Tuning.bind_run crystal
  rw [accepted]
  constructor
  · exact RateConfigured.exact
  · intro exact
    refine ⟨?_, exact, fun moves => applySampleRate_ratio moves _ _⟩
    rw [applySampleRate_rate, realRate_of_exactRate upper supported exact]

end Runs

/-- A device with a crystal for the demodulator and registers that are zero. -/
def Radio.withXtal (rtlXtal : UInt32) : Radio where
  settings := (Settings.opened .r820t).withRtlXtal rtlXtal
  chip := ⟨fun _ _ => 0, 0⟩

/-- The rate of 2.048 MHz is configured on the crystal of the dongles. Witness: its ratio is
below 2^27.
-/
theorem rtlsdrSetSampleRate_configures_2048000
    : RateConfigured .obliging 2048000 (.withXtal 28800000)
        (rtlsdrSetSampleRate 2048000 .obliging (.withXtal 28800000)).2 :=
  (rtlsdrSetSampleRate_configures_iff (by decide) (by decide) (by decide)).mpr
    (.inl (by decide))

/-- The fastest crystal brings the ratio of the lowest rate above 900 kHz to bit 27. -/
theorem rtlsdrSetSampleRate_misses_900001
    : ¬ RateConfigured .obliging 900001 (.withXtal 28801000)
          (rtlsdrSetSampleRate 900001 .obliging (.withXtal 28801000)).2 := by
  intro configured
  have fits := (exactRate_rsampRatio_iff (by decide) (by decide) (by decide)).mp configured.exact
  revert fits
  unfold RatioFits exactRatio
  decide

end RtlTcpAndro.RtlSdrDevice
