import RtlTcpAndro.RtlSdrDevice.Doubles
import RtlTcpAndro.RtlSdrDevice.Retuning
import RtlTcpAndro.RtlSdrDevice.ZeroIf

/-! The correction of the frequency: what `rtlsdr_set_freq_correction` leaves in the device and in
the registers of the demodulator, and whether a failed call can be repeated.
-/

namespace RtlTcpAndro.RtlSdrDevice

-----------------------------------------------------------------------------------------
-- The registers of the correction
-----------------------------------------------------------------------------------------

/-- `offs` in `rtlsdr_set_sample_freq_correction` -/
def sampleFreqOffs (ppm : Int32) : Int16 :=
  Int16.ofInt (truncate (toDouble (toDouble ((ppm * -1).toInt * twoPow 24) / 1000000)))

/-- The registers 0x3e and 0x3f. -/
def Chip.correction (chip : Chip) : UInt8 × UInt8 := (chip.demod 1 0x3e, chip.demod 1 0x3f)

/-- The values of `tmp` that are written, the upper six bits and the lower eight. -/
def correctionHigh (ppm : Int32) : UInt16 := (sampleFreqOffs ppm >>> 8).toUInt16 &&& 0x3f
def correctionLow (ppm : Int32) : UInt16 := (sampleFreqOffs ppm).toUInt16 &&& 0xff

/-- What the two registers hold for a correction. -/
def correctionBytes (ppm : Int32) : UInt8 × UInt8 :=
  ((correctionHigh ppm).toUInt8, (correctionLow ppm).toUInt8)

/-- A correction is in the device and in the registers. -/
structure Radio.Corrected (radio : Radio) (ppm : Int32) : Prop where
  corr : radio.settings.corr = ppm
  registers : radio.chip.correction = correctionBytes ppm

/-- Tuning leaves the registers of the correction alone. -/
theorem Retuned.correction {before after : Radio} (retuned : Retuned before after)
    : after.chip.correction = before.chip.correction := by
  rw [Chip.correction, Chip.correction, retuned.registers 0x3e (by decide),
    retuned.registers 0x3f (by decide)]

-----------------------------------------------------------------------------------------
-- What a call transfers
-----------------------------------------------------------------------------------------

/-- Both writes of the correction move their bytes. -/
def CorrectionMoves (environment : Environment.Radio) (call : Nat) : Prop :=
  environment.transfers call = true ∧ environment.transfers (call + 1) = true

/-- The retune moves its bytes: those of the three registers of the intermediate frequency, or those
of the transfers that the tuner makes, if there is one. What switches the repeater has no result.
-/
def Settings.RetuneMoves (settings : Settings) (environment : Environment.Radio) (call : Nat)
    : Prop :=
  if settings.directSampling ≠ 0 then
    environment.transfers call = true
    ∧ environment.transfers (call + 1) = true
    ∧ environment.transfers (call + 2) = true
  else settings.tunerType.supported = true → environment.transfers (call + 1) = true

/-- No transfer fails of a call that corrects the frequency, the retune included. -/
def Radio.CorrectingMoves (radio : Radio) (environment : Environment.Radio) : Prop :=
  CorrectionMoves environment radio.chip.calls
  ∧ (radio.settings.freq ≠ 0
    → radio.settings.RetuneMoves environment (radio.chip.calls + 2))

/-- No transfer of the retune makes it fail: it moves its bytes, or the tuner does not move all of
its own and returns zero for all that.
-/
def Settings.RetunePasses (settings : Settings) (environment : Environment.Radio) (call : Nat)
    : Prop :=
  settings.RetuneMoves environment call
  ∨ settings.directSampling = 0
    ∧ environment.tuner (call + 1) (.setFreq (settings.freq - settings.offsFreq)) = 0

/-- No transfer makes a call that corrects the frequency fail. -/
def Radio.CorrectingPasses (radio : Radio) (environment : Environment.Radio) : Prop :=
  CorrectionMoves environment radio.chip.calls
  ∧ (radio.settings.freq ≠ 0
    → radio.settings.RetunePasses environment (radio.chip.calls + 2))

section Runs

variable {environment : Environment.Radio} {radio : Radio} {ppm : Int32}

/-- A write returns zero exactly if its transfer moves. Witness: the run of the write. -/
theorem rtlsdrDemodWriteReg_eq_zero_iff {page : UInt8} {addr val : UInt16} {len : UInt8}
    : (rtlsdrDemodWriteReg page addr val len environment radio).1 = 0
      ↔ environment.transfers radio.chip.calls = true := by
  rw [rtlsdrDemodWriteReg_run]
  split
  next moved => exact iff_of_true rfl moved
  next failed => exact iff_of_false (by decide : (-1 : Int32) ≠ 0) failed

/-- A write is one call, whether its transfer moves or not. -/
theorem rtlsdrDemodWriteReg_calls {page : UInt8} {addr val : UInt16} {len : UInt8}
    : (rtlsdrDemodWriteReg page addr val len environment radio).2.chip.calls
      = radio.chip.calls + 1 := by
  rw [rtlsdrDemodWriteReg_run]
  split <;> rfl

/-- A write changes no setting, whether its transfer moves or not. -/
theorem rtlsdrDemodWriteReg_settings {page : UInt8} {addr val : UInt16} {len : UInt8}
    : (rtlsdrDemodWriteReg page addr val len environment radio).2.settings = radio.settings := by
  rw [rtlsdrDemodWriteReg_run]
  split <;> rfl

/-- What the writes of a correction leave. -/
structure CorrectionWritten (environment : Environment.Radio) (radio : Radio) (ppm : Int32)
    (outcome : Int32 × Radio)
    : Prop where
  returned : outcome.1 = 0 ↔ CorrectionMoves environment radio.chip.calls
  settings : outcome.2.settings = radio.settings
  calls : outcome.2.chip.calls = radio.chip.calls + 2
  registers
    : CorrectionMoves environment radio.chip.calls
      → outcome.2.chip.correction = correctionBytes ppm

/-- The correction is written by two transfers, and its result is zero exactly if both move.
Witness: the two writes in a row, each with its own call.
-/
theorem rtlsdrSetSampleFreqCorrection_writes (ppm : Int32)
    : CorrectionWritten environment radio ppm
        (rtlsdrSetSampleFreqCorrection ppm environment radio) := by
  let first := rtlsdrDemodWriteReg 1 0x3f (correctionLow ppm) 1
  let second := rtlsdrDemodWriteReg 1 0x3e (correctionHigh ppm) 1
  have ran : rtlsdrSetSampleFreqCorrection ppm environment radio
      = ((first environment radio).1 ||| (second environment (first environment radio).2).1,
          (second environment (first environment radio).2).2) :=
    rfl
  have between : (first environment radio).2.chip.calls = radio.chip.calls + 1 :=
    rtlsdrDemodWriteReg_calls
  rw [ran]
  refine ⟨?_, ?_, ?_, ?_⟩
  · rw [Int32.or_eq_zero_iff, rtlsdrDemodWriteReg_eq_zero_iff, rtlsdrDemodWriteReg_eq_zero_iff,
      between]
    rfl
  · exact rtlsdrDemodWriteReg_settings.trans rtlsdrDemodWriteReg_settings
  · exact rtlsdrDemodWriteReg_calls.trans (congrArg (· + 1) between)
  · rintro ⟨low, high⟩
    have written : first environment radio = (0, radio.written 1 0x3f (correctionLow ppm) 1) :=
      (rtlsdrDemodWriteReg_run _ _ _ _).trans (if_pos low)
    have again : second environment (radio.written 1 0x3f (correctionLow ppm) 1)
        = (0,
            (radio.written 1 0x3f (correctionLow ppm) 1).written 1 0x3e (correctionHigh ppm)
              1) :=
      (rtlsdrDemodWriteReg_run _ _ _ _).trans (if_pos high)
    rw [written, again]
    rfl

/-- Where the intermediate frequency is set with a result of zero, all three of its transfers
moved. Witness: the result is the disjunction of theirs.
-/
theorem rtlsdrSetIfFreq_moves {freq : UInt32}
    (set : (rtlsdrSetIfFreq freq environment radio).1 = 0)
    : environment.transfers radio.chip.calls = true
      ∧ environment.transfers (radio.chip.calls + 1) = true
      ∧ environment.transfers (radio.chip.calls + 2) = true := by
  let ifFreq := Int32.ofInt (truncate (-toDouble (toDouble (freq.toNat * twoPow 22)
    / (rtlsdrGetXtalFreq (radio.settings.withIfFreq freq)).1.toNat)))
  let first := rtlsdrDemodWriteReg 1 0x19 ((ifFreq >>> 16).toUInt32.toUInt16 &&& 0x3f) 1
  let second := rtlsdrDemodWriteReg 1 0x1a ((ifFreq >>> 8).toUInt32.toUInt16 &&& 0xff) 1
  let third := rtlsdrDemodWriteReg 1 0x1b (ifFreq.toUInt32.toUInt16 &&& 0xff) 1
  let before : Radio := { radio with settings := radio.settings.withIfFreq freq }
  let between := (first environment before).2
  have ran : (rtlsdrSetIfFreq freq environment radio).1
      = (first environment before).1 ||| (second environment between).1
        ||| (third environment (second environment between).2).1 :=
    rfl
  have once : between.chip.calls = radio.chip.calls + 1 := rtlsdrDemodWriteReg_calls
  have twice : (second environment between).2.chip.calls = radio.chip.calls + 2 :=
    rtlsdrDemodWriteReg_calls.trans (congrArg (· + 1) once)
  rw [ran, Int32.or_eq_zero_iff, Int32.or_eq_zero_iff, rtlsdrDemodWriteReg_eq_zero_iff,
    rtlsdrDemodWriteReg_eq_zero_iff, rtlsdrDemodWriteReg_eq_zero_iff, once, twice] at set
  exact ⟨set.1.1, set.1.2, set.2⟩

/-- A call of the tuner comes after the repeater is switched on. -/
theorem callTuner_fst (before : Radio) (call : TunerCall)
    : (callTuner call environment before).1
      = environment.tuner (before.chip.calls + 1) call := by
  have on : (rtlsdrSetI2cRepeater true environment before).2.chip.calls = before.chip.calls + 1 :=
    rtlsdrDemodWriteReg_calls
  rw [← on]
  rfl

/-- With direct sampling a retune sets the intermediate frequency. -/
theorem rtlsdrSetCenterFreq_direct {freq : UInt32} (direct : radio.settings.directSampling ≠ 0)
    : (rtlsdrSetCenterFreq freq environment radio).1
      = (rtlsdrSetIfFreq freq environment radio).1 := by
  have settings : setting id environment radio = (radio.settings, radio) := rfl
  rw [rtlsdrSetCenterFreq, Tuning.bind_run settings, if_pos direct]
  rfl

/-- Otherwise a retune returns what the tuner answers, if there is one. Witness: the tuner is asked
after the repeater is switched on.
-/
theorem rtlsdrSetCenterFreq_tuner {freq : UInt32} (tuned : radio.settings.directSampling = 0)
    (supported : radio.settings.tunerType.supported = true)
    : (rtlsdrSetCenterFreq freq environment radio).1
      = environment.tuner (radio.chip.calls + 1) (.setFreq (freq - radio.settings.offsFreq)) := by
  have settings : setting id environment radio = (radio.settings, radio) := rfl
  rw [rtlsdrSetCenterFreq, Tuning.bind_run settings, if_neg (not_not.mpr tuned), if_pos supported]
  exact callTuner_fst { radio with settings := radio.settings.withTunedFreq _ } _

/-- A retune that returns zero passes. Witness: with direct sampling its three transfers have moved,
and a tuner has answered zero.
-/
theorem rtlsdrSetCenterFreq_passes
    (retuned : (rtlsdrSetCenterFreq radio.settings.freq environment radio).1 = 0)
    : radio.settings.RetunePasses environment radio.chip.calls := by
  unfold Settings.RetunePasses Settings.RetuneMoves
  by_cases direct : radio.settings.directSampling ≠ 0
  · rw [rtlsdrSetCenterFreq_direct direct] at retuned
    rw [if_pos direct]
    exact .inl (rtlsdrSetIfFreq_moves retuned)
  · rw [if_neg direct]
    have tuned := not_not.mp direct
    by_cases supported : radio.settings.tunerType.supported = true
    · rw [rtlsdrSetCenterFreq_tuner tuned supported] at retuned
      exact .inr ⟨tuned, retuned⟩
    · exact .inl fun known => absurd known supported

/-- A retune that passes although it does not move its bytes returns zero. Witness: without a tuner,
and with direct sampling, passing is moving.
-/
theorem rtlsdrSetCenterFreq_of_passes
    (passes : radio.settings.RetunePasses environment radio.chip.calls)
    (unmoved : ¬ radio.settings.RetuneMoves environment radio.chip.calls)
    : (rtlsdrSetCenterFreq radio.settings.freq environment radio).1 = 0 := by
  obtain ⟨tuned, answered⟩ := passes.resolve_left unmoved
  have supported : radio.settings.tunerType.supported = true := by
    by_contra none
    refine unmoved ?_
    rw [Settings.RetuneMoves, if_neg (not_not.mpr tuned)]
    exact fun known => absurd known none
  exact (rtlsdrSetCenterFreq_tuner tuned supported).trans answered

/-- The part of `rtlsdr_set_freq_correction` after the test whether the correction is set. -/
def correctFreq (ppm : Int32) : Tuning Int32 := do
  change fun settings => settings.withCorr ppm
  let r ← rtlsdrSetSampleFreqCorrection ppm
  let freq ← setting Settings.freq
  if freq ≠ 0 then
    return r ||| (← rtlsdrSetCenterFreq freq)
  return r

/-- The correction that is held already returns -2 and changes nothing. -/
theorem rtlsdrSetFreqCorrection_of_eq (same : radio.settings.corr = ppm)
    : rtlsdrSetFreqCorrection ppm environment radio = (-2, radio) := by
  have corr : setting Settings.corr environment radio = (radio.settings.corr, radio) := rfl
  rw [rtlsdrSetFreqCorrection, Tuning.bind_run corr, if_pos same]
  rfl

/-- Another correction than the one held is stored, written and tuned again. -/
theorem rtlsdrSetFreqCorrection_of_ne (other : radio.settings.corr ≠ ppm)
    : rtlsdrSetFreqCorrection ppm environment radio = correctFreq ppm environment radio := by
  have corr : setting Settings.corr environment radio = (radio.settings.corr, radio) := rfl
  rw [rtlsdrSetFreqCorrection, Tuning.bind_run corr, if_neg other]
  rfl

/-- What a call that corrects the frequency leaves: the correction in the device, more calls made
than before, an error if a transfer makes it fail and none for one that does not, and the correction
in the registers if they were written.
-/
structure FreqCorrected (environment : Environment.Radio) (radio : Radio) (ppm : Int32)
    (outcome : Int32 × Radio)
    : Prop where
  corr : outcome.2.settings.corr = ppm
  calls : radio.chip.calls < outcome.2.chip.calls
  passed : outcome.1 = 0 → radio.CorrectingPasses environment
  spared
    : radio.CorrectingPasses environment
      → ¬ radio.CorrectingMoves environment
      → outcome.1 = 0
  untuned
    : radio.settings.freq = 0
      → CorrectionMoves environment radio.chip.calls
      → outcome.1 = 0
  registers
    : CorrectionMoves environment radio.chip.calls
      → outcome.2.chip.correction = correctionBytes ppm

/-- A new correction is stored first, the registers hold it once both of its writes move, and
the result is an error where a transfer makes it one. Witness: the two writes, and then the
tuning of the settings they leave.
-/
theorem correctFreq_corrects (ppm : Int32)
    : FreqCorrected environment radio ppm (correctFreq ppm environment radio) := by
  let corrected : Radio := { radio with settings := radio.settings.withCorr ppm }
  have changed : change (fun settings => settings.withCorr ppm) environment radio
      = ((), corrected) :=
    rfl
  have written : CorrectionWritten environment corrected ppm
      (rtlsdrSetSampleFreqCorrection ppm environment corrected) :=
    rtlsdrSetSampleFreqCorrection_writes ppm
  obtain ⟨⟨r, later⟩, ran⟩
      : ∃ outcome, rtlsdrSetSampleFreqCorrection ppm environment corrected = outcome :=
    ⟨_, rfl⟩
  rw [ran] at written
  obtain ⟨returned, settings, calls, registers⟩ := written
  have freq : setting Settings.freq environment later = (later.settings.freq, later) := rfl
  rw [correctFreq, Tuning.bind_run changed, Tuning.bind_run ran, Tuning.bind_run freq]
  have corr : later.settings.corr = ppm := congrArg Settings.corr settings
  have more : radio.chip.calls < later.chip.calls := calls ▸ Nat.lt_add_of_pos_right (by decide)
  have same := congrArg Settings.freq settings
  change later.settings.freq = radio.settings.freq at same
  split
  next tuned =>
    have retuned := rtlsdrSetCenterFreq_retunes later.settings.freq environment later
    have asked : radio.settings.freq ≠ 0 := fun none => tuned (same.trans none)
    refine ⟨retuned.corr.trans corr, Nat.lt_of_lt_of_le more retuned.calls, ?_, ?_, ?_, ?_⟩
    · intro zero
      obtain ⟨zeroth, moved⟩ := Int32.or_eq_zero_iff.mp zero
      refine ⟨returned.mp zeroth, fun _ => ?_⟩
      have passes := rtlsdrSetCenterFreq_passes moved
      rw [settings, calls] at passes
      exact passes
    · rintro ⟨moved, passes⟩ unmoved
      refine Int32.or_eq_zero_iff.mpr ⟨returned.mpr moved, rtlsdrSetCenterFreq_of_passes ?_ ?_⟩
      · rw [settings, calls]
        exact passes asked
      · rw [settings, calls]
        exact fun retuneMoves => unmoved ⟨moved, fun _ => retuneMoves⟩
    · exact fun none => absurd none asked
    · intro moved
      exact retuned.correction.trans (registers moved)
  next untuned =>
    have none : radio.settings.freq = 0 := same.symm.trans (not_not.mp untuned)
    refine ⟨corr, more, fun zero => ⟨returned.mp zero, fun asked => absurd none asked⟩,
      fun passes _ => returned.mpr passes.1, fun _ moved => returned.mpr moved, registers⟩

/-- A failed correction is repeated: after an error in a call of which a transfer has failed, the
same call writes and retunes again, and where no error is returned the correction is in the device
and in the registers.
-/
structure CorrectionRepeated (environment : Environment.Radio) (radio : Radio) (ppm : Int32)
    : Prop where
  retried
    : radio.settings.corr ≠ ppm
      → ¬ radio.CorrectingMoves environment
      → (rtlsdrSetFreqCorrection ppm environment radio).1 ≠ 0
      → rtlsdrSetFreqCorrection ppm environment
            (rtlsdrSetFreqCorrection ppm environment radio).2
          = correctFreq ppm environment (rtlsdrSetFreqCorrection ppm environment radio).2
  held
    : (rtlsdrSetFreqCorrection ppm environment radio).1 = 0
        ∨ (rtlsdrSetFreqCorrection ppm environment radio).1 = -2
      → (rtlsdrSetFreqCorrection ppm environment radio).2.Corrected ppm

/-- The correction is in the registers already, or it is another one and no transfer makes the call
fail.
-/
def Radio.Correctable (radio : Radio) (environment : Environment.Radio) (ppm : Int32) : Prop :=
  radio.Corrected ppm ∨ radio.settings.corr ≠ ppm ∧ radio.CorrectingPasses environment

/-- A failed correction cannot be repeated, as the device takes it for set. Witness: the second call
would have to make calls of its own, and it is refused as set with none.
-/
theorem rtlsdrSetFreqCorrection_repeats_iff
    : CorrectionRepeated environment radio ppm ↔ radio.Correctable environment ppm := by
  by_cases same : radio.settings.corr = ppm
  case pos =>
    have refused : rtlsdrSetFreqCorrection ppm environment radio = (-2, radio) :=
      rtlsdrSetFreqCorrection_of_eq same
    constructor
    · intro repeated
      have held := repeated.held
      rw [refused] at held
      exact .inl (held (.inr rfl))
    · rintro (corrected | ⟨other, -⟩)
      · refine ⟨fun other => absurd same other, fun _ => ?_⟩
        rw [refused]
        exact corrected
      · exact absurd same other
  case neg =>
    have corrects : FreqCorrected environment radio ppm
        (rtlsdrSetFreqCorrection ppm environment radio) := by
      rw [rtlsdrSetFreqCorrection_of_ne same]
      exact correctFreq_corrects ppm
    let later := (rtlsdrSetFreqCorrection ppm environment radio).2
    have refused : rtlsdrSetFreqCorrection ppm environment later = (-2, later) :=
      rtlsdrSetFreqCorrection_of_eq corrects.corr
    have attempted : FreqCorrected environment later ppm (correctFreq ppm environment later) :=
      correctFreq_corrects ppm
    constructor
    · intro repeated
      refine .inr ⟨same, ?_⟩
      by_contra failed
      have unmoved : ¬ radio.CorrectingMoves environment :=
        fun moves => failed ⟨moves.1, fun tuned => .inl (moves.2 tuned)⟩
      have again := repeated.retried same unmoved fun zero => failed (corrects.passed zero)
      have more := attempted.calls
      rw [← again, refused] at more
      exact Nat.lt_irrefl _ more
    · rintro (corrected | ⟨-, passes⟩)
      · exact absurd corrected.corr same
      · exact ⟨fun _ unmoved failed => absurd (corrects.spared passes unmoved) failed,
          fun _ => ⟨corrects.corr, corrects.registers passes.1⟩⟩

end Runs

/-- An environment where the first transfer fails. -/
def Environment.Radio.failingFirst : Environment.Radio where
  transfers call := decide (call ≠ 0)
  tuner _ _ := 0

/-- After a failed first write the same correction is refused as set. -/
theorem rtlsdrSetFreqCorrection_not_repeated
    : ¬ CorrectionRepeated .failingFirst (.opened .r820t) 1 := by
  intro repeated
  have failed : ¬ (Radio.opened .r820t).CorrectingMoves .failingFirst := by
    intro moves
    have first := moves.1.1
    revert first
    decide
  have again := repeated.retried (by decide) failed (by decide)
  have calls := congrArg (fun outcome => outcome.2.chip.calls) again
  revert calls
  decide

-----------------------------------------------------------------------------------------
-- The encoding of a correction
-----------------------------------------------------------------------------------------

/-- The number of fourteen bits in the registers of the correction, sign-extended. -/
def Chip.correctionNumber (chip : Chip) : ℤ :=
  (((chip.demod 1 0x3e).toNat % 2 ^ 6 * 2 ^ 8 + (chip.demod 1 0x3f).toNat : Nat) : ℤ).bmod (2 ^ 14)

/-- The number that stands for a correction. -/
def exactCorrection (ppm : Int32) : ℤ := (-ppm.toInt * 2 ^ 24).tdiv (10 ^ 6)

/-- Whenever a correction is reported as set, the registers hold its number. -/
def CorrectionEncoded (ppm : Int32) : Prop :=
  ∀ environment radio,
    (rtlsdrSetFreqCorrection ppm environment radio).1 = 0
    → (rtlsdrSetFreqCorrection ppm environment radio).2.chip.correctionNumber
      = exactCorrection ppm

/-- The number fits fourteen bits. -/
def CorrectionFits (ppm : Int32) : Prop := -488 ≤ ppm.toInt ∧ ppm.toInt ≤ 488

/-- The exact correction has fourteen bits exactly if the ppm are in the range of the
condition. Witness: the truncated quotient, by the sign of the ppm.
-/
theorem exactCorrection_fits_iff (ppm : Int32)
    : -8192 ≤ exactCorrection ppm ∧ exactCorrection ppm < 8192 ↔ CorrectionFits ppm := by
  unfold CorrectionFits exactCorrection
  obtain negative | positive := Int.le_total ppm.toInt 0
  · rw [Int.tdiv_eq_ediv_of_nonneg (by omega)]
    omega
  · rw [Int.neg_mul, Int.neg_tdiv, Int.tdiv_eq_ediv_of_nonneg (by omega)]
    omega

/-- The code computes the number of a small correction. -/
theorem sampleFreqOffs_toInt {ppm : Int32} (fits : CorrectionFits ppm)
    : (sampleFreqOffs ppm).toInt = exactCorrection ppm := by
  have bounds := (exactCorrection_fits_iff ppm).mpr fits
  obtain ⟨least, most⟩ := fits
  have negated : (ppm * -1).toInt = -ppm.toInt := by
    rw [Int32.toInt_mul]
    change (ppm.toInt * -1).bmod (2 ^ 32) = -ppm.toInt
    rw [Int.mul_neg_one]
    exact Int.bmod_eq_of_le (by omega) (by omega)
  have product : ((ppm * -1).toInt : ℚ) * twoPow 24 = ((-ppm.toInt * 2 ^ 24 : ℤ) : ℚ) := by
    rw [negated, twoPow]
    push_cast
    rfl
  have bound : (-ppm.toInt * 2 ^ 24).natAbs < 2 ^ 53 := by omega
  have quotient := truncate_toDouble_div bound (d := 10 ^ 6) (by decide)
  have million : ((10 ^ 6 : Nat) : ℚ) = 1000000 := by norm_num
  rw [million] at quotient
  rw [sampleFreqOffs, product, toDouble_intCast bound, quotient, Int16.toInt_ofInt]
  change (exactCorrection ppm).bmod (2 ^ 16) = exactCorrection ppm
  exact Int.bmod_eq_of_le (by omega) (by omega)

/-- Fourteen bits of a short in two bytes. -/
theorem bmod_correctionBytes {offs : Int16} {high low : UInt8}
    (upper : high = ((offs >>> 8).toUInt16 &&& 0x3f).toUInt8)
    (lower : low = (offs.toUInt16 &&& 0xff).toUInt8) (least : -8192 ≤ offs.toInt)
    (most : offs.toInt < 8192)
    : ((high.toNat % 2 ^ 6 * 2 ^ 8 + low.toNat : Nat) : ℤ).bmod (2 ^ 14) = offs.toInt := by
  have lowBits : (offs.toUInt16 &&& 0xff).toNat = offs.toUInt16.toNat % 2 ^ 8 := by
    rw [UInt16.toNat_and, ← Nat.and_two_pow_sub_one_eq_mod]
    rfl
  have highBits : ((offs >>> 8).toUInt16 &&& 0x3f).toNat
      = (offs >>> 8).toUInt16.toNat % 2 ^ 6 := by
    rw [UInt16.toNat_and, ← Nat.and_two_pow_sub_one_eq_mod]
    rfl
  have shifted : (offs >>> 8).toInt = offs.toInt / 2 ^ 8 := by
    have eight : (8 : Int16).toBitVec.smod 16 = 8#16 := by decide
    change (offs.toBitVec.sshiftRight' ((8 : Int16).toBitVec.smod 16)).toInt = _
    rw [eight, BitVec.sshiftRight_eq', BitVec.toInt_sshiftRight, Int.shiftRight_eq_div_pow]
    rfl
  have unsigned (x : Int16) : x.toInt % 65536 = x.toUInt16.toNat := by
    have bound := x.toUInt16.toNat_lt
    have balanced : x.toInt = (x.toUInt16.toNat : ℤ).bmod (2 ^ 16) := BitVec.toInt_eq_toNat_bmod _
    rw [balanced]
    exact (Int.bmod_emod).trans (Int.emod_eq_of_lt (by omega) (by omega))
  have whole := unsigned offs
  have part := unsigned (offs >>> 8)
  rw [shifted] at part
  rw [upper, lower, UInt16.toNat_toUInt8, UInt16.toNat_toUInt8, lowBits, highBits]
  generalize offs.toUInt16.toNat = wholeBits at *
  generalize (offs >>> 8).toUInt16.toNat = upperBits at *
  have congruent
      : ((upperBits % 2 ^ 6 % 2 ^ 8 % 2 ^ 6 * 2 ^ 8 + wholeBits % 2 ^ 8 % 2 ^ 8 : Nat) : ℤ)
          % (2 ^ 14 : Nat)
        = offs.toInt % (2 ^ 14 : Nat) := by
    omega
  rw [← Int.emod_bmod, congruent, Int.emod_bmod]
  exact Int.bmod_eq_of_le (by omega) (by omega)

/-- What the registers hold as a correction is a number of fourteen bits. -/
theorem Chip.correctionNumber_bounds (chip : Chip)
    : -8192 ≤ chip.correctionNumber ∧ chip.correctionNumber < 8192 :=
  ⟨Int.le_bmod (by decide), Int.bmod_lt (by decide)⟩

/-- An encoded correction fits the registers, as a device without a frequency accepts any. -/
theorem CorrectionEncoded.bounds {ppm : Int32} (encoded : CorrectionEncoded ppm) (some : ppm ≠ 0)
    : -8192 ≤ exactCorrection ppm ∧ exactCorrection ppm < 8192 := by
  have corrects : FreqCorrected .obliging (.opened .unknown) ppm
      (rtlsdrSetFreqCorrection ppm .obliging (.opened .unknown)) := by
    rw [rtlsdrSetFreqCorrection_of_ne some.symm]
    exact correctFreq_corrects ppm
  rw [← encoded _ _ (corrects.untuned rfl ⟨rfl, rfl⟩)]
  exact Chip.correctionNumber_bounds _

/-- A correction is encoded exactly if its number fits: a larger one is cut off. -/
theorem rtlsdrSetFreqCorrection_encodes_iff (ppm : Int32)
    : CorrectionEncoded ppm ↔ CorrectionFits ppm := by
  constructor
  · intro encoded
    by_cases zero : ppm = 0
    case pos =>
      subst zero
      exact ⟨by decide, by decide⟩
    case neg => exact (exactCorrection_fits_iff ppm).mp (encoded.bounds zero)
  · intro fits environment radio set
    by_cases same : radio.settings.corr = ppm
    case pos =>
      rw [rtlsdrSetFreqCorrection_of_eq same] at set
      exact absurd set (by decide : (-2 : Int32) ≠ 0)
    case neg =>
      have corrects : FreqCorrected environment radio ppm
          (correctFreq ppm environment radio) :=
        correctFreq_corrects ppm
      rw [rtlsdrSetFreqCorrection_of_ne same] at set ⊢
      have registers := corrects.registers (corrects.passed set).1
      obtain ⟨high, low⟩ := Prod.mk.inj registers
      have bounds := (exactCorrection_fits_iff ppm).mpr fits
      rw [← sampleFreqOffs_toInt fits] at bounds ⊢
      exact bmod_correctionBytes high low bounds.1 bounds.2

/-- 489 ppm needs more than fourteen bits. -/
theorem rtlsdrSetFreqCorrection_cuts_489 : ¬ CorrectionEncoded 489 := by
  intro encoded
  have bounds := encoded.bounds (by decide)
  revert bounds
  decide

end RtlTcpAndro.RtlSdrDevice
