import RtlTcpAndro.Interleaving.Schedule
import RtlTcpAndro.RtlSdrDevice.Doubles
import RtlTcpAndro.RtlSdrDevice.Retuning
import RtlTcpAndro.RtlSdrDevice.ZeroIf
import RtlTcpAndro.Tuners.Fc001x
import RtlTcpAndro.Tuners.R82xxCrystal

/-! The crystals that the commands of a client set, whatever the transfers do, and whether the
tuners can be programmed with them.
-/

namespace RtlTcpAndro.RtlSdrDevice

open RtlTcpAndro.Interleaving RtlTcpAndro.Faults RtlTcpAndro.Tuners

-----------------------------------------------------------------------------------------
-- What any transfers leave
-----------------------------------------------------------------------------------------

/-- Whatever the environment answers, settings that meet an assertion become settings that meet
another.
-/
def Tuning.Meets {α : Type} (tuning : Tuning α) (before : Settings → Prop)
    (after : α → Settings → Prop) : Prop :=
  ∀ environment radio,
    before radio.settings
    → after (tuning environment radio).1 (tuning environment radio).2.settings

/-- An assertion that survives a computation. -/
def Tuning.Keeps {α : Type} (tuning : Tuning α) (kept : Settings → Prop) : Prop :=
  tuning.Meets kept fun _ => kept

section Meets

variable {α β : Type} {before kept : Settings → Prop}

/-- A sequence meets what its rest meets on the settings that its first part leaves. -/
theorem Tuning.Meets.bind {first : Tuning α} {rest : α → Tuning β}
    {between : α → Settings → Prop} {after : β → Settings → Prop}
    (meets : first.Meets before between)
    (next : ∀ value, (rest value).Meets (between value) after)
    : (first >>= rest).Meets before after :=
  fun environment radio holds =>
    next _ environment (first environment radio).2 (meets environment radio holds)

/-- A sequence keeps of the settings what both of its parts keep. -/
theorem Tuning.Keeps.bind {first : Tuning α} {rest : α → Tuning β} (keeps : first.Keeps kept)
    (next : ∀ value, (rest value).Keeps kept)
    : (first >>= rest).Keeps kept :=
  Tuning.Meets.bind keeps next

/-- A value keeps everything of the settings. -/
theorem Tuning.Keeps.pure {value : α} : (Pure.pure value : Tuning α).Keeps kept :=
  fun _ _ holds => holds

/-- Reading a setting has the one that is held, and what held of the settings still does. -/
theorem setting_meets (field : Settings → α)
    : (setting field).Meets before
        (fun value settings => before settings ∧ value = field settings) :=
  fun _ _ holds => ⟨holds, rfl⟩

/-- Reading a setting keeps everything of the settings. -/
theorem setting_keeps (field : Settings → α) : (setting field).Keeps kept :=
  fun _ _ holds => holds

/-- A change of the settings meets what holds of the changed ones. -/
theorem change_meets {update : Settings → Settings} {after : Settings → Prop}
    (changes : ∀ settings, before settings → after (update settings))
    : (change update).Meets before (fun _ => after) :=
  fun _ radio holds => changes radio.settings holds

end Meets

/-- The crystals and the correction of a device. -/
structure Settings.Clocks (rtlXtal tunXtal : UInt32) (corr : Int32) (settings : Settings)
    : Prop where
  rtlXtal : settings.rtlXtal = rtlXtal
  tunXtal : settings.tunXtal = tunXtal
  corr : settings.corr = corr

section Keeps

variable {rtlXtal tunXtal : UInt32} {corr : Int32}

/-- A write to the demodulator keeps crystals and correction, whether its transfer moves or
not.
-/
theorem rtlsdrDemodWriteReg_keeps (page : UInt8) (addr val : UInt16) (len : UInt8)
    : (rtlsdrDemodWriteReg page addr val len).Keeps (Settings.Clocks rtlXtal tunXtal corr) := by
  intro environment radio holds
  unfold rtlsdrDemodWriteReg
  change Settings.Clocks _ _ _
    ((if environment.transfers radio.chip.calls = true then _ else _ : Tuning Int32)
      environment _).2.settings
  split
  · exact holds
  · exact holds

/-- Tuning keeps the clocks. -/
theorem Tuning.Retunes.keeps {α : Type} {tuning : Tuning α} (retunes : tuning.Retunes)
    : tuning.Keeps (Settings.Clocks rtlXtal tunXtal corr) := by
  intro environment radio clocks
  have retuned := retunes environment radio
  exact ⟨retuned.rtlXtal.trans clocks.rtlXtal, retuned.tunXtal.trans clocks.tunXtal,
    retuned.corr.trans clocks.corr⟩

/-- Writing the correction keeps the one that is stored, and the crystals; it is two writes.
-/
theorem rtlsdrSetSampleFreqCorrection_keeps (ppm : Int32)
    : (rtlsdrSetSampleFreqCorrection ppm).Keeps (Settings.Clocks rtlXtal tunXtal corr) := by
  refine .bind (rtlsdrDemodWriteReg_keeps _ _ _ _) fun _ => ?_
  exact .bind (rtlsdrDemodWriteReg_keeps _ _ _ _) fun _ => .pure

/-- Writing the ratio keeps crystals and correction; its parts are writes. -/
theorem writeRsampRatio_keeps (ratio : UInt32) (ppm : Int32)
    : (writeRsampRatio ratio ppm).Keeps (Settings.Clocks rtlXtal tunXtal corr) := by
  refine .bind (rtlsdrDemodWriteReg_keeps _ _ _ _) fun _ => ?_
  refine .bind (rtlsdrDemodWriteReg_keeps _ _ _ _) fun _ => ?_
  refine .bind (rtlsdrSetSampleFreqCorrection_keeps _) fun _ => ?_
  refine .bind (rtlsdrDemodWriteReg_keeps _ _ _ _) fun _ => ?_
  exact .bind (rtlsdrDemodWriteReg_keeps _ _ _ _) fun _ => .pure

/-- Applying a rate keeps crystals and correction. Witness: it stores the rate, writes the
ratio and tunes again at most.
-/
theorem applySampleRate_keeps (rate ratio : UInt32)
    : (applySampleRate rate ratio).Keeps (Settings.Clocks rtlXtal tunXtal corr) := by
  refine .bind (change_meets fun _ holds => ⟨holds.1, holds.2, holds.3⟩) fun _ => ?_
  refine .bind setRateBandwidth_retunes.keeps fun _ => ?_
  refine .bind (setting_keeps _) fun _ => ?_
  refine .bind (writeRsampRatio_keeps _ _) fun r => ?_
  refine .bind (setting_keeps _) fun offsFreq => ?_
  split
  · exact .bind (rtlsdrSetOffsetTuning_retunes _).keeps fun _ => .pure
  · exact .pure

/-- The command for the rate keeps crystals and correction, whether the rate is supported or
not.
-/
theorem rtlsdrSetSampleRate_keeps (sampRate : UInt32)
    : (rtlsdrSetSampleRate sampRate).Keeps (Settings.Clocks rtlXtal tunXtal corr) := by
  unfold rtlsdrSetSampleRate
  split
  · exact .pure
  · exact .bind (setting_keeps _) fun _ => applySampleRate_keeps _ _

/-- Entering direct sampling keeps crystals and correction. Witness: the exit of the tuner and
the writes after it.
-/
theorem enableDirectSampling_keeps (on : Int32)
    : (enableDirectSampling on).Keeps (Settings.Clocks rtlXtal tunXtal corr) := by
  have rest (r : Int32)
      : (do
          let r := r ||| (← rtlsdrDemodWriteReg 1 0xb1 0x1a 1)
          let r := r ||| (← rtlsdrDemodWriteReg 1 0x15 0x00 1)
          let r := r ||| (← rtlsdrDemodWriteReg 0 0x08 0x4d 1)
          let r := r ||| (← rtlsdrDemodWriteReg 0 0x06 (if 1 < on then 0x90 else 0x80) 1)
          change fun settings => settings.withDirectSampling on
          return r : Tuning Int32).Keeps (Settings.Clocks rtlXtal tunXtal corr) := by
    refine .bind (rtlsdrDemodWriteReg_keeps _ _ _ _) fun _ => ?_
    refine .bind (rtlsdrDemodWriteReg_keeps _ _ _ _) fun _ => ?_
    refine .bind (rtlsdrDemodWriteReg_keeps _ _ _ _) fun _ => ?_
    refine .bind (rtlsdrDemodWriteReg_keeps _ _ _ _) fun _ => ?_
    exact .bind (change_meets fun _ holds => ⟨holds.1, holds.2, holds.3⟩) fun _ => .pure
  refine .bind (setting_keeps _) fun tuner => ?_
  by_cases supported : tuner.supported = true
  · rw [if_pos supported]
    exact .bind (callTuner_retunes _).keeps rest
  · rw [if_neg supported]
    exact .bind .pure rest

/-- Receiving from a tuner again keeps crystals and correction, for either kind of tuner. -/
theorem receiveFromTuner_keeps
    : receiveFromTuner.Keeps (Settings.Clocks rtlXtal tunXtal corr) := by
  refine .bind (setting_keeps _) fun tuner => ?_
  split
  · refine .bind (rtlsdrSetIfFreq_retunes _).keeps fun _ => ?_
    exact .bind (rtlsdrDemodWriteReg_keeps _ _ _ _) fun _ => .pure
  · refine .bind (rtlsdrSetIfFreq_retunes _).keeps fun _ => ?_
    refine .bind (rtlsdrDemodWriteReg_keeps _ _ _ _) fun _ => ?_
    exact .bind (rtlsdrDemodWriteReg_keeps _ _ _ _) fun _ => .pure

/-- Leaving direct sampling keeps crystals and correction. Witness: the initialization of the
tuner, and the writes after it.
-/
theorem disableDirectSampling_keeps
    : disableDirectSampling.Keeps (Settings.Clocks rtlXtal tunXtal corr) := by
  have rest (r : Int32)
      : (do
          let r := r ||| (← receiveFromTuner)
          let r := r ||| (← rtlsdrDemodWriteReg 0 0x06 0x80 1)
          change fun settings => settings.withDirectSampling 0
          return r : Tuning Int32).Keeps (Settings.Clocks rtlXtal tunXtal corr) := by
    refine .bind receiveFromTuner_keeps fun _ => ?_
    refine .bind (rtlsdrDemodWriteReg_keeps _ _ _ _) fun _ => ?_
    exact .bind (change_meets fun _ holds => ⟨holds.1, holds.2, holds.3⟩) fun _ => .pure
  refine .bind (setting_keeps _) fun tuner => ?_
  split
  · exact .bind (callTuner_retunes _).keeps rest
  · exact .bind .pure rest

/-- Direct sampling keeps crystals and correction in either direction; it ends with tuning
again.
-/
theorem rtlsdrSetDirectSampling_keeps (on : Int32)
    : (rtlsdrSetDirectSampling on).Keeps (Settings.Clocks rtlXtal tunXtal corr) := by
  have rest (r : Int32)
      : (do
          return r ||| (← rtlsdrSetCenterFreq (← setting Settings.freq)) : Tuning Int32).Keeps
        (Settings.Clocks rtlXtal tunXtal corr) := by
    refine .bind (setting_keeps _) fun _ => ?_
    exact .bind (rtlsdrSetCenterFreq_retunes _).keeps fun _ => .pure
  unfold rtlsdrSetDirectSampling
  split
  · exact .bind (enableDirectSampling_keeps on) rest
  · exact .bind disableDirectSampling_keeps rest

end Keeps

section Crystals

variable {rtlXtal tunXtal : UInt32} {corr : Int32}

/-- A correction leaves the crystals as they are. -/
theorem rtlsdrSetFreqCorrection_meets (ppm : Int32)
    : (rtlsdrSetFreqCorrection ppm).Meets (Settings.Clocks rtlXtal tunXtal corr)
        (fun _ => Settings.Clocks rtlXtal tunXtal ppm) := by
  refine .bind (setting_meets _) fun current => ?_
  split
  next same =>
    intro environment radio holds
    exact ⟨holds.1.1, holds.1.2, holds.2.symm.trans same⟩
  next =>
    have corrects
        : (change fun settings => settings.withCorr ppm).Meets
            (fun settings =>
              Settings.Clocks rtlXtal tunXtal corr settings ∧ current = settings.corr)
            (fun _ => Settings.Clocks rtlXtal tunXtal ppm) :=
      change_meets fun _ holds => ⟨holds.1.1, holds.1.2, rfl⟩
    refine corrects.bind fun _ => ?_
    refine .bind (rtlsdrSetSampleFreqCorrection_keeps ppm) fun _ => ?_
    refine .bind (setting_keeps _) fun freq => ?_
    split
    · exact .bind (rtlsdrSetCenterFreq_retunes freq).keeps fun _ => Tuning.Keeps.pure
    · exact Tuning.Keeps.pure

/-- The crystal of the demodulator is the new one afterwards, unless that is zero. Witness: it
is stored where it is another one, and setting the rate again keeps it.
-/
theorem setRtlXtal_meets (rtlFreq : UInt32)
    : (setRtlXtal rtlFreq).Meets (Settings.Clocks rtlXtal tunXtal corr)
        (fun _ => Settings.Clocks (if rtlFreq = 0 then rtlXtal else rtlFreq) tunXtal corr) := by
  refine .bind (setting_meets id) fun current => ?_
  split
  next moved =>
    rw [if_neg (UInt32.pos_iff_ne_zero.mp moved.1)]
    have moves
        : (change fun settings => settings.withRtlXtal rtlFreq).Meets
            (fun settings =>
              Settings.Clocks rtlXtal tunXtal corr settings ∧ current = id settings)
            (fun _ => Settings.Clocks rtlFreq tunXtal corr) :=
      change_meets fun _ holds => ⟨rfl, holds.1.2, holds.1.3⟩
    refine moves.bind fun _ => ?_
    split
    · exact rtlsdrSetSampleRate_keeps _
    · exact Tuning.Keeps.pure
  next same =>
    intro environment radio holds
    obtain ⟨known, rfl⟩ := holds
    refine ⟨?_, known.2, known.3⟩
    change radio.settings.rtlXtal = _
    split
    · exact known.1
    next nonzero =>
      by_contra other
      exact same ⟨UInt32.pos_iff_ne_zero.mpr nonzero, other⟩

/-- The crystal of the tuner becomes what is asked for, or that of the demodulator. -/
theorem setTunXtal_meets (tunerFreq : UInt32) (r : Int32)
    : (setTunXtal tunerFreq r).Meets (Settings.Clocks rtlXtal tunXtal corr)
        (fun _ =>
          Settings.Clocks rtlXtal
            (if tunXtal = tunerFreq then tunXtal
              else if tunerFreq = 0 then rtlXtal
              else tunerFreq)
            corr) := by
  refine .bind (setting_meets id) fun current => ?_
  by_cases moved : current.tunXtal ≠ tunerFreq
  · rw [if_pos moved]
    have moves
        : (change fun settings =>
              settings.withTunXtal (if tunerFreq = 0 then settings.rtlXtal else tunerFreq)).Meets
            (fun settings =>
              Settings.Clocks rtlXtal tunXtal corr settings ∧ current = id settings)
            (fun _ =>
              Settings.Clocks rtlXtal
                (if tunXtal = tunerFreq then tunXtal
                  else if tunerFreq = 0 then rtlXtal
                  else tunerFreq)
                corr) := by
      refine change_meets fun settings holds => ?_
      obtain ⟨known, rfl⟩ := holds
      refine ⟨known.1, ?_, known.3⟩
      rw [← known.2, ← known.1]
      exact (if_neg moved).symm
    refine moves.bind fun _ => ?_
    split
    · exact (rtlsdrSetCenterFreq_retunes _).keeps
    · exact Tuning.Keeps.pure
  · rw [if_neg moved]
    intro environment radio holds
    obtain ⟨known, rfl⟩ := holds
    refine ⟨known.1, ?_, known.3⟩
    rw [← known.2]
    exact (if_pos (not_not.mp moved)).symm

/-- A crystal that `rtlsdr_set_xtal_freq` accepts for the demodulator. -/
def rtlXtalAccepted (rtlFreq : UInt32) : Prop :=
  ¬ (0 < rtlFreq ∧ (rtlFreq < minRtlXtalFreq ∨ maxRtlXtalFreq < rtlFreq))

/-- An accepted command sets both crystals, the tuner's to that of the demodulator where it is
asked for zero.
-/
theorem rtlsdrSetXtalFreq_meets {rtlFreq : UInt32} (accepted : rtlXtalAccepted rtlFreq)
    (tunerFreq : UInt32)
    : (rtlsdrSetXtalFreq rtlFreq tunerFreq).Meets (Settings.Clocks rtlXtal tunXtal corr)
        (fun _ =>
          Settings.Clocks (if rtlFreq = 0 then rtlXtal else rtlFreq)
            (if tunXtal = tunerFreq then tunXtal
              else if tunerFreq = 0 then if rtlFreq = 0 then rtlXtal else rtlFreq
              else tunerFreq)
            corr) := by
  unfold rtlsdrSetXtalFreq
  rw [if_neg accepted]
  exact .bind (setRtlXtal_meets rtlFreq) fun r => setTunXtal_meets tunerFreq r

/-- A crystal out of range is refused before anything is stored. -/
theorem rtlsdrSetXtalFreq_rejects {rtlFreq : UInt32} (rejected : ¬ rtlXtalAccepted rtlFreq)
    (tunerFreq : UInt32)
    : (rtlsdrSetXtalFreq rtlFreq tunerFreq).Keeps (Settings.Clocks rtlXtal tunXtal corr) := by
  unfold rtlsdrSetXtalFreq
  rw [if_pos (not_not.mp rejected)]
  exact .pure

end Crystals

-----------------------------------------------------------------------------------------
-- The clock without a correction
-----------------------------------------------------------------------------------------

/-- With no correction, the clock is the crystal. -/
theorem applyPpmCorr_zero (val : UInt32) : applyPpmCorr val 0 = val := by
  have zero : ((0 : Int32).toInt : ℚ) / 1000000 = (0 : Nat) := by
    rw [Int32.toInt_zero]
    norm_num
  have one : (1 : ℚ) + ((0 : Nat) : ℚ) = (1 : Nat) := by norm_num
  have product : (val.toNat : ℚ) * ((1 : Nat) : ℚ) = val.toNat := by norm_num
  have truncated : truncate ((val.toNat : Nat) : ℚ) = val.toNat := truncate_intCast val.toNat
  unfold applyPpmCorr
  simp only []
  rw [zero, toDouble_natCast (by decide), one, toDouble_natCast (by decide), product,
    toDouble_natCast (val.toNat_lt.trans (by decide)), truncated]
  have bound := val.toNat_lt
  have reduced : ((val.toNat : ℤ) % 2 ^ 32).toNat = val.toNat := by omega
  rw [UInt32.ofInt, reduced, UInt32.ofNat_toNat]

-----------------------------------------------------------------------------------------
-- Every accepted crystal
-----------------------------------------------------------------------------------------

/-- At a clock of the tuner, the arithmetic of the three tuners with a loop ends for every
frequency, whatever the transfers return and the tuner says. Messages are as long as
`r820t_init` lets them be.
-/
structure TuningEnds (clock : UInt32) : Prop where
  r82xx
    : ∀ rafaelChip blogV4L returns reads freq,
        (r82xxSetPll freq).Ends ⟨⟨clock, rafaelChip, 8, blogV4L⟩, returns, reads⟩ fun _ => True
  fc0012
    : ∀ returns reads freq bandwidth,
        (fc0012SetParams freq bandwidth).Ends ⟨clock, returns, reads⟩ fun _ => True
  fc0013
    : ∀ returns reads freq bandwidth,
        (fc0013SetParams freq bandwidth).Ends ⟨clock, returns, reads⟩ fun _ => True

/-- The clocks at which the arithmetic always ends. -/
theorem tuningEnds_iff {clock : UInt32} : TuningEnds clock ↔ 2000 ≤ clock ∧ LoopFits clock := by
  constructor
  · intro ends
    constructor
    · by_contra unfit
      let environment : Environment.Bus UInt32 := .obliging clock
      have below : ¬ 2000 ≤ environment.config := unfit
      have faults := fc0012SetParams_faults below 6000000
      exact faults.not_ends ⟨fun _ => 0, 0, ()⟩ (ends.fc0012 _ _ _ _)
    · by_contra unfit
      let environment : Environment.Bus R82xxConfig := .obliging ⟨clock, .r820t, 8, false⟩
      have room : 2 ≤ environment.config.maxI2cMsgLen.toNat :=
        (by decide : 2 ≤ (8 : UInt32).toNat)
      have outside : ¬ LoopFits environment.config.xtal := unfit
      obtain ⟨freq, faults⟩ := r82xxSetPll_faults room (fun _ _ => rfl) outside
      exact faults.not_ends ⟨fun _ => 0, 0, ⟨fun _ => 0, false⟩⟩ (ends.r82xx _ _ _ _ _)
  · rintro ⟨least, fits⟩
    have room : 2 ≤ (8 : UInt32).toNat := by decide
    exact ⟨fun _ _ _ _ freq => r82xxSetPll_ends room fits freq,
      fun _ _ freq bandwidth => fc0012SetParams_ends least freq bandwidth,
      fun _ _ freq bandwidth => fc0013SetParams_ends least freq bandwidth⟩

/-- The commands of a client on a device with any tuner, which `rtlsdr_open` gives the crystal of
the demodulator or, on some dongles with an R828D, one of 16 MHz.
-/
def tuning (environment : Environment.Radio) : System Radio (RadioCommand × UInt32) where
  initial radio :=
    radio.settings.rtlXtal = defRtlXtalFreq
    ∧ (radio.settings.tunXtal = defRtlXtalFreq ∨ radio.settings.tunXtal = 16000000)
  step radio choice := some (tcpCommandCallback choice.1 choice.2 environment radio).2

/-- The crystal of the demodulator is one that is accepted, and that of the tuner is not zero. -/
structure Settings.Clocked (settings : Settings) : Prop where
  least : minRtlXtalFreq ≤ settings.rtlXtal
  most : settings.rtlXtal ≤ maxRtlXtalFreq
  tuner : settings.tunXtal ≠ 0

/-- Crystals in their ranges are such of a clocked device. -/
theorem Settings.Clocks.clocked {rtlXtal tunXtal : UInt32} {corr : Int32} {settings : Settings}
    (clocks : Settings.Clocks rtlXtal tunXtal corr settings) (least : minRtlXtalFreq ≤ rtlXtal)
    (most : rtlXtal ≤ maxRtlXtalFreq) (tuner : tunXtal ≠ 0)
    : settings.Clocked where
  least := clocks.rtlXtal.symm ▸ least
  most := clocks.rtlXtal.symm ▸ most
  tuner := clocks.tunXtal.symm ▸ tuner

/-- The crystal that the demodulator has after an accepted one is set. -/
theorem rtlXtal_bounds {rtlFreq rtlXtal : UInt32} (accepted : rtlXtalAccepted rtlFreq)
    (least : minRtlXtalFreq ≤ rtlXtal) (most : rtlXtal ≤ maxRtlXtalFreq)
    : minRtlXtalFreq ≤ (if rtlFreq = 0 then rtlXtal else rtlFreq)
      ∧ (if rtlFreq = 0 then rtlXtal else rtlFreq) ≤ maxRtlXtalFreq := by
  split
  · exact ⟨least, most⟩
  next nonzero =>
    have within := not_and.mp accepted (UInt32.pos_iff_ne_zero.mpr nonzero)
    rw [not_or, UInt32.not_lt, UInt32.not_lt] at within
    exact within

/-- A crystal in its range is not zero. -/
theorem rtlXtal_ne_zero {rtlXtal : UInt32} (least : minRtlXtalFreq ≤ rtlXtal) : rtlXtal ≠ 0 := by
  rintro rfl
  exact absurd least (by decide)

/-- Both commands of a crystal keep the crystals within their bounds. -/
theorem rtlsdrSetXtalFreq_clocked (rtlFreq tunerFreq : UInt32)
    : (rtlsdrSetXtalFreq rtlFreq tunerFreq).Keeps Settings.Clocked := by
  intro environment radio clocked
  have known : Settings.Clocks radio.settings.rtlXtal radio.settings.tunXtal radio.settings.corr
      radio.settings :=
    ⟨rfl, rfl, rfl⟩
  by_cases accepted : rtlXtalAccepted rtlFreq
  · have bounds := rtlXtal_bounds accepted clocked.least clocked.most
    refine (rtlsdrSetXtalFreq_meets accepted tunerFreq environment radio known).clocked
      bounds.1 bounds.2 ?_
    split
    · exact clocked.tuner
    · split
      · exact rtlXtal_ne_zero bounds.1
      · assumption
  · exact (rtlsdrSetXtalFreq_rejects accepted tunerFreq environment radio known).clocked
      clocked.least clocked.most clocked.tuner

/-- Every command keeps the crystals within their bounds. -/
theorem tcpCommandCallback_clocked (command : RadioCommand) (parameter : UInt32)
    : (tcpCommandCallback command parameter).Keeps Settings.Clocked := by
  have keeps {tuning : Tuning Int32}
      (keeps : ∀ rtlXtal tunXtal corr, tuning.Meets (Settings.Clocks rtlXtal tunXtal corr)
        (fun _ settings => ∃ corr, Settings.Clocks rtlXtal tunXtal corr settings))
      : tuning.Keeps Settings.Clocked := by
    intro environment radio clocked
    obtain ⟨_, clocks⟩ := keeps _ _ _ environment radio ⟨rfl, rfl, rfl⟩
    exact clocks.clocked clocked.least clocked.most clocked.tuner
  cases command with
  | freq =>
      exact keeps fun _ _ corr environment radio known =>
        ⟨corr, (rtlsdrSetCenterFreq_retunes _).keeps environment radio known⟩
  | sampleRate =>
      exact keeps fun _ _ corr environment radio known =>
        ⟨corr, rtlsdrSetSampleRate_keeps _ environment radio known⟩
  | freqCorrection =>
      exact keeps fun _ _ _ environment radio known =>
        ⟨_, rtlsdrSetFreqCorrection_meets _ environment radio known⟩
  | directSampling =>
      exact keeps fun _ _ corr environment radio known =>
        ⟨corr, rtlsdrSetDirectSampling_keeps _ environment radio known⟩
  | offsetTuning =>
      exact keeps fun _ _ corr environment radio known =>
        ⟨corr, (rtlsdrSetOffsetTuning_retunes _).keeps environment radio known⟩
  | rtlXtal => exact rtlsdrSetXtalFreq_clocked _ _
  | tunerXtal => exact rtlsdrSetXtalFreq_clocked _ _

/-- After any commands the crystals are in their ranges. Witness: they are when the device is
opened, and no command leaves the ranges.
-/
theorem reachable_clocked {environment : Environment.Radio} {radio : Radio}
    (reachable : (tuning environment).Reachable radio)
    : radio.settings.Clocked := by
  refine reachable.invariant (fun radio => radio.settings.Clocked) ?_ ?_
  · rintro start ⟨rtlXtal, tunXtal⟩
    refine ⟨?_, ?_, ?_⟩
    · rw [rtlXtal]
      decide
    · rw [rtlXtal]
      decide
    · obtain same | same := tunXtal <;> rw [same] <;> decide
  · intro radio choice next _ clocked fired
    cases fired
    exact tcpCommandCallback_clocked choice.1 choice.2 environment radio clocked

/-- A crystal that a command of a client sets, if it is accepted. -/
def CrystalAccepted (command : RadioCommand) (parameter : UInt32) : Prop :=
  command = .rtlXtal ∧ rtlXtalAccepted parameter ∨ command = .tunerXtal

/-- The crystals that do no harm: all that are for the demodulator, and those that give the tuner
the crystal of the demodulator or one that its loops fit.
-/
def CrystalFits (command : RadioCommand) (parameter : UInt32) : Prop :=
  command = .tunerXtal → parameter ≠ 0 → 2000 ≤ parameter ∧ LoopFits parameter

/-- Near its nominal value, the crystal of the demodulator fits all loops. -/
theorem tuningEnds_of_bounds {clock : UInt32} (least : minRtlXtalFreq ≤ clock)
    (most : clock ≤ maxRtlXtalFreq)
    : TuningEnds clock := by
  have least := UInt32.le_iff_toNat_le.mp least
  have most := UInt32.le_iff_toNat_le.mp most
  change 28799000 ≤ clock.toNat at least
  change clock.toNat ≤ 28801000 at most
  refine tuningEnds_iff.mpr ⟨UInt32.le_iff_toNat_le.mpr ?_, ?_, UInt32.lt_iff_toNat_lt.mpr ?_⟩
  · change 2000 ≤ clock.toNat
    omega
  · rintro rfl
    exact absurd least (by decide)
  · rw [pllRefKhz_toNat]
    change _ < 32768
    omega

/-- In every state that commands lead to with no correction, an accepted crystal lets the
arithmetic of the tuners end for every frequency exactly when it fits.
-/
theorem crystal_tuningEnds_iff {environment : Environment.Radio} {radio : Radio}
    (reachable : (tuning environment).Reachable radio) (uncorrected : radio.settings.corr = 0)
    {command : RadioCommand} {parameter : UInt32} (accepted : CrystalAccepted command parameter)
    : TuningEnds
          (rtlsdrGetXtalFreq
            (tcpCommandCallback command parameter environment radio).2.settings).2
      ↔ CrystalFits command parameter := by
  have clocked := reachable_clocked reachable
  have known : Settings.Clocks radio.settings.rtlXtal radio.settings.tunXtal 0
      radio.settings :=
    ⟨rfl, rfl, uncorrected⟩
  obtain ⟨rfl, within⟩ | rfl := accepted
  · refine iff_of_true ?_ (fun other => by cases other)
    have bounds := rtlXtal_bounds within clocked.least clocked.most
    have clocks := rtlsdrSetXtalFreq_meets within 0 environment radio known
    unfold rtlsdrGetXtalFreq
    change TuningEnds (applyPpmCorr
      (rtlsdrSetXtalFreq parameter 0 environment radio).2.settings.tunXtal
      (rtlsdrSetXtalFreq parameter 0 environment radio).2.settings.corr)
    rw [clocks.tunXtal, clocks.corr, applyPpmCorr_zero, if_neg clocked.tuner, if_pos rfl]
    exact tuningEnds_of_bounds bounds.1 bounds.2
  · have none : rtlXtalAccepted 0 := fun accepted => absurd accepted.1 (by decide)
    have clocks := rtlsdrSetXtalFreq_meets none parameter environment radio known
    unfold rtlsdrGetXtalFreq
    change TuningEnds (applyPpmCorr
      (rtlsdrSetXtalFreq 0 parameter environment radio).2.settings.tunXtal
      (rtlsdrSetXtalFreq 0 parameter environment radio).2.settings.corr) ↔ _
    rw [clocks.tunXtal, clocks.corr, applyPpmCorr_zero, if_pos rfl]
    by_cases zero : parameter = 0
    · subst zero
      rw [if_neg clocked.tuner, if_pos rfl]
      exact iff_of_true (tuningEnds_of_bounds clocked.least clocked.most)
        fun _ nonzero => absurd rfl nonzero
    · have same
          : (if radio.settings.tunXtal = parameter then radio.settings.tunXtal
              else if parameter = 0 then radio.settings.rtlXtal
              else parameter)
            = parameter := by
        rw [if_neg zero]
        split
        · assumption
        · rfl
      rw [same, tuningEnds_iff]
      exact ⟨fun fits _ _ => fits, fun fits => fits rfl zero⟩

/-- A crystal of 28.8001 MHz, as for a dongle that is off by some ppm. -/
theorem tuningEnds_after_28800100
    : TuningEnds
        (rtlsdrGetXtalFreq
          (tcpCommandCallback .tunerXtal 28800100 .obliging (.opened .fc0012)).2.settings).2 := by
  have initial : (tuning .obliging).initial (.opened .fc0012) := ⟨rfl, .inl rfl⟩
  refine (crystal_tuningEnds_iff ⟨_, initial, .refl⟩ rfl (.inr rfl)).mpr ?_
  exact fun _ _ => ⟨by decide, by decide⟩

/-- A crystal of 1 Hz is accepted for the tuner, and half of it is zero. -/
theorem not_tuningEnds_after_1
    : ¬ ∀ parameter,
        TuningEnds
          (rtlsdrGetXtalFreq
            (tcpCommandCallback .tunerXtal parameter .obliging (.opened .fc0012)).2.settings).2 := by
  intro claim
  have none : rtlXtalAccepted 0 := fun accepted => absurd accepted.1 (by decide)
  have clocks := rtlsdrSetXtalFreq_meets none 1 .obliging (.opened .fc0012) ⟨rfl, rfl, rfl⟩
  have ends := claim 1
  unfold rtlsdrGetXtalFreq at ends
  change TuningEnds (applyPpmCorr
    (rtlsdrSetXtalFreq 0 1 .obliging (.opened .fc0012)).2.settings.tunXtal
    (rtlsdrSetXtalFreq 0 1 .obliging (.opened .fc0012)).2.settings.corr) at ends
  rw [clocks.tunXtal, clocks.corr, Radio.opened, Settings.opened, applyPpmCorr_zero,
    tuningEnds_iff] at ends
  exact absurd ends.1 (by decide)

end RtlTcpAndro.RtlSdrDevice
