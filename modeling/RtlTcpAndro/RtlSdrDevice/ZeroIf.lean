import RtlTcpAndro.Interleaving.Schedule
import RtlTcpAndro.RtlSdrDevice.ZeroIfSettings

/-! Where the local oscillator and the intermediate frequency are after any commands of a
client, on a tuner that brings the signal down to zero.
-/

namespace RtlTcpAndro.RtlSdrDevice

open RtlTcpAndro.Interleaving

-----------------------------------------------------------------------------------------
-- What the setters do to the settings
-----------------------------------------------------------------------------------------

/-- Every transfer and every tuning succeeds. -/
structure Environment.Radio.Succeeds (environment : Environment.Radio) : Prop where
  transfers : ∀ call, environment.transfers call = true
  tuning : ∀ call freq, environment.tuner call (.setFreq freq) = 0

/-- From some settings a computation leads to others, whatever the registers are. -/
def Tuning.Does {α : Type} (tuning : Tuning α) (environment : Environment.Radio)
    (before : Settings) (returns : α → Prop) (after : Settings) : Prop :=
  ∀ chip, ∃ value later,
    tuning environment ⟨before, chip⟩ = (value, ⟨after, later⟩) ∧ returns value

section Does

variable {α β : Type} {environment : Environment.Radio} {before between after : Settings}

/-- A sequence leads through the settings that its first part leaves. Witness: the run of the
rest on the value and the registers of the first part.
-/
theorem Tuning.Does.bind {first : Tuning α} {rest : α → Tuning β} {found : α → Prop}
    {returns : β → Prop} (does : first.Does environment before found between)
    (next : ∀ value, found value → (rest value).Does environment between returns after)
    : (first >>= rest).Does environment before returns after := by
  intro chip
  obtain ⟨value, middle, ran, holds⟩ := does chip
  obtain ⟨result, later, ends, returned⟩ := next value holds middle
  refine ⟨result, later, ?_, returned⟩
  rw [← ends]
  change (rest (first environment ⟨before, chip⟩).1 environment
    (first environment ⟨before, chip⟩).2) = _
  rw [ran]

/-- A value leaves the settings as they are, whatever the registers are. -/
theorem Tuning.Does.pure {returns : α → Prop} {value : α} (holds : returns value)
    : (Pure.pure value : Tuning α).Does environment before returns before :=
  fun chip => ⟨value, chip, rfl, holds⟩

/-- What is said of the value may be weakened; the settings stay those of the same run. -/
theorem Tuning.Does.weaken {tuning : Tuning α} {found returns : α → Prop}
    (does : tuning.Does environment before found after)
    (implies : ∀ value, found value → returns value)
    : tuning.Does environment before returns after := by
  intro chip
  obtain ⟨value, later, ran, holds⟩ := does chip
  exact ⟨value, later, ran, implies value holds⟩

/-- Reading a setting returns the one that is held and leaves all of them as they are. -/
theorem setting_does (field : Settings → α)
    : (setting field).Does environment before (· = field before) before :=
  fun chip => ⟨_, chip, rfl, rfl⟩

/-- A change of the settings leads to the changed ones, with the registers as they were. -/
theorem change_does (update : Settings → Settings)
    : (change update).Does environment before (fun _ => True) (update before) :=
  fun chip => ⟨(), chip, rfl, trivial⟩

/-- Taking the number of the next call leaves the settings as they are; it is counted on the
chip.
-/
theorem nextCall_does : nextCall.Does environment before (fun _ => True) before :=
  fun _ => ⟨_, _, rfl, trivial⟩

/-- Reading the environment returns it and leaves the settings as they are. -/
theorem environment_does
    : (read : Tuning Environment.Radio).Does environment before (· = environment) before :=
  fun chip => ⟨environment, chip, rfl, rfl⟩

/-- A request to the tuner returns what the environment answers to some number, and changes no
setting. Witness: the number of the call that is taken.
-/
theorem askTuner_does (call : TunerCall)
    : (askTuner call).Does environment before (fun r => ∃ number, r = environment.tuner number call)
        before := by
  refine .bind nextCall_does fun number _ => ?_
  refine .bind environment_does fun _ same => ?_
  subst same
  exact .pure ⟨number, rfl⟩

end Does

section Setters

variable {environment : Environment.Radio} (succeeds : environment.Succeeds)
  {settings : Settings}

include succeeds

/-- Where every transfer succeeds, a write returns zero and changes no setting. Witness: the
transfer of the number that the chip has counted up to.
-/
theorem rtlsdrDemodWriteReg_does (page : UInt8) (addr val : UInt16) (len : UInt8)
    : (rtlsdrDemodWriteReg page addr val len).Does environment settings (· = 0) settings := by
  intro chip
  have moved : environment.transfers chip.calls = true := succeeds.transfers chip.calls
  unfold rtlsdrDemodWriteReg
  change ∃ value later,
    (if environment.transfers chip.calls = true then _ else _ : Tuning Int32) environment _
      = (value, ⟨settings, later⟩) ∧ value = 0
  rw [if_pos moved]
  exact ⟨0, _, rfl, rfl⟩

/-- Where every transfer succeeds, switching the repeater changes no setting. -/
theorem rtlsdrSetI2cRepeater_does (on : Bool)
    : (rtlsdrSetI2cRepeater on).Does environment settings (fun _ => True) settings :=
  .bind (rtlsdrDemodWriteReg_does succeeds _ _ _ _) fun _ _ => .pure trivial

/-- What is done between two switches of the repeater does the same to the settings, and its
value is the one returned. Witness: the three parts in sequence.
-/
theorem repeating_does {tuning : Tuning Int32} {returns : Int32 → Prop} {after : Settings}
    (does : tuning.Does environment settings returns after)
    : (repeating tuning).Does environment settings returns after := by
  refine .bind (rtlsdrSetI2cRepeater_does succeeds true) fun _ _ => ?_
  refine .bind does fun r returned => ?_
  exact .bind (rtlsdrSetI2cRepeater_does succeeds false) fun _ _ => .pure returned

/-- A function of the tuner, with the repeater switched around it, changes no setting and
returns an answer of the environment; it is a request that is repeated.
-/
theorem callTuner_does (call : TunerCall)
    : (callTuner call).Does environment settings
        (fun r => ∃ number, r = environment.tuner number call) settings :=
  repeating_does succeeds (askTuner_does call)

/-- Setting the intermediate frequency stores it and returns zero. Witness: each of the three
writes returns zero, and so does their disjunction.
-/
theorem rtlsdrSetIfFreq_does (freq : UInt32)
    : (rtlsdrSetIfFreq freq).Does environment settings (· = 0)
        (settings.withIfFreq freq) := by
  refine .bind (change_does _) fun _ _ => ?_
  refine .bind (setting_does _) fun _ _ => ?_
  refine .bind (rtlsdrDemodWriteReg_does succeeds _ _ _ _) fun r₁ zero₁ => ?_
  refine .bind (rtlsdrDemodWriteReg_does succeeds _ _ _ _) fun r₂ zero₂ => ?_
  refine .bind (rtlsdrDemodWriteReg_does succeeds _ _ _ _) fun r₃ zero₃ => ?_
  refine .pure ?_
  rw [zero₁, zero₂, zero₃]
  rfl

/-- Writing the correction of the sample rate changes no setting; it is two writes. -/
theorem rtlsdrSetSampleFreqCorrection_does (ppm : Int32)
    : (rtlsdrSetSampleFreqCorrection ppm).Does environment settings (fun _ => True)
        settings := by
  refine .bind (rtlsdrDemodWriteReg_does succeeds _ _ _ _) fun _ _ => ?_
  refine .bind (rtlsdrDemodWriteReg_does succeeds _ _ _ _) fun _ _ => ?_
  exact .pure trivial

/-- Tuning returns zero and leaves the settings centred on the frequency. Witness: by direct
sampling that of the intermediate frequency, else the tuner's success, after which the
frequency is kept.
-/
theorem rtlsdrSetCenterFreq_does (supported : settings.tunerType.supported = true)
    (freq : UInt32)
    : (rtlsdrSetCenterFreq freq).Does environment settings (· = 0) (settings.centered freq) := by
  refine .bind (setting_does id) fun current same => ?_
  obtain rfl : current = settings := same
  unfold Settings.centered
  split
  · refine .bind (rtlsdrSetIfFreq_does succeeds freq) fun r zero => ?_
    obtain rfl : r = 0 := zero
    exact .bind (change_does _) fun _ _ => .pure rfl
  · refine .bind (change_does _) fun _ _ => ?_
    refine .bind (callTuner_does succeeds _) fun r tuned => ?_
    obtain ⟨number, same⟩ := tuned
    obtain rfl : r = 0 := same.trans (succeeds.tuning number _)
    exact .bind (change_does _) fun _ _ => .pure rfl

/-- The bandwidth of a tuner without an intermediate frequency changes no setting. Witness:
only an R82xx goes on from the answer of its tuner.
-/
theorem tunerSetBw_does (zeroIf : settings.tunerType.isR82xx = false) (bw : Int32)
    : (tunerSetBw bw).Does environment settings (fun _ => True) settings := by
  refine repeating_does succeeds (.bind (setting_does id) fun current same => ?_)
  obtain rfl : current = settings := same
  refine .bind (askTuner_does _) fun r _ => ?_
  rw [zeroIf]
  exact .pure trivial

/-- Offset tuning leads to the settings with the offset, tuned again where there is a
frequency, or leaves them alone where it is refused. Witness: the branches of the function are
those of the settings.
-/
theorem rtlsdrSetOffsetTuning_does (zeroIf : settings.tunerType.isR82xx = false)
    (supported : settings.tunerType.supported = true) (on : Int32)
    : (rtlsdrSetOffsetTuning on).Does environment settings (fun _ => True)
        (settings.offset on) := by
  refine .bind (setting_does id) fun current same => ?_
  obtain rfl : current = settings := same
  rw [zeroIf]
  unfold Settings.offset
  by_cases direct : current.directSampling ≠ 0
  · rw [if_pos direct, if_pos direct]
    exact .pure trivial
  · rw [if_neg direct, if_neg direct]
    refine .bind (change_does _) fun _ _ => ?_
    refine .bind (rtlsdrSetIfFreq_does succeeds _) fun r _ => ?_
    rw [if_pos supported]
    simp only []
    refine .bind (tunerSetBw_does succeeds (by simpa using zeroIf) _) fun _ _ => ?_
    split
    · refine .bind (rtlsdrSetCenterFreq_does succeeds (by simpa using supported) _) fun _ _ => ?_
      exact .pure trivial
    · exact .pure trivial

/-- The bandwidth that goes with the sample rate changes no setting, since the tuner has no
intermediate frequency.
-/
theorem setRateBandwidth_does (zeroIf : settings.tunerType.isR82xx = false)
    : setRateBandwidth.Does environment settings (fun _ => True) settings := by
  refine .bind (setting_does id) fun current same => ?_
  obtain rfl : current = settings := same
  split
  · exact .bind (tunerSetBw_does succeeds zeroIf _) fun _ _ => .pure trivial
  · exact .pure trivial

/-- Writing the ratio changes no setting: its writes, the correction between them and the
resets do not.
-/
theorem writeRsampRatio_does (ratio : UInt32) (corr : Int32)
    : (writeRsampRatio ratio corr).Does environment settings (fun _ => True) settings := by
  refine .bind (rtlsdrDemodWriteReg_does succeeds _ _ _ _) fun _ _ => ?_
  refine .bind (rtlsdrDemodWriteReg_does succeeds _ _ _ _) fun _ _ => ?_
  refine .bind (rtlsdrSetSampleFreqCorrection_does succeeds _) fun _ _ => ?_
  refine .bind (rtlsdrDemodWriteReg_does succeeds _ _ _ _) fun _ _ => ?_
  refine .bind (rtlsdrDemodWriteReg_does succeeds _ _ _ _) fun _ _ => ?_
  exact .pure trivial

/-- Applying a rate stores it and sets the offset tuning anew where there is an offset.
Witness: the parts in the order of the source, each with what it does.
-/
theorem applySampleRate_does (zeroIf : settings.tunerType.isR82xx = false)
    (supported : settings.tunerType.supported = true) (rate ratio : UInt32)
    : (applySampleRate rate ratio).Does environment settings (fun _ => True)
        (settings.rated rate) := by
  unfold Settings.rated
  refine .bind (change_does _) fun _ _ => ?_
  refine .bind (setRateBandwidth_does succeeds zeroIf) fun _ _ => ?_
  refine .bind (setting_does _) fun corr _ => ?_
  refine .bind (writeRsampRatio_does succeeds _ _) fun r _ => ?_
  refine .bind (setting_does _) fun offsFreq same => ?_
  obtain rfl := same
  have retunes : (rtlsdrSetOffsetTuning 1).Does environment (settings.withRate rate)
      (fun _ => True) ((settings.withRate rate).offset 1) :=
    rtlsdrSetOffsetTuning_does succeeds (by simpa using zeroIf) (by simpa using supported) 1
  split
  · exact .bind retunes fun _ _ => .pure trivial
  · exact .pure trivial

/-- A supported rate is applied as the real one, and any other changes no setting. Witness:
the check of the rate, then the crystal as it is read.
-/
theorem rtlsdrSetSampleRate_does (zeroIf : settings.tunerType.isR82xx = false)
    (supported : settings.tunerType.supported = true) (sampRate : UInt32)
    : (rtlsdrSetSampleRate sampRate).Does environment settings (fun _ => True)
        (settings.sampled sampRate) := by
  unfold rtlsdrSetSampleRate Settings.sampled
  by_cases valid : rateSupported sampRate
  · rw [if_neg (not_not.mpr valid), if_pos valid]
    refine .bind (setting_does _) fun rtlXtal same => ?_
    rw [same]
    exact applySampleRate_does succeeds zeroIf supported _ _
  · rw [if_pos valid, if_neg valid]
    exact .pure trivial

/-- Entering direct sampling stores its branch; the tuner's exit and the writes to the
demodulator change no other setting.
-/
theorem enableDirectSampling_does (supported : settings.tunerType.supported = true)
    (on : Int32)
    : (enableDirectSampling on).Does environment settings (fun _ => True)
        (settings.withDirectSampling on) := by
  refine .bind (setting_does _) fun tuner same => ?_
  obtain rfl := same
  rw [if_pos supported]
  refine .bind (callTuner_does succeeds _) fun _ _ => ?_
  refine .bind (rtlsdrDemodWriteReg_does succeeds _ _ _ _) fun _ _ => ?_
  refine .bind (rtlsdrDemodWriteReg_does succeeds _ _ _ _) fun _ _ => ?_
  refine .bind (rtlsdrDemodWriteReg_does succeeds _ _ _ _) fun _ _ => ?_
  refine .bind (rtlsdrDemodWriteReg_does succeeds _ _ _ _) fun _ _ => ?_
  exact .bind (change_does _) fun _ _ => .pure trivial

/-- Receiving from a tuner without an intermediate frequency stores an intermediate frequency
of zero; the writes around it change no setting.
-/
theorem receiveFromTuner_does (zeroIf : settings.tunerType.isR82xx = false)
    : receiveFromTuner.Does environment settings (fun _ => True) (settings.withIfFreq 0) := by
  refine .bind (setting_does _) fun tuner same => ?_
  obtain rfl := same
  rw [zeroIf]
  refine .bind (rtlsdrSetIfFreq_does succeeds _) fun _ _ => ?_
  refine .bind (rtlsdrDemodWriteReg_does succeeds _ _ _ _) fun _ _ => ?_
  refine .bind (rtlsdrDemodWriteReg_does succeeds _ _ _ _) fun _ _ => ?_
  exact .pure trivial

/-- Leaving direct sampling stores an intermediate frequency of zero and no branch. Witness:
the tuner's initialization, then what receives from it, then the store.
-/
theorem disableDirectSampling_does (zeroIf : settings.tunerType.isR82xx = false)
    (supported : settings.tunerType.supported = true)
    : disableDirectSampling.Does environment settings (fun _ => True)
        ((settings.withIfFreq 0).withDirectSampling 0) := by
  refine .bind (setting_does _) fun tuner same => ?_
  obtain rfl := same
  rw [if_pos supported]
  refine .bind (callTuner_does succeeds _) fun _ _ => ?_
  refine .bind (receiveFromTuner_does succeeds zeroIf) fun _ _ => ?_
  refine .bind (rtlsdrDemodWriteReg_does succeeds _ _ _ _) fun _ _ => ?_
  exact .bind (change_does _) fun _ _ => .pure trivial

/-- Either direction of direct sampling ends with tuning to the frequency that is held.
Witness: what enters or leaves it, and then the tuning of the settings that were left.
-/
theorem rtlsdrSetDirectSampling_does (zeroIf : settings.tunerType.isR82xx = false)
    (supported : settings.tunerType.supported = true) (on : Int32)
    : (rtlsdrSetDirectSampling on).Does environment settings (fun _ => True)
        (settings.directed on) := by
  unfold rtlsdrSetDirectSampling Settings.directed
  split
  · refine .bind (enableDirectSampling_does succeeds supported on) fun _ _ => ?_
    refine .bind (setting_does _) fun freq same => ?_
    obtain rfl := same
    refine .bind (rtlsdrSetCenterFreq_does succeeds (by simpa using supported) _) fun _ _ => ?_
    exact .pure trivial
  · refine .bind (disableDirectSampling_does succeeds zeroIf supported) fun _ _ => ?_
    refine .bind (setting_does _) fun freq same => ?_
    obtain rfl := same
    refine .bind (rtlsdrSetCenterFreq_does succeeds (by simpa using supported) _) fun _ _ => ?_
    exact .pure trivial

/-- A new correction is stored and the frequency tuned again where there is one; the old one
changes nothing. Witness: the test of the value, then the branches of the retuning.
-/
theorem rtlsdrSetFreqCorrection_does (supported : settings.tunerType.supported = true)
    (ppm : Int32)
    : (rtlsdrSetFreqCorrection ppm).Does environment settings (fun _ => True)
        (settings.corrected ppm) := by
  refine .bind (setting_does _) fun corr same => ?_
  obtain rfl := same
  unfold Settings.corrected
  by_cases same : settings.corr = ppm
  · rw [if_pos same, if_pos same]
    exact .pure trivial
  · rw [if_neg same, if_neg same]
    refine .bind (change_does _) fun _ _ => ?_
    refine .bind (rtlsdrSetSampleFreqCorrection_does succeeds ppm) fun _ _ => ?_
    refine .bind (setting_does _) fun freq same => ?_
    obtain rfl : freq = settings.freq := same
    have retunes
        : (rtlsdrSetCenterFreq settings.freq).Does environment (settings.withCorr ppm) (· = 0)
            ((settings.withCorr ppm).centered settings.freq) :=
      rtlsdrSetCenterFreq_does succeeds (by exact supported) _
    split
    · exact .bind retunes fun _ _ => .pure trivial
    · exact .pure trivial

/-- A new crystal of the demodulator is stored and the rate set again where there is one; the
same crystal and zero change nothing.
-/
theorem setRtlXtal_does (zeroIf : settings.tunerType.isR82xx = false)
    (supported : settings.tunerType.supported = true) (rtlFreq : UInt32)
    : (setRtlXtal rtlFreq).Does environment settings (fun _ => True)
        (settings.crystal rtlFreq) := by
  refine .bind (setting_does id) fun current same => ?_
  obtain rfl : current = settings := same
  unfold Settings.crystal
  split
  · refine .bind (change_does _) fun _ _ => ?_
    have sampled
        : (rtlsdrSetSampleRate current.rate).Does environment (current.withRtlXtal rtlFreq)
            (fun _ => True) ((current.withRtlXtal rtlFreq).sampled current.rate) :=
      rtlsdrSetSampleRate_does succeeds (by exact zeroIf) (by exact supported) _
    split
    · exact sampled
    · exact .pure trivial
  · exact .pure trivial

/-- A new crystal of the tuner is stored and the frequency tuned again where there is one; the
same crystal changes nothing.
-/
theorem setTunXtal_does (supported : settings.tunerType.supported = true)
    (tunerFreq : UInt32) (r : Int32)
    : (setTunXtal tunerFreq r).Does environment settings (fun _ => True)
        (settings.tunerCrystal tunerFreq) := by
  refine .bind (setting_does id) fun current same => ?_
  obtain rfl : current = settings := same
  unfold Settings.tunerCrystal
  split
  · refine .bind (change_does _) fun _ _ => ?_
    have retunes
        : (rtlsdrSetCenterFreq current.freq).Does environment
            (current.withTunXtal (if tunerFreq = 0 then current.rtlXtal else tunerFreq)) (· = 0)
            ((current.withTunXtal
              (if tunerFreq = 0 then current.rtlXtal else tunerFreq)).centered current.freq) :=
      rtlsdrSetCenterFreq_does succeeds (by exact supported) _
    split
    · exact retunes.weaken fun _ _ => trivial
    · exact .pure trivial
  · exact .pure trivial

/-- Crystals that are refused change nothing; else the demodulator's is set and then the
tuner's. Witness: the settings after the first still have a tuner that is known.
-/
theorem rtlsdrSetXtalFreq_does (zeroIf : settings.tunerType.isR82xx = false)
    (supported : settings.tunerType.supported = true) (rtlFreq tunerFreq : UInt32)
    : (rtlsdrSetXtalFreq rtlFreq tunerFreq).Does environment settings (fun _ => True)
        (settings.crystals rtlFreq tunerFreq) := by
  unfold rtlsdrSetXtalFreq Settings.crystals
  split
  · exact .pure trivial
  · refine .bind (setRtlXtal_does succeeds zeroIf supported rtlFreq) fun r _ => ?_
    exact setTunXtal_does succeeds (settings.crystal_tunerType rtlFreq ▸ supported) tunerFreq r

/-- On a tuner without an intermediate frequency, a command changes the settings the same way
whatever the registers are. Witness: each command's setter, by cases on the command.
-/
theorem tcpCommandCallback_does (zeroIf : settings.tunerType.isR82xx = false)
    (supported : settings.tunerType.supported = true) (command : RadioCommand)
    (parameter : UInt32)
    : (tcpCommandCallback command parameter).Does environment settings (fun _ => True)
        (settings.commanded command parameter) := by
  cases command with
  | freq => exact (rtlsdrSetCenterFreq_does succeeds supported _).weaken fun _ _ => trivial
  | sampleRate => exact rtlsdrSetSampleRate_does succeeds zeroIf supported _
  | freqCorrection => exact rtlsdrSetFreqCorrection_does succeeds supported _
  | directSampling => exact rtlsdrSetDirectSampling_does succeeds zeroIf supported _
  | offsetTuning => exact rtlsdrSetOffsetTuning_does succeeds zeroIf supported _
  | rtlXtal => exact rtlsdrSetXtalFreq_does succeeds zeroIf supported _ _
  | tunerXtal => exact rtlsdrSetXtalFreq_does succeeds zeroIf supported _ _

end Setters

-----------------------------------------------------------------------------------------
-- Every run
-----------------------------------------------------------------------------------------

/-- The commands that a client sends to a device after it is opened. -/
def commanding (environment : Environment.Radio) (tuner : RtlsdrTuner)
    : System Radio (RadioCommand × UInt32) where
  initial radio := radio.settings = .opened tuner
  step radio choice := some (tcpCommandCallback choice.1 choice.2 environment radio).2

section Runs

variable {environment : Environment.Radio} {tuner : RtlsdrTuner}

/-- One command of a client leads to the settings that it stands for. Witness: the run of its
callback on the registers that the radio has.
-/
theorem commanding_step (succeeds : environment.Succeeds) {radio next : Radio}
    {choice : RadioCommand × UInt32} (zeroIf : radio.settings.ZeroIf)
    (fired : (commanding environment tuner).step radio choice = some next)
    : next.settings = radio.settings.commanded choice.1 choice.2 := by
  obtain ⟨value, later, ran, -⟩ :=
    tcpCommandCallback_does succeeds zeroIf.zeroIf zeroIf.supported choice.1 choice.2 radio.chip
  have moved := (Option.some.inj fired).symm
  rw [ran] at moved
  rw [moved]

/-- On a tuner without an intermediate frequency, where every transfer and every tuning
succeeds, the local oscillator and the intermediate frequency belong together throughout any
commands exactly when each command keeps its condition.
-/
theorem coherent_throughout_iff (succeeds : environment.Succeeds)
    (zeroIf : tuner.isR82xx = false) (supported : tuner.supported = true) {start : Radio}
    (initial : (commanding environment tuner).initial start)
    (schedule : List (RadioCommand × UInt32))
    : (commanding environment tuner).Throughout (fun radio => radio.settings.Coherent) start
          schedule
      ↔ (commanding environment tuner).Heeds
          (fun radio choice => radio.settings.Keeps choice.1 choice.2) start schedule := by
  obtain ⟨finish, replayed⟩ :=
    (commanding environment tuner).exists_run_of_total (fun _ _ => rfl) start schedule
  have opened : start.settings = .opened tuner := initial
  have preserved (radio : Radio) (choice : RadioCommand × UInt32) (next : Radio)
      (known : radio.settings.ZeroIf)
      (fired : (commanding environment tuner).step radio choice = some next)
      : next.settings.ZeroIf := by
    rw [commanding_step succeeds known fired]
    exact known.commanded choice.1 choice.2
  refine System.throughout_iff_heeds_of_kept preserved ?_ replayed ?_ ?_
  · intro radio choice next known coherent fired
    rw [commanding_step succeeds known fired]
    exact Settings.commanded_coherent_iff known coherent
  · rw [opened]
    have clocked : defRtlXtalFreq ≠ 0 := by decide
    exact ⟨zeroIf, supported, clocked, clocked⟩
  · rw [opened]
    exact fun _ tuned => absurd rfl tuned

/-- An environment where all succeeds. -/
def Environment.Radio.obliging : Environment.Radio where
  transfers _ := true
  tuner _ _ := 0

/-- A device just opened, its registers all zero. -/
def Radio.opened (tuner : RtlsdrTuner) : Radio := ⟨.opened tuner, ⟨fun _ _ => 0, 0⟩⟩

/-- Offset tuning is entered and left again before the samples are taken directly. -/
theorem coherent_after_offset_tuning
    : (commanding .obliging .e4000).Throughout (fun radio => radio.settings.Coherent)
        (.opened .e4000)
        [(.sampleRate, 2048000), (.freq, 100000000), (.offsetTuning, 1), (.freqCorrection, 20),
          (.sampleRate, 2400000), (.tunerXtal, 28800100), (.offsetTuning, 0),
          (.directSampling, 1), (.freq, 7100000), (.directSampling, 0), (.freq, 90000000)] := by
  have initial : (commanding .obliging .e4000).initial (.opened .e4000) := rfl
  rw [coherent_throughout_iff ⟨fun _ => rfl, fun _ _ => rfl⟩ rfl rfl initial]
  decide +kernel

/-- After direct sampling the offset is still in force, but the intermediate frequency is zero. -/
theorem incoherent_after_direct_sampling
    : ¬ ∀ radio, (commanding .obliging .e4000).Reachable radio → radio.settings.Coherent := by
  intro claim
  have replayed
      : ((commanding .obliging .e4000).run (.opened .e4000)
            [(.sampleRate, 2048000), (.freq, 100000000), (.offsetTuning, 1),
              (.directSampling, 1), (.directSampling, 0)]).map
          (fun radio =>
            (radio.settings.directSampling, radio.settings.freq, radio.settings.ifFreq,
              radio.settings.offsFreq))
        = some (0, 100000000, 0, 1740800) := by
    decide +kernel
  obtain ⟨radio, reachable, seen⟩ := System.exists_reachable_of_run replayed rfl
  simp only [Prod.mk.injEq] at seen
  obtain ⟨tuner, tuned, zero, offset⟩ := seen
  have same := (claim radio reachable tuner (by rw [tuned]; decide)).2
  rw [zero, offset] at same
  exact absurd same (by decide)

end Runs

end RtlTcpAndro.RtlSdrDevice
