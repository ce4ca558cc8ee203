import RtlTcpAndro.RtlSdrDevice.Tuning

/-! The settings that a client's commands lead to on a tuner that brings the signal down to zero,
and whether the local oscillator and the intermediate frequency then belong together.
-/

namespace RtlTcpAndro.RtlSdrDevice

-----------------------------------------------------------------------------------------
-- The settings after a setter
-----------------------------------------------------------------------------------------

namespace Settings

variable (settings : Settings)

/-- The settings once a frequency is tuned. -/
def centered (freq : UInt32) : Settings :=
  if settings.directSampling ≠ 0 then (settings.withIfFreq freq).withFreq freq
  else (settings.withTunedFreq (freq - settings.offsFreq)).withFreq freq

/-- The settings once offset tuning is set. -/
def offset (on : Int32) : Settings :=
  if settings.directSampling ≠ 0 then settings
  else
    let offsFreq := settings.offsetFor on
    let moved := (settings.withOffsFreq offsFreq).withIfFreq offsFreq
    if offsFreq < settings.freq then moved.centered settings.freq else moved

/-- The settings once a rate is applied. -/
def rated (rate : UInt32) : Settings :=
  if (settings.withRate rate).offsFreq ≠ 0 then (settings.withRate rate).offset 1
  else settings.withRate rate

/-- The settings once a sample rate is set. -/
def sampled (sampRate : UInt32) : Settings :=
  if rateSupported sampRate then settings.rated (realRate settings.rtlXtal sampRate)
  else settings

/-- The settings once direct sampling is set. -/
def directed (on : Int32) : Settings :=
  if on ≠ 0 then (settings.withDirectSampling on).centered settings.freq
  else ((settings.withIfFreq 0).withDirectSampling 0).centered settings.freq

/-- The settings once a frequency correction is set. -/
def corrected (ppm : Int32) : Settings :=
  if settings.corr = ppm then settings
  else if settings.freq ≠ 0 then (settings.withCorr ppm).centered settings.freq
  else settings.withCorr ppm

/-- The settings once a crystal frequency of the demodulator is set. -/
def crystal (rtlFreq : UInt32) : Settings :=
  if 0 < rtlFreq ∧ settings.rtlXtal ≠ rtlFreq then
    if settings.rate ≠ 0 then (settings.withRtlXtal rtlFreq).sampled settings.rate
    else settings.withRtlXtal rtlFreq
  else settings

/-- The settings once a crystal frequency of the tuner is set. -/
def tunerCrystal (tunerFreq : UInt32) : Settings :=
  if settings.tunXtal ≠ tunerFreq then
    let clocked :=
      settings.withTunXtal (if tunerFreq = 0 then settings.rtlXtal else tunerFreq)
    if settings.freq ≠ 0 then clocked.centered settings.freq else clocked
  else settings

/-- The settings once the crystal frequencies are set. -/
def crystals (rtlFreq tunerFreq : UInt32) : Settings :=
  if 0 < rtlFreq ∧ (rtlFreq < minRtlXtalFreq ∨ maxRtlXtalFreq < rtlFreq) then settings
  else (settings.crystal rtlFreq).tunerCrystal tunerFreq

/-- The settings once a command is carried out. -/
def commanded (command : RadioCommand) (parameter : UInt32) : Settings :=
  match command with
  | .freq => settings.centered parameter
  | .sampleRate => settings.sampled parameter
  | .freqCorrection => settings.corrected parameter.toInt32
  | .directSampling => settings.directed parameter.toInt32
  | .offsetTuning => settings.offset parameter.toInt32
  | .rtlXtal => settings.crystals parameter 0
  | .tunerXtal => settings.crystals 0 parameter

-----------------------------------------------------------------------------------------
-- What stays the same
-----------------------------------------------------------------------------------------

/-- The tuner and the crystals are the same. -/
structure SameTuner (before after : Settings) : Prop where
  tunerType : after.tunerType = before.tunerType
  rtlXtal : after.rtlXtal = before.rtlXtal
  tunXtal : after.tunXtal = before.tunXtal

/-- Tuning changes neither the kind of the tuner nor a crystal, by direct sampling as with the
tuner.
-/
theorem sameTuner_centered (freq : UInt32) : settings.SameTuner (settings.centered freq) := by
  unfold centered
  split <;> exact ⟨rfl, rfl, rfl⟩

/-- Tuning leaves the branch of direct sampling alone, by either way of tuning. -/
@[simp] theorem centered_directSampling (freq : UInt32)
    : (settings.centered freq).directSampling = settings.directSampling := by
  unfold centered
  split <;> rfl

/-- Offset tuning changes neither the kind of the tuner nor a crystal. Witness: where it tunes
again, the tuning does not.
-/
theorem sameTuner_offset (on : Int32) : settings.SameTuner (settings.offset on) := by
  unfold offset
  split
  · exact ⟨rfl, rfl, rfl⟩
  · let moved := (settings.withOffsFreq (settings.offsetFor on)).withIfFreq
      (settings.offsetFor on)
    have same := moved.sameTuner_centered settings.freq
    simp only []
    split
    · exact ⟨same.tunerType, same.rtlXtal, same.tunXtal⟩
    · exact ⟨rfl, rfl, rfl⟩

/-- A rate changes neither the kind of the tuner nor a crystal. Witness: where it sets the
offset anew, offset tuning does not.
-/
theorem sameTuner_rated (rate : UInt32) : settings.SameTuner (settings.rated rate) := by
  unfold rated
  have same := (settings.withRate rate).sameTuner_offset 1
  split
  · exact ⟨same.tunerType, same.rtlXtal, same.tunXtal⟩
  · exact ⟨rfl, rfl, rfl⟩

/-- The command for the rate changes neither the kind of the tuner nor a crystal, whether the
rate is supported or not.
-/
theorem sameTuner_sampled (sampRate : UInt32)
    : settings.SameTuner (settings.sampled sampRate) := by
  unfold sampled
  split
  · exact sameTuner_rated settings _
  · exact ⟨rfl, rfl, rfl⟩

/-- A new crystal of the demodulator leaves the kind of the tuner alone. Witness: where it
sets the rate again, the rate does not change it.
-/
theorem crystal_tunerType (rtlFreq : UInt32)
    : (settings.crystal rtlFreq).tunerType = settings.tunerType := by
  unfold crystal
  split
  · split
    · exact (sameTuner_sampled (settings.withRtlXtal rtlFreq) settings.rate).tunerType
    · rfl
  · rfl

/-- Direct sampling changes neither the kind of the tuner nor a crystal, in either direction.
-/
theorem sameTuner_directed (on : Int32) : settings.SameTuner (settings.directed on) := by
  unfold directed
  split
  · have same := (settings.withDirectSampling on).sameTuner_centered settings.freq
    exact ⟨same.tunerType, same.rtlXtal, same.tunXtal⟩
  · have same := ((settings.withIfFreq 0).withDirectSampling 0).sameTuner_centered settings.freq
    exact ⟨same.tunerType, same.rtlXtal, same.tunXtal⟩

/-- The correction changes neither the kind of the tuner nor a crystal. Witness: where it
tunes again, the tuning does not.
-/
theorem sameTuner_corrected (ppm : Int32) : settings.SameTuner (settings.corrected ppm) := by
  unfold corrected
  have same := (settings.withCorr ppm).sameTuner_centered settings.freq
  split
  · exact ⟨rfl, rfl, rfl⟩
  · split
    · exact ⟨same.tunerType, same.rtlXtal, same.tunXtal⟩
    · exact ⟨rfl, rfl, rfl⟩

/-- A device whose tuner has functions and brings the signal down to zero, and whose crystals
have frequencies.
-/
structure ZeroIf : Prop where
  zeroIf : settings.tunerType.isR82xx = false
  supported : settings.tunerType.supported = true
  rtlXtal : settings.rtlXtal ≠ 0
  tunXtal : settings.tunXtal ≠ 0

variable {settings}

/-- A tuner without an intermediate frequency stays one, with crystals that have a frequency,
where the tuner and the crystals are the same.
-/
theorem SameTuner.zeroIf {after : Settings} (same : settings.SameTuner after)
    (known : settings.ZeroIf)
    : after.ZeroIf where
  zeroIf := same.tunerType ▸ known.zeroIf
  supported := same.tunerType ▸ known.supported
  rtlXtal := same.rtlXtal ▸ known.rtlXtal
  tunXtal := same.tunXtal ▸ known.tunXtal

/-- A new crystal of the demodulator has a frequency, since zero is not stored. Witness: the
branches of the setting, with the rate set again or not.
-/
theorem ZeroIf.crystal (known : settings.ZeroIf) (rtlFreq : UInt32)
    : (settings.crystal rtlFreq).ZeroIf := by
  unfold Settings.crystal
  split
  next moved =>
    have clocked : (settings.withRtlXtal rtlFreq).ZeroIf :=
      ⟨known.zeroIf, known.supported, UInt32.pos_iff_ne_zero.mp moved.1, known.tunXtal⟩
    split
    · exact (sameTuner_sampled _ _).zeroIf clocked
    · exact clocked
  next => exact known

/-- A new crystal of the tuner has a frequency, since that of the demodulator stands in for
zero. Witness: the branches of the setting, tuned again or not.
-/
theorem ZeroIf.tunerCrystal (known : settings.ZeroIf) (tunerFreq : UInt32)
    : (settings.tunerCrystal tunerFreq).ZeroIf := by
  unfold Settings.tunerCrystal
  split
  · have clocked
        : (settings.withTunXtal
            (if tunerFreq = 0 then settings.rtlXtal else tunerFreq)).ZeroIf := by
      refine ⟨known.zeroIf, known.supported, known.rtlXtal, ?_⟩
      change (if tunerFreq = 0 then settings.rtlXtal else tunerFreq) ≠ 0
      split
      · exact known.rtlXtal
      · assumption
    simp only []
    split
    · exact (sameTuner_centered _ _).zeroIf clocked
    · exact clocked
  · exact known

/-- The command for both crystals leaves them with a frequency, one after the other, and
leaves them alone where it is refused.
-/
theorem ZeroIf.crystals (known : settings.ZeroIf) (rtlFreq tunerFreq : UInt32)
    : (settings.crystals rtlFreq tunerFreq).ZeroIf := by
  unfold Settings.crystals
  split
  · exact known
  · exact (known.crystal rtlFreq).tunerCrystal tunerFreq

/-- No command changes the tuner or leaves a crystal without a frequency. Witness: each
command's settings, by cases on the command.
-/
theorem ZeroIf.commanded (known : settings.ZeroIf) (command : RadioCommand) (parameter : UInt32)
    : (settings.commanded command parameter).ZeroIf := by
  cases command with
  | freq => exact (sameTuner_centered _ _).zeroIf known
  | sampleRate => exact (sameTuner_sampled _ _).zeroIf known
  | freqCorrection => exact (sameTuner_corrected _ _).zeroIf known
  | directSampling => exact (sameTuner_directed _ _).zeroIf known
  | offsetTuning => exact (sameTuner_offset _ _).zeroIf known
  | rtlXtal => exact known.crystals _ _
  | tunerXtal => exact known.crystals _ _

-----------------------------------------------------------------------------------------
-- Coherence
-----------------------------------------------------------------------------------------

/-- A frequency received through the tuner is brought down by the offset. -/
def IfCoherent (settings : Settings) : Prop :=
  settings.directSampling = 0 → settings.freq ≠ 0 → settings.ifFreq = settings.offsFreq

/-- A frequency received through the tuner is the one that the local oscillator and the
intermediate frequency make up.
-/
def Coherent (settings : Settings) : Prop :=
  settings.directSampling = 0
  → settings.freq ≠ 0
  → settings.tunedFreq = some (settings.freq - settings.offsFreq)
    ∧ settings.ifFreq = settings.offsFreq

/-- Where local oscillator and intermediate frequency belong together, the intermediate
frequency is the offset.
-/
theorem Coherent.ifCoherent (coherent : settings.Coherent) : settings.IfCoherent :=
  fun tuner tuned => (coherent tuner tuned).2

/-- Tuning sets the local oscillator, so that what remains is the intermediate frequency.
Witness: with the tuner the frequency is stored with its oscillator; by direct sampling
nothing is asserted.
-/
theorem centered_coherent_iff {freq : UInt32}
    : (settings.centered freq).Coherent
      ↔ (settings.directSampling = 0 → freq ≠ 0 → settings.ifFreq = settings.offsFreq) := by
  by_cases tuner : settings.directSampling = 0
  · have centered
        : settings.centered freq
          = (settings.withTunedFreq (freq - settings.offsFreq)).withFreq freq :=
      if_neg (not_not.mpr tuner)
    rw [centered]
    exact ⟨fun coherent tuner tuned => (coherent tuner tuned).2,
      fun known tuner tuned => ⟨rfl, known tuner tuned⟩⟩
  · refine iff_of_true (fun direct => ?_) (fun direct => absurd direct tuner)
    rw [centered_directSampling] at direct
    exact absurd direct tuner

/-- The local oscillator follows the offset: it is tuned anew, is already where it belongs, or
nothing is tuned.
-/
def Follows (settings : Settings) (on : Int32) : Prop :=
  settings.freq = 0
  ∨ settings.offsetFor on < settings.freq
  ∨ settings.offsetFor on = settings.offsFreq

/-- Offset tuning sets the intermediate frequency, so that what remains is the local
oscillator. Witness: it follows where the frequency is tuned again, and elsewhere the offset
must be the one before.
-/
theorem offset_coherent_iff (coherent : settings.Coherent) {on : Int32}
    : (settings.offset on).Coherent
      ↔ (settings.directSampling = 0 → settings.Follows on) := by
  unfold offset
  split
  next direct => exact iff_of_true coherent (fun tuner => absurd tuner direct)
  next tuner =>
    replace tuner := not_not.mp tuner
    simp only []
    split
    next above =>
      exact iff_of_true (centered_coherent_iff.mpr fun _ _ => rfl) fun _ => .inr (.inl above)
    next below =>
      constructor
      · intro after _
        by_cases tuned : settings.freq = 0
        · exact .inl tuned
        · have moved := (after tuner tuned).1.symm.trans (coherent tuner tuned).1
          exact .inr (.inr ((UInt32.sub_right_inj _).mp (Option.some.inj moved)))
      · intro follows _ tuned
        obtain none | above | same := follows tuner
        · exact absurd none tuned
        · exact absurd above below
        · refine ⟨(coherent tuner tuned).1.trans ?_, rfl⟩
          exact congrArg (fun offs => some (settings.freq - offs)) same.symm

/-- Offset tuning keeps the intermediate frequency equal to the offset: it sets both to the
same, if it sets them.
-/
theorem offset_ifCoherent (known : settings.IfCoherent) (on : Int32)
    : (settings.offset on).IfCoherent := by
  unfold offset
  split
  · exact known
  · simp only []
    split
    · exact (centered_coherent_iff.mpr fun _ _ => rfl).ifCoherent
    · exact fun _ _ => rfl

/-- A rate keeps the settings coherent exactly if the offset that it sets anew is followed,
where there is an offset at all.
-/
theorem rated_coherent_iff (coherent : settings.Coherent) {rate : UInt32}
    : (settings.rated rate).Coherent
      ↔ (settings.directSampling = 0
        → settings.offsFreq ≠ 0
        → (settings.withRate rate).Follows 1) := by
  unfold rated
  split
  next offs =>
    rw [offset_coherent_iff (by exact coherent)]
    exact ⟨fun follows tuner _ => follows tuner, fun follows tuner => follows tuner offs⟩
  next none => exact iff_of_true coherent fun _ offs => absurd offs none

/-- A rate keeps the intermediate frequency equal to the offset, as the offset tuning it ends
with does.
-/
theorem rated_ifCoherent (known : settings.IfCoherent) (rate : UInt32)
    : (settings.rated rate).IfCoherent := by
  unfold rated
  split
  · exact offset_ifCoherent (by exact known) 1
  · exact known

/-- The command for the rate keeps the settings coherent exactly if the rate is refused or its
offset is followed.
-/
theorem sampled_coherent_iff (coherent : settings.Coherent) {sampRate : UInt32}
    : (settings.sampled sampRate).Coherent
      ↔ (rateSupported sampRate
        → settings.directSampling = 0
        → settings.offsFreq ≠ 0
        → (settings.withRate (realRate settings.rtlXtal sampRate)).Follows 1) := by
  unfold sampled
  split
  next valid =>
    rw [rated_coherent_iff coherent]
    exact ⟨fun follows _ => follows, fun follows => follows valid⟩
  next invalid => exact iff_of_true coherent fun valid => absurd valid invalid

/-- The command for the rate keeps the intermediate frequency equal to the offset, whether the
rate is supported or not.
-/
theorem sampled_ifCoherent (known : settings.IfCoherent) (sampRate : UInt32)
    : (settings.sampled sampRate).IfCoherent := by
  unfold sampled
  split
  · exact rated_ifCoherent known _
  · exact known

/-- Leaving direct sampling sets the intermediate frequency to zero, whatever the offset.
Witness: entering it leaves nothing to assert, and leaving it needs an offset of zero or no
frequency.
-/
theorem directed_coherent_iff {on : Int32}
    : (settings.directed on).Coherent
      ↔ (on = 0 → settings.freq = 0 ∨ settings.offsFreq = 0) := by
  unfold directed
  split
  next direct =>
    rw [centered_coherent_iff]
    exact iff_of_true (fun tuner => absurd tuner direct) (fun tuner => absurd tuner direct)
  next tuner =>
    replace tuner := not_not.mp tuner
    rw [centered_coherent_iff]
    constructor
    · intro known _
      by_cases tuned : settings.freq = 0
      · exact .inl tuned
      · exact .inr (known rfl tuned).symm
    · intro known _ tuned
      exact ((known tuner).resolve_left tuned).symm

/-- The correction keeps the settings coherent. Witness: where the frequency is tuned again,
the intermediate frequency is still the offset.
-/
theorem corrected_coherent (coherent : settings.Coherent) (ppm : Int32)
    : (settings.corrected ppm).Coherent := by
  unfold corrected
  split
  · exact coherent
  · split
    · exact centered_coherent_iff.mpr fun tuner tuned => (coherent tuner tuned).2
    · exact coherent

/-- A new crystal of the demodulator keeps the intermediate frequency equal to the offset, as
the rate set again does.
-/
theorem crystal_ifCoherent (known : settings.IfCoherent) (rtlFreq : UInt32)
    : (settings.crystal rtlFreq).IfCoherent := by
  unfold crystal
  split
  · split
    · exact sampled_ifCoherent (by exact known) _
    · exact known
  · exact known

/-- A new clock of the tuner tunes anew. Witness: after a tuning the intermediate frequency
decides, and without a frequency nothing is asserted.
-/
theorem tunerCrystal_coherent (known : settings.IfCoherent) {tunerFreq : UInt32}
    (coherent : settings.tunXtal = tunerFreq → settings.Coherent)
    : (settings.tunerCrystal tunerFreq).Coherent := by
  unfold tunerCrystal
  split
  · simp only []
    split
    · exact centered_coherent_iff.mpr known
    next none => exact fun _ tuned => absurd tuned none
  next same => exact coherent (not_not.mp same)

/-- The command for both crystals keeps the settings coherent where the tuner's crystal is
another one or the demodulator's stays. Witness: the tuner's comes last and tunes anew.
-/
theorem crystals_coherent (coherent : settings.Coherent) {rtlFreq tunerFreq : UInt32}
    (clocked : rtlFreq = 0 ∨ (settings.crystal rtlFreq).tunXtal ≠ tunerFreq)
    : (settings.crystals rtlFreq tunerFreq).Coherent := by
  unfold crystals
  split
  · exact coherent
  · refine tunerCrystal_coherent (crystal_ifCoherent coherent.ifCoherent rtlFreq) ?_
    intro same
    obtain rfl | other := clocked
    · exact coherent
    · exact absurd same other

/-- What keeps the local oscillator and the intermediate frequency together when a command is
carried out.
-/
def Keeps (settings : Settings) (command : RadioCommand) (parameter : UInt32) : Prop :=
  match command with
  | .freq =>
      settings.directSampling = 0 → parameter ≠ 0 → settings.ifFreq = settings.offsFreq
  | .sampleRate =>
      rateSupported parameter
      → settings.directSampling = 0
      → settings.offsFreq ≠ 0
      → (settings.withRate (realRate settings.rtlXtal parameter)).Follows 1
  | .freqCorrection => True
  | .directSampling => parameter.toInt32 = 0 → settings.freq = 0 ∨ settings.offsFreq = 0
  | .offsetTuning => settings.directSampling = 0 → settings.Follows parameter.toInt32
  | .rtlXtal => True
  | .tunerXtal => True

instance (on : Int32) : Decidable (settings.Follows on) :=
  inferInstanceAs (Decidable (_ ∨ _ ∨ _))

instance (command : RadioCommand) (parameter : UInt32)
    : Decidable (settings.Keeps command parameter) :=
  match command with
  | .freq => inferInstanceAs (Decidable (_ → _ → _))
  | .sampleRate => inferInstanceAs (Decidable (_ → _ → _ → _))
  | .freqCorrection => inferInstanceAs (Decidable True)
  | .directSampling => inferInstanceAs (Decidable (_ → _ ∨ _))
  | .offsetTuning => inferInstanceAs (Decidable (_ → _))
  | .rtlXtal => inferInstanceAs (Decidable True)
  | .tunerXtal => inferInstanceAs (Decidable True)

/-- A command keeps the settings coherent exactly under its condition. Witness: each command's
own equivalence, by cases on the command.
-/
theorem commanded_coherent_iff (zeroIf : settings.ZeroIf) (coherent : settings.Coherent)
    {command : RadioCommand} {parameter : UInt32}
    : (settings.commanded command parameter).Coherent ↔ settings.Keeps command parameter := by
  cases command with
  | freq => exact centered_coherent_iff
  | sampleRate => exact sampled_coherent_iff coherent
  | freqCorrection => exact iff_of_true (corrected_coherent coherent _) trivial
  | directSampling => exact directed_coherent_iff
  | offsetTuning => exact offset_coherent_iff coherent
  | rtlXtal =>
      exact iff_of_true (crystals_coherent coherent (.inr (zeroIf.crystal _).tunXtal)) trivial
  | tunerXtal => exact iff_of_true (crystals_coherent coherent (.inl rfl)) trivial

end Settings

end RtlTcpAndro.RtlSdrDevice
