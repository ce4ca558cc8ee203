import RtlTcpAndro.RtlSdrDevice.TunerGains
import RtlTcpAndro.Tuners.E4kFrontEnd

/-! A device with the E4000 as its library sets it: the gains, modes and filters of the tuner, and
the gain that `rtlsdr_get_tuner_gain` reports. Over any calls it is a record of settings.
-/

namespace RtlTcpAndro.RtlSdrDevice

open RtlTcpAndro.Registers RtlTcpAndro.Tuners

-----------------------------------------------------------------------------------------
-- Calls
-----------------------------------------------------------------------------------------

/-- The tuner of a device, and its field `gain`. -/
structure E4000Device where
  chip : E4kChip
  gain : Int32

/-- A function of the library, where the environment says which transfers move their bytes. -/
abbrev E4000 := ReaderT (Nat → Bool) (StateM E4000Device)

/-- A function of the tuner, called with the repeater on. -/
def withRepeater (call : E4k Int32) : E4000 Int32 := fun environment device =>
  let (r, chip) := call environment { device.chip with repeater := true }
  (r, { device with chip := { chip with repeater := false } })

/-- `rtlsdr_set_tuner_gain` -/
def rtlsdrSetTunerGain (gain : Int32) : E4000 Int32 := do
  let r ← withRepeater (e4000SetGain gain)
  modify fun device => { device with gain := if r = 0 then gain else 0 }
  return r

/-- `set_gain_by_index` -/
def setGainByIndex (index : UInt32) : E4000 Int32 :=
  match (rtlsdrGetTunerGains .e4000)[index.toNat]? with
  | some gain => rtlsdrSetTunerGain gain
  | none => return 0

/-- The calls that set the front end. `setBw` is what the library passes to the tuner whenever the
sample rate, the bandwidth or the offset tuning changes.
-/
inductive E4000Call
  | setGain (gain : Int32)
  | setGainByIndex (index : UInt32)
  | setGainByPerc (percent : UInt32)
  | setIfGain (stage gain : Int32)
  | setGainMode (mode : Int32)
  | setBw (bw : UInt32)
  | exit
  deriving DecidableEq, Repr

/-- `rtlsdr_set_tuner_gain`, `set_gain_by_index`, `set_gain_by_perc`, `rtlsdr_set_tuner_if_gain`,
`rtlsdr_set_tuner_gain_mode`, `e4000_set_bw` and `e4000_exit`
-/
def E4000Call.program : E4000Call → E4000 Int32
  | .setGain gain => rtlsdrSetTunerGain gain
  | .setGainByIndex index => RtlSdrDevice.setGainByIndex index
  | .setGainByPerc percent =>
      match RtlSdrDevice.setGainByPerc (rtlsdrGetTunerGains .e4000) percent with
      | some gain => rtlsdrSetTunerGain gain
      | none => return 0
  | .setIfGain stage gain => withRepeater (e4000SetIfGain stage gain)
  | .setGainMode mode => withRepeater (e4000SetGainMode mode)
  | .setBw bw => withRepeater (e4000SetBw bw)
  | .exit => withRepeater (e4kStandby 1)

-----------------------------------------------------------------------------------------
-- Settings
-----------------------------------------------------------------------------------------

/-- The settings of the tuner and the gain that is reported. -/
structure E4000Settings where
  tuner : E4kSettings
  gain : Int32

namespace E4000Settings

/-- A change of the settings of the tuner. -/
def tuned (spec : StateM E4kSettings Int32) : StateM E4000Settings Int32 := fun settings =>
  let (r, tuner) := spec settings.tuner
  (r, { settings with tuner := tuner })

/-- A gain that is refused is not kept, and zero is reported. -/
def setGain (gain : Int32) : StateM E4000Settings Int32 := do
  let r ← tuned (E4kSettings.setGain gain)
  modify fun settings => { settings with gain := if r = 0 then gain else 0 }
  return r

end E4000Settings

/-- The gain that a call sets, if it sets one. -/
def E4000Call.gain : E4000Call → Option Int32
  | .setGain gain => some gain
  | .setGainByIndex index => (rtlsdrGetTunerGains .e4000)[index.toNat]?
  | .setGainByPerc percent => RtlSdrDevice.setGainByPerc (rtlsdrGetTunerGains .e4000) percent
  | _ => none

/-- What a call does to the settings. -/
def E4000Call.spec (call : E4000Call) : StateM E4000Settings Int32 :=
  match call.gain with
  | some gain => E4000Settings.setGain gain
  | none =>
      match call with
      | .setIfGain stage gain =>
          E4000Settings.tuned (E4kSettings.setIfGain stage.toUInt32.toUInt8 (gain / 10).toInt8)
      | .setGainMode mode => E4000Settings.tuned (E4kSettings.setGainMode mode.toUInt32.toUInt8)
      | .setBw bw => E4000Settings.tuned (E4kSettings.setBw bw)
      | .exit => E4000Settings.tuned (E4kSettings.standby 1)
      | _ => return 0

-----------------------------------------------------------------------------------------
-- The device refines its settings
-----------------------------------------------------------------------------------------

/-- What a device shows of its settings, while transfers move their bytes. -/
def e4000View (environment : Nat → Bool) : View E4000Device E4000Settings where
  ready device := ∀ number, device.chip.transfers ≤ number → environment number = true
  shown device := ⟨e4kLayout.values device.chip.registers, device.gain⟩
  kept before after :=
    ∀ field,
      e4kLayout.Outside field
      → field.value after.chip.registers = field.value before.chip.registers
  refl _ _ _ := rfl
  trans first second field outside := (second field outside).trans (first field outside)

section Refinements

variable {environment : Nat → Bool}

/-- A tuner call between the repeater's two switches refines what it refines alone, on the
whole device. Witness: the chip with the repeater on is still ready, and it is off at the end.
-/
theorem withRepeater_refines {call : E4k Int32} {spec : StateM E4kSettings Int32}
    (refines : (e4kView environment).Refines environment call spec)
    : (e4000View environment).Refines environment (withRepeater call)
        (E4000Settings.tuned spec) := by
  intro device moves
  obtain ⟨chip, ran, ready, shown, kept⟩ :=
    refines { device.chip with repeater := true } ⟨rfl, moves⟩
  refine ⟨{ device with chip := { chip with repeater := false } }, ?_, ready.2, ?_, kept⟩
  · unfold withRepeater
    rw [ran]
    rfl
  · exact congrArg (E4000Settings.mk · device.gain) shown

/-- Setting the gain refines the settings' own, the gain the driver reports included. Witness:
the tuner's call between the switches, then the stored report.
-/
theorem rtlsdrSetTunerGain_refines (gain : Int32)
    : (e4000View environment).Refines environment (rtlsdrSetTunerGain gain)
        (E4000Settings.setGain gain) := by
  have reports (r : Int32)
      : (e4000View environment).Refines environment
          (modify fun device => { device with gain := if r = 0 then gain else 0 })
          (modify fun settings => { settings with gain := if r = 0 then gain else 0 }) :=
    fun device moves => ⟨_, rfl, moves, rfl, fun _ _ => rfl⟩
  exact .bind (withRepeater_refines (e4000SetGain_refines gain)) fun _ =>
    .bind (reports _) fun _ => .pure

/-- Every call refines its effect on the settings. Witness: one case per call. -/
theorem E4000Call.refines (call : E4000Call)
    : (e4000View environment).Refines environment call.program call.spec := by
  unfold E4000Call.program E4000Call.spec E4000Call.gain
  cases call with
  | setGain gain => exact rtlsdrSetTunerGain_refines gain
  | setGainByIndex index =>
      simp only [RtlSdrDevice.setGainByIndex]
      cases (rtlsdrGetTunerGains .e4000)[index.toNat]? with
      | some gain => exact rtlsdrSetTunerGain_refines gain
      | none => exact .pure
  | setGainByPerc percent =>
      simp only []
      cases RtlSdrDevice.setGainByPerc (rtlsdrGetTunerGains .e4000) percent with
      | some gain => exact rtlsdrSetTunerGain_refines gain
      | none => exact .pure
  | setIfGain stage gain => exact withRepeater_refines (e4kIfGainSet_refines _ _)
  | setGainMode mode => exact withRepeater_refines (e4kEnableManualGain_refines _)
  | setBw bw => exact withRepeater_refines (e4000SetBw_refines bw)
  | exit => exact withRepeater_refines (e4kStandby_refines 1)

/-- Over any calls, the device returns what the record of its settings returns, has the settings
that the record has, and every other bit of its registers is as it was.
-/
theorem e4000_refines_settings (calls : List E4000Call)
    : (e4000View environment).Refines environment (calls.mapM E4000Call.program)
        (calls.mapM E4000Call.spec) :=
  .all E4000Call.refines calls

end Refinements

-----------------------------------------------------------------------------------------
-- The gain that is reported
-----------------------------------------------------------------------------------------

/-- The gain of amplifier and mixer, in tenths of a dB, if the amplifier has a code of its table. -/
def frontEndGain (settings : E4kSettings) : Option Int :=
  (lnagain.find? fun entry => entry.2 == settings .lnaGain).map fun entry =>
    entry.1.toInt + if settings .mixerGain = 0 then 40 else 120

/-- A gain that is reported is the one of the tuner, which has at most 42 dB. -/
def E4000Settings.Reports (settings : E4000Settings) : Prop :=
  settings.gain ≠ 0 → frontEndGain settings.tuner = some (min settings.gain.toInt 420)

/-- A gain from which `e4000_set_gain` subtracts without overflow. -/
def E4000Call.Defined (call : E4000Call) : Prop :=
  ∀ gain, call.gain = some gain → -2147483608 ≤ gain.toInt

section Reports

variable {settings : E4000Settings} {call : E4000Call}

/-- The code of a gain is decoded to it. -/
theorem lnagain_decodes
    : ∀ entry ∈ lnagain,
        (lnagain.find? fun other => other.2 == entry.2).map Prod.fst = some entry.1 :=
  Tables.forall_entries (by decide)

/-- Amplifier and mixer share a gain between them. -/
theorem lnaRequest_toInt {gain : Int32} (defined : -2147483608 ≤ gain.toInt)
    : (lnaRequest gain).toInt + (if 340 < gain then 120 else 40) = min gain.toInt 420 := by
  have below := gain.toInt_lt
  have shared
      : (gain - mixgain gain * 10).toInt = gain.toInt - if 340 < gain then 120 else 40 := by
    rw [Int32.toInt_sub, mixgain]
    split
    next high =>
      have reaches : 340 < gain.toInt := Int32.lt_iff_toInt_lt.mp high
      exact Int.bmod_eq_of_le (by change _ ≤ _ - 120; omega) (by change _ - 120 < _; omega)
    next =>
      exact Int.bmod_eq_of_le (by change _ ≤ _ - 40; omega) (by change _ - 40 < _; omega)
  have capped
      : (lnaRequest gain).toInt
        = min (gain.toInt - if 340 < gain then 120 else 40) 300 := by
    rw [← shared, lnaRequest]
    split
    next more =>
      have reaches : 300 < (gain - mixgain gain * 10).toInt := Int32.lt_iff_toInt_lt.mp more
      change (300 : Int) = _
      omega
    next fits =>
      have reaches : ¬ 300 < (gain - mixgain gain * 10).toInt :=
        fun more => fits (Int32.lt_iff_toInt_lt.mpr more)
      omega
  rw [capped]
  split
  next high =>
    have reaches : 340 < gain.toInt := Int32.lt_iff_toInt_lt.mp high
    omega
  next low =>
    have short : ¬ 340 < gain.toInt := fun high => low (Int32.lt_iff_toInt_lt.mpr high)
    omega

/-- A gain that the amplifier has is reported, any other is reported as zero. -/
theorem setGain_eq (gain : Int32) (settings : E4000Settings)
    : E4000Settings.setGain gain settings
      = match lnaCode (lnaRequest gain) with
        | some code =>
            (0, {
              tuner :=
                Function.update (Function.update settings.tuner .lnaGain code) .mixerGain
                  (if 340 < gain then 1 else 0)
              gain := gain
            })
        | none => (-1, { settings with gain := 0 }) := by
  unfold E4000Settings.setGain E4kSettings.setGain
  cases lnaCode (lnaRequest gain) <;> rfl

/-- After setting a gain the driver reports the one the tuner holds. Witness: an accepted gain
is the table's, and its register decodes to it.
-/
theorem setGain_reports {gain : Int32} (defined : -2147483608 ≤ gain.toInt)
    (settings : E4000Settings)
    : (E4000Settings.setGain gain settings).2.Reports := by
  rw [setGain_eq]
  cases found : lnaCode (lnaRequest gain) with
  | none => exact fun reported => absurd rfl reported
  | some code =>
      intro _
      have decoded := lnagain_decodes _ (lnaCode_listed found)
      obtain ⟨entry, listed, same⟩ := Option.map_eq_some_iff.mp decoded
      rw [← lnaRequest_toInt defined, frontEndGain]
      simp only [Function.update_of_ne (show E4kField.lnaGain ≠ .mixerGain by decide),
        Function.update_self]
      rw [listed, Option.map_some, same]
      by_cases high : 340 < gain
      · simp only [if_pos high]
        rfl
      · simp only [if_neg high]
        rfl

/-- A change of the tuner that leaves the gains of amplifier and mixer alone. -/
theorem tuned_reports {spec : StateM E4kSettings Int32} (reports : settings.Reports)
    (amplifier : (spec settings.tuner).2 .lnaGain = settings.tuner .lnaGain)
    (mixer : (spec settings.tuner).2 .mixerGain = settings.tuner .mixerGain)
    : (E4000Settings.tuned spec settings).2.Reports := by
  intro reported
  change frontEndGain (spec settings.tuner).2 = _
  rw [frontEndGain, amplifier, mixer]
  exact reports reported

/-- An intermediate gain changes its own field only. Witness: the two range tests, then one
update.
-/
theorem setIfGain_other {i : E4kField} (other : ∀ stage, i ≠ .ifGain stage) (stage : UInt8)
    (value : Int8) (tuner : E4kSettings)
    : (E4kSettings.setIfGain stage value tuner).2 i = tuner i := by
  unfold E4kSettings.setIfGain
  simp only []
  split
  · rfl
  · split
    · exact Function.update_of_ne (other _) _ _
    · rfl

/-- The gain mode changes its three fields only. Witness: the updates of either mode. -/
theorem setGainMode_other {i : E4kField}
    (other : i ≠ .agcMode ∧ i ≠ .mixGainAuto ∧ i ≠ .lnaGainEnh) (manual : UInt8)
    (tuner : E4kSettings)
    : (E4kSettings.setGainMode manual tuner).2 i = tuner i := by
  obtain ⟨mode, mixer, enhanced⟩ := other
  unfold E4kSettings.setGainMode
  split
  · exact (Function.update_of_ne mixer _ _).trans (Function.update_of_ne mode _ _)
  · exact ((Function.update_of_ne enhanced _ _).trans (Function.update_of_ne mixer _ _)).trans
      (Function.update_of_ne mode _ _)

/-- Every call with a defined gain keeps the report true. Witness: a call that sets no gain
leaves the report and the fields it speaks of.
-/
theorem E4000Call.spec_reports (defined : call.Defined) (reports : settings.Reports)
    : (call.spec settings).2.Reports := by
  unfold E4000Call.spec
  cases asked : call.gain with
  | some gain => exact setGain_reports (defined gain asked) settings
  | none =>
      cases call with
      | setGain gain => cases asked
      | setGainByIndex index | setGainByPerc percent => exact reports
      | setIfGain stage gain =>
          exact tuned_reports reports (setIfGain_other (i := .lnaGain) (fun _ => nofun) _ _ _)
            (setIfGain_other (i := .mixerGain) (fun _ => nofun) _ _ _)
      | setGainMode mode =>
          exact tuned_reports reports (setGainMode_other (by decide) _ _)
            (setGainMode_other (by decide) _ _)
      | setBw bw => exact tuned_reports reports rfl rfl
      | exit => exact tuned_reports reports rfl rfl

/-- As `E4000Call.spec_reports`, for all calls. By induction on them. -/
theorem specs_report {calls : List E4000Call} (defined : ∀ call ∈ calls, call.Defined)
    (reports : settings.Reports)
    : (calls.mapM E4000Call.spec settings).2.Reports := by
  induction calls generalizing settings with
  | nil => exact reports
  | cons call rest ih =>
      obtain ⟨first, others⟩ := List.forall_mem_cons.mp defined
      have next := ih others (E4000Call.spec_reports first reports)
      rw [List.mapM_cons]
      exact next

end Reports

/-- Over any calls on a device just opened, a gain other than zero that `rtlsdr_get_tuner_gain`
reports is the one that amplifier and mixer have, but for what is beyond 42 dB.
-/
theorem e4000_reports_gain {environment : Nat → Bool} {device : E4000Device}
    (ready : (e4000View environment).ready device) (unset : device.gain = 0)
    {calls : List E4000Call} (defined : ∀ call ∈ calls, call.Defined)
    : ∃ results later,
        calls.mapM E4000Call.program environment device = (results, later)
        ∧ (later.gain ≠ 0
          → frontEndGain (e4kLayout.values later.chip.registers)
            = some (min later.gain.toInt 420)) := by
  obtain ⟨later, ran, -, shown, -⟩ := View.Refines.all E4000Call.refines calls device ready
  have opened : ((e4000View environment).shown device).Reports :=
    fun reported => absurd unset reported
  have reports := specs_report defined opened
  rw [← shown] at reports
  exact ⟨_, later, ran, reports⟩

/-- A device just opened, the registers of its tuner all zero. -/
def E4000Device.opened : E4000Device := ⟨.zero, 0⟩

/-- After 50 dB and a bandwidth, 50 dB are reported and 42 dB are set. -/
theorem e4000_reports_50dB
    : ∃ results later,
        [E4000Call.setGain 500, .setBw 2048000].mapM E4000Call.program (fun _ => true) .opened
          = (results, later)
        ∧ (later.gain ≠ 0
          → frontEndGain (e4kLayout.values later.chip.registers)
            = some (min later.gain.toInt 420)) := by
  refine e4000_reports_gain (fun _ _ => rfl) rfl fun call member => ?_
  rcases List.mem_cons.mp member with rfl | other
  · rintro _ ⟨⟩
    decide
  · rw [List.mem_singleton.mp other]
    exact nofun

-----------------------------------------------------------------------------------------
-- The gains that are accepted
-----------------------------------------------------------------------------------------

/-- The gains that `e4000_set_gain` accepts, in tenths of a dB. -/
def AcceptedGain (gain : Int) : Prop :=
  gain ∈ [-10, 15, 40, 65, 90, 115, 140, 165, 190, 215, 240, 290, 340, 370] ∨ 420 ≤ gain

instance AcceptedGain.decidable {gain : Int} : Decidable (AcceptedGain gain) :=
  inferInstanceAs (Decidable (_ ∨ _))

/-- A gain has a register code just when it is one of the accepted gains. Witness: the table's
first column, shifted by what the mixer adds.
-/
theorem lnaCode_isSome_iff {gain : Int32} (defined : -2147483608 ≤ gain.toInt)
    : (lnaCode (lnaRequest gain)).isSome = true ↔ AcceptedGain gain.toInt := by
  have shared := lnaRequest_toInt defined
  have listed
      : (lnaCode (lnaRequest gain)).isSome = true
        ↔ (lnaRequest gain).toInt ∈ lnagain.map fun entry => entry.1.toInt := by
    simp only [lnaCode, Option.isSome_map, List.find?_isSome, List.mem_map, beq_iff_eq,
      Int32.toInt_inj]
  have gains
      : (lnagain.map fun entry => entry.1.toInt)
        = [-50, -25, 0, 25, 50, 75, 100, 125, 150, 175, 200, 250, 300] := by
    decide
  rw [listed, gains, AcceptedGain]
  simp only [List.mem_cons, List.not_mem_nil, or_false]
  split at shared
  next high =>
    have reaches : 340 < gain.toInt := Int32.lt_iff_toInt_lt.mp high
    omega
  next low =>
    have short : ¬ 340 < gain.toInt := fun high => low (Int32.lt_iff_toInt_lt.mpr high)
    omega

/-- What is left of a device where a gain is asked for. -/
structure GainAsked (gain : Int32) (before : E4000Device) (r : Int32) (after : E4000Device)
    : Prop where
  accepted
    : AcceptedGain gain.toInt
      → r = 0
        ∧ after.gain = gain
        ∧ frontEndGain (e4kLayout.values after.chip.registers) = some (min gain.toInt 420)
  refused
    : ¬ AcceptedGain gain.toInt
      → r = -1
        ∧ after.gain = 0
        ∧ e4kLayout.values after.chip.registers = e4kLayout.values before.chip.registers

/-- On a ready device a gain asked for is set, reported and answered as asked. Witness: the
refinement, read at the settings that `setGain_eq` gives.
-/
theorem rtlsdrSetTunerGain_asked {environment : Nat → Bool} {device : E4000Device}
    (ready : (e4000View environment).ready device) {gain : Int32}
    (defined : -2147483608 ≤ gain.toInt)
    : ∃ r later,
        rtlsdrSetTunerGain gain environment device = (r, later)
        ∧ GainAsked gain device r later := by
  obtain ⟨later, ran, -, shown, -⟩ := rtlsdrSetTunerGain_refines gain device ready
  have set := setGain_eq gain ((e4000View environment).shown device)
  have reports := setGain_reports defined ((e4000View environment).shown device)
  rw [← shown] at reports
  refine ⟨_, later, ran, fun accepted => ?_, fun refused => ?_⟩
  · obtain ⟨code, found⟩ := Option.isSome_iff_exists.mp ((lnaCode_isSome_iff defined).mpr accepted)
    rw [found] at set
    have same : later.gain = gain := congrArg E4000Settings.gain (shown.trans (congrArg Prod.snd set))
    refine ⟨congrArg Prod.fst set, same, ?_⟩
    rw [← same]
    refine reports fun zero => ?_
    have none : gain = 0 := same.symm.trans zero
    rw [none] at accepted
    revert accepted
    decide
  · have none := Option.not_isSome_iff_eq_none.mp (mt (lnaCode_isSome_iff defined).mp refused)
    rw [none] at set
    have same := shown.trans (congrArg Prod.snd set)
    exact ⟨congrArg Prod.fst set, congrArg E4000Settings.gain same,
      congrArg E4000Settings.tuner same⟩

/-- The calls that a client selects a gain of the list of the tuner with. -/
def E4000Call.Selects : E4000Call → Prop
  | .setGainByIndex index => index.toNat < (rtlsdrGetTunerGains .e4000).length
  | .setGainByPerc _ => True
  | _ => False

/-- Such a call selects a gain of the list. -/
theorem E4000Call.Selects.listed {call : E4000Call} (selects : call.Selects)
    : ∃ gain ∈ rtlsdrGetTunerGains .e4000,
        call.gain = some gain ∧ call.program = rtlsdrSetTunerGain gain := by
  cases call with
  | setGainByIndex index =>
      have entry := List.getElem?_eq_getElem (show _ < _ from selects)
      refine ⟨_, List.getElem_mem selects, entry, ?_⟩
      unfold E4000Call.program RtlSdrDevice.setGainByIndex
      simp only [entry]
      rfl
  | setGainByPerc percent =>
      obtain ⟨inside, selected⟩ := RtlsdrTuner.e4000.gainTable.setGainByPerc_eq percent
      have entry := selected.trans (List.getElem?_eq_getElem inside)
      refine ⟨_, List.getElem_mem inside, entry, ?_⟩
      unfold E4000Call.program
      simp only [show RtlSdrDevice.setGainByPerc (rtlsdrGetTunerGains .e4000) percent = _ from entry]
  | _ => exact selects.elim

/-- A gain is accepted exactly if it is one of the list, 37 dB, or at least 42 dB. A gain that is
accepted is reported and set, any other is reported as zero and leaves the tuner as it was. A gain
selected by its index or by a percentage is always accepted.
-/
theorem e4000_accepts_gain {environment : Nat → Bool} {device : E4000Device}
    (ready : (e4000View environment).ready device)
    : (∀ gain : Int32,
        -2147483608 ≤ gain.toInt
        → ∃ r later,
            rtlsdrSetTunerGain gain environment device = (r, later)
            ∧ GainAsked gain device r later)
      ∧ ∀ call : E4000Call,
        call.Selects
        → ∃ gain ∈ rtlsdrGetTunerGains .e4000,
            ∃ later,
              call.program environment device = (0, later)
              ∧ later.gain = gain
              ∧ frontEndGain (e4kLayout.values later.chip.registers) = some gain.toInt := by
  refine ⟨fun gain defined => rtlsdrSetTunerGain_asked ready defined, fun call selects => ?_⟩
  obtain ⟨gain, listed, -, same⟩ := selects.listed
  have fits
      : ∀ gain ∈ rtlsdrGetTunerGains .e4000,
          -2147483608 ≤ gain.toInt ∧ AcceptedGain gain.toInt ∧ min gain.toInt 420 = gain.toInt :=
    Tables.forall_entries (by decide)
  obtain ⟨defined, accepted, within⟩ := fits gain listed
  obtain ⟨r, later, ran, asked⟩ := rtlsdrSetTunerGain_asked ready defined
  obtain ⟨rfl, reported, set⟩ := asked.accepted accepted
  exact ⟨gain, listed, later, same ▸ ran, reported, within ▸ set⟩

/-- A device just opened accepts half of its gains' range. -/
theorem e4000_accepts_half
    : ∃ gain ∈ rtlsdrGetTunerGains .e4000,
        ∃ later,
          (E4000Call.setGainByPerc 50).program (fun _ => true) .opened = (0, later)
          ∧ later.gain = gain
          ∧ frontEndGain (e4kLayout.values later.chip.registers) = some gain.toInt :=
  have ready : (e4000View fun _ => true).ready .opened := fun _ _ => rfl
  (e4000_accepts_gain ready).2 (.setGainByPerc 50) trivial

end RtlTcpAndro.RtlSdrDevice
