import Mathlib.Data.Int.Log
import Mathlib.Data.Rat.Floor

/-! The radio settings of `librtlsdr.c`: the setters that the client commands call, with the
fields of the device they read and write, the registers of the demodulator and the calls of the
tuner. What a transfer or the tuner answers is chosen by the environment.
-/

namespace RtlTcpAndro.RtlSdrDevice

-----------------------------------------------------------------------------------------
-- Doubles
-----------------------------------------------------------------------------------------

/-- The integer nearest to a rational, the even one of two. -/
def roundHalfEven (q : ℚ) : ℤ :=
  let rest := q - ⌊q⌋
  if rest < 1 / 2 then ⌊q⌋
  else if 1 / 2 < rest then ⌊q⌋ + 1
  else if ⌊q⌋ % 2 = 0 then ⌊q⌋
  else ⌊q⌋ + 1

/-- The `double` nearest to a rational that is neither too large nor too small for one. -/
def toDouble (q : ℚ) : ℚ :=
  let ulp := (2 : ℚ) ^ (Int.log 2 |q| - 52)
  roundHalfEven (q / ulp) * ulp

/-- The conversion of a `double` to an integer type, which drops the fraction. What C leaves
undefined, a value out of the range of the type, is taken modulo its size.
-/
def truncate (q : ℚ) : ℤ := q.num.tdiv q.den

/-- `TWO_POW` -/
def twoPow (n : Nat) : ℚ := 2 ^ n

/-- `(uint32_t) APPLY_PPM_CORR(val, ppm)` -/
def applyPpmCorr (val : UInt32) (ppm : Int32) : UInt32 :=
  let factor := toDouble (1 + toDouble (ppm.toInt / 1000000))
  UInt32.ofInt (truncate (toDouble (val.toNat * factor)))

-----------------------------------------------------------------------------------------
-- The device
-----------------------------------------------------------------------------------------

/-- `enum rtlsdr_tuner` -/
inductive RtlsdrTuner
  | unknown
  | e4000
  | fc0012
  | fc0013
  | fc2580
  | r820t
  | r828d
  deriving DecidableEq, Repr

/-- `dev->tuner` has functions. -/
def RtlsdrTuner.supported (tuner : RtlsdrTuner) : Bool := decide (tuner ≠ .unknown)

/-- `RTLSDR_TUNER_R820T` or `RTLSDR_TUNER_R828D` -/
def RtlsdrTuner.isR82xx (tuner : RtlsdrTuner) : Bool :=
  decide (tuner = .r820t ∨ tuner = .r828d)

/-- The fields of a `struct rtlsdr_dev` that the setters read, and history: what
`tuner->set_freq` and `rtlsdr_set_if_freq` were last given. The clock that goes into the
structures of the tuners is left out.
-/
structure Settings where
  tunerType : RtlsdrTuner
  rtlXtal : UInt32
  tunXtal : UInt32
  corr : Int32
  rate : UInt32
  bw : UInt32
  freq : UInt32
  offsFreq : UInt32
  directSampling : Int32
  tunedFreq : Option UInt32
  ifFreq : UInt32

namespace Settings

variable (settings : Settings)

def withRtlXtal (rtlXtal : UInt32) : Settings := { settings with rtlXtal := rtlXtal }
def withTunXtal (tunXtal : UInt32) : Settings := { settings with tunXtal := tunXtal }
def withCorr (corr : Int32) : Settings := { settings with corr := corr }
def withRate (rate : UInt32) : Settings := { settings with rate := rate }
def withFreq (freq : UInt32) : Settings := { settings with freq := freq }
def withOffsFreq (offsFreq : UInt32) : Settings := { settings with offsFreq := offsFreq }
def withDirectSampling (directSampling : Int32) : Settings :=
  { settings with directSampling := directSampling }
def withTunedFreq (freq : UInt32) : Settings := { settings with tunedFreq := some freq }
def withIfFreq (freq : UInt32) : Settings := { settings with ifFreq := freq }

/-- Storing the rate leaves the kind of the tuner alone, by computation. -/
@[simp] theorem tunerType_withRate (rate : UInt32)
    : (settings.withRate rate).tunerType = settings.tunerType :=
  rfl

/-- Storing the intermediate frequency leaves the kind of the tuner alone, by computation. -/
@[simp] theorem tunerType_withIfFreq (freq : UInt32)
    : (settings.withIfFreq freq).tunerType = settings.tunerType :=
  rfl

/-- Storing the offset leaves the kind of the tuner alone, by computation. -/
@[simp] theorem tunerType_withOffsFreq (offsFreq : UInt32)
    : (settings.withOffsFreq offsFreq).tunerType = settings.tunerType :=
  rfl

/-- Storing the branch of direct sampling leaves the kind of the tuner alone, by computation.
-/
@[simp] theorem tunerType_withDirectSampling (directSampling : Int32)
    : (settings.withDirectSampling directSampling).tunerType = settings.tunerType :=
  rfl

end Settings

/-- The registers of the demodulator by page and address, and the number of calls made. -/
structure Chip where
  demod : UInt8 → UInt16 → UInt8
  calls : Nat

/-- A device with its demodulator. -/
structure Radio where
  settings : Settings
  chip : Chip

/-- A function of the tuner and its argument. -/
inductive TunerCall
  | init
  | exit
  | setFreq (freq : UInt32)
  | setBw (bw : Int32)
  deriving DecidableEq, Repr

/-- Whether the call of a number moves all its bytes, which for one of the tuner are those of all
the transfers that it makes, and what it returns, if it is one of the tuner. A tuner that has
moved all its bytes may return an error for all that, as one whose loop does not lock.
-/
structure Environment.Radio where
  transfers : Nat → Bool
  tuner : Nat → TunerCall → Int32

/-- A computation on a radio. -/
abbrev Tuning := ReaderT Environment.Radio (StateM Radio)

-----------------------------------------------------------------------------------------
-- Calls
-----------------------------------------------------------------------------------------

/-- A field of the settings. -/
def setting {α : Type} (field : Settings → α) : Tuning α := do
  return field (← get).settings

/-- The settings change. -/
def change (update : Settings → Settings) : Tuning Unit :=
  modify fun radio => { radio with settings := update radio.settings }

/-- The number of the next call. -/
def nextCall : Tuning Nat :=
  modifyGet fun radio =>
    (radio.chip.calls, { radio with chip := { radio.chip with calls := radio.chip.calls + 1 } })

/-- The registers after a write of one byte, or of two with the upper one first. -/
def Chip.written (chip : Chip) (page : UInt8) (addr val : UInt16) (len : UInt8) : Chip :=
  let data0 := if len = 1 then val.toUInt8 else (val >>> 8).toUInt8
  { chip with
    demod := fun page' addr' =>
      if page' = page ∧ addr' = addr then data0
      else if page' = page ∧ len ≠ 1 ∧ addr' = addr + 1 then val.toUInt8
      else chip.demod page' addr' }

/-- `rtlsdr_demod_write_reg`. A transfer that fails changes no register; the read that follows
the write is left out.
-/
def rtlsdrDemodWriteReg (page : UInt8) (addr val : UInt16) (len : UInt8) : Tuning Int32 := do
  let call ← nextCall
  if (← read).transfers call then
    modify fun radio => { radio with chip := radio.chip.written page addr val len }
    return 0
  else return -1

/-- `rtlsdr_set_i2c_repeater` -/
def rtlsdrSetI2cRepeater (on : Bool) : Tuning Unit := do
  let _ ← rtlsdrDemodWriteReg 1 0x01 (if on then 0x18 else 0x10) 1

/-- A function of the tuner. -/
def askTuner (call : TunerCall) : Tuning Int32 := do
  let number ← nextCall
  return (← read).tuner number call

/-- A computation between two settings of the repeater. -/
def repeating (tuning : Tuning Int32) : Tuning Int32 := do
  rtlsdrSetI2cRepeater true
  let r ← tuning
  rtlsdrSetI2cRepeater false
  return r

/-- A function of the tuner between two settings of the repeater. -/
def callTuner (call : TunerCall) : Tuning Int32 := repeating (askTuner call)

/-- `rtlsdr_get_xtal_freq` -/
def rtlsdrGetXtalFreq (settings : Settings) : UInt32 × UInt32 :=
  (applyPpmCorr settings.rtlXtal settings.corr, applyPpmCorr settings.tunXtal settings.corr)

-----------------------------------------------------------------------------------------
-- Setters
-----------------------------------------------------------------------------------------

/-- `rtlsdr_set_if_freq` -/
def rtlsdrSetIfFreq (freq : UInt32) : Tuning Int32 := do
  change fun settings => settings.withIfFreq freq
  let rtlXtal ← setting fun settings => (rtlsdrGetXtalFreq settings).1
  let ifFreq :=
    Int32.ofInt (truncate (-toDouble (toDouble (freq.toNat * twoPow 22) / rtlXtal.toNat)))
  let r ← rtlsdrDemodWriteReg 1 0x19 ((ifFreq >>> 16).toUInt32.toUInt16 &&& 0x3f) 1
  let r := r ||| (← rtlsdrDemodWriteReg 1 0x1a ((ifFreq >>> 8).toUInt32.toUInt16 &&& 0xff) 1)
  let r := r ||| (← rtlsdrDemodWriteReg 1 0x1b (ifFreq.toUInt32.toUInt16 &&& 0xff) 1)
  return r

/-- `rtlsdr_set_sample_freq_correction` -/
def rtlsdrSetSampleFreqCorrection (ppm : Int32) : Tuning Int32 := do
  let offs :=
    Int16.ofInt (truncate (toDouble (toDouble ((ppm * -1).toInt * twoPow 24) / 1000000)))
  let r ← rtlsdrDemodWriteReg 1 0x3f (offs.toUInt16 &&& 0xff) 1
  let r := r ||| (← rtlsdrDemodWriteReg 1 0x3e ((offs >>> 8).toUInt16 &&& 0x3f) 1)
  return r

/-- `rtlsdr_set_center_freq` -/
def rtlsdrSetCenterFreq (freq : UInt32) : Tuning Int32 := do
  let settings ← setting id
  let r ←
    if settings.directSampling ≠ 0 then rtlsdrSetIfFreq freq
    else if settings.tunerType.supported then do
      change fun settings => settings.withTunedFreq (freq - settings.offsFreq)
      callTuner (.setFreq (freq - settings.offsFreq))
    else pure (-1)
  change fun settings => settings.withFreq (if r = 0 then freq else 0)
  return r

/-- `tuner->set_bw`. That of the R82xx returns the intermediate frequency it chose or an error;
`r820t_set_bw` then sets it and tunes again, and switches the repeater off in doing so.
-/
def setTunerBw (bw : Int32) : Tuning Int32 := do
  let settings ← setting id
  let r ← askTuner (.setBw bw)
  if settings.tunerType.isR82xx then
    if r < 0 then return r
    let r ← rtlsdrSetIfFreq r.toUInt32
    if r ≠ 0 then return r
    rtlsdrSetCenterFreq (← setting Settings.freq)
  else return r

/-- `tuner->set_bw` between two settings of the repeater. -/
def tunerSetBw (bw : Int32) : Tuning Int32 := repeating (setTunerBw bw)

/-- `R82XX_IF_FREQ` -/
def r82xxIfFreq : UInt32 := 3570000

/-- The `offs_freq` that `rtlsdr_set_offset_tuning` computes. -/
def Settings.offsetFor (settings : Settings) (on : Int32) : UInt32 :=
  if on ≠ 0 then settings.rate / 2 * 170 / 100 else 0

/-- `rtlsdr_set_offset_tuning` -/
def rtlsdrSetOffsetTuning (on : Int32) : Tuning Int32 := do
  let settings ← setting id
  if settings.tunerType.isR82xx then return -2
  if settings.directSampling ≠ 0 then return -3
  let offsFreq := settings.offsetFor on
  change fun settings => settings.withOffsFreq offsFreq
  let r ← rtlsdrSetIfFreq offsFreq
  if settings.tunerType.supported then
    let bw :=
      if on ≠ 0 then 2 * offsFreq
      else if 0 < settings.bw then settings.bw
      else settings.rate
    let _ ← tunerSetBw bw.toInt32
  if offsFreq < settings.freq then
    return r ||| (← rtlsdrSetCenterFreq settings.freq)
  return r

/-- The rates that the resampler supports. -/
def rateSupported (sampRate : UInt32) : Prop :=
  ¬ (sampRate ≤ 225000
    ∨ 3200000 < sampRate
    ∨ 300000 < sampRate ∧ sampRate ≤ 900000)

instance (sampRate : UInt32) : Decidable (rateSupported sampRate) :=
  inferInstanceAs (Decidable (¬ (_ ∨ _ ∨ _ ∧ _)))

/-- The `rsamp_ratio` of a crystal and a sample rate. -/
def rsampRatio (rtlXtal sampRate : UInt32) : UInt32 :=
  UInt32.ofInt (truncate (toDouble (toDouble (rtlXtal.toNat * twoPow 22) / sampRate.toNat)))
  &&& 0x0ffffffc

/-- The `real_rate` of a crystal and a sample rate, as `dev->rate` gets it. -/
def realRate (rtlXtal sampRate : UInt32) : UInt32 :=
  let ratio := rsampRatio rtlXtal sampRate
  let realRsampRatio := ratio ||| ((ratio &&& 0x08000000) <<< 1)
  UInt32.ofInt
    (truncate (toDouble (toDouble (rtlXtal.toNat * twoPow 22) / realRsampRatio.toNat)))

/-- The part of `rtlsdr_set_sample_rate` that gives the tuner its bandwidth. -/
def setRateBandwidth : Tuning Unit := do
  let settings ← setting id
  if settings.tunerType.supported then
    let _ ← tunerSetBw (if 0 < settings.bw then settings.bw else settings.rate).toInt32

/-- The part of `rtlsdr_set_sample_rate` that writes the ratio and resets the demodulator. -/
def writeRsampRatio (ratio : UInt32) (corr : Int32) : Tuning Int32 := do
  let r ← rtlsdrDemodWriteReg 1 0x9f (ratio >>> 16).toUInt16 2
  let r := r ||| (← rtlsdrDemodWriteReg 1 0xa1 (ratio &&& 0xffff).toUInt16 2)
  let r := r ||| (← rtlsdrSetSampleFreqCorrection corr)
  let r := r ||| (← rtlsdrDemodWriteReg 1 0x01 0x14 1)
  let r := r ||| (← rtlsdrDemodWriteReg 1 0x01 0x10 1)
  return r

/-- The part of `rtlsdr_set_sample_rate` that applies the rate and the ratio it has computed. -/
def applySampleRate (rate ratio : UInt32) : Tuning Int32 := do
  change fun settings => settings.withRate rate
  setRateBandwidth
  let r ← writeRsampRatio ratio (← setting Settings.corr)
  if (← setting Settings.offsFreq) ≠ 0 then
    let _ ← rtlsdrSetOffsetTuning 1
  return r

/-- `rtlsdr_set_sample_rate` -/
def rtlsdrSetSampleRate (sampRate : UInt32) : Tuning Int32 := do
  if ¬ rateSupported sampRate then return -22
  let rtlXtal ← setting Settings.rtlXtal
  applySampleRate (realRate rtlXtal sampRate) (rsampRatio rtlXtal sampRate)

/-- The part of `rtlsdr_set_direct_sampling` that enables it. -/
def enableDirectSampling (on : Int32) : Tuning Int32 := do
  let r ← if (← setting Settings.tunerType).supported then callTuner .exit else pure 0
  let r := r ||| (← rtlsdrDemodWriteReg 1 0xb1 0x1a 1)
  let r := r ||| (← rtlsdrDemodWriteReg 1 0x15 0x00 1)
  let r := r ||| (← rtlsdrDemodWriteReg 0 0x08 0x4d 1)
  let r := r ||| (← rtlsdrDemodWriteReg 0 0x06 (if 1 < on then 0x90 else 0x80) 1)
  change fun settings => settings.withDirectSampling on
  return r

/-- The part of `rtlsdr_set_direct_sampling` that gives the demodulator back to the tuner. -/
def receiveFromTuner : Tuning Int32 := do
  if (← setting Settings.tunerType).isR82xx then
    let r ← rtlsdrSetIfFreq r82xxIfFreq
    return r ||| (← rtlsdrDemodWriteReg 1 0x15 0x01 1)
  else
    let r ← rtlsdrSetIfFreq 0
    let r := r ||| (← rtlsdrDemodWriteReg 0 0x08 0xcd 1)
    return r ||| (← rtlsdrDemodWriteReg 1 0xb1 0x1b 1)

/-- The part of `rtlsdr_set_direct_sampling` that disables it. -/
def disableDirectSampling : Tuning Int32 := do
  let r ← if (← setting Settings.tunerType).supported then callTuner .init else pure 0
  let r := r ||| (← receiveFromTuner)
  let r := r ||| (← rtlsdrDemodWriteReg 0 0x06 0x80 1)
  change fun settings => settings.withDirectSampling 0
  return r

/-- `rtlsdr_set_direct_sampling` -/
def rtlsdrSetDirectSampling (on : Int32) : Tuning Int32 := do
  let r ← if on ≠ 0 then enableDirectSampling on else disableDirectSampling
  return r ||| (← rtlsdrSetCenterFreq (← setting Settings.freq))

/-- `rtlsdr_set_freq_correction` -/
def rtlsdrSetFreqCorrection (ppm : Int32) : Tuning Int32 := do
  if (← setting Settings.corr) = ppm then return -2
  change fun settings => settings.withCorr ppm
  let r ← rtlsdrSetSampleFreqCorrection ppm
  let freq ← setting Settings.freq
  if freq ≠ 0 then
    return r ||| (← rtlsdrSetCenterFreq freq)
  return r

/-- `DEF_RTL_XTAL_FREQ` and the bounds around it. -/
def defRtlXtalFreq : UInt32 := 28800000
def minRtlXtalFreq : UInt32 := defRtlXtalFreq - 1000
def maxRtlXtalFreq : UInt32 := defRtlXtalFreq + 1000

/-- The part of `rtlsdr_set_xtal_freq` that sets the crystal of the demodulator. -/
def setRtlXtal (rtlFreq : UInt32) : Tuning Int32 := do
  let settings ← setting id
  if 0 < rtlFreq ∧ settings.rtlXtal ≠ rtlFreq then
    change fun settings => settings.withRtlXtal rtlFreq
    if settings.rate ≠ 0 then rtlsdrSetSampleRate settings.rate else return 0
  else return 0

/-- The part of `rtlsdr_set_xtal_freq` that sets the crystal of the tuner. -/
def setTunXtal (tunerFreq : UInt32) (r : Int32) : Tuning Int32 := do
  let settings ← setting id
  if settings.tunXtal ≠ tunerFreq then
    change fun settings =>
      settings.withTunXtal (if tunerFreq = 0 then settings.rtlXtal else tunerFreq)
    if settings.freq ≠ 0 then rtlsdrSetCenterFreq settings.freq else return r
  else return r

/-- `rtlsdr_set_xtal_freq` -/
def rtlsdrSetXtalFreq (rtlFreq tunerFreq : UInt32) : Tuning Int32 := do
  if 0 < rtlFreq ∧ (rtlFreq < minRtlXtalFreq ∨ maxRtlXtalFreq < rtlFreq) then return -2
  setTunXtal tunerFreq (← setRtlXtal rtlFreq)

-----------------------------------------------------------------------------------------
-- Commands
-----------------------------------------------------------------------------------------

/-- The commands `TCP_SET_…` that tune. -/
inductive RadioCommand
  | freq
  | sampleRate
  | freqCorrection
  | directSampling
  | offsetTuning
  | rtlXtal
  | tunerXtal
  deriving DecidableEq, Repr

/-- `tcpCommandCallback` -/
def tcpCommandCallback (command : RadioCommand) (parameter : UInt32) : Tuning Int32 :=
  match command with
  | .freq => rtlsdrSetCenterFreq parameter
  | .sampleRate => rtlsdrSetSampleRate parameter
  | .freqCorrection => rtlsdrSetFreqCorrection parameter.toInt32
  | .directSampling => rtlsdrSetDirectSampling parameter.toInt32
  | .offsetTuning => rtlsdrSetOffsetTuning parameter.toInt32
  | .rtlXtal => rtlsdrSetXtalFreq parameter 0
  | .tunerXtal => rtlsdrSetXtalFreq 0 parameter

/-- What `rtlsdr_open` leaves in a device with a tuner that has no clock of its own. -/
def Settings.opened (tuner : RtlsdrTuner) : Settings where
  tunerType := tuner
  rtlXtal := defRtlXtalFreq
  tunXtal := defRtlXtalFreq
  corr := 0
  rate := 0
  bw := 0
  freq := 0
  offsFreq := 0
  directSampling := 0
  tunedFreq := none
  ifFreq := 0

end RtlTcpAndro.RtlSdrDevice
