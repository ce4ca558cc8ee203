import RtlTcpAndro.Faults.Partial
import RtlTcpAndro.RtlSdrDevice.Tuning
import RtlTcpAndro.Tuners.R82xxShadow

/-! The functions of `tuner_r82xx.c` that `librtlsdr.c` calls: they initialize the R820T and R828D,
tune them, set their gain and bandwidth and put them into standby. On the dongles that have more
than one antenna input, tuning switches between them.
-/

namespace RtlTcpAndro.Tuners

open RtlTcpAndro.Faults
open RtlTcpAndro.RtlSdrDevice (toDouble truncate)

-----------------------------------------------------------------------------------------
-- The driver
-----------------------------------------------------------------------------------------

/-- A `struct r82xx_config`, and whether the dongle is the one that `rtlsdr_check_dongle_model`
calls Blog V4.
-/
structure R82xxTunerConfig extends R82xxConfig where
  blogV4 : Bool
  usePredetect : Bool

/-- `enum r82xx_xtal_cap_value` -/
inductive R82xxXtalCap
  | low30p
  | low20p
  | low10p
  | low0p
  | high0p
  deriving DecidableEq, Repr

/-- The fields of a `struct r82xx_priv` that the functions read, and what GPIO 5 was last set to. -/
structure R82xxTunerPriv extends R82xxPriv where
  xtalCapSel : R82xxXtalCap
  intFreq : UInt32
  filCalCode : UInt8
  input : UInt8
  initDone : Bool
  gpio5 : Bool

/-- A function of the driver that reads all its fields. -/
abbrev R82xxTuner := Driver R82xxTunerConfig R82xxTunerPriv

/-- What the functions that write registers see of an environment and of a bus. -/
def Environment.Bus.inner (environment : Environment.Bus R82xxTunerConfig)
    : Environment.Bus R82xxConfig where
  config := environment.config.toR82xxConfig
  returns := environment.returns
  reads := environment.reads

def Bus.inner (bus : Bus R82xxTunerPriv) : Bus R82xxPriv where
  registers := bus.registers
  transfers := bus.transfers
  driver := bus.driver.toR82xxPriv

/-- A bus after a function that writes registers has left what it sees of it. -/
def Bus.withInner (inner : Bus R82xxPriv) (bus : Bus R82xxTunerPriv) : Bus R82xxTunerPriv where
  registers := inner.registers
  transfers := inner.transfers
  driver := { bus.driver with toR82xxPriv := inner.driver }

/-- A function that writes registers. -/
def tuner {α : Type} (program : R82xx α) : R82xxTuner α :=
  program.zoom Environment.Bus.inner Bus.inner Bus.withInner

/-- An assignment to fields of the driver. -/
def assign (update : R82xxTunerPriv → R82xxTunerPriv) : R82xxTuner Unit :=
  modify fun bus => { bus with driver := update bus.driver }

/-- `rtlsdr_set_bias_tee_gpio` of GPIO 5, which returns zero for a device that is open. -/
def rtlsdrSetBiasTeeGpio (on : Bool) : R82xxTuner Unit :=
  assign fun priv => { priv with gpio5 := on }

-----------------------------------------------------------------------------------------
-- The multiplexer
-----------------------------------------------------------------------------------------

/-- `struct r82xx_freq_range` -/
structure R82xxFreqRange where
  freq : UInt32
  openD : UInt8
  rfMuxPloy : UInt8
  tfC : UInt8
  xtalCap20p : UInt8
  xtalCap10p : UInt8
  xtalCap0p : UInt8
  deriving DecidableEq, Repr

/-- The first of the `freq_ranges`, and the others. -/
def firstFreqRange : R82xxFreqRange := ⟨0, 0x08, 0x02, 0xdf, 0x02, 0x01, 0x00⟩

def freqRanges : List R82xxFreqRange :=
  [⟨50, 0x08, 0x02, 0xbe, 0x02, 0x01, 0x00⟩,
    ⟨55, 0x08, 0x02, 0x8b, 0x02, 0x01, 0x00⟩,
    ⟨60, 0x08, 0x02, 0x7b, 0x02, 0x01, 0x00⟩,
    ⟨65, 0x08, 0x02, 0x69, 0x02, 0x01, 0x00⟩,
    ⟨70, 0x08, 0x02, 0x58, 0x02, 0x01, 0x00⟩,
    ⟨75, 0x00, 0x02, 0x44, 0x02, 0x01, 0x00⟩,
    ⟨80, 0x00, 0x02, 0x44, 0x02, 0x01, 0x00⟩,
    ⟨90, 0x00, 0x02, 0x34, 0x01, 0x01, 0x00⟩,
    ⟨100, 0x00, 0x02, 0x34, 0x01, 0x01, 0x00⟩,
    ⟨110, 0x00, 0x02, 0x24, 0x01, 0x01, 0x00⟩,
    ⟨120, 0x00, 0x02, 0x24, 0x01, 0x01, 0x00⟩,
    ⟨140, 0x00, 0x02, 0x14, 0x01, 0x01, 0x00⟩,
    ⟨180, 0x00, 0x02, 0x13, 0x00, 0x00, 0x00⟩,
    ⟨220, 0x00, 0x02, 0x13, 0x00, 0x00, 0x00⟩,
    ⟨250, 0x00, 0x02, 0x11, 0x00, 0x00, 0x00⟩,
    ⟨280, 0x00, 0x02, 0x00, 0x00, 0x00, 0x00⟩,
    ⟨310, 0x00, 0x41, 0x00, 0x00, 0x00, 0x00⟩,
    ⟨450, 0x00, 0x41, 0x00, 0x00, 0x00, 0x00⟩,
    ⟨588, 0x00, 0x40, 0x00, 0x00, 0x00, 0x00⟩,
    ⟨650, 0x00, 0x40, 0x00, 0x00, 0x00, 0x00⟩]

/-- The range of a frequency in MHz: that before the first range above it, or the last. -/
def freqRange (freq : UInt32) : R82xxFreqRange → List R82xxFreqRange → R82xxFreqRange
  | range, [] => range
  | range, next :: rest => if freq < next.freq then range else freqRange freq next rest

/-- The capacitor and drive of a crystal in a range. -/
def R82xxFreqRange.xtalCap (range : R82xxFreqRange) : R82xxXtalCap → UInt8
  | .low30p => range.xtalCap20p ||| 0x08
  | .low20p => range.xtalCap20p ||| 0x08
  | .low10p => range.xtalCap10p ||| 0x08
  | .high0p => range.xtalCap0p ||| 0x00
  | .low0p => range.xtalCap0p ||| 0x08

/-- `r82xx_set_mux` -/
def r82xxSetMux (freq : UInt32) : R82xxTuner Unit := do
  let xtalCapSel := (← get).driver.xtalCapSel
  let range := freqRange (freq / 1000000) firstFreqRange freqRanges
  tuner do
    r82xxWriteRegMask 0x17 range.openD 0x08
    r82xxWriteRegMask 0x1a range.rfMuxPloy 0xc3
    r82xxWriteReg 0x1b range.tfC
    r82xxWriteRegMask 0x10 (range.xtalCap xtalCapSel) 0x0b
    r82xxWriteRegMask 0x08 0x00 0x3f
    r82xxWriteRegMask 0x09 0x00 0x3f

-----------------------------------------------------------------------------------------
-- Initialization
-----------------------------------------------------------------------------------------

/-- `enum r82xx_tuner_type` -/
inductive R82xxTunerType
  | radio
  | analogTv
  | digitalTv
  deriving DecidableEq, Repr

/-- `enum r82xx_delivery_system` -/
inductive R82xxDeliverySystem
  | undefined
  | dvbt
  | dvbt2
  | isdbt
  deriving DecidableEq, Repr

/-- The values that `r82xx_sysfreq_sel` chooses. -/
structure SysfreqValues where
  mixerTop : UInt8
  lnaTop : UInt8
  cpCur : UInt8
  divBufCur : UInt8
  lnaVthL : UInt8
  mixerVthL : UInt8
  airCable1In : UInt8
  cable2In : UInt8
  preDect : UInt8
  lnaDischarge : UInt8
  filterCur : UInt8
  deriving DecidableEq, Repr

/-- The values for DVB-T at most frequencies, for DVB-T2 and by default. -/
def sysfreqDefault : SysfreqValues where
  mixerTop := 0x24
  lnaTop := 0xe5
  cpCur := 0x38
  divBufCur := 0x30
  lnaVthL := 0x53
  mixerVthL := 0x75
  airCable1In := 0x00
  cable2In := 0x00
  preDect := 0x40
  lnaDischarge := 14
  filterCur := 0x40

def sysfreqValues (freq : UInt32) : R82xxDeliverySystem → SysfreqValues
  | .dvbt =>
      if freq = 506000000 ∨ freq = 666000000 ∨ freq = 818000000 then
        { sysfreqDefault with mixerTop := 0x14, cpCur := 0x28, divBufCur := 0x20 }
      else sysfreqDefault
  | .dvbt2 => sysfreqDefault
  | .isdbt => { sysfreqDefault with lnaVthL := 0x75 }
  | .undefined => sysfreqDefault

/-- The low noise amplifier, at the end of `r82xx_sysfreq_sel` -/
def setLna (values : SysfreqValues) (type : R82xxTunerType) : R82xx Unit := do
  if type ≠ .analogTv then
    r82xxWriteRegMask 0x1d 0 0x38
    r82xxWriteRegMask 0x1c 0 0x04
    r82xxWriteRegMask 0x06 0 0x40
    r82xxWriteRegMask 0x1a 0x30 0x30
    r82xxWriteRegMask 0x1d 0x18 0x38
    r82xxWriteRegMask 0x1c values.mixerTop 0x04
    r82xxWriteRegMask 0x1e values.lnaDischarge 0x1f
    r82xxWriteRegMask 0x1a 0x20 0x30
  else
    r82xxWriteRegMask 0x06 0 0x40
    r82xxWriteRegMask 0x1d values.lnaTop 0x38
    r82xxWriteRegMask 0x1c values.mixerTop 0x04
    r82xxWriteRegMask 0x1e values.lnaDischarge 0x1f
    r82xxWriteRegMask 0x1a 0x00 0x30
    r82xxWriteRegMask 0x10 0x00 0x04

/-- `r82xx_sysfreq_sel` -/
def r82xxSysfreqSel (freq : UInt32) (type : R82xxTunerType) (delsys : R82xxDeliverySystem)
    : R82xxTuner Unit := do
  let values := sysfreqValues freq delsys
  let usePredetect := (← read).config.usePredetect
  tuner do
    if usePredetect then r82xxWriteRegMask 0x06 values.preDect 0x40
    r82xxWriteRegMask 0x1d values.lnaTop 0xc7
    r82xxWriteRegMask 0x1c values.mixerTop 0xf8
    r82xxWriteReg 0x0d values.lnaVthL
    r82xxWriteReg 0x0e values.mixerVthL
  assign fun priv => { priv with input := values.airCable1In }
  tuner do
    r82xxWriteRegMask 0x05 values.airCable1In 0x60
    r82xxWriteRegMask 0x06 values.cable2In 0x08
    r82xxWriteRegMask 0x11 values.cpCur 0x38
    r82xxWriteRegMask 0x17 values.divBufCur 0x30
    r82xxWriteRegMask 0x0a values.filterCur 0x60
    setLna values type

/-- The rounds of the filter calibration that are left, and whether the loop has locked in all of
them that were made.
-/
def calibrateFilter : Nat → R82xxTuner Bool
  | 0 => return true
  | rounds + 1 => do
      tuner do
        r82xxWriteRegMask 0x0b 0x6b 0x60
        r82xxWriteRegMask 0x0f 0x04 0x04
        r82xxWriteRegMask 0x10 0x00 0x03
        r82xxSetPll (56000 * 1000)
      if (← get).driver.hasLock = false then return false
      let data ← tuner do
        r82xxWriteRegMask 0x0b 0x10 0x10
        r82xxWriteRegMask 0x0b 0x00 0x10
        r82xxWriteRegMask 0x0f 0x00 0x04
        r82xxRead 0x00 5
      let filCalCode := data 4 &&& 0x0f
      assign fun priv => { priv with filCalCode := filCalCode }
      if filCalCode ≠ 0 ∧ filCalCode ≠ 0x0f then return true
      calibrateFilter rounds

/-- What `r82xx_set_tv_standard` writes after the calibration. -/
def setFilter (filCalCode : UInt8) : R82xx Unit := do
  r82xxWriteRegMask 0x0a (0x10 ||| filCalCode) 0x1f
  r82xxWriteRegMask 0x0b 0x6b 0xef
  r82xxWriteRegMask 0x07 0x00 0x80
  r82xxWriteRegMask 0x06 0x10 0x30
  r82xxWriteRegMask 0x1e 0x60 0x60
  r82xxWriteRegMask 0x05 0x01 0x80
  r82xxWriteRegMask 0x1f 0x00 0x80
  r82xxWriteRegMask 0x0f 0x00 0x80
  r82xxWriteRegMask 0x19 0x60 0x60

/-- `VER_NUM` -/
def verNum : UInt8 := 49

/-- `r82xx_set_tv_standard`, which ends early where the loop does not lock -/
def r82xxSetTvStandard (type : R82xxTunerType) : R82xxTuner Unit := do
  assign fun priv =>
    { priv with regs := fun i => (r82xxInitArray[i]?).getD (priv.regs i) }
  tuner do
    r82xxWriteRegMask 0x0c 0x00 0x0f
    r82xxWriteRegMask 0x13 verNum 0x3f
    if type ≠ .analogTv then r82xxWriteRegMask 0x1d 0x00 0x38
  assign fun priv => { priv with intFreq := 3570 * 1000 }
  if ← calibrateFilter 2 then
    assign fun priv =>
      { priv with filCalCode := if priv.filCalCode = 0x0f then 0 else priv.filCalCode }
    let filCalCode := (← get).driver.filCalCode
    tuner (setFilter filCalCode)

/-- `r82xx_init`, which goes on whether or not the registers were written -/
def r82xxInit : R82xxTuner Unit := do
  assign fun priv => { priv with xtalCapSel := .high0p }
  let _ ← Program.attempt (tuner (r82xxWrite 0x05 r82xxInitArray))
  r82xxSetTvStandard .digitalTv
  let rc ← Program.attempt (r82xxSysfreqSel 0 .digitalTv .dvbt)
  assign fun priv => { priv with initDone := true }
  match rc with
  | .ok () => return ()
  | .error error => throw error

-----------------------------------------------------------------------------------------
-- Gain and bandwidth
-----------------------------------------------------------------------------------------

/-- `r82xx_lna_gain_steps` and `r82xx_mixer_gain_steps` -/
def r82xxLnaGainSteps : List Int := [0, 9, 13, 40, 38, 13, 31, 22, 26, 31, 26, 14, 19, 5, 35, 13]
def r82xxMixerGainSteps : List Int := [0, 5, 10, 10, 19, 9, 10, 25, 17, 10, 8, 16, 13, 6, 3, -8]

/-- The rounds of the loop in `r82xx_set_gain` that are left, with `total_gain` and the two
indexes, which are equal when a round starts.
-/
def gainIndexes (gain : Int) : Nat → Int → Nat → Nat × Nat
  | 0, _, index => (index, index)
  | rounds + 1, totalGain, index =>
      if gain ≤ totalGain then (index, index)
      else
        let totalGain := totalGain + r82xxLnaGainSteps.getD (index + 1) 0
        if gain ≤ totalGain then (index + 1, index)
        else
          gainIndexes gain rounds (totalGain + r82xxMixerGainSteps.getD (index + 1) 0) (index + 1)

/-- `r82xx_set_gain` -/
def r82xxSetGain (setManualGain : Bool) (gain : Int32) : R82xx Unit := do
  if setManualGain then
    r82xxWriteRegMask 0x05 0x10 0x10
    r82xxWriteRegMask 0x07 0 0x10
    let _ ← r82xxRead 0x00 4
    r82xxWriteRegMask 0x0c 0x08 0x9f
    let (lnaIndex, mixIndex) := gainIndexes gain.toInt 15 0 0
    r82xxWriteRegMask 0x05 (UInt8.ofNat lnaIndex) 0x0f
    r82xxWriteRegMask 0x07 (UInt8.ofNat mixIndex) 0x0f
  else
    r82xxWriteRegMask 0x05 0 0x10
    r82xxWriteRegMask 0x07 0x10 0x10
    r82xxWriteRegMask 0x0c 0x0b 0x9f

/-- `r82xx_if_low_pass_bw_table` -/
def r82xxIfLowPassBwTable : List Int :=
  [1700000, 1600000, 1550000, 1450000, 1200000, 900000, 700000, 550000, 450000, 350000]

/-- `FILT_HP_BW1` and `FILT_HP_BW2` -/
def filtHpBw1 : Int := 350000
def filtHpBw2 : Int := 380000

/-- `reg_0a`, `reg_0b` and `int_freq` of a bandwidth. -/
structure BandwidthValues where
  reg0a : UInt8
  reg0b : UInt8
  intFreq : UInt32
  deriving DecidableEq, Repr

/-- The narrow bandwidths, which one or both of the high-pass filters contribute to. -/
def narrowBandwidth (bw : Int) : BandwidthValues :=
  let widest := r82xxIfLowPassBwTable.getD 0 0
  let second := decide (widest + filtHpBw1 < bw)
  let bw := if second then bw - filtHpBw2 else bw
  let first := decide (widest < bw)
  let bw := if first then bw - filtHpBw1 else bw
  let i := r82xxIfLowPassBwTable.findIdx (fun width => decide (width < bw)) - 1
  let highPass := (if second then filtHpBw2 else 0) + (if first then filtHpBw1 else 0)
  let realBw := highPass + r82xxIfLowPassBwTable.getD i 0
  {
    reg0a := 0x00
    reg0b :=
      0x80 ||| (if second then 0x00 else 0x20) ||| (if first then 0x00 else 0x40)
        ||| UInt8.ofNat (15 - i)
    intFreq := UInt32.ofInt (2300000 + highPass - realBw / 2)
  }

def bandwidthValues (bw : Int) : BandwidthValues :=
  if 7000000 < bw then ⟨0x10, 0x0b, 4570000⟩
  else if 6000000 < bw then ⟨0x10, 0x2a, 4570000⟩
  else if r82xxIfLowPassBwTable.getD 0 0 + filtHpBw1 + filtHpBw2 < bw then ⟨0x10, 0x6b, 3570000⟩
  else narrowBandwidth bw

/-- `r82xx_set_bandwidth`, which returns the intermediate frequency -/
def r82xxSetBandwidth (bw : Int32) : R82xxTuner UInt32 := do
  let values := bandwidthValues bw.toInt
  assign fun priv => { priv with intFreq := values.intFreq }
  tuner do
    r82xxWriteRegMask 0x0a values.reg0a 0x10
    r82xxWriteRegMask 0x0b values.reg0b 0xef
  return (← get).driver.intFreq

-----------------------------------------------------------------------------------------
-- Tuning
-----------------------------------------------------------------------------------------

/-- `MHZ` of a constant that is a `double`. -/
def mhzDouble (x : ℚ) : ℚ := toDouble (toDouble (toDouble x * 1000) * 1000)

/-- `HF`, `VHF` and `UHF` -/
def hf : UInt8 := 1
def vhf : UInt8 := 2
def uhf : UInt8 := 3

/-- `upconvert_freq` -/
def upconvertFreq (config : R82xxTunerConfig) (freq : UInt32) : UInt32 :=
  if config.blogV4 = true ∨ config.blogV4L = true then
    if (freq.toNat : ℚ) < mhzDouble 28.8 then
      UInt32.ofInt (truncate (toDouble (freq.toNat + mhzDouble 28.8)))
    else freq
  else freq

/-- `band` on a Blog V4. -/
def blogV4Band (freq : UInt32) : UInt8 :=
  if (freq.toNat : ℚ) ≤ mhzDouble 28.8 then hf
  else if mhzDouble 28.8 < (freq.toNat : ℚ) ∧ freq < 250 * 1000 * 1000 then vhf
  else uhf

/-- `band` on a Blog V4L. -/
def blogV4LBand (freq : UInt32) : UInt8 := if (freq.toNat : ℚ) ≤ mhzDouble 28.8 then hf else uhf

/-- `air_cable1_in` on other dongles. -/
def airCable1In (freq : UInt32) : UInt8 := if 345 * 1000 * 1000 < freq then 0x00 else 0x60

/-- The open drain of the notch filters on a Blog V4, which are off within their bands. -/
def notchOpenD (freq : UInt32) : UInt8 :=
  if (freq.toNat : ℚ) ≤ mhzDouble 2.2
    ∨ (85 * 1000 * 1000 ≤ freq ∧ freq ≤ 112 * 1000 * 1000)
    ∨ (172 * 1000 * 1000 ≤ freq ∧ freq ≤ 242 * 1000 * 1000)
  then 0x00
  else 0x08

/-- On the dongles that upconvert, the tracking filter is bypassed in the lowest band. -/
def bypassTrackingFilter (band : UInt8) : R82xx Unit := do
  if band = hf then
    r82xxWriteRegMask 0x1a 0x40 0xc3
    r82xxWriteReg 0x1b 0x00

/-- The inputs of a Blog V4, switched where the band changes. -/
def switchBlogV4 (band : UInt8) : R82xxTuner Unit := do
  if band ≠ (← get).driver.input then
    assign fun priv => { priv with input := band }
    let cable2In := if band = hf then 0x08 else 0x00
    tuner (r82xxWriteRegMask 0x06 cable2In 0x08)
    rtlsdrSetBiasTeeGpio (decide (cable2In = 0))
    tuner do
      r82xxWriteRegMask 0x05 (if band = vhf then 0x40 else 0x00) 0x40
      r82xxWriteRegMask 0x05 (if band = uhf then 0x00 else 0x20) 0x20

/-- The inputs of a Blog V4L. -/
def switchBlogV4L (band : UInt8) : R82xxTuner Unit := do
  if band ≠ (← get).driver.input then
    assign fun priv => { priv with input := band }
    let cable1In := if band = hf then 0x40 else 0x00
    rtlsdrSetBiasTeeGpio (decide (cable1In = 0))
    tuner do
      r82xxWriteRegMask 0x05 cable1In 0x40
      r82xxWriteRegMask 0x05 (if band = uhf then 0x00 else 0x20) 0x20

/-- The inputs of other dongles with an R828D. -/
def switchStandard (airCable1In : UInt8) : R82xxTuner Unit := do
  let chip := (← read).config.rafaelChip
  if chip = .r828d ∧ airCable1In ≠ (← get).driver.input then
    assign fun priv => { priv with input := airCable1In }
    tuner (r82xxWriteRegMask 0x05 airCable1In 0x60)

/-- The end of `r82xx_set_freq`, once the loop is locked. -/
def selectInput (config : R82xxTunerConfig) (freq : UInt32) : R82xxTuner Unit := do
  if config.blogV4 then
    let band := blogV4Band freq
    tuner do
      r82xxWriteRegMask 0x17 (notchOpenD freq) 0x08
      bypassTrackingFilter band
    switchBlogV4 band
  else if config.blogV4L then
    let band := blogV4LBand freq
    tuner (bypassTrackingFilter band)
    switchBlogV4L band
  else switchStandard (airCable1In freq)

/-- `lo_freq` -/
def loFreq (config : R82xxTunerConfig) (freq intFreq : UInt32) : UInt32 :=
  upconvertFreq config freq + intFreq

/-- What `r82xx_set_freq` does once it has set the multiplexer and the loop: it returns zero early
where the loop is not locked.
-/
def selectInputIfLocked (config : R82xxTunerConfig) (freq : UInt32) : R82xxTuner Unit := do
  if (← get).driver.hasLock then selectInput config freq

/-- `r82xx_set_freq`, of the functions that it has the multiplexer and the loop set by. -/
def setFreqBy (setMux setPll : UInt32 → R82xxTuner Unit) (freq : UInt32) : R82xxTuner Unit := do
  let config := (← read).config
  let loFreq := loFreq config freq (← get).driver.intFreq
  setMux loFreq
  setPll loFreq
  selectInputIfLocked config freq

/-- `r82xx_set_freq` -/
def r82xxSetFreq (freq : UInt32) : R82xxTuner Unit :=
  setFreqBy r82xxSetMux (fun loFreq => tuner (r82xxSetPll loFreq)) freq

-----------------------------------------------------------------------------------------
-- Standby
-----------------------------------------------------------------------------------------

/-- `r82xx_standby` -/
def r82xxStandby : R82xxTuner Unit := do
  if (← get).driver.initDone then
    tuner do
      r82xxWriteReg 0x06 0xb1
      r82xxWriteReg 0x05 0xa0
      r82xxWriteReg 0x07 0x3a
      r82xxWriteReg 0x08 0x40
      r82xxWriteReg 0x09 0xc0
      r82xxWriteReg 0x0a 0x36
      r82xxWriteReg 0x0c 0x35
      r82xxWriteReg 0x0f 0x68
      r82xxWriteReg 0x11 0x03
      r82xxWriteReg 0x17 0xf4
      r82xxWriteReg 0x19 0x0c

end RtlTcpAndro.Tuners
