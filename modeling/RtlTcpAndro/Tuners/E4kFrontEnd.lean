import Mathlib.Tactic.DeriveFintype
import RtlTcpAndro.Registers.Views
import RtlTcpAndro.Tables.Nearest
import RtlTcpAndro.Tuners.E4kTuning

/-! The front end of the E4000, `tuner_e4k.c`: its gains, its filters and its modes, which the
driver keeps in fields of registers. Seen through these fields, the driver is a record of
settings.
-/

namespace RtlTcpAndro.Tuners

open RtlTcpAndro.Registers RtlTcpAndro.Tables

-----------------------------------------------------------------------------------------
-- Fields
-----------------------------------------------------------------------------------------

/-- `e4k_field_write` -/
def e4kFieldWrite (field : RegField) (val : UInt8) : E4k Int32 := do
  let rc ← e4kRegRead field.reg
  if rc < 0 then return rc
  e4kRegSetMask field.reg field.mask (val <<< field.shift)

/-- `e4k_field_read` -/
def e4kFieldRead (field : RegField) : E4k Int32 := do
  let rc ← e4kRegRead field.reg
  if rc < 0 then return rc
  return (rc >>> field.shift.toUInt32.toInt32)
    &&& (width2mask.getD field.width.toNat 0).toUInt32.toInt32

-----------------------------------------------------------------------------------------
-- Filters
-----------------------------------------------------------------------------------------

/-- `enum e4k_if_filter` -/
inductive E4kIfFilter
  | mix
  | chan
  | rc
  deriving DecidableEq, Repr

/-- `mix_filter_bw`, `ifch_filter_bw` and `ifrc_filter_bw` -/
def ifFilterBw : E4kIfFilter → List UInt32
  | .mix =>
      [khz 27000, khz 27000, khz 27000, khz 27000, khz 27000, khz 27000, khz 27000, khz 27000,
        khz 4600, khz 4200, khz 3800, khz 3400, khz 3300, khz 2700, khz 2300, khz 1900]
  | .chan =>
      [khz 5500, khz 5300, khz 5000, khz 4800, khz 4600, khz 4400, khz 4300, khz 4100, khz 3900,
        khz 3800, khz 3700, khz 3600, khz 3400, khz 3300, khz 3200, khz 3100, khz 3000, khz 2950,
        khz 2900, khz 2800, khz 2750, khz 2700, khz 2600, khz 2550, khz 2500, khz 2450, khz 2400,
        khz 2300, khz 2280, khz 2240, khz 2200, khz 2150]
  | .rc =>
      [khz 21400, khz 21000, khz 17600, khz 14700, khz 12400, khz 10600, khz 9000, khz 7700,
        khz 6400, khz 5300, khz 4400, khz 3400, khz 2600, khz 1800, khz 1200, khz 1000]

/-- `if_filter_fields`, of `E4K_REG_FILT2` and `E4K_REG_FILT3` -/
def ifFilterFields : E4kIfFilter → RegField
  | .mix => ⟨0x11, 4, 4⟩
  | .chan => ⟨0x12, 0, 5⟩
  | .rc => ⟨0x11, 0, 4⟩

/-- `find_if_bw` -/
def findIfBw (filter : E4kIfFilter) (bw : UInt32) : Nat := closestArrIdx (ifFilterBw filter) bw

/-- `e4k_if_filter_bw_set` -/
def e4kIfFilterBwSet (filter : E4kIfFilter) (bandwidth : UInt32) : E4k Int32 :=
  e4kFieldWrite (ifFilterFields filter) (UInt8.ofNat (findIfBw filter bandwidth))

/-- `e4k_if_filter_bw_get`, where an index that is beyond the table reads zero. -/
def e4kIfFilterBwGet (filter : E4kIfFilter) : E4k Int32 := do
  let rc ← e4kFieldRead (ifFilterFields filter)
  if rc < 0 then return rc
  return ((ifFilterBw filter).getD rc.toInt.toNat 0).toInt32

/-- `e4k_if_filter_chan_enable`, with `E4K_FILT3_DISABLE` -/
def e4kIfFilterChanEnable (on : Int32) : E4k Int32 :=
  e4kRegSetMask 0x12 0x20 (if on ≠ 0 then 0 else 0x20)

/-- `e4000_set_bw`, which ors what the three calls return. -/
def e4000SetBw (bw : UInt32) : E4k Int32 := do
  let mix ← e4kIfFilterBwSet .mix bw
  let rc ← e4kIfFilterBwSet .rc bw
  let chan ← e4kIfFilterBwSet .chan bw
  return mix ||| rc ||| chan

-----------------------------------------------------------------------------------------
-- Gains
-----------------------------------------------------------------------------------------

/-- `lnagain`, pairs of a gain in tenths of a dB and its code -/
def lnagain : List (Int32 × UInt8) :=
  [(-50, 0), (-25, 1), (0, 4), (25, 5), (50, 6), (75, 7), (100, 8), (125, 9), (150, 10),
    (175, 11), (200, 12), (250, 13), (300, 14)]

/-- The code of a gain in `lnagain`. -/
def lnaCode (gain : Int32) : Option UInt8 :=
  (lnagain.find? fun entry => entry.1 == gain).map Prod.snd

/-- `e4k_set_lna_gain`, which drops what the write returns. -/
def e4kSetLnaGain (gain : Int32) : E4k Int32 :=
  match lnaCode gain with
  | some code => do
      let _ ← e4kRegSetMask 0x14 0xf code
      return gain
  | none => return -22

/-- `e4k_mixer_gain_set` -/
def e4kMixerGainSet (value : Int8) : E4k Int32 :=
  if value = 4 then e4kRegSetMask 0x15 1 0
  else if value = 12 then e4kRegSetMask 0x15 1 1
  else return -22

/-- `e4k_enable_manual_gain`, with `E4K_AGC_MOD_SERIAL` and `E4K_AGC_MOD_IF_SERIAL_LNA_AUTON` -/
def e4kEnableManualGain (manual : UInt8) : E4k Int32 := do
  if manual ≠ 0 then
    let _ ← e4kRegSetMask 0x1a 0xf 0x0
    let _ ← e4kRegSetMask 0x20 0x01 0
    return 0
  else
    let _ ← e4kRegSetMask 0x1a 0xf 0x9
    let _ ← e4kRegSetMask 0x20 0x01 1
    let _ ← e4kRegSetMask 0x24 0x7 0
    return 0

/-- The gain of the mixer in dB that `e4000_set_gain` chooses. -/
def mixgain (gain : Int32) : Int32 := if 340 < gain then 12 else 4

/-- The gain of the low-noise amplifier that `e4000_set_gain` asks for, in tenths of a dB. -/
def lnaRequest (gain : Int32) : Int32 :=
  if 300 < gain - mixgain gain * 10 then 300 else gain - mixgain gain * 10

/-- `e4000_set_gain` -/
def e4000SetGain (gain : Int32) : E4k Int32 := do
  if (← e4kSetLnaGain (lnaRequest gain)) = -22 then return -1
  if (← e4kMixerGainSet (mixgain gain).toInt8) = -22 then return -1
  return 0

/-- `e4000_set_gain_mode`, which narrows its argument. -/
def e4000SetGainMode (manual : Int32) : E4k Int32 :=
  e4kEnableManualGain manual.toUInt32.toUInt8

-----------------------------------------------------------------------------------------
-- Initialization and standby
-----------------------------------------------------------------------------------------

/-- `e4k_standby`, with `E4K_MASTER1_NORM_STBY` -/
def e4kStandby (enable : Int32) : E4k Int32 := do
  let _ ← e4kRegSetMask 0x00 0x02 (if enable ≠ 0 then 0 else 0x02)
  return 0

/-- Registers written one after the other, whatever is returned. -/
def e4kRegWrites : List (UInt8 × UInt8) → E4k Unit
  | [] => return ()
  | (reg, val) :: rest => do
      let _ ← e4kRegWrite reg val
      e4kRegWrites rest

/-- `magic_init` -/
def magicInit : E4k Unit :=
  e4kRegWrites
    [(0x7e, 0x01), (0x7f, 0xfe), (0x82, 0x00), (0x86, 0x50), (0x87, 0x20), (0x88, 0x01),
      (0x9f, 0x7f), (0xa0, 0x07)]

/-- `e4k_init` after it has reset the tuner. -/
def e4kSetUp : E4k Int32 := do
  e4kRegWrites [(0x05, 0x00), (0x06, 0x00), (0x7a, 0x96)]
  magicInit
  e4kRegWrites [(0x1d, 0x10), (0x1e, 0x04), (0x1f, 0x1a)]
  let _ ← e4kRegSetMask 0x1a 0xf 0x0
  let _ ← e4kRegSetMask 0x20 0x01 0
  let _ ← e4kEnableManualGain 0
  let _ ← e4kIfGainSet 1 6
  let _ ← e4kIfGainSet 2 0
  let _ ← e4kIfGainSet 3 0
  let _ ← e4kIfGainSet 4 0
  let _ ← e4kIfGainSet 5 9
  let _ ← e4kIfGainSet 6 9
  let _ ← e4kIfFilterBwSet .mix (khz 1900)
  let _ ← e4kIfFilterBwSet .rc (khz 1000)
  let _ ← e4kIfFilterBwSet .chan (khz 2150)
  let _ ← e4kIfFilterChanEnable 1
  let _ ← e4kRegSetMask 0x2d 0x03 0
  let _ ← e4kRegSetMask 0x70 0x03 0
  let _ ← e4kRegSetMask 0x71 0x03 0
  return 0

/-- `e4k_init`, with the registers that a reset leaves. The first transfer is not acknowledged. -/
def e4kInit (reset : (UInt8 → UInt8) → UInt8 → UInt8) : E4k Int32 := do
  let _ ← e4kRegRead 0
  let _ ← e4kRegWrite 0x00 0x07
  modify fun chip => { chip with registers := reset chip.registers }
  e4kSetUp

-----------------------------------------------------------------------------------------
-- Settings
-----------------------------------------------------------------------------------------

/-- The fields of the front end, those of the stages counted from zero. -/
inductive E4kField
  | normStby
  | lnaGain
  | mixerGain
  | ifGain (stage : Fin 6)
  | ifFilter (kind : E4kIfFilter)
  | chanDisable
  | agcMode
  | mixGainAuto
  | lnaGainEnh
  deriving DecidableEq

/-- A field of a `struct reg_field`. -/
def RegField.bits (field : RegField) : BitField UInt8 := ⟨field.reg, field.mask⟩

/-- Where a field is. -/
def E4kField.bits : E4kField → BitField UInt8
  | .normStby => ⟨0x00, 0x02⟩
  | .lnaGain => ⟨0x14, 0xf⟩
  | .mixerGain => ⟨0x15, 1⟩
  | .ifGain stage => (stageField (stage + 1)).bits
  | .ifFilter kind => (ifFilterFields kind).bits
  | .chanDisable => ⟨0x12, 0x20⟩
  | .agcMode => ⟨0x1a, 0xf⟩
  | .mixGainAuto => ⟨0x20, 0x01⟩
  | .lnaGainEnh => ⟨0x24, 0x7⟩

/-- No two fields share a bit. -/
def e4kLayout : Layout E4kField UInt8 where
  field := E4kField.bits
  apart i j differ := by
    cases i with
    | ifGain stage =>
        cases j with
        | ifGain other => revert stage other; decide
        | ifFilter kind => cases kind <;> revert stage <;> decide
        | _ => revert stage; decide
    | ifFilter kind =>
        cases j with
        | ifGain stage => cases kind <;> revert stage <;> decide
        | ifFilter other => cases kind <;> cases other <;> revert differ <;> decide
        | _ => cases kind <;> decide
    | _ =>
        cases j with
        | ifGain stage => revert stage; decide
        | ifFilter kind => cases kind <;> decide
        | _ => revert differ; decide

/-- The values of the fields. -/
abbrev E4kSettings := E4kField → UInt8

/-- What a chip shows of the fields, while the repeater is on and transfers move their bytes. -/
def e4kView (environment : Nat → Bool) : View E4kChip E4kSettings where
  ready chip :=
    chip.repeater = true ∧ ∀ number, chip.transfers ≤ number → environment number = true
  shown chip := e4kLayout.values chip.registers
  kept before after :=
    ∀ field, e4kLayout.Outside field → field.value after.registers = field.value before.registers
  refl _ _ _ := rfl
  trans first second field outside :=
    (second field outside).trans (first field outside)

namespace E4kSettings

/-- The filters nearest to a bandwidth. -/
def setFilter (kind : E4kIfFilter) (bandwidth : UInt32) : StateM E4kSettings Int32 := do
  setField (.ifFilter kind)
    (UInt8.ofNat (findIfBw kind bandwidth) <<< (ifFilterFields kind).shift)
  return 0

def setBw (bw : UInt32) : StateM E4kSettings Int32 := do
  let mix ← setFilter .mix bw
  let rc ← setFilter .rc bw
  let chan ← setFilter .chan bw
  return mix ||| rc ||| chan

/-- The gain of a stage, if it has one. -/
def setIfGain (stage : UInt8) (value : Int8) : StateM E4kSettings Int32 := do
  let rc := findStageGain stage value
  if rc < 0 then return rc
  if h : stage.toNat - 1 < 6 then
    setField (.ifGain ⟨stage.toNat - 1, h⟩)
      (rc.toUInt32.toUInt8 <<< (stageField stage.toNat).shift)
  return 0

/-- The gains of the amplifier and of the mixer, if the amplifier has one. -/
def setGain (gain : Int32) : StateM E4kSettings Int32 :=
  match lnaCode (lnaRequest gain) with
  | some code => do
      setField .lnaGain code
      setField .mixerGain (if 340 < gain then 1 else 0)
      return 0
  | none => return -1

def setGainMode (manual : UInt8) : StateM E4kSettings Int32 := do
  if manual ≠ 0 then
    setField .agcMode 0x0
    setField .mixGainAuto 0
  else
    setField .agcMode 0x9
    setField .mixGainAuto 1
    setField .lnaGainEnh 0
  return 0

def standby (enable : Int32) : StateM E4kSettings Int32 := do
  setField .normStby (if enable ≠ 0 then 0 else 0x02)
  return 0

/-- Automatic gain, moderate gains of the stages and the narrowest filters. -/
def setUp : StateM E4kSettings Int32 := do
  setField .agcMode 0x0
  setField .mixGainAuto 0
  let _ ← setGainMode 0
  let _ ← setIfGain 1 6
  let _ ← setIfGain 2 0
  let _ ← setIfGain 3 0
  let _ ← setIfGain 4 0
  let _ ← setIfGain 5 9
  let _ ← setIfGain 6 9
  let _ ← setFilter .mix (khz 1900)
  let _ ← setFilter .rc (khz 1000)
  let _ ← setFilter .chan (khz 2150)
  setField .chanDisable 0
  return 0

end E4kSettings

-----------------------------------------------------------------------------------------
-- The driver refines its settings
-----------------------------------------------------------------------------------------

/-- A byte is widened to an `int` as the number it is. -/
theorem byte_toInt32 (byte : UInt8) : byte.toUInt32.toInt32 = Int32.ofNat byte.toNat := by
  have same : byte.toUInt32 = UInt32.ofNat byte.toNat := by
    rw [← UInt32.toNat_inj]
    simp
  rw [same, UInt32.toInt32_ofNat']

/-- A byte that is widened to an `int` is not negative, so no read of a register looks like an
error.
-/
theorem byte_not_neg (byte : UInt8) : ¬ byte.toUInt32.toInt32 < 0 := by
  have below := byte.toNat_lt
  rw [byte_toInt32, Int32.lt_iff_toInt_lt, Int32.toInt_ofNat_of_lt (by omega)]
  exact Int.not_lt.mpr (Int.natCast_nonneg _)

/-- The bandwidth that is found for a filter is one of its table. -/
theorem findIfBw_lt (kind : E4kIfFilter) (bandwidth : UInt32)
    : findIfBw kind bandwidth < (ifFilterBw kind).length := by
  cases kind <;> exact closestFrom_lt (by decide) (Nat.le_of_eq (Nat.zero_add _))

/-- Every index into the table of a filter fits the field of the filter, by evaluation of the
three tables.
-/
theorem filterIndex_fits (kind : E4kIfFilter)
    : ∀ index < (ifFilterBw kind).length,
        (UInt8.ofNat index <<< (ifFilterFields kind).shift) &&& (ifFilterFields kind).mask
          = UInt8.ofNat index <<< (ifFilterFields kind).shift := by
  cases kind <;> decide

section Refinements

variable {environment : Nat → Bool} {chip : E4kChip}

/-- On transfers that move, a read returns the register and takes two of them. -/
theorem e4kRegRead_ready (ready : (e4kView environment).ready chip) (reg : UInt8)
    : e4kRegRead reg environment chip
      = ((chip.registers reg).toUInt32.toInt32, chip.transferred 2) := by
  obtain ⟨repeated, moves⟩ := ready
  have answers : chip.answers environment = true := by
    simp [E4kChip.answers, E4kChip.reaches, repeated, moves]
  have first : chip.reaches environment 0 = true := by
    simp [E4kChip.reaches, repeated, moves]
  rw [e4kRegRead_eq, if_pos answers, E4kChip.afterRead, if_pos first]

/-- On transfers that move, a write stores its value and takes one of them. -/
theorem e4kRegWrite_ready (ready : (e4kView environment).ready chip) (reg val : UInt8)
    : e4kRegWrite reg val environment chip = (0, (chip.transferred 1).stored reg val) := by
  obtain ⟨repeated, moves⟩ := ready
  have first : chip.reaches environment 0 = true := by
    simp [E4kChip.reaches, repeated, moves]
  rw [e4kRegWrite_eq, if_pos first]

/-- Transfers that move still do after some of them were made. -/
theorem ready_transferred (ready : (e4kView environment).ready chip) (count : Nat)
    : (e4kView environment).ready (chip.transferred count) :=
  ⟨ready.1, fun number late => ready.2 number (Nat.le_trans (Nat.le_add_right _ _) late)⟩

/-- A masked write of a field sets it, whether it writes or finds its value there. Witness:
what is merged has the value under the mask and the register outside of it.
-/
theorem e4kRegSetMask_refines (i : E4kField) {val : UInt8} (fits : val &&& i.bits.mask = val)
    : (e4kView environment).Refines environment (e4kRegSetMask i.bits.reg i.bits.mask val)
        (do
          setField i val
          return 0) := by
  intro chip ready
  have narrowed
      : (chip.registers i.bits.reg).toUInt32.toInt32.toUInt32.toUInt8
        = chip.registers i.bits.reg := by
    simp
  have again := ready_transferred ready 2
  rw [e4kRegSetMask, e4k_bind (e4kRegRead_ready ready i.bits.reg), narrowed]
  split
  next same =>
    have set : i.bits.Set val chip.registers chip.registers := BitField.set_self same
    have becomes := @Layout.becomes_of_set _ _ e4kLayout _ _ _ i _ set
    exact ⟨_, rfl, again, becomes.values, becomes.kept⟩
  next =>
    have stored
        : ((chip.transferred 2).transferred 1 |>.stored i.bits.reg
              (merge (chip.registers i.bits.reg) val i.bits.mask)).registers
          = Function.update chip.registers i.bits.reg
              (merge (chip.registers i.bits.reg) val i.bits.mask) := by
      funext other
      rw [Function.update_apply]
      rfl
    have set : i.bits.Set val chip.registers _ := BitField.set_merge fits
    rw [← stored] at set
    have becomes := @Layout.becomes_of_set _ _ e4kLayout _ _ _ i _ set
    exact ⟨_, e4kRegWrite_ready again _ _, ready_transferred again 1, becomes.values,
      becomes.kept⟩

/-- A value that fits its field is written to it. Witness: the read that comes before is no
error, and the masked write sets the field.
-/
theorem e4kFieldWrite_refines (i : E4kField) {field : RegField} (same : i.bits = field.bits)
    {val : UInt8} (fits : (val <<< field.shift) &&& field.mask = val <<< field.shift)
    : (e4kView environment).Refines environment (e4kFieldWrite field val)
        (do
          setField i (val <<< field.shift)
          return 0) := by
  intro chip ready
  have known : ¬ (chip.registers field.reg).toUInt32.toInt32 < 0 := byte_not_neg _
  rw [e4kFieldWrite, e4k_bind (e4kRegRead_ready ready field.reg), if_neg known]
  have refines := @e4kRegSetMask_refines environment i (val <<< field.shift) (same ▸ fits)
  rw [same] at refines
  exact refines _ (ready_transferred ready 2)

/-- Setting the bandwidth of a filter sets its field to the index that is found for it. -/
theorem e4kIfFilterBwSet_refines (kind : E4kIfFilter) (bandwidth : UInt32)
    : (e4kView environment).Refines environment (e4kIfFilterBwSet kind bandwidth)
        (E4kSettings.setFilter kind bandwidth) := by
  exact e4kFieldWrite_refines (.ifFilter kind) rfl
    (filterIndex_fits kind _ (findIfBw_lt kind bandwidth))

/-- `e4000_set_bw` sets the three filters one after the other. -/
theorem e4000SetBw_refines (bw : UInt32)
    : (e4kView environment).Refines environment (e4000SetBw bw) (E4kSettings.setBw bw) := by
  refine .bind (e4kIfFilterBwSet_refines .mix bw) fun mix => ?_
  refine .bind (e4kIfFilterBwSet_refines .rc bw) fun rc => ?_
  exact .bind (e4kIfFilterBwSet_refines .chan bw) fun chan => .pure

/-- Setting the gain of a stage sets its field, or leaves everything alone where the gain is
in no table. Witness: an index of the table fits its field.
-/
theorem e4kIfGainSet_refines (stage : UInt8) (value : Int8)
    : (e4kView environment).Refines environment (e4kIfGainSet stage value)
        (E4kSettings.setIfGain stage value) := by
  unfold e4kIfGainSet E4kSettings.setIfGain
  simp only []
  split
  next => exact .pure
  next found =>
    have listed := not_not.mp (mt findStageGain_lt_zero_iff.mpr found)
    obtain ⟨index, same, entry⟩ := findStageGain_listed listed
    obtain ⟨inside, -⟩ := List.getElem?_eq_some_iff.mp entry
    have few := (stageGains_bounded listed).1
    obtain ⟨small, fits⟩ := stageField_fits _ few index inside
    have narrowed : ∀ index < 8, (Int32.ofNat index).toUInt32.toUInt8 = UInt8.ofNat index := by
      decide
    have positive : stage.toNat ≠ 0 := by
      intro zero
      rw [zero] at listed
      exact absurd listed (List.not_mem_nil)
    have counted : stage.toNat - 1 < 6 := by omega
    have next_ : stage.toNat - 1 + 1 = stage.toNat := by omega
    rw [dif_pos counted, same, narrowed index small]
    have refines := @e4kRegSetMask_refines environment (.ifGain ⟨stage.toNat - 1, counted⟩)
      (UInt8.ofNat index <<< (stageField stage.toNat).shift)
    simp only [E4kField.bits, RegField.bits, next_] at refines
    exact refines fits

/-- Switching the gain mode sets the fields of the mode and of the mixer, either way. -/
theorem e4kEnableManualGain_refines (manual : UInt8)
    : (e4kView environment).Refines environment (e4kEnableManualGain manual)
        (E4kSettings.setGainMode manual) := by
  unfold e4kEnableManualGain E4kSettings.setGainMode
  split
  · refine .seq (@e4kRegSetMask_refines _ .agcMode 0x0 (by decide)) ?_
    exact .seq (@e4kRegSetMask_refines _ .mixGainAuto 0 (by decide)) .pure
  · refine .seq (@e4kRegSetMask_refines _ .agcMode 0x9 (by decide)) ?_
    refine .seq (@e4kRegSetMask_refines _ .mixGainAuto 1 (by decide)) ?_
    exact .seq (@e4kRegSetMask_refines _ .lnaGainEnh 0 (by decide)) .pure

/-- Standby, entered or left, sets the field of the power mode. -/
theorem e4kStandby_refines (enable : Int32)
    : (e4kView environment).Refines environment (e4kStandby enable)
        (E4kSettings.standby enable) := by
  have fits
      : (if enable ≠ 0 then 0 else 0x02) &&& E4kField.normStby.bits.mask
        = if enable ≠ 0 then 0 else 0x02 := by
    split <;> decide
  exact .seq (e4kRegSetMask_refines .normStby fits) .pure

/-- A code that is found for a gain is listed with it. -/
theorem lnaCode_listed {gain : Int32} {code : UInt8} (found : lnaCode gain = some code)
    : (gain, code) ∈ lnagain := by
  obtain ⟨entry, same, rfl⟩ := Option.map_eq_some_iff.mp found
  have held := List.find?_some same
  rw [beq_iff_eq] at held
  subst held
  exact List.mem_of_find?_eq_some same

/-- The codes fit their field, and no gain reads as an error, by evaluation of the table. -/
theorem lnagain_fits
    : ∀ entry ∈ lnagain, entry.2 &&& E4kField.lnaGain.bits.mask = entry.2 ∧ entry.1 ≠ -22 :=
  Tables.forall_entries (by decide)

/-- Setting the gain of the mixer sets its field. Witness: the two gains that are asked of it.
-/
theorem e4kMixerGainSet_refines (gain : Int32)
    : (e4kView environment).Refines environment (e4kMixerGainSet (mixgain gain).toInt8)
        (do
          setField .mixerGain (if 340 < gain then 1 else 0)
          return 0) := by
  unfold mixgain
  split
  · exact e4kRegSetMask_refines .mixerGain (by decide)
  · exact e4kRegSetMask_refines .mixerGain (by decide)

/-- `e4000_set_gain` sets the gains of amplifier and mixer, or leaves everything alone where
the amplifier has no such gain. Witness: the code that is found, or its absence.
-/
theorem e4000SetGain_refines (gain : Int32)
    : (e4kView environment).Refines environment (e4000SetGain gain)
        (E4kSettings.setGain gain) := by
  unfold e4000SetGain E4kSettings.setGain e4kSetLnaGain
  cases found : lnaCode (lnaRequest gain) with
  | none => exact .pure
  | some code =>
      obtain ⟨fits, known⟩ := lnagain_fits _ (lnaCode_listed found)
      have amplifies
          : (e4kView environment).Refines environment
              (do
                let _ ← e4kRegSetMask 0x14 0xf code
                return lnaRequest gain)
              (do
                setField .lnaGain code
                return lnaRequest gain) :=
        .seq (e4kRegSetMask_refines .lnaGain fits) .pure
      refine .seq amplifies ?_
      rw [if_neg known]
      refine .seq (e4kMixerGainSet_refines gain) ?_
      rw [if_neg (by decide)]
      exact .pure

end Refinements

-----------------------------------------------------------------------------------------
-- Bandwidths
-----------------------------------------------------------------------------------------

/-- The bandwidth that a filter is set to. -/
def E4kSettings.bandwidth (settings : E4kSettings) (kind : E4kIfFilter) : UInt32 :=
  (ifFilterBw kind).getD
    (settings (.ifFilter kind) >>> (ifFilterFields kind).shift).toNat 0

def E4kSettings.getBw (kind : E4kIfFilter) : StateM E4kSettings Int32 := do
  return ((← get).bandwidth kind).toInt32

/-- What is shifted out of a register of a filter is the value of its field, by evaluation on
all bytes.
-/
theorem fieldRead_eq (kind : E4kIfFilter) (byte : UInt8)
    : (byte.toUInt32.toInt32 >>> (ifFilterFields kind).shift.toUInt32.toInt32)
          &&& (width2mask.getD (ifFilterFields kind).width.toNat 0).toUInt32.toInt32
        = ((byte &&& (ifFilterFields kind).mask)
            >>> (ifFilterFields kind).shift).toUInt32.toInt32 := by
  have bytes
      : ∀ number < 256,
          ((UInt8.ofNat number).toUInt32.toInt32
                >>> (ifFilterFields kind).shift.toUInt32.toInt32)
              &&& (width2mask.getD (ifFilterFields kind).width.toNat 0).toUInt32.toInt32
            = ((UInt8.ofNat number &&& (ifFilterFields kind).mask)
                >>> (ifFilterFields kind).shift).toUInt32.toInt32 := by
    cases kind <;> decide +kernel
  have known := bytes byte.toNat byte.toNat_lt
  rwa [UInt8.ofNat_toNat] at known

/-- `unsigned_delta` is the distance of two numbers. Witness: the larger of the two decides
which difference is taken.
-/
theorem unsignedDelta_toNat (a b : UInt32)
    : (unsignedDelta a b).toNat = (a.toNat - b.toNat) + (b.toNat - a.toNat) := by
  unfold unsignedDelta
  split
  next more =>
    rw [UInt32.toNat_sub_of_le _ _ (UInt32.le_of_lt more)]
    have later := UInt32.lt_iff_toNat_lt.mp more
    omega
  next less =>
    have reaches := UInt32.not_lt.mp less
    rw [UInt32.toNat_sub_of_le _ _ reaches]
    have later := UInt32.le_iff_toNat_le.mp reaches
    omega

/-- The loop of `closest_arr_idx` is a search for the nearest entry, by induction on the
table.
-/
theorem closestFrom_eq (freq : UInt32) (arr : List UInt32) (bestDelta : UInt32) (bi i : Nat)
    : closestFrom freq arr bestDelta bi i
      = nearestFrom (fun center => (unsignedDelta freq center).toNat) arr bestDelta.toNat bi i := by
  induction arr generalizing bestDelta bi i with
  | nil => rfl
  | cons center rest ih =>
      rw [closestFrom, nearestFrom]
      simp only [UInt32.lt_iff_toNat_lt, ih]

/-- The index that `closest_arr_idx` returns is that of a nearest entry, the first one.
Witness: no distance is as large as the bound it starts from.
-/
theorem closestArrIdx_isNearest {arr : List UInt32} (some_ : arr ≠ []) (freq : UInt32)
    : IsNearest (fun center => (unsignedDelta freq center).toNat) arr
        (closestArrIdx arr freq) := by
  rw [closestArrIdx, closestFrom_eq]
  exact nearestFrom_start some_ fun center _ => Nat.le_of_lt_succ (UInt32.toNat_lt _)

/-- A bandwidth of a filter that no other one is nearer to than to what is asked for. -/
structure NearestBw (kind : E4kIfFilter) (asked found : UInt32) : Prop where
  listed : found ∈ ifFilterBw kind
  least
    : ∀ other ∈ ifFilterBw kind,
        (asked.toNat - found.toNat) + (found.toNat - asked.toNat)
          ≤ (asked.toNat - other.toNat) + (other.toNat - asked.toNat)

section Bandwidths

variable {environment : Nat → Bool}

/-- Reading the bandwidth of a filter returns the entry at the index in its field, and sets
nothing.
-/
theorem e4kIfFilterBwGet_refines (kind : E4kIfFilter)
    : (e4kView environment).Refines environment (e4kIfFilterBwGet kind)
        (E4kSettings.getBw kind) := by
  intro chip ready
  have field_read
      : e4kFieldRead (ifFilterFields kind) environment chip
        = (((chip.registers (ifFilterFields kind).reg &&& (ifFilterFields kind).mask)
              >>> (ifFilterFields kind).shift).toUInt32.toInt32, chip.transferred 2) := by
    rw [e4kFieldRead, e4k_bind (e4kRegRead_ready ready _), if_neg (byte_not_neg _), fieldRead_eq]
    rfl
  refine ⟨chip.transferred 2, ?_, ready_transferred ready 2, rfl, fun _ _ => rfl⟩
  rw [e4kIfFilterBwGet, e4k_bind field_read, if_neg (byte_not_neg _), byte_toInt32,
    Int32.toInt_ofNat_of_lt (Nat.lt_trans (UInt8.toNat_lt _) (by decide))]
  rfl

/-- An index that is shifted into its field is shifted out of it, by evaluation of the three
tables.
-/
theorem filterIndex_shifted (kind : E4kIfFilter)
    : ∀ index < (ifFilterBw kind).length,
        (UInt8.ofNat index <<< (ifFilterFields kind).shift
            >>> (ifFilterFields kind).shift).toNat
          = index := by
  cases kind <;> decide

/-- After a bandwidth is set, the field of every filter is the index that is found for it, by
computation.
-/
theorem setBw_field (settings : E4kSettings) (bw : UInt32) (kind : E4kIfFilter)
    : (E4kSettings.setBw bw settings).2 (.ifFilter kind)
      = UInt8.ofNat (findIfBw kind bw) <<< (ifFilterFields kind).shift := by
  cases kind <;> rfl

/-- Every filter is set to a bandwidth nearest to the one that is asked for. Witness: the
index in its field is that of a nearest entry.
-/
theorem setBw_nearest (settings : E4kSettings) (bw : UInt32) (kind : E4kIfFilter)
    : NearestBw kind bw ((E4kSettings.setBw bw settings).2.bandwidth kind) := by
  have some_ : ifFilterBw kind ≠ [] := by cases kind <;> exact List.cons_ne_nil _ _
  obtain ⟨found, at_, least, -⟩ := closestArrIdx_isNearest some_ bw
  have same : (E4kSettings.setBw bw settings).2.bandwidth kind = found := by
    rw [E4kSettings.bandwidth, setBw_field, filterIndex_shifted kind _ (findIfBw_lt kind bw),
      List.getD_eq_getElem?_getD, findIfBw, at_]
    rfl
  rw [same]
  refine ⟨List.mem_of_getElem? at_, fun other member => ?_⟩
  rw [← unsignedDelta_toNat, ← unsignedDelta_toNat]
  exact least other member

/-- After `e4000_set_bw`, `e4k_if_filter_bw_get` returns a bandwidth nearest to the one that was
asked for, for every filter.
-/
theorem e4000SetBw_roundTrip (bw : UInt32) (kind : E4kIfFilter) {chip : E4kChip}
    (ready : (e4kView environment).ready chip)
    : ∃ found later,
        (do
          let r ← e4000SetBw bw
          let got ← e4kIfFilterBwGet kind
          return (r, got) : E4k (Int32 × Int32)) environment chip
          = ((0, found.toInt32), later)
        ∧ NearestBw kind bw found := by
  have both
      : (e4kView environment).Refines environment
          (do
            let r ← e4000SetBw bw
            let got ← e4kIfFilterBwGet kind
            return (r, got))
          (do
            let r ← E4kSettings.setBw bw
            let got ← E4kSettings.getBw kind
            return (r, got)) :=
    .bind (e4000SetBw_refines bw) fun _ => .bind (e4kIfFilterBwGet_refines kind) fun _ => .pure
  obtain ⟨later, ran, -⟩ := both chip ready
  exact ⟨_, later, ran, setBw_nearest _ bw kind⟩

/-- Three MHz on a tuner whose registers are zero. -/
theorem e4000SetBw_roundTrip_3MHz
    : ∃ found later,
        (do
          let r ← e4000SetBw 3000000
          let got ← e4kIfFilterBwGet .chan
          return (r, got) : E4k (Int32 × Int32)) (fun _ => true)
          { E4kChip.zero with repeater := true }
          = ((0, found.toInt32), later)
        ∧ NearestBw .chan 3000000 found :=
  e4000SetBw_roundTrip 3000000 .chan ⟨rfl, fun _ _ => rfl⟩

end Bandwidths

-----------------------------------------------------------------------------------------
-- Initialization
-----------------------------------------------------------------------------------------

/-- The settings that `e4k_init` leaves: automatic gain, moderate gains of the stages, the narrowest
filters. It does not set the gains of amplifier and mixer.
-/
structure E4kSettings.Initial (settings : E4kSettings) : Prop where
  agcMode : settings .agcMode = 0x9
  mixGainAuto : settings .mixGainAuto = 1
  lnaGainEnh : settings .lnaGainEnh = 0
  stages
    : ∀ stage : Fin 6,
        (stageGains (stage + 1))[
          (settings (.ifGain stage) >>> (stageField (stage + 1)).shift).toNat]?
        = ([6, 0, 0, 0, 9, 9] : List Int)[stage]?
  mix : settings.bandwidth .mix = khz 1900
  rc : settings.bandwidth .rc = khz 1000
  chan : settings.bandwidth .chan = khz 2150
  chanEnabled : settings .chanDisable = 0

section Initialization

variable {environment : Nat → Bool}

/-- The view of a chip where other registers do not matter. -/
def e4kFieldsView (environment : Nat → Bool) : View E4kChip E4kSettings where
  ready := (e4kView environment).ready
  shown := (e4kView environment).shown
  kept _ _ := True
  refl _ := trivial
  trans _ _ := trivial

/-- What refines settings by all registers refines them by the registers of the fields. -/
theorem fields_refine {α : Type} {program : E4k α} {spec : StateM E4kSettings α}
    (refines : (e4kView environment).Refines environment program spec)
    : (e4kFieldsView environment).Refines environment program spec := by
  intro chip ready
  obtain ⟨later, ran, ready, shown, -⟩ := refines chip ready
  exact ⟨later, ran, ready, shown, trivial⟩

/-- The registers of the fields. -/
def fieldRegisters : List UInt8 :=
  [0x00, 0x11, 0x12, 0x14, 0x15, 0x16, 0x17, 0x1a, 0x20, 0x24]

/-- The register of every field is listed, by cases on the field. -/
theorem reg_mem_fieldRegisters (i : E4kField) : i.bits.reg ∈ fieldRegisters := by
  cases i with
  | ifGain stage => revert stage; decide
  | ifFilter kind => cases kind <;> decide
  | _ => decide

/-- Other registers show nothing of the fields: a store there changes no register of a field.
-/
theorem values_stored {chip : E4kChip} {reg val : UInt8} (outside : reg ∉ fieldRegisters)
    : e4kLayout.values (chip.stored reg val).registers = e4kLayout.values chip.registers := by
  funext i
  have apart : i.bits.reg ≠ reg := fun same => outside (same ▸ reg_mem_fieldRegisters i)
  change (chip.stored reg val).registers i.bits.reg &&& i.bits.mask
    = chip.registers i.bits.reg &&& i.bits.mask
  rw [E4kChip.stored_other val apart]

/-- Writes to registers of no field leave the settings alone, by induction on them. -/
theorem e4kRegWrites_refines {entries : List (UInt8 × UInt8)}
    (outside : ∀ entry ∈ entries, entry.1 ∉ fieldRegisters)
    : (e4kFieldsView environment).Refines environment (e4kRegWrites entries) (return ()) := by
  induction entries with
  | nil => exact .pure
  | cons entry rest ih =>
      intro chip ready
      obtain ⟨apart, others⟩ := List.forall_mem_cons.mp outside
      have again := ready_transferred ready 1
      obtain ⟨later, ended, ready', shown, -⟩ :=
        ih others ((chip.transferred 1).stored entry.1 entry.2) again
      refine ⟨later, ?_, ready', shown.trans (values_stored apart), trivial⟩
      rw [e4kRegWrites, e4k_bind (e4kRegWrite_ready ready entry.1 entry.2), ended]

/-- A masked write to a register of no field leaves the settings alone, whether it writes or
finds its value there.
-/
theorem e4kRegSetMask_outside {reg mask val : UInt8} (outside : reg ∉ fieldRegisters)
    : (e4kFieldsView environment).Refines environment (e4kRegSetMask reg mask val)
        (return 0) := by
  intro chip ready
  have again := ready_transferred ready 2
  rw [e4kRegSetMask, e4k_bind (e4kRegRead_ready ready reg)]
  split
  · exact ⟨_, rfl, again, rfl, trivial⟩
  · exact ⟨_, e4kRegWrite_ready again _ _, ready_transferred again 1, values_stored outside,
      trivial⟩

/-- What `e4k_init` does after the reset sets the fields in its order. Witness: the writes to
registers of no field leave the settings alone in between.
-/
theorem e4kSetUp_refines
    : (e4kFieldsView environment).Refines environment e4kSetUp E4kSettings.setUp := by
  have clocks := @e4kRegWrites_refines environment [(0x05, 0x00), (0x06, 0x00), (0x7a, 0x96)]
    (Tables.forall_entries (by decide))
  have magic := @e4kRegWrites_refines environment
    [(0x7e, 0x01), (0x7f, 0xfe), (0x82, 0x00), (0x86, 0x50), (0x87, 0x20), (0x88, 0x01),
      (0x9f, 0x7f), (0xa0, 0x07)] (Tables.forall_entries (by decide))
  have thresholds := @e4kRegWrites_refines environment
    [(0x1d, 0x10), (0x1e, 0x04), (0x1f, 0x1a)] (Tables.forall_entries (by decide))
  refine .skip clocks (.skip magic (.skip thresholds ?_))
  refine .seq (fields_refine (@e4kRegSetMask_refines _ .agcMode 0x0 (by decide))) ?_
  refine .seq (fields_refine (@e4kRegSetMask_refines _ .mixGainAuto 0 (by decide))) ?_
  refine .bind (fields_refine (e4kEnableManualGain_refines 0)) fun _ => ?_
  refine .bind (fields_refine (e4kIfGainSet_refines 1 6)) fun _ => ?_
  refine .bind (fields_refine (e4kIfGainSet_refines 2 0)) fun _ => ?_
  refine .bind (fields_refine (e4kIfGainSet_refines 3 0)) fun _ => ?_
  refine .bind (fields_refine (e4kIfGainSet_refines 4 0)) fun _ => ?_
  refine .bind (fields_refine (e4kIfGainSet_refines 5 9)) fun _ => ?_
  refine .bind (fields_refine (e4kIfGainSet_refines 6 9)) fun _ => ?_
  refine .bind (fields_refine (e4kIfFilterBwSet_refines .mix _)) fun _ => ?_
  refine .bind (fields_refine (e4kIfFilterBwSet_refines .rc _)) fun _ => ?_
  refine .bind (fields_refine (e4kIfFilterBwSet_refines .chan _)) fun _ => ?_
  refine .seq (fields_refine (@e4kRegSetMask_refines _ .chanDisable 0 (by decide))) ?_
  refine .skip (e4kRegSetMask_outside (by decide)) ?_
  refine .skip (e4kRegSetMask_outside (by decide)) ?_
  exact .skip (e4kRegSetMask_outside (by decide)) .pure

/-- Whatever the settings were, those that are set up are the initial ones. Witness: every
field is set on the way.
-/
theorem setUp_initial (settings : E4kSettings)
    : (E4kSettings.setUp settings).1 = 0
      ∧ (E4kSettings.setUp settings).2.Initial := by
  have stages (stage : Fin 6)
      : (E4kSettings.setUp settings).2 (.ifGain stage)
        = ([1, 0, 0, 0, 2, 0x10] : List UInt8).getD stage 0 := by
    match stage with
    | 0 | 1 | 2 | 3 | 4 | 5 => rfl
  have mix : (E4kSettings.setUp settings).2 (.ifFilter .mix) = 0xf0 := rfl
  refine ⟨rfl, rfl, rfl, rfl, ?_, ?_, rfl, rfl, rfl⟩
  · intro stage
    rw [stages]
    revert stage
    decide
  · rw [E4kSettings.bandwidth, mix]
    rfl

/-- Whatever the registers hold, the settings are the initial ones once the tuner is set up.
-/
theorem e4kSetUp_initial {chip : E4kChip} (ready : (e4kView environment).ready chip)
    : ∃ later,
        e4kSetUp environment chip = (0, later)
        ∧ (e4kView environment).ready later
        ∧ E4kSettings.Initial (e4kLayout.values later.registers) := by
  obtain ⟨later, ran, ready, shown, -⟩ := e4kSetUp_refines chip ready
  obtain ⟨succeeded, initial⟩ := setUp_initial (e4kLayout.values chip.registers)
  refine ⟨later, ran.trans (Prod.ext succeeded rfl), ready, ?_⟩
  exact Eq.subst (motive := E4kSettings.Initial) shown.symm initial

/-- After the reset the tuner is set up, whether the first transfer fails or not. Witness: the
reads before it take one transfer or two, and those after it move.
-/
theorem e4kInit_run {chip : E4kChip} (repeated : chip.repeater = true)
    (moves : ∀ number, chip.transfers < number → environment number = true)
    (reset : (UInt8 → UInt8) → UInt8 → UInt8)
    : ∃ between registers,
        e4kInit reset environment chip = e4kSetUp environment between
        ∧ (e4kView environment).ready between
        ∧ between.registers = reset registers := by
  have awake : (e4kView environment).ready (chip.afterRead environment) := by
    refine ⟨repeated, fun number late => moves number (Nat.lt_of_lt_of_le ?_ late)⟩
    rw [E4kChip.afterRead]
    split
    · exact Nat.lt_add_of_pos_right (by decide)
    · exact Nat.lt_add_of_pos_right (by decide)
  have resets
      : (modify fun chip => { chip with registers := reset chip.registers } : E4k PUnit)
          environment (((chip.afterRead environment).transferred 1).stored 0x00 0x07)
        = (⟨⟩, { ((chip.afterRead environment).transferred 1).stored 0x00 0x07 with
            registers :=
              reset (((chip.afterRead environment).transferred 1).stored 0x00 0x07).registers }) :=
    rfl
  rw [e4kInit, e4k_bind (e4kRegRead_eq 0), e4k_bind (e4kRegWrite_ready awake 0x00 0x07),
    e4k_bind resets]
  exact ⟨_, _, rfl, ready_transferred awake 1, rfl⟩

/-- Whatever the registers hold before and after the reset, and even if the first transfer fails,
the settings are the initial ones after `e4k_init`.
-/
theorem e4kInit_initial {chip : E4kChip} (repeated : chip.repeater = true)
    (moves : ∀ number, chip.transfers < number → environment number = true)
    (reset : (UInt8 → UInt8) → UInt8 → UInt8)
    : ∃ later,
        e4kInit reset environment chip = (0, later)
        ∧ (e4kView environment).ready later
        ∧ E4kSettings.Initial (e4kLayout.values later.registers) := by
  obtain ⟨between, registers, ran, ready, -⟩ := e4kInit_run repeated moves reset
  rw [ran]
  exact e4kSetUp_initial ready

/-- A tuner whose registers are zero, and that does not acknowledge the first transfer. -/
theorem e4kInit_initial_unacknowledged
    : ∃ later,
        e4kInit id (fun number => decide (number ≠ 0)) { E4kChip.zero with repeater := true }
          = (0, later)
        ∧ (e4kView fun number => decide (number ≠ 0)).ready later
        ∧ E4kSettings.Initial (e4kLayout.values later.registers) :=
  e4kInit_initial rfl (fun _ later => decide_eq_true (Nat.ne_of_gt later)) id

end Initialization

end RtlTcpAndro.Tuners
