import RtlTcpAndro.Registers.Masks

/-! The gains of the intermediate frequency of the E4000, `tuner_e4k.c`, as a client sets them: the
stage and the gain in one parameter, narrowed on the way to the tables of the stages.
-/

namespace RtlTcpAndro.Tuners

open RtlTcpAndro.Registers

-----------------------------------------------------------------------------------------
-- The registers
-----------------------------------------------------------------------------------------

/-- The registers of the tuner, history, what was written to them, and the number of transfers
made, which reach the tuner while the repeater of the demodulator is on.
-/
structure E4kChip where
  registers : UInt8 → UInt8
  written : List (UInt8 × UInt8)
  transfers : Nat
  repeater : Bool

/-- A function of the driver, where the environment says whether the transfer of a number moves
its bytes.
-/
abbrev E4k := ReaderT (Nat → Bool) (StateM E4kChip)

/-- Whether the next transfer moves its bytes. -/
def i2cTransfer : E4k Bool := do
  let chip ← get
  modify fun chip => { chip with transfers := chip.transfers + 1 }
  return chip.repeater && (← read) chip.transfers

/-- `e4k_reg_write` -/
def e4kRegWrite (reg val : UInt8) : E4k Int32 := do
  if ← i2cTransfer then
    modify fun chip =>
      { chip with
        registers := fun other => if other = reg then val else chip.registers other
        written := (reg, val) :: chip.written }
    return 0
  else return -1

/-- `e4k_reg_read` -/
def e4kRegRead (reg : UInt8) : E4k Int32 := do
  if ← i2cTransfer then
    if ← i2cTransfer then
      return ((← get).registers reg).toUInt32.toInt32
    else return -1
  else return -1

/-- `e4k_reg_set_mask`, which takes what a failed read returns for the register. -/
def e4kRegSetMask (reg mask val : UInt8) : E4k Int32 := do
  let tmp := (← e4kRegRead reg).toUInt32.toUInt8
  if tmp &&& mask = val then return 0
  e4kRegWrite reg ((tmp &&& ~~~mask) ||| (val &&& mask))

/-- `width2mask` -/
def width2mask : List UInt8 := [0, 1, 3, 7, 0xf, 0x1f, 0x3f, 0x7f, 0xff]

/-- `struct reg_field` -/
structure RegField where
  reg : UInt8
  shift : UInt8
  width : UInt8

/-- The bits of a field in its register. -/
def RegField.mask (field : RegField) : UInt8 :=
  width2mask.getD field.width.toNat 0 <<< field.shift

-----------------------------------------------------------------------------------------
-- The gains of the stages
-----------------------------------------------------------------------------------------

/-- `if_stage_gain`, in dB, with the lengths `if_stage_gain_len` -/
def ifStageGain : List (List Int8) :=
  let ifStage1Gain := [-3, 6]
  let ifStage23Gain := [0, 3, 6, 9]
  let ifStage4Gain := [0, 1, 2, 2]
  let ifStage56Gain := [3, 6, 9, 12, 15, 15, 15, 15]
  [[], ifStage1Gain, ifStage23Gain, ifStage23Gain, ifStage4Gain, ifStage56Gain, ifStage56Gain]

/-- `E4K_REG_GAIN3` and `E4K_REG_GAIN4` -/
def e4kRegGain3 : UInt8 := 0x16
def e4kRegGain4 : UInt8 := 0x17

/-- `if_stage_gain_regs` -/
def ifStageGainRegs : List RegField :=
  [⟨0, 0, 0⟩, ⟨e4kRegGain3, 0, 1⟩, ⟨e4kRegGain3, 1, 2⟩, ⟨e4kRegGain3, 3, 2⟩, ⟨e4kRegGain3, 5, 2⟩,
    ⟨e4kRegGain4, 0, 3⟩, ⟨e4kRegGain4, 3, 3⟩]

/-- `find_stage_gain` -/
def findStageGain (stage : UInt8) (val : Int8) : Int32 :=
  match ifStageGain[stage.toNat]? with
  | none => -22
  | some arr =>
      match arr.findIdx? (· == val) with
      | some i => Int32.ofNat i
      | none => -22

/-- The field of the gain of a stage. -/
def stageField (stage : Nat) : RegField := ifStageGainRegs.getD stage ⟨0, 0, 0⟩

/-- `e4k_if_gain_set` -/
def e4kIfGainSet (stage : UInt8) (value : Int8) : E4k Int32 := do
  let rc := findStageGain stage value
  if rc < 0 then return rc
  let field := stageField stage.toNat
  e4kRegSetMask field.reg field.mask (rc.toUInt32.toUInt8 <<< field.shift)

/-- `e4000_set_if_gain` -/
def e4000SetIfGain (stage gain : Int32) : E4k Int32 :=
  e4kIfGainSet stage.toUInt32.toUInt8 (gain / 10).toInt8

/-- `rtlsdr_set_i2c_repeater` -/
def setI2cRepeater (on : Bool) : E4k Unit :=
  modify fun chip => { chip with repeater := on }

/-- `rtlsdr_set_tuner_if_gain`, of a device with this tuner. -/
def rtlsdrSetTunerIfGain (stage gain : Int32) : E4k Int32 := do
  setI2cRepeater true
  let r ← e4000SetIfGain stage gain
  setI2cRepeater false
  return r

/-- `TCP_SET_IF_TUNER_GAIN` in `tcpCommandCallback` -/
def setIfTunerGain (parameter : UInt32) : E4k Int32 :=
  rtlsdrSetTunerIfGain (parameter >>> 16).toInt32
    (parameter &&& 0xffff).toUInt16.toInt16.toInt32

-----------------------------------------------------------------------------------------
-- Masked writes
-----------------------------------------------------------------------------------------

/-- The chip after some transfers. -/
def E4kChip.transferred (chip : E4kChip) (count : Nat) : E4kChip :=
  { chip with transfers := chip.transfers + count }

/-- The chip after a register is written. -/
def E4kChip.stored (chip : E4kChip) (reg val : UInt8) : E4kChip :=
  { chip with
    registers := fun other => if other = reg then val else chip.registers other
    written := (reg, val) :: chip.written }

/-- The bits of a register that a mask selects become those of a value, the other bits and the
other registers stay.
-/
structure Replaced (reg mask val : UInt8) (before after : UInt8 → UInt8) : Prop where
  inside : after reg &&& mask = val
  outside : after reg &&& ~~~mask = before reg &&& ~~~mask
  others : ∀ other, other ≠ reg → after other = before other

section Transfers

variable {α β : Type} {environment : Nat → Bool} {chip : E4kChip}

/-- Where the run of a first part is known, the sequence is the rest on the value and the chip
it leaves.
-/
theorem e4k_bind {first : E4k α} {rest : α → E4k β} {value : α} {later : E4kChip}
    (ran : first environment chip = (value, later))
    : (first >>= rest) environment chip = rest value environment later := by
  change rest (first environment chip).1 environment (first environment chip).2 = _
  rw [ran]

/-- With the repeater on, a transfer moves and is counted. -/
theorem i2cTransfer_run (moves : ∀ number, environment number = true)
    (repeated : chip.repeater = true)
    : i2cTransfer environment chip = (true, chip.transferred 1) := by
  refine Prod.ext ?_ rfl
  change (chip.repeater && environment chip.transfers) = true
  rw [repeated, moves]
  rfl

/-- On transfers that move, a write stores its value and takes one of them. -/
theorem e4kRegWrite_run (moves : ∀ number, environment number = true)
    (repeated : chip.repeater = true) (reg val : UInt8)
    : e4kRegWrite reg val environment chip = (0, (chip.transferred 1).stored reg val) := by
  rw [e4kRegWrite, e4k_bind (i2cTransfer_run moves repeated)]
  rfl

/-- On transfers that move, a read returns the register and takes two of them. -/
theorem e4kRegRead_run (moves : ∀ number, environment number = true)
    (repeated : chip.repeater = true) (reg : UInt8)
    : e4kRegRead reg environment chip
      = ((chip.registers reg).toUInt32.toInt32, chip.transferred 2) := by
  have again : (chip.transferred 1).repeater = true := repeated
  rw [e4kRegRead, e4k_bind (i2cTransfer_run moves repeated), if_pos rfl,
    e4k_bind (i2cTransfer_run moves again)]
  rfl

/-- A masked write replaces the bits of its mask, whether it writes or finds them there. -/
theorem e4kRegSetMask_run (moves : ∀ number, environment number = true)
    (repeated : chip.repeater = true) {reg mask val : UInt8} (fits : val &&& mask = val)
    : ∃ later,
        e4kRegSetMask reg mask val environment chip = (0, later)
        ∧ Replaced reg mask val chip.registers later.registers := by
  rw [e4kRegSetMask, e4k_bind (e4kRegRead_run moves repeated reg)]
  have narrowed : (chip.registers reg).toUInt32.toInt32.toUInt32.toUInt8 = chip.registers reg := by
    simp
  rw [narrowed]
  split
  next same => exact ⟨chip.transferred 2, rfl, same, rfl, fun _ _ => rfl⟩
  next =>
    have again : (chip.transferred 2).repeater = true := repeated
    refine ⟨_, e4kRegWrite_run moves again reg _, ?_, ?_, ?_⟩
    · change (if reg = reg then merge (chip.registers reg) val mask else _) &&& mask = val
      rw [if_pos rfl, merge_and_mask, fits]
    · change (if reg = reg then merge (chip.registers reg) val mask else _) &&& ~~~mask = _
      rw [if_pos rfl, merge_and_not_mask]
    · exact fun other apart => if_neg apart

end Transfers

-----------------------------------------------------------------------------------------
-- What a parameter asks for
-----------------------------------------------------------------------------------------

/-- The gains of the stage of a number, in dB. -/
def stageGains (stage : Nat) : List Int := (ifStageGain.getD stage []).map Int8.toInt

/-- The upper half of a parameter. -/
def requestedStage (parameter : UInt32) : Nat := parameter.toNat / 65536

/-- The lower half of a parameter, a signed number of tenths of a dB, in dB. -/
def requestedGain (parameter : UInt32) : Int :=
  (parameter &&& 0xffff).toUInt16.toInt16.toInt.tdiv 10

/-- The field of a stage holds an index of a gain in its table, all else is as before. -/
def GainSet (stage : Nat) (gain : Int) (before after : E4kChip) : Prop :=
  ∃ index : Nat,
    (stageGains stage)[index]? = some gain
    ∧ Replaced (stageField stage).reg (stageField stage).mask
        (UInt8.ofNat index <<< (stageField stage).shift) before.registers after.registers

/-- A parameter is decoded: it sets a gain that is in the table of a stage, any other returns an
error and writes nothing.
-/
structure IfGainDecoded (parameter : UInt32) (before : E4kChip) (outcome : Int32 × E4kChip)
    : Prop where
  listed
    : requestedGain parameter ∈ stageGains (requestedStage parameter)
      → outcome.1 = 0
        ∧ GainSet (requestedStage parameter) (requestedGain parameter) before outcome.2
  refused
    : requestedGain parameter ∉ stageGains (requestedStage parameter)
      → outcome.1 < 0
        ∧ outcome.2.registers = before.registers
        ∧ outcome.2.written = before.written

/-- The stage and the gain that are left of a parameter after both are narrowed to a byte. -/
def narrowedStage (parameter : UInt32) : UInt8 := (parameter >>> 16).toInt32.toUInt32.toUInt8
def narrowedGain (parameter : UInt32) : Int8 :=
  ((parameter &&& 0xffff).toUInt16.toInt16.toInt32 / 10).toInt8

/-- Stage and gain fit a byte, or what is left of them is in no table. -/
def NarrowsSafely (parameter : UInt32) : Prop :=
  requestedStage parameter < 256
    ∧ -128 ≤ requestedGain parameter
    ∧ requestedGain parameter < 128
  ∨ findStageGain (narrowedStage parameter) (narrowedGain parameter) < 0

/-- The narrowed stage is the requested one modulo 256. -/
theorem narrowedStage_toNat (parameter : UInt32)
    : (narrowedStage parameter).toNat = requestedStage parameter % 256 := by
  rw [narrowedStage, requestedStage]
  simp [Nat.shiftRight_eq_div_pow]

/-- The narrowed gain is the requested one, wrapped to a signed byte. -/
theorem narrowedGain_toInt (parameter : UInt32)
    : (narrowedGain parameter).toInt = (requestedGain parameter).bmod 256 := by
  rw [narrowedGain, Int32.toInt_toInt8, Int32.toInt_div_of_ne_right _ _ (by decide),
    Int16.toInt_toInt32]
  rfl

/-- A gain is listed for six stages only, and fits a byte. -/
theorem stageGains_bounded {stage : Nat} {gain : Int} (listed : gain ∈ stageGains stage)
    : stage < 7 ∧ -128 ≤ gain ∧ gain < 128 := by
  rw [stageGains, List.getD_eq_getElem?_getD] at listed
  refine ⟨Nat.lt_of_not_le fun beyond => ?_, ?_⟩
  · rw [List.getElem?_eq_none beyond] at listed
    simp at listed
  · obtain ⟨entry, -, same⟩ := List.mem_map.mp listed
    exact same ▸ ⟨entry.le_toInt, entry.toInt_lt⟩

/-- Narrowing keeps a stage and a gain that fit a byte. -/
theorem narrowed_of_fits {parameter : UInt32} (stage : requestedStage parameter < 256)
    (least : -128 ≤ requestedGain parameter) (most : requestedGain parameter < 128)
    : (narrowedStage parameter).toNat = requestedStage parameter
      ∧ (narrowedGain parameter).toInt = requestedGain parameter := by
  rw [narrowedStage_toNat, narrowedGain_toInt]
  exact ⟨Nat.mod_eq_of_lt stage, Int.bmod_eq_of_le least most⟩

/-- Every index into the table of a stage fits the field of the stage. -/
theorem stageField_fits
    : ∀ stage < 7, ∀ index < (stageGains stage).length,
        index < 8
        ∧ (UInt8.ofNat index <<< (stageField stage).shift) &&& (stageField stage).mask
          = UInt8.ofNat index <<< (stageField stage).shift := by
  decide

/-- A gain that is in the table of a stage is found there. -/
theorem findStageGain_listed {stage : UInt8} {value : Int8}
    (listed : value.toInt ∈ stageGains stage.toNat)
    : ∃ index : Nat,
        findStageGain stage value = Int32.ofNat index
        ∧ (stageGains stage.toNat)[index]? = some value.toInt := by
  rw [stageGains, List.getD_eq_getElem?_getD] at listed ⊢
  rw [findStageGain]
  cases table : ifStageGain[stage.toNat]? with
  | none => simp [table] at listed
  | some arr =>
      rw [table, Option.getD_some] at listed
      obtain ⟨entry, member, same⟩ := List.mem_map.mp listed
      have equal : entry = value := Int8.toInt_inj.mp same
      have found := List.findIdx?_eq_some_of_exists (p := (· == value))
        ⟨entry, member, beq_iff_eq.mpr equal⟩
      obtain ⟨inside, holds, -⟩ := List.findIdx?_eq_some_iff_getElem.mp found
      refine ⟨arr.findIdx (· == value), by simp only [found], ?_⟩
      simp [List.getElem?_eq_getElem inside, beq_iff_eq.mp holds]

/-- Any other gain is refused with `-EINVAL`. -/
theorem findStageGain_refused {stage : UInt8} {value : Int8}
    (absent : value.toInt ∉ stageGains stage.toNat)
    : findStageGain stage value = -22 := by
  rw [stageGains, List.getD_eq_getElem?_getD] at absent
  rw [findStageGain]
  cases table : ifStageGain[stage.toNat]? with
  | none => rfl
  | some arr =>
      rw [table, Option.getD_some] at absent
      have none : arr.findIdx? (· == value) = none := by
        refine List.findIdx?_eq_none_iff.mpr fun entry member => beq_eq_false_iff_ne.mpr ?_
        rintro rfl
        exact absent (List.mem_map_of_mem member)
      simp only [none]

/-- `find_stage_gain` refuses exactly what is not in the table of the stage. Witness: the
index of a listed gain is not negative.
-/
theorem findStageGain_lt_zero_iff {stage : UInt8} {value : Int8}
    : findStageGain stage value < 0 ↔ value.toInt ∉ stageGains stage.toNat := by
  constructor
  · intro negative listed
    obtain ⟨index, found, entry⟩ := findStageGain_listed listed
    obtain ⟨inside, -⟩ := List.getElem?_eq_some_iff.mp entry
    obtain ⟨few, -⟩ := stageField_fits _ (stageGains_bounded listed).1 index inside
    rw [found, Int32.lt_iff_toInt_lt, Int32.toInt_ofNat_of_lt (by omega)] at negative
    exact absurd negative (Int.not_lt.mpr (Int.natCast_nonneg index))
  · intro absent
    rw [findStageGain_refused absent]
    decide

-----------------------------------------------------------------------------------------
-- Setting a gain
-----------------------------------------------------------------------------------------

section Transfers

variable {environment : Nat → Bool} {chip : E4kChip}

/-- The gain of a stage is set if its table has it. -/
theorem e4kIfGainSet_listed (moves : ∀ number, environment number = true)
    (repeated : chip.repeater = true) {stage : UInt8} {value : Int8}
    (listed : value.toInt ∈ stageGains stage.toNat)
    : ∃ later,
        e4kIfGainSet stage value environment chip = (0, later)
        ∧ GainSet stage.toNat value.toInt chip later := by
  obtain ⟨index, same, entry⟩ := findStageGain_listed listed
  obtain ⟨inside, -⟩ := List.getElem?_eq_some_iff.mp entry
  obtain ⟨few, fits⟩ := stageField_fits _ (stageGains_bounded listed).1 index inside
  obtain ⟨later, ran, replaced⟩ :=
    @e4kRegSetMask_run _ _ moves repeated (stageField stage.toNat).reg _ _ fits
  refine ⟨later, ?_, index, entry, replaced⟩
  have found : ¬ findStageGain stage value < 0 :=
    fun negative => findStageGain_lt_zero_iff.mp negative listed
  have narrowed : ∀ index < 8, (Int32.ofNat index).toUInt32.toUInt8 = UInt8.ofNat index := by
    decide
  rw [e4kIfGainSet, if_neg found, same, narrowed index few]
  exact ran

/-- A gain that is in no table is refused with `-EINVAL`, and nothing is written. -/
theorem e4kIfGainSet_refused {stage : UInt8} {value : Int8}
    (absent : value.toInt ∉ stageGains stage.toNat)
    : e4kIfGainSet stage value environment chip = (-22, chip) := by
  rw [e4kIfGainSet, findStageGain_refused absent]
  rfl

/-- The command sets the gain that is left of its parameter, with the repeater on. -/
theorem setIfTunerGain_run {parameter : UInt32} {r : Int32} {later : E4kChip}
    (ran
      : e4kIfGainSet (narrowedStage parameter) (narrowedGain parameter) environment
          { chip with repeater := true }
        = (r, later))
    : setIfTunerGain parameter environment chip = (r, { later with repeater := false }) := by
  have on : setI2cRepeater true environment chip = (⟨⟩, { chip with repeater := true }) := rfl
  rw [setIfTunerGain, rtlsdrSetTunerIfGain, e4k_bind on]
  exact e4k_bind ran

/-- The command is decoded exactly if narrowing leaves the stage and the gain as they are or
leaves nothing that is in a table.
-/
theorem setIfTunerGain_decodes_iff (moves : ∀ number, environment number = true)
    (parameter : UInt32)
    : IfGainDecoded parameter chip (setIfTunerGain parameter environment chip)
      ↔ NarrowsSafely parameter := by
  by_cases listed
    : (narrowedGain parameter).toInt ∈ stageGains (narrowedStage parameter).toNat
  case pos =>
    have on : ({ chip with repeater := true } : E4kChip).repeater = true := rfl
    obtain ⟨later, ran, set⟩ := e4kIfGainSet_listed moves on listed
    rw [setIfTunerGain_run ran]
    constructor
    · intro decoded
      by_cases asked : requestedGain parameter ∈ stageGains (requestedStage parameter)
      · have bounds := stageGains_bounded asked
        exact .inl ⟨by omega, bounds.2⟩
      · exact (Int32.lt_irrefl (decoded.refused asked).1).elim
    · rintro (⟨stage, least, most⟩ | refused)
      · obtain ⟨sameStage, sameGain⟩ := narrowed_of_fits stage least most
        rw [sameStage, sameGain] at listed set
        exact ⟨fun _ => ⟨rfl, set⟩, fun absent => absurd listed absent⟩
      · exact absurd listed (findStageGain_lt_zero_iff.mp refused)
  case neg =>
    rw [setIfTunerGain_run (e4kIfGainSet_refused listed)]
    have negative : (-22 : Int32) < 0 := by decide
    refine iff_of_true ⟨fun asked => ?_, fun _ => ⟨negative, rfl, rfl⟩⟩ ?_
    · obtain ⟨stage, least, most⟩ := stageGains_bounded asked
      obtain ⟨sameStage, sameGain⟩ := narrowed_of_fits (by omega) least most
      rw [sameStage, sameGain] at listed
      exact absurd asked listed
    · exact .inr (findStageGain_lt_zero_iff.mpr listed)

end Transfers

/-- A tuner whose registers are zero. -/
def E4kChip.zero : E4kChip := ⟨fun _ => 0, [], 0, false⟩

/-- The 2.5 dB for the second stage are in no table and are refused. Witness: narrowing leaves
the stage and the gain as they are.
-/
theorem setIfTunerGain_refuses_fraction
    : IfGainDecoded 0x20019 E4kChip.zero
        (setIfTunerGain 0x20019 (fun _ => true) E4kChip.zero) :=
  (setIfTunerGain_decodes_iff (fun _ => rfl) 0x20019).mpr (.inl (by decide))

/-- Stage 257 is taken for the first one, whose gain is set to 6 dB. -/
theorem setIfTunerGain_aliases_stage
    : ¬ IfGainDecoded 0x101003c E4kChip.zero
          (setIfTunerGain 0x101003c (fun _ => true) E4kChip.zero) := by
  intro decoded
  have refused := (decoded.refused (by decide)).1
  revert refused
  decide

end RtlTcpAndro.Tuners
