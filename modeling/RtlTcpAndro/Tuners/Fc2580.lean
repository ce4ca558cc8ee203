import Mathlib.Tactic.Linarith
import Mathlib.Tactic.Ring
import RtlTcpAndro.Faults.Histories
import RtlTcpAndro.Registers.WriteLogs
import RtlTcpAndro.Tuners.I2c

/-! The driver of the FC2580, `tuner_fc2580.c`. It goes on after a transfer that fails and returns
whether all of them succeeded; the synthesizer then runs at the frequency that was asked for, until
the tuner is tuned again or initialized.
-/

namespace RtlTcpAndro.Tuners

open RtlTcpAndro.Faults RtlTcpAndro.Registers

-----------------------------------------------------------------------------------------
-- Transfers
-----------------------------------------------------------------------------------------

/-- `fc2580_fci_result_type` -/
inductive Fc2580FciResult
  | fail
  | success
  deriving DecidableEq, Repr

/-- `&=` of two results. -/
def Fc2580FciResult.and : Fc2580FciResult → Fc2580FciResult → Fc2580FciResult
  | .success, result => result
  | .fail, _ => .fail

/-- A function of the driver, which is not configured and keeps nothing. -/
abbrev Fc2580 := Driver Unit Unit

/-- `fc2580_i2c_write` -/
def fc2580I2cWrite (reg val : UInt8) : Fc2580 Fc2580FciResult := do
  let rc ← rtlsdrI2cWriteFn reg [val]
  if rc < 0 then return .fail
  return .success

/-- `fc2580_i2c_read`, with what `*read_data` holds before it and after it. -/
def fc2580I2cRead (reg readData : UInt8) : Fc2580 (Fc2580FciResult × UInt8) := do
  let rc ← rtlsdrI2cWriteFn reg []
  if rc < 0 then return (.fail, readData)
  let (rc, data) ← rtlsdrI2cReadFn 1
  if rc < 0 then return (.fail, readData)
  return (.success, data 0)

/-- Registers written one after the other, with `&=` of what is returned. -/
def fc2580I2cWrites : List (UInt8 × UInt8) → Fc2580 Fc2580FciResult
  | [] => return .success
  | (reg, val) :: rest => do
      let result ← fc2580I2cWrite reg val
      let others ← fc2580I2cWrites rest
      return result.and others

-----------------------------------------------------------------------------------------
-- The filter
-----------------------------------------------------------------------------------------

/-- What `fc2580_set_filter` writes before it calibrates the filter. -/
def fc2580FilterWrites (filterBw : UInt8) (freqXtal : UInt32) : List (UInt8 × UInt8) :=
  if filterBw = 1 then
    [(0x36, 0x1C), (0x37, (4151 * freqXtal / 1000000).toUInt8), (0x39, 0x00), (0x2E, 0x09)]
  else if filterBw = 6 then
    [(0x36, 0x18), (0x37, (4400 * freqXtal / 1000000).toUInt8), (0x39, 0x00), (0x2E, 0x09)]
  else if filterBw = 7 then
    [(0x36, 0x18), (0x37, (3910 * freqXtal / 1000000).toUInt8), (0x39, 0x80), (0x2E, 0x09)]
  else if filterBw = 8 then
    [(0x36, 0x18), (0x37, (3300 * freqXtal / 1000000).toUInt8), (0x39, 0x80), (0x2E, 0x09)]
  else []

/-- The loop of `fc2580_set_filter`, with the rounds that are left and `cal_mon`, which a read that
fails leaves as it was.
-/
def fc2580Calibrate : Nat → UInt8 → Fc2580 Fc2580FciResult
  | 0, _ => return .success
  | rounds + 1, calMon => do
      let (result, calMon) ← fc2580I2cRead 0x2F calMon
      if calMon &&& 0xC0 ≠ 0xC0 then
        let restarted ← fc2580I2cWrites [(0x2E, 0x01), (0x2E, 0x09)]
        let others ← fc2580Calibrate rounds calMon
        return (result.and restarted).and others
      else return result

/-- `fc2580_set_filter` -/
def fc2580SetFilter (filterBw : UInt8) (freqXtal : UInt32) : Fc2580 Fc2580FciResult := do
  let selected ← fc2580I2cWrites (fc2580FilterWrites filterBw freqXtal)
  let calibrated ← fc2580Calibrate 5 0
  let stopped ← fc2580I2cWrite 0x2E 0x01
  return (selected.and calibrated).and stopped

/-- `fc2580_set_init` -/
def fc2580SetInit (ifagcMode : Int32) (freqXtal : UInt32) : Fc2580 Fc2580FciResult := do
  let reset ← fc2580I2cWrites
    [(0x00, 0x00), (0x12, 0x86), (0x14, 0x5C), (0x16, 0x3C), (0x1F, 0xD2), (0x09, 0xD7),
      (0x0B, 0xD5), (0x0C, 0x32), (0x0E, 0x43), (0x21, 0x0A), (0x22, 0x82)]
  let controlled ← fc2580I2cWrites
    (if ifagcMode = 1 then [(0x45, 0x10), (0x4C, 0x00)]
    else if ifagcMode = 2 then [(0x45, 0x20), (0x4C, 0x02)]
    else [])
  let started ← fc2580I2cWrites [(0x3F, 0x88), (0x02, 0x0E), (0x58, 0x14)]
  let filtered ← fc2580SetFilter 8 freqXtal
  return ((reset.and controlled).and started).and filtered

-----------------------------------------------------------------------------------------
-- The synthesizer
-----------------------------------------------------------------------------------------

/-- `fc2580_band_type` -/
inductive Fc2580BandType
  | uhf
  | l
  | vhf
  deriving DecidableEq, Repr

/-- The `band` of `fc2580_set_freq`. -/
def fc2580Band (fLo : UInt32) : Fc2580BandType :=
  if 1000000 < fLo then .l else if 400000 < fLo then .uhf else .vhf

/-- What the frequency of the oscillator is a multiple of `f_lo` by. -/
def Fc2580BandType.multiple : Fc2580BandType → UInt32
  | .uhf => 4
  | .l => 2
  | .vhf => 12

/-- The locals of `fc2580_set_freq` that the synthesizer is programmed from. -/
structure Fc2580Plan where
  fVco : UInt32
  rVal : UInt32
  nVal : UInt32
  kVal : UInt32

/-- The arithmetic of `fc2580_set_freq`. -/
def fc2580Plan (fLo freqXtal : UInt32) : Faulty Fc2580Plan := do
  let fVco := fLo * (fc2580Band fLo).multiple
  let rVal := if 2 * 76 * freqXtal ≤ fVco then 1 else if 76 * freqXtal ≤ fVco then 2 else 4
  let fComp := freqXtal / rVal
  let nVal ← divide (fVco / 2) fComp
  let fDiff := fVco - 2 * fComp * nVal
  let fDiffShifted := fDiff <<< 16
  let kVal ← divide fDiffShifted ((2 * fComp) >>> 4)
  let rounded := fComp >>> 4 ≤ fDiffShifted - kVal * ((2 * fComp) >>> 4)
  return ⟨fVco, rVal, nVal, if rounded then kVal + 1 else kVal⟩

/-- `data_0x02` -/
def fc2580Data0x02 (band : Fc2580BandType) (fVco : UInt32) : UInt8 :=
  let data := if 2600000 ≤ fVco then 0x0E ||| 0x08 else 0x0E &&& 0xF7
  match band with
  | .uhf => data &&& 0x3F
  | .vhf => (data &&& 0x3F) ||| 0x80
  | .l => (data &&& 0x3F) ||| 0x40

/-- What `fc2580_set_freq` writes for the band, before it sets the filter. -/
def fc2580BandWrites (fLo : UInt32) : Fc2580BandType → List (UInt8 × UInt8)
  | .uhf =>
      [(0x25, 0xF0), (0x27, 0x77), (0x28, 0x53), (0x29, 0x60), (0x30, 0x09), (0x50, 0x8C),
        (0x53, 0x50), (0x5F, if fLo < 538000 then 0x13 else 0x15)]
      ++ (if fLo < 538000 then
          [(0x61, 0x07), (0x62, 0x06), (0x67, 0x06), (0x68, 0x08), (0x69, 0x10), (0x6A, 0x12)]
        else if fLo < 794000 then
          [(0x61, 0x03), (0x62, 0x03), (0x67, 0x03), (0x68, 0x05), (0x69, 0x0C), (0x6A, 0x0E)]
        else
          [(0x61, 0x07), (0x62, 0x06), (0x67, 0x07), (0x68, 0x09), (0x69, 0x10), (0x6A, 0x12)])
      ++ [(0x63, 0x15), (0x6B, 0x0B), (0x6C, 0x0C), (0x6D, 0x78), (0x6E, 0x32), (0x6F, 0x14)]
  | .vhf =>
      [(0x27, 0x77), (0x28, 0x33), (0x29, 0x40), (0x30, 0x09), (0x50, 0x8C), (0x53, 0x50),
        (0x5F, 0x0F), (0x61, 0x07), (0x62, 0x00), (0x63, 0x15), (0x67, 0x03), (0x68, 0x05),
        (0x69, 0x10), (0x6A, 0x12), (0x6B, 0x08), (0x6C, 0x0A), (0x6D, 0x78), (0x6E, 0x32),
        (0x6F, 0x54)]
  | .l =>
      [(0x2B, 0x70), (0x2C, 0x37), (0x2D, 0xE7), (0x30, 0x09), (0x44, 0x20), (0x50, 0x8C),
        (0x53, 0x50), (0x5F, 0x0F), (0x61, 0x0F), (0x62, 0x00), (0x63, 0x13), (0x67, 0x00),
        (0x68, 0x02), (0x69, 0x0C), (0x6A, 0x0E), (0x6B, 0x08), (0x6C, 0x0A), (0x6D, 0xA0),
        (0x6E, 0x50), (0x6F, 0x14)]

/-- The filter that `fc2580_set_freq` sets for the band. -/
def Fc2580BandType.filterBw : Fc2580BandType → UInt8
  | .uhf => 8
  | .vhf => 7
  | .l => 1

/-- What `fc2580_set_freq` writes to the synthesizer. -/
def fc2580PllWrites (band : Fc2580BandType) (plan : Fc2580Plan) : List (UInt8 × UInt8) :=
  let reference : UInt8 := if plan.rVal = 1 then 0x00 else if plan.rVal = 2 then 0x10 else 0x20
  [(0x02, fc2580Data0x02 band plan.fVco), (0x18, reference + (plan.kVal >>> 16).toUInt8),
    (0x1A, (plan.kVal >>> 8).toUInt8), (0x1B, plan.kVal.toUInt8), (0x1C, plan.nVal.toUInt8)]

/-- `fc2580_set_freq` -/
def fc2580SetFreq (fLo freqXtal : UInt32) : Fc2580 Fc2580FciResult := do
  let band := fc2580Band fLo
  let plan ← fc2580Plan fLo freqXtal
  let banded ← fc2580I2cWrites (fc2580BandWrites fLo band)
  let filtered ← fc2580SetFilter band.filterBw freqXtal
  let divided ← fc2580I2cWrites (if 28000 ≤ freqXtal then [(0x4B, 0x22)] else [])
  let programmed ← fc2580I2cWrites (fc2580PllWrites band plan)
  let loaded ← fc2580I2cWrites
    (if band = .uhf then [(0x2D, if fLo ≤ 794000 then 0x9F else 0x8F)] else [])
  return (((banded.and filtered).and divided).and programmed).and loaded

-----------------------------------------------------------------------------------------
-- The functions that are called
-----------------------------------------------------------------------------------------

/-- `CrystalFreqKhz`, of `CRYSTAL_FREQ` -/
def crystalFreqKhz : UInt32 := (16384000 + 500) / 1000

/-- `FUNCTION_SUCCESS` and `FUNCTION_ERROR` -/
def functionStatus : Fc2580FciResult → Int32
  | .success => 0
  | .fail => 1

/-- `fc2580_Initialize`, in the mode `FC2580_AGC_EXTERNAL` -/
def fc2580Initialize : Fc2580 Int32 := do
  return functionStatus (← fc2580SetInit 2 crystalFreqKhz)

/-- The size of an `unsigned long`. -/
inductive UnsignedLong
  | bits32
  | bits64
  deriving DecidableEq, Repr

/-- The `RfFreqKhz` of `fc2580_SetRfFreqHz`, which is called with a `uint32_t`. -/
def UnsignedLong.rfFreqKhz (rfFreqHz : UInt32) : UnsignedLong → UInt32
  | .bits32 => (rfFreqHz + 500) / 1000
  | .bits64 => ((rfFreqHz.toUInt64 + 500) / 1000).toUInt32

/-- `fc2580_SetRfFreqHz` -/
def fc2580SetRfFreqHz (long : UnsignedLong) (rfFreqHz : UInt32) : Fc2580 Int32 := do
  return functionStatus (← fc2580SetFreq (long.rfFreqKhz rfFreqHz) crystalFreqKhz)

/-- `fc2580_SetBandwidthMode` -/
def fc2580SetBandwidthMode (bandwidthMode : Int32) : Fc2580 Int32 := do
  return functionStatus (← fc2580SetFilter bandwidthMode.toUInt32.toUInt8 crystalFreqKhz)

/-- The functions of the `rtlsdr_tuner_iface_t` of this tuner. -/
inductive Fc2580Call
  | init
  | exit
  | setFreq (freq : UInt32)
  | setBw (bw : Int32)
  | setGain (gain : Int32)
  | setGainMode (manual : Int32)
  deriving DecidableEq, Repr

/-- `fc2580_init`, `fc2580_exit`, `_fc2580_set_freq`, `fc2580_set_bw`, `fc2580_set_gain` and
`fc2580_set_gain_mode`
-/
def Fc2580Call.returns (long : UnsignedLong) : Fc2580Call → Fc2580 Int32
  | .init => fc2580Initialize
  | .exit => return 0
  | .setFreq freq => fc2580SetRfFreqHz long freq
  | .setBw _ => fc2580SetBandwidthMode 1
  | .setGain _ => return 0
  | .setGainMode _ => return 0

/-- A call, where what it returns is an error unless it is zero. -/
def Fc2580Call.program (long : UnsignedLong) (call : Fc2580Call) : Fc2580 Unit := do
  let status ← call.returns long
  Program.require (status = 0) status

-----------------------------------------------------------------------------------------
-- What is written
-----------------------------------------------------------------------------------------

/-- A transfer moves all its bytes or returns an error. -/
def Environment.Bus.AllOrError {κ : Type} (environment : Environment.Bus κ) : Prop :=
  ∀ number len,
    environment.returns number len = Int32.ofNat len ∨ environment.returns number len < 0

/-- Entries are written, with a result that says whether all of them were. -/
structure Wrote (environment : Environment.Bus Unit) (entries : List (UInt8 × UInt8))
    (result : Fc2580FciResult) (before after : UInt8 → UInt8)
    : Prop where
  whole : result = .success → after = written before entries
  spared : ∀ reg, Spared entries reg → after reg = before reg
  moved : environment.Moves → result = .success

section Writes

variable {environment : Environment.Bus Unit} {before between after : UInt8 → UInt8}
  {entries more : List (UInt8 × UInt8)} {result result' : Fc2580FciResult}
  {bus : Bus Unit} {reg val : UInt8}

/-- A run that writes nothing has written no entries. Witness: the registers are the same. -/
theorem Wrote.nothing : Wrote environment [] .success before before :=
  ⟨fun _ => rfl, fun _ _ => rfl, fun _ => rfl⟩

/-- Two results combine to success only when both are. Witness: the four combinations. -/
theorem Fc2580FciResult.and_eq_success
    : result.and result' = .success ↔ result = .success ∧ result' = .success := by
  cases result <;> simp [Fc2580FciResult.and]

/-- The entries of two runs one after the other are the two lists joined. Witness: field by
field; a register spared by the joined list is spared by both.
-/
theorem Wrote.append (first : Wrote environment entries result before between)
    (next : Wrote environment more result' between after)
    : Wrote environment (entries ++ more) (result.and result') before after where
  whole succeeded := by
    obtain ⟨one, other⟩ := Fc2580FciResult.and_eq_success.mp succeeded
    rw [next.whole other, first.whole one, written_append]
  spared reg apart := by
    obtain ⟨one, other⟩ := spared_append.mp apart
    rw [next.spared reg other, first.spared reg one]
  moved moves := Fc2580FciResult.and_eq_success.mpr ⟨first.moved moves, next.moved moves⟩

/-- Whatever transfers return, a function writes entries of which an assertion holds. -/
def Writes (environment : Environment.Bus Unit) (program : Fc2580 Fc2580FciResult)
    (holds : List (UInt8 × UInt8) → Prop)
    : Prop :=
  ∀ bus,
    program.Leads environment
      (fun result later =>
        ∃ entries,
          holds entries ∧ Wrote environment entries result bus.registers later.registers)
      (fun _ _ => False) bus

/-- A message of one value stores the one entry. Witness: the register itself, then the
others.
-/
theorem stored_single (registers : UInt8 → UInt8)
    : stored registers reg [val] = written registers [(reg, val)] := by
  funext other
  by_cases same : other = reg
  · subst same
    rw [stored_self]
    exact (@written_last _ _ registers [] [] other val _ spared_nil).symm
  · rw [stored_other same]
    exact (written_of_spared (by simpa [Spared] using same)).symm

/-- Where all bytes move, no transfer of a few of them fails. -/
theorem Environment.Bus.Moves.not_failed (moves : environment.Moves) {number len : Nat}
    (few : len < 128)
    : ¬ environment.returns number len < 0 := by
  rw [moves, Int32.lt_iff_toInt_lt, Int32.toInt_ofNat_of_lt (by omega)]
  exact Int.not_lt.mpr (Int.natCast_nonneg len)

/-- A single write writes its entry. Witness: the transfer either moves whole, and stores it,
or fails, and leaves the registers.
-/
theorem fc2580I2cWrite_writes (whole : environment.AllOrError) (reg val : UInt8)
    : Writes environment (fc2580I2cWrite reg val) (· = [(reg, val)]) := by
  intro bus
  refine Program.leads_bind.mpr ((rtlsdrI2cWriteFn_leads reg [val]).mpr ?_)
  have spared (reg' : UInt8) (apart : Spared [(reg, val)] reg')
      : (bus.sent environment reg [val]).registers reg' = bus.registers reg' := by
    unfold Bus.sent
    split
    · exact stored_other (by simpa [Spared] using apart)
    · rfl
  split
  next failed =>
    exact Program.leads_pure.mpr
      ⟨_, rfl, (fun written => by cases written), spared,
        fun moves => absurd failed (moves.not_failed (by simp))⟩
  next succeeded =>
    refine Program.leads_pure.mpr ⟨_, rfl, fun _ => ?_, spared, fun _ => rfl⟩
    have moved := (whole bus.transfers 2).resolve_right succeeded
    exact (if_pos moved).trans (stored_single bus.registers)

/-- A function is called after entries were written. -/
theorem Writes.next {program : Fc2580 Fc2580FciResult} {holds : List (UInt8 × UInt8) → Prop}
    (writes : Writes environment program holds) {β : Type} {rest : Fc2580FciResult → Fc2580 β}
    {returns : β → Bus Unit → Prop}
    (sofar : Wrote environment entries result before bus.registers)
    (goes
      : ∀ result' later more,
          holds more
          → Wrote environment (entries ++ more) (result.and result') before later.registers
          → (rest result').Leads environment returns (fun _ _ => False) later)
    : (program >>= rest).Leads environment returns (fun _ _ => False) bus := by
  refine Program.leads_bind.mpr ((writes bus).weaken ?_ fun _ _ failed => failed)
  rintro result' later ⟨more, known, wrote⟩
  exact goes result' later more known (sofar.append wrote)

/-- A run of writes writes its entries in order. Witness: induction on the entries. -/
theorem fc2580I2cWrites_writes (whole : environment.AllOrError)
    (entries : List (UInt8 × UInt8))
    : Writes environment (fc2580I2cWrites entries) (· = entries) := by
  induction entries with
  | nil => exact fun bus => Program.leads_pure.mpr ⟨[], rfl, .nothing⟩
  | cons entry rest ih =>
      intro bus
      refine (fc2580I2cWrite_writes whole entry.1 entry.2).next .nothing ?_
      rintro result later _ rfl wrote
      refine ih.next wrote ?_
      rintro others last _ rfl wrote
      exact Program.leads_pure.mpr ⟨_, rfl, wrote⟩

/-- Reading addresses a register, and changes none. -/
theorem fc2580I2cRead_leads (reg readData : UInt8) (bus : Bus Unit)
    : (fc2580I2cRead reg readData).Leads environment
        (fun answer later => Wrote environment [] answer.1 bus.registers later.registers)
        (fun _ _ => False) bus := by
  have same : (bus.sent environment reg []).registers = bus.registers := by
    unfold Bus.sent
    split <;> rfl
  refine Program.leads_bind.mpr ((rtlsdrI2cWriteFn_leads reg []).mpr ?_)
  split
  next failed =>
    exact Program.leads_pure.mpr
      ⟨nofun, fun _ _ => congrFun same _, fun moves =>
        absurd failed (moves.not_failed (by decide))⟩
  next =>
    refine Program.leads_bind.mpr ((rtlsdrI2cReadFn_leads 1).mpr ?_)
    simp only []
    split
    next failed =>
      exact Program.leads_pure.mpr
        ⟨nofun, fun _ _ => congrFun same _, fun moves =>
        absurd failed (moves.not_failed (by decide))⟩
    next =>
      exact Program.leads_pure.mpr ⟨fun _ => same, fun _ _ => congrFun same _, fun _ => rfl⟩

/-- The calibration writes to the register that starts it only. By induction on the rounds. -/
theorem fc2580Calibrate_writes (whole : environment.AllOrError) (rounds : Nat) (calMon : UInt8)
    : Writes environment (fc2580Calibrate rounds calMon) (∀ entry ∈ ·, entry.1 = 0x2E) := by
  induction rounds generalizing calMon with
  | zero => exact fun bus => Program.leads_pure.mpr ⟨[], nofun, .nothing⟩
  | succ rounds ih =>
      intro bus
      refine Program.leads_bind.mpr
        ((fc2580I2cRead_leads 0x2F calMon bus).weaken ?_ fun _ _ failed => failed)
      rintro ⟨result, calMon⟩ later wrote
      simp only []
      split
      · refine (fc2580I2cWrites_writes whole _).next wrote ?_
        rintro restarted between _ rfl wrote
        refine (ih calMon).next wrote fun others last more known wrote => ?_
        refine Program.leads_pure.mpr ⟨_, fun entry member => ?_, wrote⟩
        rcases List.mem_append.mp member with first | rest
        · rcases List.mem_cons.mp first with rfl | second
          · rfl
          · rw [List.mem_singleton.mp second]
        · exact known entry rest
      · exact Program.leads_pure.mpr ⟨[], nofun, wrote⟩

/-- The filter is selected, then calibrated. -/
def SetsFilter (filterBw : UInt8) (entries : List (UInt8 × UInt8)) : Prop :=
  ∃ rounds,
    entries = fc2580FilterWrites filterBw crystalFreqKhz ++ rounds ++ [(0x2E, 0x01)]
    ∧ ∀ entry ∈ rounds, entry.1 = 0x2E

/-- Setting the filter writes its table, the calibration's entries and the closing entry.
Witness: the three parts one after the other.
-/
theorem fc2580SetFilter_writes (whole : environment.AllOrError) (filterBw : UInt8)
    : Writes environment (fc2580SetFilter filterBw crystalFreqKhz) (SetsFilter filterBw) := by
  intro bus
  refine (fc2580I2cWrites_writes whole _).next .nothing ?_
  rintro selected _ _ rfl wrote
  refine (fc2580Calibrate_writes whole 5 0).next wrote fun calibrated _ rounds known wrote => ?_
  refine (fc2580I2cWrite_writes whole 0x2E 0x01).next wrote ?_
  rintro stopped last _ rfl wrote
  exact Program.leads_pure.mpr ⟨_, ⟨rounds, rfl, known⟩, wrote⟩

end Writes

-----------------------------------------------------------------------------------------
-- The frequency of the synthesizer
-----------------------------------------------------------------------------------------

/-- The divider of the crystal that the bits 0x30 of register 0x18 select. -/
def referenceDivider (reg18 : UInt8) : Nat :=
  if reg18 &&& 0x30 = 0x00 then 1 else if reg18 &&& 0x30 = 0x10 then 2 else 4

/-- What the bits 0xC0 of register 0x02 divide the oscillator by. -/
def outputDivider (reg02 : UInt8) : Nat :=
  if reg02 &&& 0xC0 = 0x80 then 12 else if reg02 &&& 0xC0 = 0x40 then 2 else 4

/-- The ratio in the registers, in parts of 1048576. -/
def dividerRatio (registers : UInt8 → UInt8) : Nat :=
  (registers 0x1C).toNat * 1048576 + (registers 0x18 &&& 0x0F).toNat * 65536
  + (registers 0x1A).toNat * 256 + (registers 0x1B).toNat

/-- The registers have the synthesizer run at a number of kHz exactly. -/
def Synthesizes (registers : UInt8 → UInt8) (kHz : Nat) : Prop :=
  outputDivider (registers 0x02) * kHz * 1048576 * referenceDivider (registers 0x18)
    = 2 * 16384 * dividerRatio registers

/-- The synthesizer runs within half a kHz of a frequency. -/
def RunsAt (registers : UInt8 → UInt8) (freq : UInt32) : Prop :=
  ∃ kHz, Synthesizes registers kHz ∧ kHz * 1000 ≤ freq.toNat + 500 ∧ freq.toNat < kHz * 1000 + 500

/-- The registers have one frequency. -/
theorem Synthesizes.unique {registers : UInt8 → UInt8} {kHz kHz' : Nat}
    (runs : Synthesizes registers kHz) (runs' : Synthesizes registers kHz')
    : kHz = kHz' := by
  have output : 0 < outputDivider (registers 0x02) := by
    unfold outputDivider
    split
    · decide
    · split <;> decide
  have reference : 0 < referenceDivider (registers 0x18) := by
    unfold referenceDivider
    split
    · decide
    · split <;> decide
  have same := Nat.mul_right_cancel reference (runs.trans runs'.symm)
  exact Nat.mul_left_cancel output (Nat.mul_right_cancel (by decide) same)

section Plans

/-- A power of two divides what is left of a frequency, and shifted by 16 bits leaves none. -/
theorem fraction_exact {comp : Nat} (power : comp = 16384 ∨ comp = 8192 ∨ comp = 4096)
    (vco : Nat)
    : 2 * comp * (vco / 2 / comp) ≤ vco
      ∧ vco - 2 * comp * (vco / 2 / comp) < 32768
      ∧ (vco - 2 * comp * (vco / 2 / comp)) * 65536 / (comp / 8) < 1048576
      ∧ (vco - 2 * comp * (vco / 2 / comp)) * 65536 / (comp / 8) * (comp / 8)
        = (vco - 2 * comp * (vco / 2 / comp)) * 65536
      ∧ vco * 1048576
        = 2 * comp
          * (vco / 2 / comp * 1048576
            + (vco - 2 * comp * (vco / 2 / comp)) * 65536 / (comp / 8)) := by
  rcases power with rfl | rfl | rfl <;> omega

/-- The ratio is exact, so that nothing is left to round. -/
theorem ratio_exact {fVco fComp kVal : UInt32}
    (power : fComp = 16384 ∨ fComp = 8192 ∨ fComp = 4096)
    (fraction
      : kVal = ((fVco - 2 * fComp * (fVco / 2 / fComp)) <<< 16) / ((2 * fComp) >>> 4))
    : ¬ fComp >>> 4
          ≤ ((fVco - 2 * fComp * (fVco / 2 / fComp)) <<< 16) - kVal * ((2 * fComp) >>> 4)
      ∧ kVal.toNat < 1048576
      ∧ fVco.toNat * 1048576
        = 2 * fComp.toNat * ((fVco / 2 / fComp).toNat * 1048576 + kVal.toNat) := by
  have below := fVco.toNat_lt
  have known : fComp.toNat = 16384 ∨ fComp.toNat = 8192 ∨ fComp.toNat = 4096 := by
    rcases power with rfl | rfl | rfl <;> decide
  have double : (2 * fComp).toNat = 2 * fComp.toNat := by
    rcases power with rfl | rfl | rfl <;> rfl
  have sixteenth : ((2 * fComp) >>> 4).toNat = fComp.toNat / 8 := by
    rcases power with rfl | rfl | rfl <;> rfl
  have half : (fComp >>> 4).toNat = fComp.toNat / 16 := by
    rcases power with rfl | rfl | rfl <;> rfl
  have ratio : (fVco / 2 / fComp).toNat = fVco.toNat / 2 / fComp.toNat := by
    rw [UInt32.toNat_div, UInt32.toNat_div]
    rfl
  obtain ⟨least, small, fits, divides, same⟩ := fraction_exact known fVco.toNat
  have whole
      : (2 * fComp * (fVco / 2 / fComp)).toNat
        = 2 * fComp.toNat * (fVco.toNat / 2 / fComp.toNat) := by
    rw [UInt32.toNat_mul, double, ratio]
    exact Nat.mod_eq_of_lt (Nat.lt_of_le_of_lt least below)
  have diff
      : (fVco - 2 * fComp * (fVco / 2 / fComp)).toNat
        = fVco.toNat - 2 * fComp.toNat * (fVco.toNat / 2 / fComp.toNat) := by
    rw [UInt32.toNat_sub_of_le _ _ (by rw [UInt32.le_iff_toNat_le, whole]; exact least), whole]
  have room
      : (fVco.toNat - 2 * fComp.toNat * (fVco.toNat / 2 / fComp.toNat)) * 65536
        < 4294967296 := by
    omega
  have shifted
      : ((fVco - 2 * fComp * (fVco / 2 / fComp)) <<< 16).toNat
        = (fVco.toNat - 2 * fComp.toNat * (fVco.toNat / 2 / fComp.toNat)) * 65536 := by
    rw [UInt32.toNat_shiftLeft, diff, Nat.shiftLeft_eq]
    exact Nat.mod_eq_of_lt room
  have value
      : kVal.toNat
        = (fVco.toNat - 2 * fComp.toNat * (fVco.toNat / 2 / fComp.toNat)) * 65536
          / (fComp.toNat / 8) := by
    rw [fraction, UInt32.toNat_div, shifted, sixteenth]
  have product
      : kVal * ((2 * fComp) >>> 4) = (fVco - 2 * fComp * (fVco / 2 / fComp)) <<< 16 := by
    rw [← UInt32.toNat_inj, UInt32.toNat_mul, value, sixteenth, divides, shifted]
    exact Nat.mod_eq_of_lt room
  refine ⟨?_, value ▸ fits, ?_⟩
  · rw [product, UInt32.sub_self, UInt32.le_iff_toNat_le, half]
    change ¬ _ ≤ 0
    omega
  · rw [ratio, value]
    exact same

/-- The dividers of a plan that the synthesizer of a crystal of 16384 kHz runs at exactly. -/
structure Fc2580Plan.Exact (plan : Fc2580Plan) (fLo : UInt32) : Prop where
  oscillator : plan.fVco.toNat = (fc2580Band fLo).multiple.toNat * fLo.toNat
  reference : plan.rVal = 1 ∨ plan.rVal = 2 ∨ plan.rVal = 4
  range : plan.rVal = 1 ∨ plan.fVco.toNat * plan.rVal.toNat < 8388608
  fraction : plan.kVal.toNat < 1048576
  ratio
    : plan.fVco.toNat * 1048576 * plan.rVal.toNat
      = 2 * 16384 * (plan.nVal.toNat * 1048576 + plan.kVal.toNat)

/-- Every frequency below two GHz, in kHz, has an exact plan. -/
theorem fc2580Plan_exact {fLo : UInt32} (fits : fLo.toNat < 2147483648)
    : ∃ plan, fc2580Plan fLo crystalFreqKhz = .ok plan ∧ plan.Exact fLo := by
  have oscillator
      : (fLo * (fc2580Band fLo).multiple).toNat
        = (fc2580Band fLo).multiple.toNat * fLo.toNat := by
    rw [UInt32.toNat_mul, Nat.mul_comm]
    refine Nat.mod_eq_of_lt ?_
    unfold fc2580Band
    simp only [UInt32.lt_iff_toNat_lt]
    change _ < 4294967296
    split
    · change 2 * _ < _
      omega
    next low =>
      replace low : ¬ 1000000 < fLo.toNat := low
      split
      · change 4 * _ < _
        omega
      next lower =>
        replace lower : ¬ 400000 < fLo.toNat := lower
        change 12 * _ < _
        omega
  have planned {rVal : UInt32} (power : rVal = 1 ∨ rVal = 2 ∨ rVal = 4)
      (chosen
        : (if 2 * 76 * crystalFreqKhz ≤ fLo * (fc2580Band fLo).multiple then 1
          else if 76 * crystalFreqKhz ≤ fLo * (fc2580Band fLo).multiple then 2
          else 4)
          = rVal)
      : ∃ plan, fc2580Plan fLo crystalFreqKhz = .ok plan ∧ plan.Exact fLo := by
    have comparison
        : crystalFreqKhz / rVal = 16384
          ∨ crystalFreqKhz / rVal = 8192
          ∨ crystalFreqKhz / rVal = 4096 := by
      rcases power with rfl | rfl | rfl <;> decide
    have nonzero : crystalFreqKhz / rVal ≠ 0 ∧ (2 * (crystalFreqKhz / rVal)) >>> 4 ≠ 0 := by
      rcases power with rfl | rfl | rfl <;> decide
    have divides : (crystalFreqKhz / rVal).toNat * rVal.toNat = 16384 := by
      rcases power with rfl | rfl | rfl <;> rfl
    have range : rVal = 1 ∨ (fLo * (fc2580Band fLo).multiple).toNat * rVal.toNat < 8388608 := by
      rw [← chosen]
      split
      · exact .inl rfl
      next below =>
        replace below := Nat.not_le.mp (mt UInt32.le_iff_toNat_le.mpr below)
        change _ < 2490368 at below
        split
        · refine .inr ?_
          change _ * 2 < _
          omega
        next below =>
          replace below := Nat.not_le.mp (mt UInt32.le_iff_toNat_le.mpr below)
          change _ < 1245184 at below
          refine .inr ?_
          change _ * 4 < _
          omega
    obtain ⟨unrounded, small, ratio⟩ :=
      @ratio_exact (fLo * (fc2580Band fLo).multiple) (crystalFreqKhz / rVal) _ comparison rfl
    unfold fc2580Plan
    simp only [chosen]
    rw [divide_of_ne nonzero.1, ok_bind, divide_of_ne nonzero.2, ok_bind]
    refine ⟨_, rfl, oscillator, power, range, ?_, ?_⟩
    · exact (congrArg UInt32.toNat (if_neg unrounded)).trans_lt small
    · rw [if_neg unrounded, ratio, ← divides]
      ring
  exact planned (by split; exact .inl rfl; split; exact .inr (.inl rfl); exact .inr (.inr rfl)) rfl

/-- Of an exact ratio, eight bits of the whole part are left. -/
theorem ratio_wraps {multiple kHz reference whole fraction : Nat}
    (multiples
      : multiple = 2 ∨ multiple = 4 ∧ kHz ≤ 1000000 ∨ multiple = 12 ∧ kHz ≤ 400000)
    (range : reference = 1 ∨ multiple * kHz * reference < 8388608) (positive : 0 < reference)
    (fits : kHz ≤ 4294967) (small : fraction < 1048576)
    (ratio
      : multiple * kHz * 1048576 * reference = 2 * 16384 * (whole * 1048576 + fraction))
    : multiple * (kHz % 4194304) * 1048576 * reference
      = 2 * 16384 * (whole % 256 * 1048576 + fraction) := by
  rcases Nat.lt_or_ge whole 256 with few | many
  · have low : multiple * kHz * reference < 8388608 := by
      refine Nat.lt_of_mul_lt_mul_left (a := 1048576) ?_
      calc 1048576 * (multiple * kHz * reference) = multiple * kHz * 1048576 * reference := by ring
        _ = 2 * 16384 * (whole * 1048576 + fraction) := ratio
        _ < 1048576 * 8388608 := by omega
    have least : 2 * kHz ≤ multiple * kHz * reference :=
      (Nat.mul_le_mul_right kHz (by omega)).trans (Nat.le_mul_of_pos_right _ positive)
    rw [Nat.mod_eq_of_lt (by omega), Nat.mod_eq_of_lt few]
    exact ratio
  · obtain one : reference = 1 := by
      refine range.resolve_right fun low => ?_
      have product
          : 1048576 * (multiple * kHz * reference) = 2 * 16384 * (whole * 1048576 + fraction) := by
        rw [← ratio]
        ring
      omega
    subst one
    have two : multiple = 2 ∧ 4194304 ≤ kHz := by
      obtain rfl | ⟨rfl, bound⟩ | ⟨rfl, bound⟩ := multiples
      · exact ⟨rfl, by omega⟩
      · omega
      · omega
    obtain ⟨rfl, reached⟩ := two
    obtain ⟨kHz, rfl⟩ := Nat.exists_eq_add_of_le reached
    obtain ⟨whole, rfl⟩ := Nat.exists_eq_add_of_le many
    have less : (4194304 + kHz) % 4194304 = kHz := by omega
    have less' : (256 + whole) % 256 = whole := by omega
    rw [less, less']
    linarith only [ratio]

/-- The three bands multiply the frequency by 2, 4 or 12, the latter two only below their
limits. Witness: the two tests on the frequency.
-/
theorem fc2580Band_multiple (fLo : UInt32)
    : (fc2580Band fLo).multiple.toNat = 2
      ∨ (fc2580Band fLo).multiple.toNat = 4 ∧ fLo.toNat ≤ 1000000
      ∨ (fc2580Band fLo).multiple.toNat = 12 ∧ fLo.toNat ≤ 400000 := by
  unfold fc2580Band
  split
  · exact .inl rfl
  next low =>
    split
    · exact .inr (.inl ⟨rfl, Nat.not_lt.mp low⟩)
    next lower => exact .inr (.inr ⟨rfl, Nat.not_lt.mp lower⟩)

/-- The divider of the output is that of the band. -/
theorem outputDivider_data (band : Fc2580BandType) (fVco : UInt32)
    : outputDivider (fc2580Data0x02 band fVco) = band.multiple.toNat := by
  unfold fc2580Data0x02
  cases band <;> (simp only []; split <;> decide)

/-- The upper bits of the register of the reference are its divider, the lower ones of the
fraction.
-/
theorem referenceDivider_data {rVal kVal : UInt32} (power : rVal = 1 ∨ rVal = 2 ∨ rVal = 4)
    (small : kVal.toNat < 1048576)
    : let reference : UInt8 := if rVal = 1 then 0x00 else if rVal = 2 then 0x10 else 0x20
      referenceDivider (reference + (kVal >>> 16).toUInt8) = rVal.toNat
      ∧ ((reference + (kVal >>> 16).toUInt8) &&& 0x0F).toNat = kVal.toNat / 65536 := by
  have part : (kVal >>> 16).toUInt8 = UInt8.ofNat (kVal.toNat / 65536) := by
    rw [← UInt8.toNat_inj, UInt32.toNat_toUInt8, UInt32.toNat_shiftRight,
      Nat.shiftRight_eq_div_pow]
    rfl
  have few : kVal.toNat / 65536 < 16 := by omega
  rw [part]
  revert few
  generalize kVal.toNat / 65536 = high
  revert high
  rcases power with rfl | rfl | rfl <;> decide

/-- What the fraction is put together from. -/
theorem fraction_bytes (kVal : UInt32)
    : kVal.toNat / 65536 * 65536 + (kVal >>> 8).toUInt8.toNat * 256 + kVal.toUInt8.toNat
      = kVal.toNat := by
  have middle : (kVal >>> 8).toUInt8.toNat = kVal.toNat / 256 % 256 := by
    rw [UInt32.toNat_toUInt8, UInt32.toNat_shiftRight, Nat.shiftRight_eq_div_pow]
    rfl
  have low : kVal.toUInt8.toNat = kVal.toNat % 256 := UInt32.toNat_toUInt8 kVal
  rw [middle, low]
  omega

/-- Registers that hold an exact plan run at its frequency, up to the eight bits of the ratio. -/
theorem Fc2580Plan.Exact.synthesizes {plan : Fc2580Plan} {fLo : UInt32} (exact_ : plan.Exact fLo)
    (fits : fLo.toNat ≤ 4294967) {registers : UInt8 → UInt8}
    (holds
      : ∀ entry ∈ fc2580PllWrites (fc2580Band fLo) plan, registers entry.1 = entry.2)
    : Synthesizes registers (fLo.toNat % 4194304) := by
  obtain ⟨oscillator, reference, range, small, ratio⟩ := exact_
  obtain ⟨divides, high⟩ := referenceDivider_data reference small
  have bytes := fraction_bytes plan.kVal
  have below := plan.nVal.toNat_lt
  simp only [fc2580PllWrites, List.forall_mem_cons] at holds
  obtain ⟨output, high', middle, low, whole, -⟩ := holds
  have divider : (registers 0x1C).toNat = plan.nVal.toNat % 256 := by
    rw [whole, UInt32.toNat_toUInt8]
  have total
      : dividerRatio registers = plan.nVal.toNat % 256 * 1048576 + plan.kVal.toNat := by
    rw [dividerRatio, high', middle, low, divider, high]
    linarith only [bytes]
  rw [Synthesizes, output, outputDivider_data, high', divides, total]
  have positive : 0 < plan.rVal.toNat := by
    rcases reference with one | two | four
    · rw [one]
      decide
    · rw [two]
      decide
    · rw [four]
      decide
  have range' : plan.rVal.toNat = 1 ∨ plan.fVco.toNat * plan.rVal.toNat < 8388608 :=
    range.imp_left fun one => congrArg UInt32.toNat one
  rw [oscillator] at ratio range'
  exact ratio_wraps (fc2580Band_multiple fLo) range' positive fits small ratio

end Plans

-----------------------------------------------------------------------------------------
-- What the functions leave behind
-----------------------------------------------------------------------------------------

/-- A filter is selected and its calibration is stopped. -/
structure Filters (registers : UInt8 → UInt8) (filterBw : UInt8) : Prop where
  selected
    : ∀ entry ∈ fc2580FilterWrites filterBw crystalFreqKhz,
        entry.1 ≠ 0x2E → registers entry.1 = entry.2
  stopped : registers 0x2E = 0x01

/-- The entries of `fc2580_set_freq` for the crystal of the tuner. -/
def SetsFreq (fLo : UInt32) (entries : List (UInt8 × UInt8)) : Prop :=
  ∃ plan filter loaded,
    plan.Exact fLo
    ∧ SetsFilter (fc2580Band fLo).filterBw filter
    ∧ (∀ entry ∈ loaded, entry.1 = 0x2D)
    ∧ entries
      = fc2580BandWrites fLo (fc2580Band fLo) ++ filter
        ++ fc2580PllWrites (fc2580Band fLo) plan ++ loaded

/-- Registers of the filter. -/
def filterRegisters : List UInt8 := [0x36, 0x37, 0x39, 0x2E]

/-- Registers of the synthesizer. -/
def pllRegisters : List UInt8 := [0x02, 0x18, 0x1A, 0x1B, 0x1C]

section Registers

variable {environment : Environment.Bus Unit} {registers later : UInt8 → UInt8}
  {entries : List (UInt8 × UInt8)} {filterBw reg : UInt8}

/-- Setting a frequency below `2 ^ 31` Hz writes the band's table, the plan's PLL entries and
the filter. Witness: the plan is exact, then the three parts in order.
-/
theorem fc2580SetFreq_writes (whole : environment.AllOrError) {fLo : UInt32}
    (fits : fLo.toNat < 2147483648)
    : Writes environment (fc2580SetFreq fLo crystalFreqKhz) (SetsFreq fLo) := by
  intro bus
  obtain ⟨plan, planned, exact_⟩ := fc2580Plan_exact fits
  refine Program.leads_bind.mpr ((Program.leads_lift planned).mpr ?_)
  refine (fc2580I2cWrites_writes whole _).next .nothing ?_
  rintro banded _ _ rfl wrote
  refine (fc2580SetFilter_writes whole _).next wrote fun filtered _ filter sets wrote => ?_
  refine (fc2580I2cWrites_writes whole _).next wrote ?_
  rintro divided _ _ rfl wrote
  refine (fc2580I2cWrites_writes whole _).next wrote ?_
  rintro programmed _ _ rfl wrote
  refine (fc2580I2cWrites_writes whole _).next wrote ?_
  rintro loaded _ _ rfl wrote
  rw [if_neg (by decide), List.append_nil] at wrote
  refine Program.leads_pure.mpr ⟨_, ⟨plan, filter, _, exact_, sets, ?_, rfl⟩, wrote⟩
  intro entry member
  split at member
  · rw [List.mem_singleton.mp member]
  · cases member

/-- The entries for a filter are for the filter's registers, or there are none. Witness: one
branch per bandwidth.
-/
theorem fc2580FilterWrites_registers (filterBw : UInt8) (freqXtal : UInt32)
    : (fc2580FilterWrites filterBw freqXtal).map Prod.fst = filterRegisters
      ∨ fc2580FilterWrites filterBw freqXtal = [] := by
  unfold fc2580FilterWrites
  split
  · exact .inl rfl
  · split
    · exact .inl rfl
    · split
      · exact .inl rfl
      · split
        · exact .inl rfl
        · exact .inr rfl

/-- Setting a filter writes to the registers of the filter only. -/
theorem SetsFilter.spared (sets : SetsFilter filterBw entries) (apart : reg ∉ filterRegisters)
    : Spared entries reg := by
  obtain ⟨rounds, rfl, calibrates⟩ := sets
  have selected : Spared (fc2580FilterWrites filterBw crystalFreqKhz) reg := by
    obtain same | none := fc2580FilterWrites_registers filterBw crystalFreqKhz
    · rwa [Spared, same]
    · rw [none]
      exact spared_nil
  have calibration : reg ≠ 0x2E := fun same => apart (same ▸ by decide)
  have calibrated : Spared rounds reg := by
    intro member
    obtain ⟨entry, inside, rfl⟩ := List.mem_map.mp member
    exact calibration (calibrates entry inside)
  exact spared_append.mpr
    ⟨spared_append.mpr ⟨selected, calibrated⟩, by simpa [Spared] using calibration⟩

/-- Once a filter is set, it is selected and its calibration is stopped. -/
theorem SetsFilter.filters (sets : SetsFilter filterBw entries)
    : Filters (written registers entries) filterBw := by
  obtain ⟨rounds, rfl, calibrates⟩ := sets
  have once : ((fc2580FilterWrites filterBw crystalFreqKhz).map Prod.fst).Nodup := by
    obtain same | none := fc2580FilterWrites_registers filterBw crystalFreqKhz
    · rw [same]
      decide
    · rw [none]
      exact List.nodup_nil
  constructor
  case selected =>
    intro entry member apart
    have later : Spared rounds entry.1 := by
      intro member
      obtain ⟨other, inside, same⟩ := List.mem_map.mp member
      exact apart (same ▸ calibrates other inside)
    rw [written_append, written_of_spared (by simpa [Spared] using apart), written_append,
      written_of_spared later, written_of_mem once member]
  case stopped => exact written_last spared_nil

/-- Whether the chip filters a bandwidth depends on the filter's registers only. Witness: the
selected entries are among them.
-/
theorem Filters.congr (filters : Filters registers filterBw)
    (same : ∀ reg ∈ filterRegisters, later reg = registers reg)
    : Filters later filterBw := by
  constructor
  case selected =>
    intro entry member apart
    rw [← filters.selected entry member apart]
    refine same entry.1 ?_
    obtain known | none := fc2580FilterWrites_registers filterBw crystalFreqKhz
    · exact known ▸ List.mem_map_of_mem member
    · rw [none] at member
      cases member
  case stopped => exact (same 0x2E (by decide)).trans filters.stopped

/-- Which frequency the PLL makes depends on the PLL's registers only. Witness: each register
the formula reads is listed.
-/
theorem Synthesizes.congr {kHz : Nat} (runs : Synthesizes registers kHz)
    (same : ∀ reg ∈ pllRegisters, later reg = registers reg)
    : Synthesizes later kHz := by
  have output : later 0x02 = registers 0x02 := same _ (by decide)
  have reference : later 0x18 = registers 0x18 := same _ (by decide)
  have middle : later 0x1A = registers 0x1A := same _ (by decide)
  have low : later 0x1B = registers 0x1B := same _ (by decide)
  have whole : later 0x1C = registers 0x1C := same _ (by decide)
  rw [Synthesizes, dividerRatio, output, reference, middle, low, whole]
  exact runs

section Frequencies

variable {fLo : UInt32}

/-- Entries of register `0x2D` alone spare every other register. Witness: membership in the
list.
-/
theorem loaded_spared {loaded : List (UInt8 × UInt8)} (known : ∀ entry ∈ loaded, entry.1 = 0x2D)
    (apart : reg ≠ 0x2D)
    : Spared loaded reg := by
  intro member
  obtain ⟨entry, inside, rfl⟩ := List.mem_map.mp member
  exact apart (known entry inside)

/-- Once a frequency is set, the synthesizer runs at it. -/
theorem SetsFreq.synthesizes (sets : SetsFreq fLo entries) (fits : fLo.toNat ≤ 4294967)
    : Synthesizes (written registers entries) (fLo.toNat % 4194304) := by
  obtain ⟨plan, filter, loaded, exact_, -, known, rfl⟩ := sets
  refine exact_.synthesizes fits fun entry member => ?_
  have inside : entry.1 ∈ pllRegisters := List.mem_map_of_mem member
  have apart : entry.1 ≠ 0x2D := by
    intro same
    rw [same] at inside
    revert inside
    decide
  have once : ((fc2580PllWrites (fc2580Band fLo) plan).map Prod.fst).Nodup := by
    change pllRegisters.Nodup
    decide
  rw [written_append, written_of_spared (loaded_spared known apart), written_append,
    written_of_mem once member]

/-- Once a frequency is set, the filter of its band is. -/
theorem SetsFreq.filters (sets : SetsFreq fLo entries)
    : Filters (written registers entries) (fc2580Band fLo).filterBw := by
  obtain ⟨plan, filter, loaded, -, filters, known, rfl⟩ := sets
  have filtered
      : written registers (fc2580BandWrites fLo (fc2580Band fLo) ++ filter)
        = written (written registers (fc2580BandWrites fLo (fc2580Band fLo))) filter :=
    written_append
  rw [List.append_assoc, written_append, filtered]
  refine Filters.congr filters.filters fun reg member => written_of_spared ?_
  have apart : reg ∉ pllRegisters ∧ reg ≠ 0x2D := by
    revert reg
    decide +kernel
  exact spared_append.mpr ⟨apart.1, loaded_spared known apart.2⟩

end Frequencies

end Registers

-----------------------------------------------------------------------------------------
-- Calls
-----------------------------------------------------------------------------------------

section Calls

variable {environment : Environment.Bus Unit} {long : UnsignedLong} {bus : Bus Unit}

/-- The kHz of a frequency. Near the end of a 32-bit `unsigned long` the sum wraps around. -/
theorem rfFreqKhz_toNat (freq : UInt32)
    : (long.rfFreqKhz freq).toNat = (freq.toNat + 500) / 1000
      ∨ 4294966796 ≤ freq.toNat ∧ (long.rfFreqKhz freq).toNat = 0 := by
  have below := freq.toNat_lt
  cases long with
  | bits32 =>
      have value : (UnsignedLong.bits32.rfFreqKhz freq).toNat
          = (freq.toNat + 500) % 4294967296 / 1000 := by
        rw [UnsignedLong.rfFreqKhz, UInt32.toNat_div, UInt32.toNat_add]
        rfl
      omega
  | bits64 =>
      have value : (UnsignedLong.bits64.rfFreqKhz freq).toNat
          = (freq.toNat + 500) % 18446744073709551616 / 1000 % 4294967296 := by
        rw [UnsignedLong.rfFreqKhz, UInt64.toNat_toUInt32, UInt64.toNat_div, UInt64.toNat_add,
          UInt32.toNat_toUInt64]
        rfl
      omega

/-- A 32-bit frequency is at most 4294967 kHz. Witness: its quotient by 1000. -/
theorem rfFreqKhz_le (freq : UInt32) : (long.rfFreqKhz freq).toNat ≤ 4294967 := by
  have below := freq.toNat_lt
  have value := @rfFreqKhz_toNat long freq
  omega

/-- Registers at the kHz of a frequency, as far as eight bits of ratio go, run at it exactly if it
is low enough.
-/
theorem runsAt_iff {registers : UInt8 → UInt8} {freq : UInt32}
    (runs : Synthesizes registers ((long.rfFreqKhz freq).toNat % 4194304))
    : RunsAt registers freq ↔ freq.toNat < 4194303500 := by
  have below := freq.toNat_lt
  have value := @rfFreqKhz_toNat long freq
  constructor
  · rintro ⟨kHz, other, least, most⟩
    have same := runs.unique other
    omega
  · intro low
    exact ⟨_, runs, by omega, by omega⟩

/-- A function of the driver, as it is called. -/
theorem Writes.call {program : Fc2580 Fc2580FciResult} {holds : List (UInt8 × UInt8) → Prop}
    (writes : Writes environment program holds)
    : (do
        let status ← (do return functionStatus (← program) : Fc2580 Int32)
        Program.require (status = 0) status : Fc2580 Unit).Leads environment
        (fun _ later =>
          ∃ entries, holds entries ∧ later.registers = written bus.registers entries)
        (fun _ later =>
          ∃ entries,
            holds entries
            ∧ (∀ reg, Spared entries reg → later.registers reg = bus.registers reg)
            ∧ ¬ environment.Moves)
        bus := by
  refine Program.leads_bind.mpr (Program.leads_bind.mpr ((writes bus).weaken ?_ nofun))
  rintro result later ⟨entries, known, wrote⟩
  refine Program.leads_pure.mpr (Program.leads_require.mpr ⟨fun succeeded => ?_, fun failed => ?_⟩)
  · refine ⟨entries, known, wrote.whole ?_⟩
    cases result with
    | success => rfl
    | fail => exact absurd succeeded (by decide)
  · refine ⟨entries, known, wrote.spared, fun moves => failed ?_⟩
    rw [wrote.moved moves]
    rfl

/-- Initialization ends with the entries of the 8 MHz filter. Witness: the tables before it
are written one after the other.
-/
theorem fc2580SetInit_writes (whole : environment.AllOrError) (ifagcMode : Int32)
    : Writes environment (fc2580SetInit ifagcMode crystalFreqKhz)
        (fun entries => ∃ first filter, SetsFilter 8 filter ∧ entries = first ++ filter) := by
  intro bus
  refine (fc2580I2cWrites_writes whole _).next .nothing ?_
  rintro reset _ _ rfl wrote
  refine (fc2580I2cWrites_writes whole _).next wrote ?_
  rintro controlled _ _ rfl wrote
  refine (fc2580I2cWrites_writes whole _).next wrote ?_
  rintro started _ _ rfl wrote
  refine (fc2580SetFilter_writes whole _).next wrote fun filtered _ filter sets wrote => ?_
  exact Program.leads_pure.mpr ⟨_, ⟨_, filter, sets, rfl⟩, wrote⟩

end Calls

-----------------------------------------------------------------------------------------
-- Every run
-----------------------------------------------------------------------------------------

/-- A call that was made, with what it returned. -/
abbrev Fc2580Made := Made Fc2580Call (Bus Unit) Int32

/-- The frequency of the last tuning, if it succeeded and the tuner was not initialized after
it.
-/
def tunedTo : List Fc2580Made → Option UInt32
  | [] => none
  | made :: earlier =>
      match made.call, made.outcome with
      | .setFreq freq, .ok () => some freq
      | .setFreq _, .error _ => none
      | .init, _ => none
      | _, _ => tunedTo earlier

/-- The filter of the last call that sets one, if it succeeded. -/
def filteredBy : List Fc2580Made → UnsignedLong → Option UInt8
  | [], _ => none
  | made :: earlier, long =>
      match made.call, made.outcome with
      | .setFreq freq, .ok () => some (fc2580Band (long.rfFreqKhz freq)).filterBw
      | .setBw _, .ok () => some 1
      | .init, .ok () => some 8
      | .setFreq _, .error _ => none
      | .setBw _, .error _ => none
      | .init, .error _ => none
      | _, _ => filteredBy earlier long

/-- Registers that are as the calls made so far say. -/
structure AsCalled (long : UnsignedLong) (history : List Fc2580Made)
    (registers : UInt8 → UInt8)
    : Prop where
  tuned
    : ∀ freq,
        tunedTo history = some freq
        → Synthesizes registers ((long.rfFreqKhz freq).toNat % 4194304)
  filtered : ∀ filterBw, filteredBy history long = some filterBw → Filters registers filterBw

section Runs

variable {environment : Environment.Bus Unit} {long : UnsignedLong} {start last : Bus Unit}
  {history : List Fc2580Made}

/-- A call leaves the registers as it says. -/
theorem AsCalled.call (whole : environment.AllOrError) {made : Fc2580Made}
    (called : AsCalled long history made.before.registers)
    (ran : made.call.program long environment made.before = .ok (made.outcome, made.after))
    : AsCalled long (made :: history) made.after.registers := by
  obtain ⟨call, before, after, outcome⟩ := made
  change call.program long environment before = .ok (outcome, after) at ran
  have idle {program : Fc2580 Unit} (same : program = call.program long)
      (nothing : program environment before = .ok (.ok (), before))
      : outcome = .ok () ∧ after = before := by
    rw [← same, nothing] at ran
    cases ran
    exact ⟨rfl, rfl⟩
  cases call with
  | exit =>
      obtain ⟨rfl, rfl⟩ := idle rfl rfl
      exact ⟨called.tuned, called.filtered⟩
  | setGain gain =>
      obtain ⟨rfl, rfl⟩ := idle rfl rfl
      exact ⟨called.tuned, called.filtered⟩
  | setGainMode manual =>
      obtain ⟨rfl, rfl⟩ := idle rfl rfl
      exact ⟨called.tuned, called.filtered⟩
  | init =>
      refine ⟨nofun, ?_⟩
      cases outcome with
      | error status => exact nofun
      | ok value =>
          obtain ⟨_, ⟨first, filter, sets, rfl⟩, wrote⟩ :=
            (Program.leads_of_ok ran).mp (fc2580SetInit_writes whole 2).call
          rintro _ ⟨⟩
          rw [wrote, written_append]
          exact sets.filters
  | setBw bw =>
      cases outcome with
      | error status =>
          obtain ⟨entries, sets, spared, -⟩ :=
            (Program.leads_of_error ran).mp (fc2580SetFilter_writes whole 1).call
          refine ⟨fun freq tuned => (called.tuned freq tuned).congr fun reg member => ?_, nofun⟩
          refine spared reg (sets.spared ?_)
          revert reg
          decide +kernel
      | ok value =>
          obtain ⟨entries, sets, wrote⟩ :=
            (Program.leads_of_ok ran).mp (fc2580SetFilter_writes whole 1).call
          constructor
          case tuned =>
            refine fun freq tuned => (called.tuned freq tuned).congr fun reg member => ?_
            rw [wrote, written_of_spared (sets.spared ?_)]
            revert reg
            decide +kernel
          case filtered =>
            rintro _ ⟨⟩
            rw [wrote]
            exact sets.filters
  | setFreq freq =>
      cases outcome with
      | error status => exact ⟨nofun, nofun⟩
      | ok value =>
          have fits := @rfFreqKhz_le long freq
          obtain ⟨entries, sets, wrote⟩ :=
            (Program.leads_of_ok ran).mp (fc2580SetFreq_writes whole (by omega)).call
          constructor
          case tuned =>
            rintro _ ⟨⟩
            rw [wrote]
            exact sets.synthesizes fits
          case filtered =>
            rintro _ ⟨⟩
            rw [wrote]
            exact sets.filters

/-- Whatever is called and whichever transfers fail, the registers are as the calls made so far
say. By induction on the history.
-/
theorem asCalled (whole : environment.AllOrError)
    (made : History (Fc2580Call.program long) environment start history last)
    : AsCalled long history last.registers := by
  induction made with
  | start => exact ⟨nofun, nofun⟩
  | call earlier ran ih => exact ih.call whole ran

/-- Where all bytes move, every call succeeds. By induction on the history. -/
theorem all_succeed (moves : environment.Moves)
    (made : History (Fc2580Call.program long) environment start history last)
    : ∀ made ∈ history, made.outcome = .ok () := by
  have whole : environment.AllOrError := fun number len => .inl (moves number len)
  induction made with
  | start => exact nofun
  | call history ran ih =>
      refine List.forall_mem_cons.mpr ⟨?_, ih⟩
      rename Fc2580Made => made
      obtain ⟨call, before, after, outcome⟩ := made
      change call.program long environment before = .ok (outcome, after) at ran
      cases outcome with
      | ok value => rfl
      | error status =>
          cases call with
          | exit | setGain _ | setGainMode _ => cases ran
          | init =>
              obtain ⟨-, -, -, failed⟩ :=
                (Program.leads_of_error ran).mp (fc2580SetInit_writes whole 2).call
              exact absurd moves failed
          | setBw _ =>
              obtain ⟨-, -, -, failed⟩ :=
                (Program.leads_of_error ran).mp (fc2580SetFilter_writes whole 1).call
              exact absurd moves failed
          | setFreq freq =>
              have fits := @rfFreqKhz_le long freq
              obtain ⟨-, -, -, failed⟩ :=
                (Program.leads_of_error ran).mp (fc2580SetFreq_writes whole (by omega)).call
              exact absurd moves failed

/-- Whatever is called and whichever transfers fail, the filter is the one that was set last, and
the synthesizer runs at the frequency that it was tuned to last, exactly if that does not need
nine bits of ratio. Where all bytes move, every call succeeds.
-/
theorem fc2580_runs_as_called (whole : environment.AllOrError)
    (made : History (Fc2580Call.program long) environment start history last)
    : (∀ freq,
        tunedTo history = some freq
        → (RunsAt last.registers freq ↔ freq.toNat < 4194303500))
      ∧ (∀ filterBw,
        filteredBy history long = some filterBw → Filters last.registers filterBw)
      ∧ (environment.Moves → ∀ made ∈ history, made.outcome = .ok ()) := by
  have called := asCalled whole made
  exact ⟨fun freq tuned => runsAt_iff (called.tuned freq tuned), called.filtered,
    fun moves => all_succeed moves made⟩

/-- An environment where one transfer fails. -/
def failingAt (failing : Nat) : Environment.Bus Unit where
  config := ()
  returns number len := if number = failing then -1 else Int32.ofNat len
  reads _ _ := 0xC0

/-- A tuner is tuned to 100 MHz, then fails to set a bandwidth. -/
theorem fc2580_runs_at_100MHz
    : ∃ history last,
        History (Fc2580Call.program .bits32) (failingAt 55) ⟨fun _ => 0, 0, ()⟩ history last
        ∧ filteredBy history .bits32 = none
        ∧ RunsAt last.registers 100000000 := by
  have whole : (failingAt 55).AllOrError := by
    intro number len
    unfold failingAt
    simp only []
    split
    · exact .inr (by decide)
    · exact .inl rfl
  obtain ⟨history, last, made, tuned⟩ :=
    @exists_history _ _ _ _ (Fc2580Call.program .bits32) (failingAt 55) ⟨fun _ => 0, 0, ()⟩
      [.init, .setFreq 100000000, .setBw 0]
      (fun made => tunedTo made == some 100000000 && filteredBy made .bits32 == none)
      (by decide +kernel)
  obtain ⟨tuned, unfiltered⟩ := Bool.and_eq_true_iff.mp tuned
  have runs := (fc2580_runs_as_called whole made).1 100000000 (beq_iff_eq.mp tuned)
  exact ⟨history, last, made, beq_iff_eq.mp unfiltered, runs.mpr (by decide)⟩

end Runs

end RtlTcpAndro.Tuners
