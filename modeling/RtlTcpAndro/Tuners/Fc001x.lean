import RtlTcpAndro.Tuners.I2c

/-! The phase-locked loops of the FC0012 and FC0013, as `tuner_fc0012.c` and `tuner_fc0013.c`
program them from half the clock of the tuner, and the clocks that keep their divisors away from
zero.
-/

namespace RtlTcpAndro.Tuners

open RtlTcpAndro.Faults

-----------------------------------------------------------------------------------------
-- Registers
-----------------------------------------------------------------------------------------

/-- A function of one of the drivers, configured by what `rtlsdr_get_tuner_clock` returns. -/
abbrev Fc001x := Driver UInt32 Unit

/-- `fc0012_writereg`, `fc0013_writereg` -/
def fcWritereg (reg val : UInt8) : Fc001x Unit := do
  let rc ← rtlsdrI2cWriteFn reg [val]
  Program.require (0 ≤ rc) (-1)

/-- `fc0012_readreg`, `fc0013_readreg` -/
def fcReadreg (reg : UInt8) : Fc001x UInt8 := do
  let rc ← rtlsdrI2cWriteFn reg []
  Program.require (0 ≤ rc) (-1)
  let (rc, data) ← rtlsdrI2cReadFn 1
  Program.require (0 ≤ rc) (-1)
  return data 0

/-- Registers written one after the other. -/
def fcWriteregs : List (UInt8 × UInt8) → Fc001x Unit
  | [] => return ()
  | (reg, val) :: rest => do
      fcWritereg reg val
      fcWriteregs rest

-----------------------------------------------------------------------------------------
-- The values of the loop
-----------------------------------------------------------------------------------------

/-- `multi`, `reg[5]` and `reg[6]` -/
structure FcDivider where
  multi : UInt8
  reg5 : UInt8
  reg6 : UInt8

/-- The dividers of `fc0012_set_params`. -/
def fc0012Divider (freq : UInt32) : FcDivider :=
  if freq < 37084000 then ⟨96, 0x82, 0x00⟩
  else if freq < 55625000 then ⟨64, 0x82, 0x02⟩
  else if freq < 74167000 then ⟨48, 0x42, 0x00⟩
  else if freq < 111250000 then ⟨32, 0x42, 0x02⟩
  else if freq < 148334000 then ⟨24, 0x22, 0x00⟩
  else if freq < 222500000 then ⟨16, 0x22, 0x02⟩
  else if freq < 296667000 then ⟨12, 0x12, 0x00⟩
  else if freq < 445000000 then ⟨8, 0x12, 0x02⟩
  else if freq < 593334000 then ⟨6, 0x0a, 0x00⟩
  else ⟨4, 0x0a, 0x02⟩

/-- The dividers of `fc0013_set_params`. -/
def fc0013Divider (freq : UInt32) : FcDivider :=
  if freq < 37084000 then ⟨96, 0x82, 0x00⟩
  else if freq < 55625000 then ⟨64, 0x02, 0x02⟩
  else if freq < 74167000 then ⟨48, 0x42, 0x00⟩
  else if freq < 111250000 then ⟨32, 0x82, 0x02⟩
  else if freq < 148334000 then ⟨24, 0x22, 0x00⟩
  else if freq < 222500000 then ⟨16, 0x42, 0x02⟩
  else if freq < 296667000 then ⟨12, 0x12, 0x00⟩
  else if freq < 445000000 then ⟨8, 0x22, 0x02⟩
  else if freq < 593334000 then ⟨6, 0x0a, 0x00⟩
  else if freq < 950000000 then ⟨4, 0x12, 0x02⟩
  else ⟨2, 0x0a, 0x02⟩

/-- `reg[1]` and `reg[2]` -/
structure FcRatio where
  reg1 : UInt8
  reg2 : UInt8
  deriving DecidableEq, Repr

/-- The `reg[1]` and `reg[2]` of a ratio. -/
def ratioRegisters (xdiv : UInt16) : FcRatio :=
  let pm := (xdiv / 8).toUInt8
  let am := (xdiv - 8 * pm.toUInt16).toUInt8
  let (am, pm) := if am < 2 then (am + 8, pm - 1) else (am, pm)
  if 31 < pm then ⟨am + 8 * (pm - 31), 31⟩ else ⟨am, pm⟩

/-- The ratio of the frequency to half the clock, rounded. -/
def calculateXdiv (fVco : UInt64) (xtalFreqDiv2 : UInt32) : Faulty UInt16 := do
  let xdiv := (← divide fVco xtalFreqDiv2.toUInt64).toUInt16
  if (xtalFreqDiv2 / 2).toUInt64 ≤ fVco - (xdiv.toUInt32 * xtalFreqDiv2).toUInt64 then
    return xdiv + 1
  else return xdiv

/-- The fraction of the ratio. -/
def calculateXin (fVco : UInt64) (xtalFreqDiv2 : UInt32) : Faulty UInt16 := do
  let quotient ← divide fVco xtalFreqDiv2.toUInt64
  let xin := ((fVco - quotient * xtalFreqDiv2.toUInt64) / 1000).toUInt16
  let xin := (← divide (xin.toUInt32 <<< 15) (xtalFreqDiv2 / 1000)).toUInt16
  if 16384 ≤ xin then return xin + 32768 else return xin

/-- The values that both `set_params` compute: the registers, `reg[6]` among them, and
`vco_select`.
-/
structure FcLoop where
  regs : List (UInt8 × UInt8)
  reg6 : UInt8
  vcoSelect : Bool

/-- The bits of `reg[6]` that describe the bandwidth. -/
def bandwidthBits (bandwidth : UInt32) : UInt8 :=
  if bandwidth = 6000000 then 0x80
  else if bandwidth = 7000000 then 0x40
  else 0x00

/-- The arithmetic that `fc0012_set_params` and `fc0013_set_params` share. -/
def calculateLoop (divider : FcDivider) (freq bandwidth : UInt32) : Fc001x FcLoop := do
  let xtalFreqDiv2 := (← read).config / 2
  let fVco := (freq * divider.multi.toUInt32).toUInt64
  let vcoSelect := decide (3060000000 ≤ fVco)
  let ratio := ratioRegisters (← calculateXdiv fVco xtalFreqDiv2)
  Program.require (ratio.reg1 ≤ 15 ∧ 0x0b ≤ ratio.reg2) (-1)
  let xin ← calculateXin fVco xtalFreqDiv2
  let reg6 := divider.reg6 ||| (if vcoSelect then 0x08 else 0x00) ||| 0x20
  let reg6 := (reg6 &&& 0x3f) ||| bandwidthBits bandwidth
  let regs : List (UInt8 × UInt8) :=
    [(1, ratio.reg1), (2, ratio.reg2), (3, (xin >>> 8).toUInt8), (4, (xin &&& 0xff).toUInt8),
      (5, divider.reg5 ||| 0x07), (6, reg6)]
  return ⟨regs, reg6, vcoSelect⟩

-----------------------------------------------------------------------------------------
-- Programming the loops
-----------------------------------------------------------------------------------------

/-- The other speed of the oscillator. -/
def selectVco (reg6 : UInt8) : Fc001x Unit :=
  fcWriteregs [(0x06, reg6), (0x0e, 0x80), (0x0e, 0x00)]

/-- The calibration of the oscillator, which may select its other speed. -/
def calibrateVco (loop : FcLoop) : Fc001x Unit := do
  fcWriteregs [(0x0e, 0x80), (0x0e, 0x00), (0x0e, 0x00)]
  let tmp := (← fcReadreg 0x0e) &&& 0x3f
  if loop.vcoSelect then
    if 0x3c < tmp then selectVco (loop.reg6 &&& ~~~0x08)
  else
    if tmp < 0x02 then selectVco (loop.reg6 ||| 0x08)

/-- `fc0012_set_params` -/
def fc0012SetParams (freq bandwidth : UInt32) : Fc001x Unit := do
  let loop ← calculateLoop (fc0012Divider freq) freq bandwidth
  fcWriteregs loop.regs
  calibrateVco loop

/-- The bits of the track in `fc0013_set_vhf_track`. -/
def vhfTrack (freq : UInt32) : UInt8 :=
  if freq ≤ 177500000 then 0x1c
  else if freq ≤ 184500000 then 0x18
  else if freq ≤ 191500000 then 0x14
  else if freq ≤ 198500000 then 0x10
  else if freq ≤ 205500000 then 0x0c
  else if freq ≤ 219500000 then 0x08
  else if freq < 300000000 then 0x04
  else 0x1c

/-- `fc0013_set_vhf_track` -/
def fc0013SetVhfTrack (freq : UInt32) : Fc001x Unit := do
  let tmp ← fcReadreg 0x1d
  fcWritereg 0x1d ((tmp &&& 0xe3) ||| vhfTrack freq)

/-- The filters of `fc0013_set_params`. -/
def fc0013SetFilters (freq : UInt32) : Fc001x Unit := do
  let tmp ← fcReadreg 0x07
  fcWritereg 0x07 (if freq < 300000000 then tmp ||| 0x10 else tmp &&& 0xef)
  let tmp ← fcReadreg 0x14
  fcWritereg 0x14 (if freq < 300000000 then tmp &&& 0x1f else (tmp &&& 0x1f) ||| 0x40)

/-- `fc0013_set_params` -/
def fc0013SetParams (freq bandwidth : UInt32) : Fc001x Unit := do
  fc0013SetVhfTrack freq
  fc0013SetFilters freq
  let loop ← calculateLoop (fc0013Divider freq) freq bandwidth
  fcWriteregs loop.regs
  let tmp ← fcReadreg 0x11
  fcWritereg 0x11 (if (fc0013Divider freq).multi = 64 then tmp ||| 0x04 else tmp &&& 0xfb)
  calibrateVco loop

-----------------------------------------------------------------------------------------
-- Clocks
-----------------------------------------------------------------------------------------

section Ends

variable {environment : Environment.Bus UInt32}

/-- A write of a register ends, with an error where its message is not moved whole. -/
theorem fcWritereg_ends (reg val : UInt8)
    : (fcWritereg reg val).Ends environment (fun _ => True) := by
  refine .bind (rtlsdrI2cWriteFn_returns _ _).ends fun _ _ => ?_
  exact Program.require_ends.weaken fun _ _ => trivial

/-- A read of a register ends, with an error where one of its two transfers fails. -/
theorem fcReadreg_ends (reg : UInt8) : (fcReadreg reg).Ends environment (fun _ => True) := by
  refine .bind (rtlsdrI2cWriteFn_returns _ _).ends fun _ _ => ?_
  refine .bind Program.require_ends fun _ _ => ?_
  refine .bind (rtlsdrI2cReadFn_returns _).ends fun _ _ => ?_
  refine .bind Program.require_ends fun _ _ => ?_
  exact .pure trivial

/-- By induction on the registers. -/
theorem fcWriteregs_ends (regs : List (UInt8 × UInt8))
    : (fcWriteregs regs).Ends environment (fun _ => True) := by
  induction regs with
  | nil => exact .pure trivial
  | cons reg rest ih => exact .bind (fcWritereg_ends _ _) fun _ _ => ih

/-- The calibration of the VCO ends, whichever of its branches the register that is read leads
to.
-/
theorem calibrateVco_ends (loop : FcLoop)
    : (calibrateVco loop).Ends environment (fun _ => True) := by
  refine .bind (fcWriteregs_ends _) fun _ _ => ?_
  refine .bind (fcReadreg_ends _) fun _ _ => ?_
  simp only []
  split
  · split
    · exact fcWriteregs_ends _
    · exact .pure trivial
  · split
    · exact fcWriteregs_ends _
    · exact .pure trivial

/-- With a clock that is not zero the ratio is computed, rounded either way. -/
theorem calculateXdiv_ends {xtalFreqDiv2 : UInt32} (nonzero : xtalFreqDiv2.toUInt64 ≠ 0)
    (fVco : UInt64)
    : ∃ xdiv, calculateXdiv fVco xtalFreqDiv2 = .ok xdiv := by
  unfold calculateXdiv
  rw [divide_of_ne nonzero, ok_bind]
  simp only []
  split
  · exact ⟨_, rfl⟩
  · exact ⟨_, rfl⟩

/-- With a clock of a kilohertz at least the fraction is computed, rounded either way. -/
theorem calculateXin_ends {xtalFreqDiv2 : UInt32} (nonzero : xtalFreqDiv2.toUInt64 ≠ 0)
    (kHz : xtalFreqDiv2 / 1000 ≠ 0) (fVco : UInt64)
    : ∃ xin, calculateXin fVco xtalFreqDiv2 = .ok xin := by
  unfold calculateXin
  rw [divide_of_ne nonzero, ok_bind]
  simp only []
  rw [divide_of_ne kHz, ok_bind]
  split
  · exact ⟨_, rfl⟩
  · exact ⟨_, rfl⟩

/-- A clock of two kilohertz leaves something when it is halved and divided by a thousand. -/
theorem calculateLoop_ends (fits : 2000 ≤ environment.config) (divider : FcDivider)
    (freq bandwidth : UInt32)
    : (calculateLoop divider freq bandwidth).Ends environment (fun _ => True) := by
  have least : 2000 ≤ environment.config.toNat := UInt32.le_iff_toNat_le.mp fits
  have half : (environment.config / 2).toNat = environment.config.toNat / 2 :=
    UInt32.toNat_div _ _
  have nonzero : (environment.config / 2).toUInt64 ≠ 0 := by
    intro zero
    have same : (environment.config / 2).toNat = 0 := congrArg UInt64.toNat zero
    omega
  have kHz : environment.config / 2 / 1000 ≠ 0 := by
    intro zero
    have same : (environment.config / 2).toNat / 1000 = 0 := congrArg UInt32.toNat zero
    omega
  refine .bind Program.read_returns.ends fun _ same => ?_
  subst same
  obtain ⟨xdiv, divided⟩ :=
    calculateXdiv_ends nonzero (freq * divider.multi.toUInt32).toUInt64
  obtain ⟨xin, ended⟩ := calculateXin_ends nonzero kHz (freq * divider.multi.toUInt32).toUInt64
  refine .bind (Program.lift_returns divided).ends fun _ _ => ?_
  refine .bind Program.require_ends fun _ _ => ?_
  refine .bind (Program.lift_returns ended).ends fun _ _ => ?_
  exact .pure trivial

/-- With a clock of at least two kilohertz, `fc0012_set_params` ends for every frequency,
whatever the transfers return.
-/
theorem fc0012SetParams_ends (fits : 2000 ≤ environment.config) (freq bandwidth : UInt32)
    : (fc0012SetParams freq bandwidth).Ends environment (fun _ => True) := by
  refine .bind (calculateLoop_ends fits _ _ _) fun loop _ => ?_
  refine .bind (fcWriteregs_ends _) fun _ _ => ?_
  exact calibrateVco_ends loop

/-- Setting the tracking filter ends: it reads its register and writes it. -/
theorem fc0013SetVhfTrack_ends (freq : UInt32)
    : (fc0013SetVhfTrack freq).Ends environment (fun _ => True) :=
  .bind (fcReadreg_ends _) fun _ _ => fcWritereg_ends _ _

/-- Setting the filters ends: two registers are read and written. -/
theorem fc0013SetFilters_ends (freq : UInt32)
    : (fc0013SetFilters freq).Ends environment (fun _ => True) := by
  refine .bind (fcReadreg_ends _) fun _ _ => ?_
  refine .bind (fcWritereg_ends _ _) fun _ _ => ?_
  refine .bind (fcReadreg_ends _) fun _ _ => ?_
  exact fcWritereg_ends _ _

/-- With a clock of at least two kilohertz, `fc0013_set_params` ends for every frequency,
whatever the transfers return.
-/
theorem fc0013SetParams_ends (fits : 2000 ≤ environment.config) (freq bandwidth : UInt32)
    : (fc0013SetParams freq bandwidth).Ends environment (fun _ => True) := by
  refine .bind (fc0013SetVhfTrack_ends freq) fun _ _ => ?_
  refine .bind (fc0013SetFilters_ends freq) fun _ _ => ?_
  refine .bind (calculateLoop_ends fits _ _ _) fun loop _ => ?_
  refine .bind (fcWriteregs_ends _) fun _ _ => ?_
  refine .bind (fcReadreg_ends _) fun _ _ => ?_
  refine .bind (fcWritereg_ends _ _) fun _ _ => ?_
  exact calibrateVco_ends loop

end Ends

section Faults

variable {environment : Environment.Bus UInt32}

/-- Ninety-six times a frequency that is half the clock: the ratio is valid. -/
theorem calculateXdiv_half {half : UInt32} (positive : half ≠ 0) (small : half.toNat < 1000)
    : ∃ xdiv,
        calculateXdiv (half * (96 : UInt8).toUInt32).toUInt64 half = .ok xdiv
        ∧ (ratioRegisters xdiv).reg1 ≤ 15
        ∧ 0x0b ≤ (ratioRegisters xdiv).reg2 := by
  have nonzero : half.toNat ≠ 0 := fun zero => positive (UInt32.toNat_inj.mp zero)
  have divisor : half.toUInt64 ≠ 0 := by
    intro zero
    exact nonzero (congrArg UInt64.toNat zero)
  have product : (half * (96 : UInt8).toUInt32).toNat = half.toNat * 96 := by
    rw [UInt32.toNat_mul]
    change half.toNat * 96 % 2 ^ 32 = _
    omega
  have quotient : (half * (96 : UInt8).toUInt32).toUInt64 / half.toUInt64 = 96 := by
    rw [← UInt64.toNat_inj, UInt64.toNat_div, UInt32.toNat_toUInt64, UInt32.toNat_toUInt64,
      product]
    exact Nat.mul_div_cancel_left 96 (Nat.pos_of_ne_zero nonzero)
  unfold calculateXdiv
  rw [divide_of_ne divisor, ok_bind, quotient]
  simp only []
  split
  · exact ⟨97, rfl, by decide, by decide⟩
  · exact ⟨96, rfl, by decide, by decide⟩

/-- A clock that leaves no kilohertz when halved: at the frequency of the half, the ratio is valid
and its fraction divides by zero.
-/
theorem calculateLoop_faults (unfit : ¬ 2000 ≤ environment.config) {divider : FcDivider}
    (highest : divider.multi = 96) (bandwidth : UInt32)
    : (calculateLoop divider (environment.config / 2) bandwidth).FaultsWith environment
        .divisionByZero := by
  have below : environment.config.toNat < 2000 :=
    Nat.not_le.mp fun fits => unfit (UInt32.le_iff_toNat_le.mpr fits)
  have small : (environment.config / 2).toNat < 1000 := by
    rw [UInt32.toNat_div]
    change environment.config.toNat / 2 < 1000
    omega
  have kHz : environment.config / 2 / 1000 = 0 := by
    rw [← UInt32.toNat_inj, UInt32.toNat_div]
    exact Nat.div_eq_of_lt small
  refine .after Program.read_returns fun current same => ?_
  subst same
  rw [highest]
  by_cases zero : current.config / 2 = 0
  · rw [zero]
    exact .bind (Program.lift_faults rfl)
  · have divisor : (current.config / 2).toUInt64 ≠ 0 := by
      intro none
      exact zero (UInt32.toNat_inj.mp (congrArg UInt64.toNat none))
    obtain ⟨xdiv, divided, reg1, reg2⟩ := calculateXdiv_half zero small
    refine .after (Program.lift_returns divided) fun _ same => ?_
    subst same
    refine .after (Program.require_returns ⟨reg1, reg2⟩) fun _ _ => ?_
    refine .bind (Program.lift_faults ?_)
    unfold calculateXin
    rw [divide_of_ne divisor, ok_bind]
    simp only []
    rw [kHz, divide_zero]
    rfl

/-- Half of a clock that is too slow is a frequency of the lowest band. -/
theorem half_low (unfit : ¬ 2000 ≤ environment.config) : environment.config / 2 < 37084000 := by
  have below : environment.config.toNat < 2000 :=
    Nat.not_le.mp fun fits => unfit (UInt32.le_iff_toNat_le.mpr fits)
  rw [UInt32.lt_iff_toNat_lt, UInt32.toNat_div]
  change environment.config.toNat / 2 < 37084000
  omega

/-- With any other clock, `fc0012_set_params` divides by zero at the frequency of its half. -/
theorem fc0012SetParams_faults (unfit : ¬ 2000 ≤ environment.config) (bandwidth : UInt32)
    : (fc0012SetParams (environment.config / 2) bandwidth).FaultsWith environment
        .divisionByZero := by
  have highest : (fc0012Divider (environment.config / 2)).multi = 96 := by
    rw [fc0012Divider, if_pos (half_low unfit)]
  exact .bind (calculateLoop_faults unfit highest bandwidth)

end Faults

end RtlTcpAndro.Tuners
