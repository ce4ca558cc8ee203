import RtlTcpAndro.Tuners.I2c

/-! The phase-locked loop of the R820T and R828D, as `tuner_r82xx.c` programs it, with the shadow
of the registers that its masked writes start from.
-/

namespace RtlTcpAndro.Tuners

open RtlTcpAndro.Faults

-----------------------------------------------------------------------------------------
-- The driver
-----------------------------------------------------------------------------------------

/-- `enum r82xx_chip`, of the chips that are looked for -/
inductive R82xxChip
  | r820t
  | r828d
  deriving DecidableEq, Repr

/-- The fields of a `struct r82xx_config`, and whether the dongle is the one that
`rtlsdr_check_dongle_model` calls Blog V4L.
-/
structure R82xxConfig where
  xtal : UInt32
  rafaelChip : R82xxChip
  maxI2cMsgLen : UInt32
  blogV4L : Bool

/-- The fields of a `struct r82xx_priv` that the loop is programmed with. -/
structure R82xxPriv where
  regs : Nat → UInt8
  hasLock : Bool

/-- A function of the driver. -/
abbrev R82xx := Driver R82xxConfig R82xxPriv

/-- `REG_SHADOW_START` and `NUM_REGS` -/
def regShadowStart : Nat := 5
def numRegs : Nat := 30

/-- `shadow_store` -/
def shadowStore (reg : UInt8) (val : List UInt8) : R82xx Unit :=
  modify fun bus =>
    let r := reg.toNat - regShadowStart
    let len := min (val.length - (regShadowStart - reg.toNat)) (numRegs - r)
    let regs i := if r ≤ i ∧ i < r + len then val.getD (i - r) 0 else bus.driver.regs i
    { bus with driver := { bus.driver with regs := regs } }

/-- The messages of `r82xx_write`, of at most `max_i2c_msg_len` bytes. -/
def writeMessages : Nat → UInt8 → List UInt8 → R82xx Unit
  | 0, _, _ => Program.fault .endless
  | rounds + 1, reg, val => do
      let size := min val.length ((← read).config.maxI2cMsgLen - 1).toNat
      let rc ← rtlsdrI2cWriteFn reg (val.take size)
      Program.require (rc = Int32.ofNat (size + 1)) (if rc < 0 then rc else -1)
      if size < val.length then writeMessages rounds (reg + UInt8.ofNat size) (val.drop size)

/-- `r82xx_write` -/
def r82xxWrite (reg : UInt8) (val : List UInt8) : R82xx Unit := do
  shadowStore reg val
  writeMessages (val.length + 1) reg val

/-- `r82xx_write_reg` -/
def r82xxWriteReg (reg val : UInt8) : R82xx Unit := r82xxWrite reg [val]

/-- `r82xx_read_cache_reg` -/
def r82xxReadCacheReg (reg : UInt8) : R82xx UInt8 := do
  Program.require (regShadowStart ≤ reg.toNat ∧ reg.toNat - regShadowStart < numRegs) (-1)
  return (← get).driver.regs (reg.toNat - regShadowStart)

/-- `r82xx_write_reg_mask` -/
def r82xxWriteRegMask (reg val bitMask : UInt8) : R82xx Unit := do
  let rc ← r82xxReadCacheReg reg
  r82xxWrite reg [(rc &&& ~~~bitMask) ||| (val &&& bitMask)]

/-- `r82xx_bitrev` -/
def r82xxBitrev (byte : UInt8) : UInt8 :=
  let lut : List UInt8 :=
    [0x0, 0x8, 0x4, 0xc, 0x2, 0xa, 0x6, 0xe, 0x1, 0x9, 0x5, 0xd, 0x3, 0xb, 0x7, 0xf]
  (lut.getD (byte &&& 0xf).toNat 0 <<< 4) ||| lut.getD (byte >>> 4).toNat 0

/-- `r82xx_read` -/
def r82xxRead (reg : UInt8) (len : Nat) : R82xx (Nat → UInt8) := do
  let rc ← rtlsdrI2cWriteFn reg []
  Program.require (rc = 1) (if rc < 0 then rc else -1)
  let (rc, p) ← rtlsdrI2cReadFn len
  Program.require (rc = Int32.ofNat len) (if rc < 0 then rc else -1)
  return fun i => r82xxBitrev (p i)

-----------------------------------------------------------------------------------------
-- The arithmetic of the loop
-----------------------------------------------------------------------------------------

/-- `vco_min` and `vco_max` -/
def vcoMin : UInt32 := 1770000
def vcoMax : UInt32 := vcoMin * 2

/-- `div_buf` and `div_num` while the divider is halved. -/
structure Halving where
  divBuf : UInt8
  divNum : UInt8

/-- A round of the inner loop of the divider. -/
def halvingRound (state : Halving) : Faulty (ForInStep Halving) :=
  return .yield ⟨state.divBuf >>> 1, state.divNum + 1⟩

/-- The inner loop of the divider, which takes the logarithm. -/
def halve (divBuf : UInt8) : Faulty Halving :=
  whileLoop (fun state => decide (2 < state.divBuf)) halvingRound 8 ⟨divBuf, 0⟩

/-- `mix_div` and `div_num` -/
structure Divider where
  mixDiv : UInt8
  divNum : UInt8

/-- A round of the search for a divider. -/
def dividerRound (freqKhz : UInt32) (divider : Divider) : Faulty (ForInStep Divider) := do
  let vco := freqKhz * divider.mixDiv.toUInt32
  if vcoMin ≤ vco ∧ vco < vcoMax then
    let halving ← halve divider.mixDiv
    return .done ⟨divider.mixDiv, halving.divNum⟩
  else return .yield ⟨divider.mixDiv <<< 1, divider.divNum⟩

/-- The search for a divider. -/
def calculateDivider (freqKhz : UInt32) : Faulty Divider :=
  whileLoop (fun divider => decide (divider.mixDiv ≤ 64)) (dividerRound freqKhz) 8 ⟨2, 0⟩

/-- `n_sdm`, `sdm` and `vco_fra` in the sdm calculator. -/
structure SdmCalculator where
  nSdm : UInt16
  sdm : UInt16
  vcoFra : UInt32
  deriving DecidableEq, Repr

/-- A round of the sdm calculator. -/
def sdmRound (pllRefKhz : UInt32) (state : SdmCalculator) : Faulty (ForInStep SdmCalculator) := do
  let contribution ← divide (2 * pllRefKhz) state.nSdm.toUInt32
  if contribution < state.vcoFra then
    let bit ← divide 32768 (state.nSdm / 2)
    let sdm := state.sdm + bit
    let vcoFra := state.vcoFra - contribution
    if 0x8000 ≤ state.nSdm then return .done ⟨state.nSdm, sdm, vcoFra⟩
    return .yield ⟨state.nSdm <<< 1, sdm, vcoFra⟩
  else return .yield ⟨state.nSdm <<< 1, state.sdm, state.vcoFra⟩

/-- The sdm calculator. Its counter has become zero after sixteen rounds. -/
def calculateSdm (pllRefKhz vcoFra : UInt32) : Faulty SdmCalculator :=
  whileLoop (fun state => decide (1 < state.vcoFra)) (sdmRound pllRefKhz) 16 ⟨2, 0, vcoFra⟩

-----------------------------------------------------------------------------------------
-- Programming the loop
-----------------------------------------------------------------------------------------

/-- The divider field, changed by what the chip says of its fine tuning. -/
def programDivider (divNum : UInt8) (vcoPowerRef : UInt8) : R82xx Unit := do
  let data ← r82xxRead 0x00 5
  let vcoFineTune := (data 4 &&& 0x30) >>> 4
  let divNum :=
    if vcoPowerRef < vcoFineTune then divNum - 1
    else if vcoFineTune < vcoPowerRef then divNum + 1
    else divNum
  r82xxWriteRegMask 0x10 (divNum <<< 5) 0xe0

/-- The integer part of the ratio. -/
def programNint (nint : UInt8) : R82xx Unit := do
  let ni := UInt8.ofInt (((nint.toNat : Int) - 13).tdiv 4)
  let si := nint - 4 * ni - 13
  r82xxWriteReg 0x14 (ni + (si <<< 6))

/-- The fraction of the ratio. -/
def programSdm (pllRefKhz vcoFra : UInt32) : R82xx Unit := do
  r82xxWriteRegMask 0x12 (if vcoFra = 0 then 0x08 else 0x00) 0x08
  let sdm := (← calculateSdm pllRefKhz vcoFra).sdm
  r82xxWriteReg 0x16 (sdm >>> 8).toUInt8
  r82xxWriteReg 0x15 (sdm &&& 0xff).toUInt8

/-- Whether the loop locks, at the second look with more current. -/
def awaitLock : R82xx Bool := do
  let data ← r82xxRead 0x00 3
  if data 2 &&& 0x40 ≠ 0 then return true
  r82xxWriteRegMask 0x12 0x60 0xe0
  let data ← r82xxRead 0x00 3
  return data 2 &&& 0x40 ≠ 0

/-- `r82xx_set_pll` -/
def r82xxSetPll (freq : UInt32) : R82xx Unit := do
  let cfg := (← read).config
  let pllRef := cfg.xtal
  r82xxWriteRegMask 0x10 0x00 0x10
  r82xxWriteRegMask 0x1a 0x00 0x0c
  r82xxWriteRegMask 0x12 0x80 0xe0
  let divider ← calculateDivider ((freq + 500) / 1000)
  let vcoPowerRef := if cfg.rafaelChip = .r828d ∨ cfg.blogV4L = true then 1 else 2
  programDivider divider.divNum vcoPowerRef
  let vcoFreq := freq.toUInt64 * divider.mixDiv.toUInt64
  let nint := (← divide vcoFreq (2 * pllRef).toUInt64).toUInt8
  let vcoFra := ((vcoFreq - (2 * pllRef * nint.toUInt32).toUInt64) / 1000).toUInt32
  Program.require (nint ≤ 128 / vcoPowerRef - 1) (-1)
  programNint nint
  programSdm ((cfg.xtal + 500) / 1000) vcoFra
  let locked ← awaitLock
  modify fun bus => { bus with driver := { bus.driver with hasLock := locked } }
  if locked then r82xxWriteRegMask 0x1a 0x08 0x08

end RtlTcpAndro.Tuners
