import RtlTcpAndro.RtlSdrDevice.EepromStrings
import RtlTcpAndro.RtlSdrDevice.Tuning

/-! `rtlsdr_open2` of `librtlsdr.c`, with the calls it makes to acquire, set up and release a
device. What they answer is chosen by the environment.
-/

namespace RtlTcpAndro.RtlSdrDevice

open RtlTcpAndro.ByteStreams

-----------------------------------------------------------------------------------------
-- Calls
-----------------------------------------------------------------------------------------

/-- The calls of libusb on a handle; `tunerInit` stands for those of `tuner->init`. -/
inductive HandleCall
  | kernelDriverActive
  | claimInterface
  | resetDevice
  | controlTransfer
  | tunerInit
  | close
  deriving DecidableEq, Repr

/-- The calls of `rtlsdr_open2`, those on a handle with whether it is not `NULL`. -/
inductive OpenCall
  | malloc
  | free
  | init
  | exit
  | getDevice2
  | open2
  | onHandle (call : HandleCall) (handle : Bool)
  deriving DecidableEq, Repr

/-- `libusb_control_transfer`, with its `wValue`, its `wIndex` and what is written or the number of
bytes that are read.
-/
inductive ControlTransfer
  | ctrlOut (value index : UInt16) (data : List UInt8)
  | ctrlIn (value index : UInt16) (length : Nat)
  deriving DecidableEq, Repr

/-- What the calls answer: `libusb_init` its status and whether it sets the context, and a control
transfer its status and what is read. The reads of the probing and `buf` are given by what the
transfers that fill them leave, and so are the registers the demodulator has before.
-/
structure Environment.Open2 where
  malloc : Bool
  libusbInit : Int32 × Bool
  libusbGetDevice2 : Bool
  libusbOpen2 : Int32
  libusbKernelDriverActive : Int32
  libusbClaimInterface : Int32
  transfers : Nat → ControlTransfer → Int32 × List UInt8
  i2cReads : RtlsdrTuner → UInt8
  buf : Nat → UInt8
  demod : UInt8 → UInt16 → UInt8
  radio : Environment.Radio
  tunerInit : RtlsdrTuner → Int32

/-- The fields of a `struct rtlsdr_dev` that are set, pointers by whether they are not `NULL`. -/
structure Dongle where
  ctx : Bool
  devh : Bool
  radio : Radio
  tuner : Option RtlsdrTuner
  devLost : Bool
  driverActive : Bool
  forceBt : Bool
  manufact : List UInt8
  product : List UInt8

/-- `dev` and `*out_dev`, and history: the calls made, whether the interface was claimed and what
`tuner->init` returned.
-/
structure OpenState where
  allocated : Bool
  dev : Dongle
  outDev : Option Dongle
  calls : List OpenCall
  claimed : Bool
  tunerInit : Option Int32

/-- A computation of `rtlsdr_open2`. -/
abbrev Open2 := ReaderT Environment.Open2 (StateM OpenState)

/-- The device after `memset`. -/
def Dongle.zeroed (demod : UInt8 → UInt16 → UInt8) : Dongle where
  ctx := false
  devh := false
  radio :=
    { settings :=
        { Settings.opened .unknown with rtlXtal := 0, tunXtal := 0 }
      chip := ⟨demod, 0⟩ }
  tuner := none
  devLost := false
  driverActive := false
  forceBt := false
  manufact := List.replicate stringSize 0
  product := List.replicate stringSize 0

def OpenState.initial (demod : UInt8 → UInt16 → UInt8) : OpenState :=
  ⟨false, .zeroed demod, none, [], false, none⟩

/-- A call is made. -/
def make (call : OpenCall) : Open2 Unit :=
  modify fun state => { state with calls := state.calls ++ [call] }

/-- A call is made on `dev->devh`. -/
def makeOnHandle (call : HandleCall) : Open2 Unit :=
  modify fun state =>
    { state with calls := state.calls ++ [.onHandle call state.dev.devh] }

/-- The device changes. -/
def changeDev (update : Dongle → Dongle) : Open2 Unit :=
  modify fun state => { state with dev := update state.dev }

def controlTransfer (transfer : ControlTransfer) : Open2 (Int32 × List UInt8) := do
  let number := (← get).calls.length
  makeOnHandle .controlTransfer
  return (← read).transfers number transfer

/-- A computation on the radio of the device, whose calls are transfers. -/
def onRadio {α : Type} (tuning : Tuning α) : Open2 α := do
  let dev := (← get).dev
  let (value, radio) := tuning (← read).radio dev.radio
  modify fun state =>
    { state with
      dev := { dev with radio := radio }
      calls :=
        state.calls
        ++ List.replicate (radio.chip.calls - dev.radio.chip.calls)
            (.onHandle .controlTransfer dev.devh) }
  return value

-----------------------------------------------------------------------------------------
-- Registers
-----------------------------------------------------------------------------------------

/-- `enum blocks` -/
def usbb : UInt16 := 1
def sysb : UInt16 := 2
def iicb : UInt16 := 6

/-- `rtlsdr_read_array` -/
def rtlsdrReadArray (block addr : UInt16) (len : Nat) : Open2 (Int32 × List UInt8) :=
  controlTransfer (.ctrlIn addr (block <<< 8) len)

/-- `rtlsdr_write_array` -/
def rtlsdrWriteArray (block addr : UInt16) (array : List UInt8) : Open2 Int32 := do
  return (← controlTransfer (.ctrlOut addr ((block <<< 8) ||| 0x10) array)).1

/-- `rtlsdr_read_reg` of one byte -/
def rtlsdrReadReg (block addr : UInt16) : Open2 UInt16 := do
  return ((← rtlsdrReadArray block addr 1).2.headD 0).toUInt16

/-- `rtlsdr_write_reg` -/
def rtlsdrWriteReg (block addr val : UInt16) (len : UInt8) : Open2 Int32 :=
  rtlsdrWriteArray block addr
    (if len = 1 then [val.toUInt8] else [(val >>> 8).toUInt8, val.toUInt8])

/-- `enum usb_reg` and `enum sys_reg` -/
def usbSysctl : UInt16 := 0x2000
def usbEpaCtl : UInt16 := 0x2148
def usbEpaMaxpkt : UInt16 := 0x2158
def demodCtl : UInt16 := 0x3000
def gpo : UInt16 := 0x3001
def gpoe : UInt16 := 0x3003
def gpd : UInt16 := 0x3004
def demodCtl1 : UInt16 := 0x300b

/-- `rtlsdr_set_gpio_bit` -/
def rtlsdrSetGpioBit (gpio : UInt16) (val : Bool) : Open2 Unit := do
  let r ← rtlsdrReadReg sysb gpo
  let bit : UInt16 := 1 <<< gpio
  let _ ← rtlsdrWriteReg sysb gpo (if val then r ||| bit else r &&& ~~~bit) 1

/-- `rtlsdr_set_gpio_output` -/
def rtlsdrSetGpioOutput (gpio : UInt16) : Open2 Unit := do
  let bit : UInt16 := 1 <<< gpio
  let r ← rtlsdrReadReg sysb gpd
  let _ ← rtlsdrWriteReg sysb gpd (r &&& ~~~bit) 1
  let r ← rtlsdrReadReg sysb gpoe
  let _ ← rtlsdrWriteReg sysb gpoe (r ||| bit) 1

/-- `rtlsdr_set_bias_tee` with `on`, which `force_bt` cannot change. -/
def rtlsdrSetBiasTee : Open2 Unit := do
  rtlsdrSetGpioOutput 0
  rtlsdrSetGpioBit 0 true

/-- The registers of the demodulator are written one after the other. -/
def writeRegs : List (UInt8 × UInt16 × UInt16 × UInt8) → Tuning Unit
  | [] => return
  | (page, addr, val, len) :: rest => do
      let _ ← rtlsdrDemodWriteReg page addr val len
      writeRegs rest

/-- `fir_default` -/
def firDefault : List Int :=
  [-54, -36, -41, -40, -32, -14, 14, 53, 101, 156, 215, 273, 327, 372, 404, 421]

/-- Two coefficients of 12 bits in three bytes. -/
def packFir : List Int → List UInt8
  | val0 :: val1 :: rest =>
      UInt8.ofInt (val0 / 16)
      :: (UInt8.ofInt (val0 * 16) ||| (UInt8.ofInt (val1 / 256) &&& 0x0f))
      :: UInt8.ofInt val1
      :: packFir rest
  | _ => []

/-- The writes of `rtlsdr_set_fir`, up to the first that fails. -/
def writeFir : UInt16 → List UInt8 → Tuning Int32
  | _, [] => return 0
  | addr, byte :: fir => do
      if (← rtlsdrDemodWriteReg 1 addr byte.toUInt16 1) ≠ 0 then return -1
      writeFir (addr + 1) fir

/-- `rtlsdr_set_fir` -/
def rtlsdrSetFir (coefficients : List Int) : Tuning Int32 := do
  let int8 := coefficients.take 8
  let int12 := coefficients.drop 8
  if int8.any fun val => val < -128 || 127 < val then return -1
  if int12.any fun val => val < -2048 || 2047 < val then return -1
  writeFir 0x1c (int8.map UInt8.ofInt ++ packFir int12)

/-- `rtlsdr_init_baseband` -/
def rtlsdrInitBaseband : Open2 Unit := do
  let _ ← rtlsdrWriteReg usbb usbSysctl 0x09 1
  let _ ← rtlsdrWriteReg usbb usbEpaMaxpkt 0x0002 2
  let _ ← rtlsdrWriteReg usbb usbEpaCtl 0x1002 2
  let _ ← rtlsdrWriteReg sysb demodCtl1 0x22 1
  let _ ← rtlsdrWriteReg sysb demodCtl 0xe8 1
  onRadio (writeRegs
    [(1, 0x01, 0x14, 1), (1, 0x01, 0x10, 1), (1, 0x15, 0x00, 1), (1, 0x16, 0x0000, 2),
      (1, 0x16, 0x00, 1), (1, 0x17, 0x00, 1), (1, 0x18, 0x00, 1), (1, 0x19, 0x00, 1),
      (1, 0x1a, 0x00, 1), (1, 0x1b, 0x00, 1)])
  let _ ← onRadio (rtlsdrSetFir firDefault)
  onRadio (writeRegs
    [(0, 0x19, 0x05, 1), (1, 0x93, 0xf0, 1), (1, 0x94, 0x0f, 1), (1, 0x11, 0x00, 1),
      (1, 0x04, 0x00, 1), (0, 0x61, 0x60, 1), (0, 0x06, 0x80, 1), (1, 0xb1, 0x1b, 1),
      (0, 0x0d, 0x83, 1)])

-----------------------------------------------------------------------------------------
-- EEPROM and tuner
-----------------------------------------------------------------------------------------

/-- `EEPROM_ADDR` -/
def eepromAddr : UInt16 := 0xa0

/-- The reads of `rtlsdr_read_eeprom` that are left, and what it returns. -/
def readEepromBytes : Nat → Int32 → Open2 Int32
  | 0, r => return r
  | left + 1, _ => do
      let (r, _) ← rtlsdrReadArray iicb eepromAddr 1
      if r < 0 then return -3
      readEepromBytes left r

/-- `rtlsdr_read_eeprom` -/
def rtlsdrReadEeprom (offset : UInt8) (len : Nat) : Open2 Int32 := do
  if 256 < len + offset.toNat then return -2
  let r ← rtlsdrWriteArray iicb eepromAddr [offset]
  if r < 0 then return -3
  readEepromBytes len r

/-- The part of `rtlsdr_open2` that reads the manufacturer and the product. -/
def readDongleStrings : Open2 Unit := do
  let _ ← rtlsdrReadEeprom 0 eepromSize
  let (manufact, product) := readStrings (← read).buf
  changeDev fun dev => { dev with manufact := manufact.str, product := product.str }

/-- `rtlsdr_i2c_read_reg` in the probing of a tuner -/
def rtlsdrI2cReadReg (tuner : RtlsdrTuner) (i2cAddr reg : UInt8) : Open2 UInt8 := do
  let _ ← rtlsdrWriteArray iicb i2cAddr.toUInt16 [reg]
  let _ ← rtlsdrReadArray iicb i2cAddr.toUInt16 1
  return (← read).i2cReads tuner

/-- The part of `rtlsdr_open2` that probes the tuners. -/
def probeTuners : Open2 RtlsdrTuner := do
  onRadio (rtlsdrSetI2cRepeater true)
  if (← rtlsdrI2cReadReg .e4000 0xc8 0x02) = 0x40 then return .e4000
  if (← rtlsdrI2cReadReg .fc0013 0xc6 0x00) = 0xa3 then return .fc0013
  if (← rtlsdrI2cReadReg .r820t 0x34 0x00) = 0x69 then return .r820t
  if (← rtlsdrI2cReadReg .r828d 0x74 0x00) = 0x69 then return .r828d
  rtlsdrSetGpioOutput 4
  rtlsdrSetGpioBit 4 true
  rtlsdrSetGpioBit 4 false
  if (← rtlsdrI2cReadReg .fc2580 0xac 0x01) &&& 0x7f = 0x56 then return .fc2580
  if (← rtlsdrI2cReadReg .fc0012 0xc6 0x00) = 0xa1 then
    rtlsdrSetGpioOutput 6
    return .fc0012
  return .unknown

/-- `R828D_XTAL_FREQ` -/
def r828dXtalFreq : UInt32 := 16000000

/-- The clock that `rtlsdr_open2` gives a tuner. -/
def Dongle.clock (dev : Dongle) : UInt32 :=
  if dev.radio.settings.tunerType = .r828d
    ∧ rtlsdrCheckDongleModel dev.manufact dev.product (literal blogV4Manufact)
        (literal blogV4Product) = 0
  then r828dXtalFreq
  else dev.radio.settings.rtlXtal

def Dongle.withSettings (dev : Dongle) (update : Settings → Settings) : Dongle :=
  { dev with radio := { dev.radio with settings := update dev.radio.settings } }

/-- The `switch` of `rtlsdr_open2` that sets up the demodulator for a tuner. -/
def switchDemodulator (tuner : RtlsdrTuner) : Open2 Unit := do
  if tuner.isR82xx then
    let _ ← onRadio (rtlsdrDemodWriteReg 1 0xb1 0x1a 1)
    let _ ← onRadio (rtlsdrDemodWriteReg 0 0x08 0x4d 1)
    let _ ← onRadio (rtlsdrSetIfFreq r82xxIfFreq)
    let _ ← onRadio (rtlsdrDemodWriteReg 1 0x15 0x01 1)
  else if tuner = .unknown then
    let _ ← onRadio (rtlsdrSetDirectSampling 1)

/-- The part of `rtlsdr_open2` from `found` to the end of the `switch`. -/
def setUpFor (tuner : RtlsdrTuner) : Open2 Unit := do
  changeDev fun dev =>
    dev.withSettings fun settings => { settings with tunerType := tuner }
  changeDev fun dev =>
    { dev.withSettings (fun settings => settings.withTunXtal dev.clock) with tuner := some tuner }
  switchDemodulator tuner

/-- The part of `rtlsdr_open2` that supplies an antenna whose EEPROM asks for it. -/
def forceBiasTee : Open2 Unit := do
  let forceBt := (← read).buf 7 &&& 0x02 = 0
  changeDev fun dev => { dev with forceBt := forceBt }
  if forceBt then rtlsdrSetBiasTee

/-- `if (dev->tuner->init) r = dev->tuner->init(dev)` -/
def initTuner : Open2 Unit := do
  match (← get).dev.tuner with
  | some tuner =>
      if tuner.supported then
        makeOnHandle .tunerInit
        let r := (← read).tunerInit tuner
        modify fun state => { state with tunerInit := some r }
  | none => return

-----------------------------------------------------------------------------------------
-- rtlsdr_open2
-----------------------------------------------------------------------------------------

def malloc : Open2 Bool := do
  make .malloc
  let memory := (← read).malloc
  modify fun state => { state with allocated := memory }
  return memory

def libusbInit : Open2 Int32 := do
  make .init
  let (status, ctx) := (← read).libusbInit
  changeDev fun dev => { dev with ctx := ctx }
  return status

def libusbGetDevice2 : Open2 Bool := do
  make .getDevice2
  return (← read).libusbGetDevice2

/-- `libusb_open2`, which sets the handle exactly if it returns 0 -/
def libusbOpen2 : Open2 Int32 := do
  make .open2
  let r := (← read).libusbOpen2
  changeDev fun dev => { dev with devh := decide (r = 0) }
  return r

def libusbKernelDriverActive : Open2 Int32 := do
  makeOnHandle .kernelDriverActive
  return (← read).libusbKernelDriverActive

def libusbClaimInterface : Open2 Int32 := do
  makeOnHandle .claimInterface
  let r := (← read).libusbClaimInterface
  modify fun state => { state with claimed := decide (0 ≤ r) }
  return r

/-- `err` in `rtlsdr_open2` -/
def release : Open2 Unit := do
  let state ← get
  if state.allocated then
    if state.dev.devh then makeOnHandle .close
    if state.dev.ctx then make .exit
    make .free

/-- The dummy write of `rtlsdr_open2`, which resets the device if it fails. -/
def dummyWrite : Open2 Unit := do
  if (← rtlsdrWriteReg usbb usbSysctl 0x09 1) < 0 then makeOnHandle .resetDevice

/-- The part of `rtlsdr_open2` between the claim and the tuner. -/
def setUpBaseband : Open2 Unit := do
  changeDev fun dev => dev.withSettings fun settings => settings.withRtlXtal defRtlXtalFreq
  dummyWrite
  rtlsdrInitBaseband
  changeDev fun dev => { dev with devLost := false }
  readDongleStrings

/-- `*out_dev = dev` -/
def OpenState.handOut (state : OpenState) : OpenState :=
  { state with outDev := some state.dev }

/-- The part of `rtlsdr_open2` after the claim. -/
def setUpDevice : Open2 Unit := do
  setUpBaseband
  let tuner ← probeTuners
  setUpFor tuner
  forceBiasTee
  initTuner
  onRadio (rtlsdrSetI2cRepeater false)
  modify OpenState.handOut

/-- The part of `rtlsdr_open2` that has a device. -/
def openWithDevice : Open2 Int32 := do
  let _ ← libusbOpen2
  if (← libusbKernelDriverActive) = 1 then
    changeDev fun dev => { dev with driverActive := true }
  let r ← libusbClaimInterface
  if r < 0 then
    release
    return r
  setUpDevice
  return 0

/-- `-ENOMEM` and `LIBUSB_ERROR_OTHER` -/
def enomem : Int32 := -12
def libusbErrorOther : Int32 := -99

/-- `rtlsdr_open2` -/
def rtlsdrOpen2 : Open2 Int32 := do
  if ¬ (← malloc) then return enomem
  let status ← libusbInit
  if status ≠ 0 then return status
  if ¬ (← get).dev.ctx then return libusbErrorOther
  changeDev fun dev => { dev with devLost := true }
  if ¬ (← libusbGetDevice2) then
    release
    return -1
  openWithDevice

/-- What a call of `rtlsdr_open2` returns and the state it leaves. -/
def openRun (environment : Environment.Open2) : Int32 × OpenState :=
  rtlsdrOpen2 environment (.initial environment.demod)

end RtlTcpAndro.RtlSdrDevice
