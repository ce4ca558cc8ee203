import Mathlib.Tactic.Linarith
import RtlTcpAndro.HackRf.GainCommands
import RtlTcpAndro.RtlSdrDevice.Doubles
import RtlTcpAndro.SdrDriverTools.SdrTcpArguments
import RtlTcpAndro.Tables.Nearest
import RtlTcpAndro.Tables.Ordered

/-! What a HackRF is set to by the vendor requests of `Hackrf.java`, which `HackRfTcp.java` sends
for its arguments and for the commands of its client.
-/

namespace RtlTcpAndro.HackRf

open RtlTcpAndro.ByteStreams RtlTcpAndro.JavaLang RtlTcpAndro.Interleaving RtlTcpAndro.SdrTcp

-----------------------------------------------------------------------------------------
-- Vendor requests
-----------------------------------------------------------------------------------------

/-- The `HACKRF_VENDOR_REQUEST_…` constants of the settings. -/
inductive VendorRequest
  | sampleRateSet
  | basebandFilterBandwidthSet
  | setFreq
  | setLnaGain
  | setVgaGain
  deriving DecidableEq, Repr

/-- What `sendUsbRequest` is called with, and the bytes that it sends. -/
structure ControlRequest where
  request : VendorRequest
  value : Int32
  index : Int32
  buffer : List UInt8
  deriving DecidableEq, Repr

/-- `intToByteArray` -/
def intToByteArray (i : Int32) : List UInt8 :=
  [(i &&& 0xff).toInt8.toUInt8, (i >>> 8 &&& 0xff).toInt8.toUInt8,
    (i >>> 16 &&& 0xff).toInt8.toUInt8, (i >>> 24 &&& 0xff).toInt8.toUInt8]

/-- `Hackrf.setFrequency` -/
def setFrequency (frequency : Int64) : ControlRequest :=
  let mhz := (frequency / 1000000).toInt32
  let hz := (frequency % 1000000).toInt32
  ⟨.setFreq, 0, 0, intToByteArray mhz ++ intToByteArray hz⟩

/-- `Hackrf.setSampleRate` -/
def setSampleRate (sampRate divider : Int32) : ControlRequest :=
  ⟨.sampleRateSet, 0, 0, intToByteArray sampRate ++ intToByteArray divider⟩

/-- `supportedBandwidthValues` -/
def supportedBandwidthValues : List Int32 :=
  [1750000, 2500000, 3500000, 5000000, 5500000, 6000000, 7000000, 8000000, 9000000, 10000000,
    12000000, 14000000, 15000000, 20000000, 24000000, 28000000]

/-- `Hackrf.computeBasebandFilterBandwidth` -/
def computeBasebandFilterBandwidth (sampRate : Int32) : Int32 :=
  Tables.lastWithin Int32.toInt sampRate.toInt supportedBandwidthValues 1750000

/-- `Hackrf.setBasebandFilterBandwidth` -/
def setBasebandFilterBandwidth (bandwidth : Int32) : ControlRequest :=
  ⟨.basebandFilterBandwidthSet, bandwidth &&& 0xffff, bandwidth >>> 16 &&& 0xffff, []⟩

/-- `(int) (0.75 * argument)`; the product of 34 bits is a `double`. -/
def threeQuarters (argument : Int32) : Int32 :=
  Int32.ofInt (RtlSdrDevice.truncate (RtlSdrDevice.toDouble (3 / 4 * argument.toInt)))

/-- The request of a gain, which receives one byte and sends none. -/
def GainRequest.controlRequest (request : GainRequest) : ControlRequest :=
  match request.amplifier with
  | .lna => ⟨.setLnaGain, 0, request.gain, []⟩
  | .vga => ⟨.setVgaGain, 0, request.gain, []⟩

/-- What a call sends; `HackRfTcp.setSampleRate` makes two calls of the driver. -/
def DriverCall.controlRequests : DriverCall → List ControlRequest
  | .setFrequency frequency => [HackRf.setFrequency frequency]
  | .setSampleRate argument =>
      [HackRf.setSampleRate argument 1,
        setBasebandFilterBandwidth (computeBasebandFilterBandwidth (threeQuarters argument))]
  | .setRxLNAGain gain => (HackRf.setRxLNAGain gain).toList.map GainRequest.controlRequest
  | .setRxVGAGain gain => (HackRf.setRxVGAGain gain).toList.map GainRequest.controlRequest

/-- What a command sends, up to a request that throws. -/
def controlRequests (command : TcpCommand) (argument : Int64) : List ControlRequest :=
  (executeCommand command argument).flatMap DriverCall.controlRequests

/-- `HackRfTcp.initDevice` -/
def initDevice (arguments : SdrDriverTools.SdrTcpArguments) : List ControlRequest :=
  controlRequests .setSampleRate arguments.samplerateHz
    ++ controlRequests .setFreq arguments.frequencyHz
    ++ controlRequests .setGainMode 1

-----------------------------------------------------------------------------------------
-- The device
-----------------------------------------------------------------------------------------

inductive Setting
  | frequency
  | sampleRate
  | bandwidth
  | lnaGain
  | vgaGain
  deriving DecidableEq, Repr

/-- What the device takes from a request, with words in its own byte order. -/
def ControlRequest.sets (request : ControlRequest) : Option (Setting × Nat) :=
  match request.request, request.buffer with
  | .setFreq, [m₀, m₁, m₂, m₃, h₀, h₁, h₂, h₃] =>
      some
        (.frequency,
          (ofLittleEndian m₀ m₁ m₂ m₃).toNat * 1000000 + (ofLittleEndian h₀ h₁ h₂ h₃).toNat)
  | .sampleRateSet, [s₀, s₁, s₂, s₃, d₀, d₁, d₂, d₃] =>
      some
        (.sampleRate,
          (ofLittleEndian s₀ s₁ s₂ s₃).toNat / (ofLittleEndian d₀ d₁ d₂ d₃).toNat)
  | .basebandFilterBandwidthSet, _ =>
      some
        (.bandwidth, request.value.toUInt32.toNat + 65536 * request.index.toUInt32.toNat)
  | .setLnaGain, _ => some (.lnaGain, request.index.toUInt32.toNat)
  | .setVgaGain, _ => some (.vgaGain, request.index.toUInt32.toNat)
  | _, _ => none

/-- The settings that a device was last asked for, after some more requests. -/
def configured (settings : Setting → Nat) (made : List (Setting × Nat)) : Setting → Nat :=
  made.foldl (fun settings entry => Function.update settings entry.1 entry.2) settings

/-- How a call of `sendUsbRequest` goes: the interface is not claimed; the count returned is not
the one expected, whether the device received the request or not; or all goes well.
-/
inductive Sending
  | unclaimed
  | failed (delivered : Bool)
  | moved
  deriving DecidableEq, Repr

/-- The requests from the given number on, up to one that throws: the settings after them, and
whether none throws.
-/
def sends (environment : Nat → Sending)
    : Nat → (Setting → Nat) → List ControlRequest → (Setting → Nat) × Bool
  | _, settings, [] => (settings, true)
  | number, settings, request :: rest =>
      match environment number with
      | .unclaimed => (settings, false)
      | .failed delivered =>
          (if delivered then configured settings request.sets.toList else settings, false)
      | .moved =>
          sends environment (number + 1) (configured settings request.sets.toList) rest

-----------------------------------------------------------------------------------------
-- Bytes and numbers
-----------------------------------------------------------------------------------------

/-- The low places of a word that was shifted with its sign are some of its own. -/
theorem toNat_shifted_and (i : BitVec 32) {shift width : Nat} (inside : shift + width ≤ 32)
    : (i.sshiftRight shift &&& (BitVec.allOnes width).setWidth 32).toNat
      = i.toNat / 2 ^ shift % 2 ^ width := by
  have same
      : i.sshiftRight shift &&& (BitVec.allOnes width).setWidth 32
        = (i.extractLsb' shift width).setWidth 32 := by
    ext k low
    by_cases inner : k < width
    · have within : shift + k < 32 := by omega
      simp [BitVec.getElem_sshiftRight, inner, within]
    · simp [inner]
  have least := Nat.mod_lt (i.toNat >>> shift) (Nat.two_pow_pos width)
  have most : 2 ^ width ≤ 2 ^ 32 := Nat.pow_le_pow_right (by decide) (by omega)
  rw [same, BitVec.toNat_setWidth, BitVec.extractLsb'_toNat, ← Nat.shiftRight_eq_div_pow]
  exact Nat.mod_eq_of_lt (Nat.lt_of_lt_of_le least most)

/-- Little endian, as `Hackrf.java` documents it. -/
theorem intToByteArray_eq (i : Int32) : intToByteArray i = littleEndian i.toUInt32 := by
  have shifted (shift : Int32) {places : Nat}
      (same : (shift.toBitVec.smod 32).toNat = places) (inside : places + 8 ≤ 32)
      : (i >>> shift &&& 0xff).toInt8.toUInt8 = UInt8.ofNat (i.toUInt32.toNat / 2 ^ places) := by
    have whole
        : (i >>> shift &&& 0xff).toBitVec
          = i.toBitVec.sshiftRight places &&& (BitVec.allOnes 8).setWidth 32 := by
      rw [← same]
      rfl
    rw [← UInt8.toNat_inj, UInt8.toNat_ofNat']
    calc
      (i >>> shift &&& 0xff).toInt8.toUInt8.toNat
        = ((i >>> shift &&& 0xff).toBitVec.setWidth 8).toNat :=
        congrArg BitVec.toNat (BitVec.signExtend_eq_setWidth_of_le _ (by decide))
      _ = i.toBitVec.toNat / 2 ^ places % 2 ^ 8 % 2 ^ 8 := by
        rw [BitVec.toNat_setWidth, whole, toNat_shifted_and i.toBitVec inside]
      _ = i.toUInt32.toNat / 2 ^ places % 2 ^ 8 := Nat.mod_mod _ _
  have first := shifted 0 (show _ = 0 from rfl) (by decide)
  rw [Int32.shiftRight_zero] at first
  simp only [intToByteArray, littleEndian, first, shifted 8 (show _ = 8 from rfl) (by decide),
    shifted 16 (show _ = 16 from rfl) (by decide), shifted 24 (show _ = 24 from rfl) (by decide),
    Nat.pow_zero, Nat.div_one]

/-- A word is that of its bytes. -/
theorem ofLittleEndian_bytes (word : UInt32)
    : ofLittleEndian (UInt8.ofNat word.toNat) (UInt8.ofNat (word.toNat / 2 ^ 8))
        (UInt8.ofNat (word.toNat / 2 ^ 16)) (UInt8.ofNat (word.toNat / 2 ^ 24))
      = word := by
  have small := word.toNat_lt
  rw [← UInt32.toNat_inj, toNat_ofLittleEndian]
  simp only [UInt8.toNat_ofNat']
  omega

/-- What the device takes from two ints. -/
theorem setFrequency_sets (frequency : Int64)
    : (setFrequency frequency).sets
      = some
          (.frequency,
            (frequency / 1000000).toInt32.toUInt32.toNat * 1000000
              + (frequency % 1000000).toInt32.toUInt32.toNat) := by
  simp only [setFrequency, intToByteArray_eq, littleEndian, List.cons_append, List.nil_append,
    ControlRequest.sets, ofLittleEndian_bytes]

/-- The request sets the sample rate to the number read as unsigned. Witness: its bytes are
the number's little-endian ones, with divider 1.
-/
theorem setSampleRate_sets (sampRate : Int32)
    : (setSampleRate sampRate 1).sets = some (.sampleRate, sampRate.toUInt32.toNat) := by
  simp only [setSampleRate, intToByteArray_eq, littleEndian, List.cons_append, List.nil_append,
    ControlRequest.sets, ofLittleEndian_bytes]
  exact congrArg (fun rate => some (Setting.sampleRate, rate)) (Nat.div_one _)

/-- The halves of a bandwidth. -/
theorem setBasebandFilterBandwidth_sets (bandwidth : Int32)
    : (setBasebandFilterBandwidth bandwidth).sets
      = some (.bandwidth, bandwidth.toUInt32.toNat) := by
  have low : (bandwidth &&& 0xffff).toUInt32.toNat = bandwidth.toUInt32.toNat % 2 ^ 16 := by
    have whole := @toNat_shifted_and bandwidth.toBitVec 0 16 (by decide)
    rw [BitVec.sshiftRight_zero, Nat.pow_zero, Nat.div_one] at whole
    exact whole
  have high
      : (bandwidth >>> 16 &&& 0xffff).toUInt32.toNat = bandwidth.toUInt32.toNat / 2 ^ 16 := by
    have whole := @toNat_shifted_and bandwidth.toBitVec 16 16 (by decide)
    have small := Nat.div_lt_of_lt_mul (show bandwidth.toBitVec.toNat < 2 ^ 16 * 2 ^ 16 from
      bandwidth.toBitVec.isLt)
    rw [Nat.mod_eq_of_lt small] at whole
    exact whole
  simp only [setBasebandFilterBandwidth, ControlRequest.sets, low, high]
  exact congrArg (fun width => some (Setting.bandwidth, width)) (Nat.mod_add_div _ _)

/-- The int of a long holds it up to multiples of `2 ^ 32`. -/
theorem toNat_toInt32 (x : Int64) : (x.toInt32.toUInt32.toNat : Int) = x.toInt % 2 ^ 32 := by
  have whole : x.toInt32.toUInt32.toNat = x.toBitVec.toNat % 2 ^ 32 := by
    rw [← Int32.toNat_toBitVec, Int64.toBitVec_toInt32,
      BitVec.signExtend_eq_setWidth_of_le _ (by decide), BitVec.toNat_setWidth]
  have signed : x.toInt = (x.toBitVec.toNat : Int).bmod (2 ^ 64) := BitVec.toInt_eq_toNat_bmod _
  have wraps := Int.dvd_bmod_sub_self (x := (x.toBitVec.toNat : Int)) (m := 2 ^ 64)
  rw [whole, signed]
  omega

/-- A word that is read as a long is never negative. -/
theorem toInt_maskedInt (result : Int32)
    : (maskedInt result).toInt = (result.toUInt32.toNat : Int) := by
  have same : (maskedInt result).toBitVec = result.toBitVec.setWidth 64 :=
    signExtend_and_mask result.toBitVec
  rw [Int64.toInt, same, toInt_setWidth_of_wider _ (by decide)]
  rfl

/-- The frequency that the device takes from the two words sent for it. -/
def frequencyTaken (frequency : Int) : Nat :=
  (frequency.tdiv 1000000 % 2 ^ 32).toNat * 1000000 + (frequency.tmod 1000000 % 2 ^ 32).toNat

/-- The request sets the frequency taken for the number given. Witness: quotient and remainder
by a million, each cast to an `int`.
-/
theorem setFrequency_takes (frequency : Int64)
    : (setFrequency frequency).sets = some (.frequency, frequencyTaken frequency.toInt) := by
  have mhz : (frequency / 1000000).toInt = frequency.toInt.tdiv 1000000 :=
    Int64.toInt_div_of_ne_right _ _ (by decide)
  have hz : (frequency % 1000000).toInt = frequency.toInt.tmod 1000000 := Int64.toInt_mod _ _
  have first := toNat_toInt32 (frequency / 1000000)
  have second := toNat_toInt32 (frequency % 1000000)
  rw [mhz] at first
  rw [hz] at second
  rw [setFrequency_sets, frequencyTaken, ← first, ← second]
  rfl

/-- A frequency is taken as it is if its megahertz fit a word. -/
theorem frequencyTaken_iff (frequency : Int)
    : (frequencyTaken frequency : Int) = frequency
      ↔ 0 ≤ frequency ∧ frequency < 2 ^ 32 * 1000000 := by
  by_cases nonneg : 0 ≤ frequency
  · rw [frequencyTaken, Int.tdiv_eq_ediv_of_nonneg nonneg, Int.tmod_eq_emod_of_nonneg nonneg]
    omega
  · constructor
    · intro same
      exact absurd (same ▸ Int.natCast_nonneg (frequencyTaken frequency)) nonneg
    · exact fun within => absurd within.1 nonneg

/-- Three quarters of an int, cut off. -/
theorem toInt_threeQuarters (argument : Int32)
    : (threeQuarters argument).toInt = (3 * argument.toInt).tdiv 4 := by
  have least := argument.le_toInt
  have most := argument.toInt_lt
  have quotient
      : (3 / 4 : ℚ) * (argument.toInt : ℚ) = ((3 * argument.toInt : ℤ) : ℚ) / ((4 : ℕ) : ℚ) := by
    push_cast
    ring
  have cut := RtlSdrDevice.truncate_toDouble_div (n := 3 * argument.toInt) (d := 4) (by omega)
    (by decide)
  have between := Int.mul_tdiv_add_tmod (3 * argument.toInt) 4
  have low := Int.lt_tmod_of_pos (3 * argument.toInt) (show (0 : Int) < 4 by decide)
  have high := Int.tmod_lt_of_pos (3 * argument.toInt) (show (0 : Int) < 4 by decide)
  have same : (3 * argument.toInt).tdiv ((4 : ℕ) : Int) = (3 * argument.toInt).tdiv 4 := rfl
  rw [threeQuarters, quotient, cut, same]
  exact Int32.toInt_ofInt_of_le (by omega) (by omega)

-----------------------------------------------------------------------------------------
-- What commands ask for
-----------------------------------------------------------------------------------------

/-- The widest filter within three quarters of a sample rate, or else the narrowest one. -/
def filterWidth (rate : Int) : Int :=
  ((supportedBandwidthValues.map Int32.toInt).filter fun width =>
    decide (4 * width ≤ 3 * rate)).max?.getD 1750000

def Amplifier.setting : Amplifier → Setting
  | .lna => .lnaGain
  | .vga => .vgaGain

/-- The settings that a gain command asks for. -/
def GainCommand.asked (command : GainCommand) (argument : Int32) : List (Setting × Nat) :=
  command.amplifiers.map fun amplifier =>
    (amplifier.setting, (command.value (command.reading argument) amplifier).toNat)

/-- The settings that a command asks for with a word as its argument. The device takes a sample rate
as an unsigned word; its filter is chosen for the same word as a signed int.
-/
def asked (command : TcpCommand) (argument : Int32) : List (Setting × Nat) :=
  match command with
  | .setFreq => [(.frequency, argument.toUInt32.toNat)]
  | .setSampleRate =>
      [(.sampleRate, argument.toUInt32.toNat), (.bandwidth, (filterWidth argument.toInt).toNat)]
  | .setGain => GainCommand.setGain.asked argument
  | .setIfTunerGain => GainCommand.setIfTunerGain.asked argument
  | .androidGainByPercentage => GainCommand.gainByPercentage.asked argument
  | .setAgcMode | .setGainMode => [(.vgaGain, 32), (.lnaGain, 24)]
  | _ => []

/-- Every supported filter has a positive width. Witness: the table's entries. -/
theorem supportedBandwidthValues_positive
    : ∀ width ∈ supportedBandwidthValues.map Int32.toInt, 0 < width :=
  Tables.forall_entries (by decide)

/-- Every rate gets a filter of positive width. Witness: one of the table, or its narrowest.
-/
theorem filterWidth_positive (rate : Int) : 0 < filterWidth rate := by
  unfold filterWidth
  cases widest
      : ((supportedBandwidthValues.map Int32.toInt).filter fun width =>
          decide (4 * width ≤ 3 * rate)).max? with
  | none => decide
  | some width =>
      exact supportedBandwidthValues_positive width
        (List.mem_of_mem_filter (List.max?_mem widest))

/-- For a sample rate from 2 ^ 31 on, a negative int, the filter is the narrowest. Witness:
no filter is within three quarters of a negative number.
-/
theorem asked_sampleRate_of_negative {argument : Int32} (negative : argument.toInt < 0)
    : asked .setSampleRate argument
      = [(.sampleRate, argument.toUInt32.toNat), (.bandwidth, 1750000)] := by
  have empty
      : ((supportedBandwidthValues.map Int32.toInt).filter fun width =>
          decide (4 * width ≤ 3 * argument.toInt)) = [] := by
    refine List.filter_eq_nil_iff.mpr fun width member reaches => ?_
    have positive := supportedBandwidthValues_positive width member
    have within := of_decide_eq_true reaches
    omega
  have narrowest : filterWidth argument.toInt = 1750000 := by
    rw [filterWidth, empty]
    rfl
  rw [asked, narrowest]
  rfl

/-- The filter of a sample rate. -/
theorem computeBasebandFilterBandwidth_eq (argument : Int32)
    : (computeBasebandFilterBandwidth (threeQuarters argument)).toInt
      = filterWidth argument.toInt := by
  have between := Int.mul_tdiv_add_tmod (3 * argument.toInt) 4
  have high := Int.tmod_lt_of_pos (3 * argument.toInt) (show (0 : Int) < 4 by decide)
  have sign (nonneg : 0 ≤ 3 * argument.toInt) : 0 ≤ (3 * argument.toInt).tmod 4 :=
    Int.tmod_nonneg 4 nonneg
  have low := Int.lt_tmod_of_pos (3 * argument.toInt) (show (0 : Int) < 4 by decide)
  have within {width : Int} (positive : 0 < width)
      : width ≤ (3 * argument.toInt).tdiv 4 ↔ 4 * width ≤ 3 * argument.toInt := by
    constructor
    · intro reaches
      have := sign (by omega)
      omega
    · intro reaches
      have := sign (by omega)
      omega
  have positive := supportedBandwidthValues_positive
  have ascending : (supportedBandwidthValues.map Int32.toInt).Pairwise (· ≤ ·) := by decide
  unfold computeBasebandFilterBandwidth filterWidth
  rw [toInt_threeQuarters]
  rcases @Tables.lastWithin_isGreatest _ _ ((3 * argument.toInt).tdiv 4) _ _ _ 1750000 ascending
    with ⟨none, same⟩ | ⟨⟨member, reaches⟩, greatest⟩
  · have empty
        : ((supportedBandwidthValues.map Int32.toInt).filter fun width =>
            decide (4 * width ≤ 3 * argument.toInt)) = [] := by
      refine List.filter_eq_nil_iff.mpr fun width member reaches => ?_
      obtain ⟨entry, listed, rfl⟩ := List.mem_map.mp member
      exact absurd ((within (positive _ member)).mpr (of_decide_eq_true reaches))
        (not_le.mpr (none entry listed))
    rw [same, empty]
    rfl
  · have found := List.max?_eq_some_iff.mpr
      (show _ ∈ ((supportedBandwidthValues.map Int32.toInt).filter fun width =>
          decide (4 * width ≤ 3 * argument.toInt)) ∧ _ from
        ⟨List.mem_filter.mpr ⟨member, decide_eq_true ((within (positive _ member)).mp reaches)⟩,
          fun width listed => greatest ⟨List.mem_of_mem_filter listed,
            (within (positive _ (List.mem_of_mem_filter listed))).mpr
              (of_decide_eq_true (List.mem_filter.mp listed).2)⟩⟩)
    rw [found]
    rfl

/-- A number that is not negative is the same read as unsigned. Witness: the cast does not
wrap.
-/
theorem toNat_toUInt32_of_nonneg {value : Int32} (nonneg : 0 ≤ value.toInt)
    : value.toUInt32.toNat = value.toInt.toNat :=
  Int32.toNat_toUInt32_of_le (Int32.le_iff_toInt_le.mpr nonneg)

/-- The request for a gain that is not negative sets its amplifier to that gain. Witness: the
two amplifiers.
-/
theorem GainRequest.controlRequest_sets {request : GainRequest} (nonneg : 0 ≤ request.gain.toInt)
    : request.controlRequest.sets
      = some (request.amplifier.setting, request.gain.toInt.toNat) := by
  rw [← toNat_toUInt32_of_nonneg nonneg]
  obtain ⟨amplifier, gain⟩ := request
  cases amplifier <;> rfl

/-- The gain commands send their gain requests and nothing else. -/
theorem controlRequests_gains (command : GainCommand) (argument : Int64)
    : controlRequests command.command argument
      = (gainRequests command.command argument).map GainRequest.controlRequest := by
  unfold controlRequests gainRequests
  rw [List.filterMap_eq_flatMap_toList, List.map_flatMap]
  refine List.flatMap_congr fun call member => ?_
  cases command with
  | setGain | setIfTunerGain =>
      cases List.mem_singleton.mp member
      rfl
  | gainByPercentage =>
      rcases List.mem_cons.mp member with rfl | second
      · rfl
      · cases List.mem_singleton.mp second
        rfl

/-- By induction on the amplifiers of a command and the requests for them. -/
theorem gains_asked (command : GainCommand) (argument : Int32)
    : (controlRequests command.command (maskedInt argument)).filterMap ControlRequest.sets
      = command.asked argument := by
  have taken {amplifiers : List Amplifier} {requests : List GainRequest}
      (values
        : List.Forall₂
            (fun amplifier request =>
              request.amplifier = amplifier
              ∧ request.gain.toInt = command.value (command.reading argument) amplifier)
            amplifiers requests)
      (safe : ∀ request ∈ requests, GainCommand.Safe request)
      : (requests.map GainRequest.controlRequest).filterMap ControlRequest.sets
        = amplifiers.map fun amplifier =>
            (amplifier.setting, (command.value (command.reading argument) amplifier).toNat) := by
    induction values with
    | nil => rfl
    | cons same _ ih =>
        obtain ⟨first, others⟩ := List.forall_mem_cons.mp safe
        rw [List.map_cons, List.filterMap_cons, GainRequest.controlRequest_sets first.nonneg,
          List.map_cons, ih others, same.1, same.2]
  rw [controlRequests_gains]
  exact taken (command.requests_values argument) (command.requests_safe argument).2

/-- A sample rate is set with its filter. -/
theorem controlRequests_sampleRate (argument : Int64)
    : (controlRequests .setSampleRate argument).filterMap ControlRequest.sets
      = [(.sampleRate, argument.toInt32.toUInt32.toNat),
          (.bandwidth, (filterWidth argument.toInt32.toInt).toNat)] := by
  have width := computeBasebandFilterBandwidth_eq argument.toInt32
  have taken := toNat_toUInt32_of_nonneg (width ▸ Int.le_of_lt (filterWidth_positive _))
  rw [width] at taken
  simp only [controlRequests, executeCommand, DriverCall.controlRequests, List.flatMap_cons,
    List.flatMap_nil, List.append_nil, List.filterMap_cons, List.filterMap_nil, setSampleRate_sets,
    setBasebandFilterBandwidth_sets, taken]

/-- The requests of a command are for the settings that it asks for. -/
theorem controlRequests_asked (command : TcpCommand) (argument : Int32)
    : (controlRequests command (maskedInt argument)).filterMap ControlRequest.sets
      = asked command argument := by
  cases command with
  | setGain => exact gains_asked .setGain argument
  | setIfTunerGain => exact gains_asked .setIfTunerGain argument
  | androidGainByPercentage => exact gains_asked .gainByPercentage argument
  | setFreq =>
      have word := argument.toUInt32.toNat_lt
      have exact_ := (frequencyTaken_iff argument.toUInt32.toNat).mpr ⟨by omega, by omega⟩
      rw [asked, ← Int.natCast_inj.mp exact_, ← toInt_maskedInt]
      exact List.filterMap_cons_some (setFrequency_takes _)
  | setSampleRate =>
      rw [controlRequests_sampleRate, GainCommand.toInt32_maskedInt, asked]
  | _ => rfl

-----------------------------------------------------------------------------------------
-- Every run
-----------------------------------------------------------------------------------------

section Runs

variable {environment : Nat → Sending} {settings : Setting → Nat}

/-- Settings made one after the other are made as one list. Witness: `List.foldl_append`. -/
theorem configured_append (first second : List (Setting × Nat))
    : configured settings (first ++ second) = configured (configured settings first) second :=
  List.foldl_append

/-- Whatever requests fail, a first part of the settings asked for is made, and all of them where
none throws. By induction on the requests.
-/
theorem sends_firstPart (number : Nat) (requests : List ControlRequest)
    : ∃ made,
        made <+: requests.filterMap ControlRequest.sets
        ∧ (sends environment number settings requests).1 = configured settings made
        ∧ ((sends environment number settings requests).2 = true
          → made = requests.filterMap ControlRequest.sets) := by
  induction requests generalizing number settings with
  | nil => exact ⟨[], List.nil_prefix, rfl, fun _ => rfl⟩
  | cons request rest ih =>
      have all
          : (request :: rest).filterMap ControlRequest.sets
            = request.sets.toList ++ rest.filterMap ControlRequest.sets := by
        rw [List.filterMap_cons]
        cases request.sets <;> rfl
      rw [all, sends]
      cases environment number with
      | unclaimed => exact ⟨[], List.nil_prefix, rfl, nofun⟩
      | failed delivered =>
          cases delivered with
          | false => exact ⟨[], List.nil_prefix, rfl, nofun⟩
          | true => exact ⟨_, List.prefix_append _ _, rfl, nofun⟩
      | moved =>
          obtain ⟨made, first, made_, whole⟩ :=
            @ih (configured settings request.sets.toList) (number + 1)
          refine ⟨request.sets.toList ++ made, (List.prefix_append_right_inj _).mpr first, ?_, ?_⟩
          · rw [configured_append]
            exact made_
          · intro throws
            rw [whole throws]

/-- The settings that a command of the client's stream asks for. -/
def askedOf (command : UInt8 × UInt32) : List (Setting × Nat) :=
  match TcpCommand.fromCode (Int32.ofNat command.1.toNat) with
  | some known => asked known command.2.toInt32
  | none => []

/-- The pair that is read for a command. -/
theorem pairValue_eq (command : UInt8 × UInt32)
    : pairValue (Int32.ofNat command.1.toNat, maskedInt command.2.toInt32)
      = commandValue command := by
  have small := command.1.toNat_lt
  rw [pairValue, commandValue, toInt_maskedInt, Int32.toInt_ofNat_of_lt (by omega)]
  rfl

/-- The requests of what is read of a stream are for what its commands ask for. -/
theorem recognised_asked {pairs : List (Int32 × Int64)} {commands : List (UInt8 × UInt32)}
    (same : pairs.map pairValue = commands.map commandValue)
    : ((pairs.filterMap recognised).flatMap fun command =>
          controlRequests command.1 command.2).filterMap ControlRequest.sets
      = commands.flatMap askedOf := by
  have injective : Function.Injective pairValue := by
    rintro ⟨code, argument⟩ ⟨code', argument'⟩ equal
    obtain ⟨codes, arguments⟩ := Prod.mk.inj equal
    exact Prod.ext (Int32.toInt_inj.mp codes) (Int64.toInt_inj.mp arguments)
  have read
      : pairs
        = commands.map fun command =>
            (Int32.ofNat command.1.toNat, maskedInt command.2.toInt32) := by
    refine List.map_injective_iff.mpr injective ?_
    rw [same, List.map_map]
    exact List.map_congr_left fun command _ => (pairValue_eq command).symm
  rw [read, List.filterMap_map, List.filterMap_eq_flatMap_toList, List.flatMap_assoc,
    List.filterMap_eq_flatMap_toList, List.flatMap_assoc]
  refine List.flatMap_congr fun command _ => ?_
  unfold askedOf
  simp only [Function.comp, recognised]
  cases TcpCommand.fromCode (Int32.ofNat command.1.toNat) with
  | none => rfl
  | some known =>
      simp only [Option.map_some, Option.toList_some, List.flatMap_cons, List.flatMap_nil,
        List.append_nil]
      rw [← controlRequests_asked, List.filterMap_eq_flatMap_toList]

/-- Whatever bytes the command thread has received and however, and whatever requests fail, the
device has been asked for a first part of the settings that the stream's commands ask for, and for
all of them where nothing throws and nothing awaits its execution.
-/
theorem settings_of_received {thread : HardwareCommand}
    (reachable : hardwareCommand.Reachable thread)
    : ∃ made,
        made <+: (commandsOf thread.received).flatMap askedOf
        ∧ (sends environment 0 settings
              (thread.executed.flatMap fun command =>
                controlRequests command.1 command.2)).1
          = configured settings made
        ∧ ((sends environment 0 settings
              (thread.executed.flatMap fun command =>
                controlRequests command.1 command.2)).2
            = true
          → thread.pos.awaiting = []
          → made = (commandsOf thread.received).flatMap askedOf) := by
  obtain ⟨pairs, passed⟩ := pairs_of_received reachable
  have whole := recognised_asked pairs
  rw [← passed, List.flatMap_append, List.filterMap_append] at whole
  obtain ⟨made, first, same, all⟩ := @sends_firstPart environment settings 0
    (thread.executed.flatMap fun command => controlRequests command.1 command.2)
  refine ⟨made, ?_, same, fun throws none => ?_⟩
  · rw [← whole]
    exact first.trans (List.prefix_append _ _)
  · rw [all throws, ← whole, none]
    exact (List.append_nil _).symm

/-- A device that is tuned to 1234 Hz by the first command of a stream. -/
theorem settings_of_received_tuning
    : (sends (fun _ => .moved) 0 (fun _ => 0) (controlRequests .setFreq 1234)).1 .frequency
      = 1234 := by
  have replayed
      : (hardwareCommand.run ⟨.testInterrupted, false, [], [], []⟩
            [.step, .read 1, .read 0, .read 0, .read 4, .read 210, .step, .step]).map
          (fun thread => (thread.received, thread.executed, thread.pos.awaiting))
        = some ([1, 0, 0, 4, 210], [(.setFreq, 1234)], []) := by
    decide +kernel
  obtain ⟨thread, reachable, seen⟩ := System.exists_reachable_of_run replayed rfl
  simp only [Prod.mk.injEq] at seen
  obtain ⟨received, executed, awaiting⟩ := seen
  obtain ⟨made, -, same, all⟩ :=
    @settings_of_received (fun _ => .moved) (fun _ => 0) thread reachable
  rw [executed] at same all
  have asks : (commandsOf [1, 0, 0, 4, 210]).flatMap askedOf = [(.frequency, 1234)] := by
    decide +kernel
  have whole := all rfl awaiting
  rw [received, asks] at whole
  simp only [List.flatMap_cons, List.flatMap_nil, List.append_nil] at same
  rw [same, whole]
  rfl

/-- The settings of the arguments. -/
def startupSettings (arguments : SdrDriverTools.SdrTcpArguments) : List (Setting × Nat) :=
  [(.sampleRate, (arguments.samplerateHz.toInt % 2 ^ 32).toNat),
    (.bandwidth, (filterWidth (arguments.samplerateHz.toInt.bmod (2 ^ 32))).toNat),
    (.frequency, frequencyTaken arguments.frequencyHz.toInt), (.vgaGain, 32), (.lnaGain, 24)]

/-- Whatever requests of `initDevice` fail, the device has been asked for a first part of the
settings of the arguments, and for all of them where none throws; among them are the sample rate
and the frequency of the arguments exactly if they fit what is sent for them.
-/
theorem initDevice_asks (arguments : SdrDriverTools.SdrTcpArguments)
    : (∃ made,
        made <+: startupSettings arguments
        ∧ (sends environment 0 settings (initDevice arguments)).1 = configured settings made
        ∧ ((sends environment 0 settings (initDevice arguments)).2 = true
          → made = startupSettings arguments))
      ∧ ((∃ rate : Nat,
            rate = arguments.samplerateHz.toInt
            ∧ (Setting.sampleRate, rate) ∈ startupSettings arguments)
        ↔ 0 ≤ arguments.samplerateHz.toInt ∧ arguments.samplerateHz.toInt < 2 ^ 32)
      ∧ ((∃ frequency : Nat,
            frequency = arguments.frequencyHz.toInt
            ∧ (Setting.frequency, frequency) ∈ startupSettings arguments)
        ↔ 0 ≤ arguments.frequencyHz.toInt
          ∧ arguments.frequencyHz.toInt < 2 ^ 32 * 1000000) := by
  have requests
      : (initDevice arguments).filterMap ControlRequest.sets = startupSettings arguments := by
    have rate := toNat_toInt32 arguments.samplerateHz
    have tuned
        : (controlRequests .setFreq arguments.frequencyHz).filterMap ControlRequest.sets
          = [(.frequency, frequencyTaken arguments.frequencyHz.toInt)] :=
      List.filterMap_cons_some (setFrequency_takes arguments.frequencyHz)
    rw [initDevice, List.filterMap_append, List.filterMap_append, controlRequests_sampleRate,
      tuned, Int64.toInt_toInt32, startupSettings, ← rate]
    rfl
  refine ⟨requests ▸ sends_firstPart 0 _, ?_, ?_⟩
  · constructor
    · rintro ⟨rate, same, listed⟩
      have taken : rate = (arguments.samplerateHz.toInt % 2 ^ 32).toNat := by
        simpa [startupSettings] using listed
      omega
    · intro fits
      refine ⟨(arguments.samplerateHz.toInt % 2 ^ 32).toNat, by omega, List.mem_cons_self⟩
  · rw [← frequencyTaken_iff]
    constructor
    · rintro ⟨frequency, same, listed⟩
      have taken : frequency = frequencyTaken arguments.frequencyHz.toInt := by
        simpa [startupSettings] using listed
      rw [← taken, same]
    · intro same
      exact ⟨_, same, by simp [startupSettings]⟩

end Runs

end RtlTcpAndro.HackRf
