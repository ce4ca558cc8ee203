import RtlTcpAndro.HackRf.HardwareCommand
import RtlTcpAndro.JavaLang.Overflow

/-! The gains that clients of the HackRF server ask for, from `executeCommand` in
`HackRfTcp.java` to the requests of the driver.
-/

namespace RtlTcpAndro.HackRf

open RtlTcpAndro.ByteStreams RtlTcpAndro.JavaLang

-----------------------------------------------------------------------------------------
-- executeCommand
-----------------------------------------------------------------------------------------

/-- The calls of `executeCommand`: those of the driver, and the one of its own
`setSampleRate`.
-/
inductive DriverCall
  | setFrequency (frequency : Int64)
  | setSampleRate (argument : Int32)
  | setRxLNAGain (gain : Int32)
  | setRxVGAGain (gain : Int32)
  deriving DecidableEq, Repr

def defaultLnaGain : Int32 := 30
def defaultVgaGain : Int32 := 32

/-- `remap_rtl_gain_to_perc` -/
def remapRtlGainToPerc (tenthsOfDb : Int32) : Int32 := (tenthsOfDb + 10) / 5

/-- A percentage mapped from 0 to `most`. -/
def scaled (perc most : Int32) : Int32 :=
  let scaled := perc * most / 100
  let scaled := if scaled < 0 then 0 else scaled
  if scaled > most then most else scaled

/-- The calls of `HackRfTcp.executeCommand` in order, of which one that throws drops the rest. -/
def executeCommand (command : TcpCommand) (argument : Int64) : List DriverCall :=
  match command with
  | .setFreq => [.setFrequency argument]
  | .setSampleRate => [.setSampleRate argument.toInt32]
  | .setIfTunerGain =>
      let perc := remapRtlGainToPerc argument.toInt32
      [.setRxLNAGain (scaled perc 40)]
  | .setGain =>
      let perc := remapRtlGainToPerc argument.toInt32
      [.setRxVGAGain (scaled perc 62)]
  | .setAgcMode | .setGainMode => [.setRxVGAGain defaultVgaGain, .setRxLNAGain defaultLnaGain]
  | .androidGainByPercentage =>
      [.setRxLNAGain (scaled argument.toInt32 40), .setRxVGAGain (scaled argument.toInt32 62)]
  | _ => []

-----------------------------------------------------------------------------------------
-- The driver
-----------------------------------------------------------------------------------------

/-- What the gains of the receiver belong to. -/
inductive Amplifier
  | lna
  | vga
  deriving DecidableEq, Repr

/-- The highest gain, and the steps of the gains. -/
def Amplifier.most : Amplifier → Int32
  | .lna => 40
  | .vga => 62

def Amplifier.step : Amplifier → Int32
  | .lna => 8
  | .vga => 2

/-- The vendor request `HACKRF_VENDOR_REQUEST_SET_LNA_GAIN` or
`HACKRF_VENDOR_REQUEST_SET_VGA_GAIN` with the index it is sent with.
-/
structure GainRequest where
  amplifier : Amplifier
  gain : Int32
  deriving DecidableEq, Repr

/-- What is sent of a gain that goes up to `most` in steps of `step`; nothing above it. -/
def stepped (most step gain : Int32) : Option Int32 :=
  if gain > most then none
  else if gain % step ≠ 0 then some (gain - gain % step)
  else some gain

/-- `Hackrf.setRxVGAGain` -/
def setRxVGAGain (gain : Int32) : Option GainRequest := (stepped 62 2 gain).map (.mk .vga)

/-- `Hackrf.setRxLNAGain` -/
def setRxLNAGain (gain : Int32) : Option GainRequest := (stepped 40 8 gain).map (.mk .lna)

/-- The gain request that a call sends. -/
def DriverCall.gainRequest : DriverCall → Option GainRequest
  | .setRxVGAGain gain => HackRf.setRxVGAGain gain
  | .setRxLNAGain gain => HackRf.setRxLNAGain gain
  | _ => none

/-- The gains that a command sends to the device. -/
def gainRequests (command : TcpCommand) (argument : Int64) : List GainRequest :=
  (executeCommand command argument).filterMap DriverCall.gainRequest

-----------------------------------------------------------------------------------------
-- Gains by numbers
-----------------------------------------------------------------------------------------

/-- The gain that a wrapped product of percentage and `most` comes to. -/
def gainOf (most step product : Int) : Int :=
  let scaled := max 0 (min (product.tdiv 100) most)
  scaled - scaled % step

/-- The scaled gain is the product of percentage and range, wrapped to 32 bits, divided by a
hundred and clamped to the range. Witness: the quotient, and the two comparisons of the clamp.
-/
theorem toInt_scaled (perc : Int32) {most : Int32} (positive : 0 < most.toInt)
    : (scaled perc most).toInt
      = max 0 (min (((perc.toInt * most.toInt).bmod (2 ^ 32)).tdiv 100) most.toInt) := by
  have quotient : (perc * most / 100).toInt
      = ((perc.toInt * most.toInt).bmod (2 ^ 32)).tdiv 100 := by
    rw [Int32.toInt_div_of_ne_right _ _ (by decide), Int32.toInt_mul]
    rfl
  have zero : (0 : Int32).toInt = 0 := rfl
  simp only [scaled, gt_iff_lt, Int32.lt_iff_toInt_lt, quotient, zero]
  split
  next negative =>
    rw [if_neg (by omega)]
    omega
  next nonneg =>
    rw [quotient]
    split
    next => omega
    next => rw [quotient]; omega

/-- A gain within its range is sent, lowered to the step below it where it is between two. -/
theorem stepped_eq {most step gain : Int32} (positive : 0 < step.toInt) (nonneg : 0 ≤ gain.toInt)
    (bounded : gain.toInt ≤ most.toInt)
    : ∃ sent, stepped most step gain = some sent
        ∧ sent.toInt = gain.toInt - gain.toInt % step.toInt := by
  have rest : (gain % step).toInt = gain.toInt % step.toInt := by
    rw [Int32.toInt_mod, Int.tmod_eq_emod_of_nonneg nonneg]
  have zero : (0 : Int32).toInt = 0 := rfl
  rw [stepped, if_neg (by rw [gt_iff_lt, Int32.lt_iff_toInt_lt]; omega)]
  split
  next =>
    refine ⟨_, rfl, ?_⟩
    have below := Int.emod_lt_of_pos gain.toInt positive
    have above := Int.emod_nonneg gain.toInt (Int.ne_of_gt positive)
    have range := gain.toInt_lt
    have limit := step.toInt_lt
    rw [Int32.toInt_sub, rest, Int.bmod_eq_of_le] <;> omega
  next divides =>
    refine ⟨_, rfl, ?_⟩
    have none : gain % step = 0 := not_not.mp divides
    rw [← rest, none, zero]
    omega

/-- The gain of an amplifier for a wrapped product. -/
def Amplifier.gain (amplifier : Amplifier) (product : Int) : Int :=
  gainOf amplifier.most.toInt amplifier.step.toInt product

/-- The request that an amplifier gets for a percentage. -/
def Amplifier.requestFor (amplifier : Amplifier) (perc : Int32) : Option GainRequest :=
  (stepped amplifier.most amplifier.step (scaled perc amplifier.most)).map (.mk amplifier)

/-- The request for a percentage is always made, with the gain of the wrapped product. -/
theorem Amplifier.requestFor_eq (amplifier : Amplifier) (perc : Int32)
    : ∃ sent,
        amplifier.requestFor perc = some ⟨amplifier, sent⟩
        ∧ sent.toInt = amplifier.gain ((perc.toInt * amplifier.most.toInt).bmod (2 ^ 32)) := by
  have positive : 0 < amplifier.most.toInt := by cases amplifier <;> decide
  have steps : 0 < amplifier.step.toInt := by cases amplifier <;> decide
  have value := toInt_scaled perc positive
  obtain ⟨sent, found, same⟩ :=
    @stepped_eq amplifier.most amplifier.step (scaled perc amplifier.most) steps (by omega)
      (by omega)
  refine ⟨sent, ?_, ?_⟩
  · rw [requestFor, found, Option.map_some]
  · rw [same, value, gain, gainOf]

/-- Range and step of the two amplifiers, by cases. -/
theorem Amplifier.parameters (amplifier : Amplifier)
    : amplifier.most.toInt = 40 ∧ amplifier.step.toInt = 8
      ∨ amplifier.most.toInt = 62 ∧ amplifier.step.toInt = 2 := by
  cases amplifier with
  | lna => exact .inl ⟨rfl, rfl⟩
  | vga => exact .inr ⟨rfl, rfl⟩

/-- The gain rises with the product that it is computed from. Witness: quotient, clamp and
step in exact arithmetic.
-/
theorem Amplifier.gain_le (amplifier : Amplifier) (m n : Int) (order : m ≤ n)
    : amplifier.gain m ≤ amplifier.gain n := by
  have first := tdiv_eq_ite m 100
  have second := tdiv_eq_ite n 100
  obtain ⟨most, step⟩ | ⟨most, step⟩ := amplifier.parameters
  all_goals
    simp only [gain, gainOf, most, step]
    split at first <;> split at second <;> omega

/-- At the top of the 32 bits the gain is the highest, at their bottom it is 0. -/
theorem Amplifier.gain_falls (amplifier : Amplifier) (m n : Int)
    (top : 2 ^ 31 - amplifier.most.toInt ≤ m) (bottom : n < amplifier.most.toInt - 2 ^ 31)
    : amplifier.gain n < amplifier.gain m := by
  have first := tdiv_eq_ite m 100
  have second := tdiv_eq_ite n 100
  obtain ⟨most, step⟩ | ⟨most, step⟩ := amplifier.parameters
  all_goals
    rw [most] at top bottom
    rw [if_pos (by omega)] at first
    rw [if_neg (by omega)] at second
    simp only [gain, gainOf, most, step]
    omega

/-- Products below 200 are less than one step. -/
theorem Amplifier.gain_of_low (amplifier : Amplifier) {product : Int} (low : product < 200)
    : amplifier.gain product = 0 := by
  have quotient := tdiv_eq_ite product 100
  obtain ⟨most, step⟩ | ⟨most, step⟩ := amplifier.parameters
  all_goals
    simp only [gain, gainOf, most, step]
    split at quotient <;> omega

/-- The gain is in its range and a multiple of its step, whatever the product is. -/
theorem Amplifier.gain_safe (amplifier : Amplifier) (product : Int)
    : 0 ≤ amplifier.gain product ∧ amplifier.gain product ≤ amplifier.most.toInt
      ∧ amplifier.gain product % amplifier.step.toInt = 0 := by
  obtain ⟨most, step⟩ | ⟨most, step⟩ := amplifier.parameters
  all_goals
    simp only [gain, gainOf, most, step]
    omega

-----------------------------------------------------------------------------------------
-- The commands
-----------------------------------------------------------------------------------------

/-- The commands that set a gain by their argument. -/
inductive GainCommand
  | setGain
  | setIfTunerGain
  | gainByPercentage
  deriving DecidableEq, Repr

namespace GainCommand

def command : GainCommand → TcpCommand
  | .setGain => .setGain
  | .setIfTunerGain => .setIfTunerGain
  | .gainByPercentage => .androidGainByPercentage

/-- The amplifiers it sets, in order. -/
def amplifiers : GainCommand → List Amplifier
  | .setGain => [.vga]
  | .setIfTunerGain => [.lna]
  | .gainByPercentage => [.lna, .vga]

/-- What the received int stands for: tenths of a dB with a sign, or a percentage without. -/
def reading : GainCommand → Int32 → Int
  | .gainByPercentage, result => result.toUInt32.toNat
  | .setGain, result | .setIfTunerGain, result => result.toInt

/-- What is sent for a received int, the argument of `executeCommand` after masking it. -/
def requests (command : GainCommand) (result : Int32) : List GainRequest :=
  gainRequests command.command (maskedInt result)

/-- The percentage of a reading as the code computes it; an int of tenths of a dB may wrap. -/
def percentage : GainCommand → Int → Int
  | .gainByPercentage, reading => reading
  | .setGain, reading | .setIfTunerGain, reading => ((reading + 10).bmod (2 ^ 32)).tdiv 5

/-- Masked and narrowed again, an `int` is the one it was. Witness: the mask takes the bits
that sign extension adds.
-/
theorem toInt32_maskedInt (result : Int32) : (maskedInt result).toInt32 = result := by
  have same : (maskedInt result).toBitVec = result.toBitVec.setWidth 64 :=
    signExtend_and_mask result.toBitVec
  rw [← Int32.toBitVec_inj, Int64.toBitVec_toInt32, same,
    BitVec.signExtend_eq_setWidth_of_le _ (by decide),
    BitVec.setWidth_setWidth_of_le _ (by decide), BitVec.setWidth_eq]

/-- The percentage of a gain in tenths of a dB is that of the sum, wrapped to 32 bits. -/
theorem toInt_remapRtlGainToPerc (tenthsOfDb : Int32)
    : (remapRtlGainToPerc tenthsOfDb).toInt
      = ((tenthsOfDb.toInt + 10).bmod (2 ^ 32)).tdiv 5 := by
  rw [remapRtlGainToPerc, Int32.toInt_div_of_ne_right _ _ (by decide), Int32.toInt_add]
  rfl

/-- A product wraps to the same whether its factor is read signed or unsigned, since the two
readings differ by a multiple of 2^32.
-/
theorem bmod_mul_toInt (result : Int32) (most : Int)
    : (result.toInt * most).bmod (2 ^ 32)
      = ((result.toUInt32.toNat : Int) * most).bmod (2 ^ 32) := by
  have signed : result.toInt = (result.toUInt32.toNat : Int).bmod (2 ^ 32) :=
    BitVec.toInt_eq_toNat_bmod result.toBitVec
  rw [signed, Int.bmod_mul_bmod]

/-- The int that the code scales. -/
def perc : GainCommand → Int32 → Int32
  | .gainByPercentage, result => result
  | .setGain, result | .setIfTunerGain, result => remapRtlGainToPerc result

/-- A command sends the requests of its amplifiers for the percentage that it stands for, by
cases on the command.
-/
theorem requests_eq (command : GainCommand) (result : Int32)
    : command.requests result
      = command.amplifiers.filterMap fun amplifier =>
          amplifier.requestFor (command.perc result) := by
  cases command
  all_goals
    simp only [requests, gainRequests, command, executeCommand, toInt32_maskedInt]
    rfl

/-- The int that is scaled has the product of its percentage, up to wrap-around. -/
theorem bmod_perc (command : GainCommand) (result : Int32) (most : Int)
    : ((command.perc result).toInt * most).bmod (2 ^ 32)
      = (command.percentage (command.reading result) * most).bmod (2 ^ 32) := by
  cases command with
  | gainByPercentage => exact bmod_mul_toInt result most
  | setGain | setIfTunerGain =>
      rw [perc, toInt_remapRtlGainToPerc]
      rfl

/-- The gain that an amplifier gets for a reading. -/
def value (command : GainCommand) (reading : Int) (amplifier : Amplifier) : Int :=
  amplifier.gain ((command.percentage reading * amplifier.most.toInt).bmod (2 ^ 32))

/-- Each amplifier of a command gets its gain, by induction on the amplifiers. -/
theorem requests_values (command : GainCommand) (result : Int32)
    : List.Forall₂
        (fun amplifier request =>
          request.amplifier = amplifier
          ∧ request.gain.toInt = command.value (command.reading result) amplifier)
        command.amplifiers (command.requests result) := by
  rw [requests_eq]
  induction command.amplifiers with
  | nil => exact .nil
  | cons amplifier others ih =>
      obtain ⟨sent, found, gain⟩ := amplifier.requestFor_eq (command.perc result)
      simp only [List.filterMap_cons, found]
      exact .cons ⟨rfl, by rw [gain, bmod_perc, value]⟩ ih

/-- A request is in the range and the steps of its amplifier. -/
structure Safe (request : GainRequest) : Prop where
  nonneg : 0 ≤ request.gain.toInt
  bounded : request.gain.toInt ≤ request.amplifier.most.toInt
  stepped : request.gain.toInt % request.amplifier.step.toInt = 0

/-- Between two received ints, by what they stand for, a command sends each of its amplifiers a
safe gain, and no lower one for a higher argument.
-/
structure SafeAndMonotone (command : GainCommand) (lowest highest : Int32) : Prop where
  sends
    : ∀ result : Int32,
        command.reading lowest ≤ command.reading result
        → command.reading result ≤ command.reading highest
        → (command.requests result).map GainRequest.amplifier = command.amplifiers
  safe
    : ∀ result : Int32,
        command.reading lowest ≤ command.reading result
        → command.reading result ≤ command.reading highest
        → ∀ request ∈ command.requests result, Safe request
  monotone
    : ∀ lower higher : Int32,
        command.reading lowest ≤ command.reading lower
        → command.reading lower ≤ command.reading higher
        → command.reading higher ≤ command.reading highest
        → List.Forall₂ (fun less more => less.gain ≤ more.gain)
            (command.requests lower) (command.requests higher)

/-- The product of percentage and highest gain, in exact arithmetic. -/
def product (command : GainCommand) (reading : Int) (amplifier : Amplifier) : Int :=
  match command with
  | .gainByPercentage => reading * amplifier.most.toInt
  | .setGain | .setIfTunerGain => (reading + 10).tdiv 5 * amplifier.most.toInt

/-- From one reading to another no product wraps around once more; the sum with 10 may wrap for
the low noise amplifier only, whose gains are 0 there on both sides.
-/
structure Unwrapped (command : GainCommand) (low high : Int) : Prop where
  products
    : ∀ amplifier ∈ command.amplifiers,
        window (command.product low amplifier) = window (command.product high amplifier)
  sum : command = .setGain → low + 10 < 2 ^ 31 → high + 10 < 2 ^ 31

/-- The reading of a percentage is an unsigned number of 32 bits, those of the gains are
signed ones.
-/
theorem reading_bounds (command : GainCommand) (result : Int32)
    : match command with
      | .gainByPercentage => 0 ≤ command.reading result ∧ command.reading result < 2 ^ 32
      | .setGain | .setIfTunerGain =>
          -2 ^ 31 ≤ command.reading result ∧ command.reading result < 2 ^ 31 := by
  cases command with
  | gainByPercentage =>
      have bound := result.toUInt32.toNat_lt
      simp only [reading]
      omega
  | setGain | setIfTunerGain => exact ⟨result.le_toInt, result.toInt_lt⟩

/-- Every number between two readings is one. -/
theorem exists_reading (command : GainCommand) {lowest highest : Int32} {x : Int}
    (above : command.reading lowest ≤ x) (below : x ≤ command.reading highest)
    : ∃ result, command.reading result = x := by
  have low := command.reading_bounds lowest
  have high := command.reading_bounds highest
  cases command with
  | gainByPercentage =>
      simp only at low high
      refine ⟨(UInt32.ofNat x.toNat).toInt32, ?_⟩
      have number : (UInt32.ofNat x.toNat).toNat = x.toNat :=
        UInt32.toNat_ofNat_of_lt' (by simp only [UInt32.size]; omega)
      rw [reading, UInt32.toUInt32_toInt32, number]
      omega
  | setGain | setIfTunerGain =>
      simp only at low high
      exact ⟨Int32.ofInt x, Int32.toInt_ofInt_of_le (by omega) (by omega)⟩

/-- The gains that an amplifier gets rise from one reading to another. -/
def Rises (command : GainCommand) (low high : Int) (amplifier : Amplifier) : Prop :=
  ∀ x y, low ≤ x → x ≤ y → y ≤ high → command.value x amplifier ≤ command.value y amplifier

/-- The gains of two readings, amplifier by amplifier, by induction on the amplifiers. -/
theorem forall₂_gains_iff {first second : Amplifier → Int} {amplifiers : List Amplifier}
    {lower higher : List GainRequest}
    (less : List.Forall₂
      (fun amplifier request =>
        request.amplifier = amplifier ∧ request.gain.toInt = first amplifier)
      amplifiers lower)
    (more : List.Forall₂
      (fun amplifier request =>
        request.amplifier = amplifier ∧ request.gain.toInt = second amplifier)
      amplifiers higher)
    : List.Forall₂ (fun less more => less.gain ≤ more.gain) lower higher
      ↔ ∀ amplifier ∈ amplifiers, first amplifier ≤ second amplifier := by
  induction less generalizing higher with
  | nil =>
      cases more
      simp
  | @cons amplifier request amplifiers lower head tail ih =>
      cases more with
      | cons also rest =>
          rw [List.forall₂_cons, ih rest, List.forall_mem_cons, Int32.le_iff_toInt_le, head.2,
            also.2]

/-- Whatever the argument, each amplifier of a command is sent a safe gain. -/
theorem requests_safe (command : GainCommand) (result : Int32)
    : (command.requests result).map GainRequest.amplifier = command.amplifiers
      ∧ ∀ request ∈ command.requests result, Safe request := by
  have sent
      : List.Forall₂ (fun request amplifier => Safe request ∧ request.amplifier = amplifier)
          (command.requests result) command.amplifiers := by
    refine (command.requests_values result).flip.imp ?_
    rintro request _ ⟨rfl, gain⟩
    obtain ⟨nonneg, bounded, stepped⟩ := request.amplifier.gain_safe _
    rw [value] at gain
    exact ⟨⟨by rw [gain]; exact nonneg, by rw [gain]; exact bounded,
      by rw [gain]; exact stepped⟩, rfl⟩
  obtain ⟨safe, amplifiers⟩ := (List.forall₂_and_left _ _).mp sent
  refine ⟨?_, safe⟩
  rw [← List.forall₂_eq_eq_eq, List.forall₂_map_left_iff]
  exact amplifiers

/-- Safety holds anyway; what is left is that each amplifier's gains rise. -/
theorem safeAndMonotone_iff_rises (command : GainCommand) (lowest highest : Int32)
    : command.SafeAndMonotone lowest highest
      ↔ ∀ amplifier ∈ command.amplifiers,
          command.Rises (command.reading lowest) (command.reading highest) amplifier := by
  constructor
  · intro meets amplifier member x y above between below
    obtain ⟨lower, rfl⟩ := command.exists_reading above (Int.le_trans between below)
    obtain ⟨higher, rfl⟩ := command.exists_reading (Int.le_trans above between) below
    have gains := meets.monotone lower higher above between below
    rw [forall₂_gains_iff (command.requests_values lower) (command.requests_values higher)]
      at gains
    exact gains amplifier member
  · intro rises
    constructor
    case sends => exact fun result _ _ => (command.requests_safe result).1
    case safe => exact fun result _ _ => (command.requests_safe result).2
    case monotone =>
      intro lower higher above between below
      rw [forall₂_gains_iff (command.requests_values lower) (command.requests_values higher)]
      exact fun amplifier member => rises amplifier member _ _ above between below

/-- The gains for products that grow by at most the highest gain at each step rise exactly where
the products stay in one window.
-/
theorem gains_rise_iff (amplifier : Amplifier) {perc : Int → Int}
    (rises : ∀ x, perc x ≤ perc (x + 1)) (slowly : ∀ x, perc (x + 1) ≤ perc x + 1)
    {low high : Int} (order : low ≤ high)
    : (∀ x y, low ≤ x → x ≤ y → y ≤ high →
          amplifier.gain ((perc x * amplifier.most.toInt).bmod (2 ^ 32))
          ≤ amplifier.gain ((perc y * amplifier.most.toInt).bmod (2 ^ 32)))
      ↔ window (perc low * amplifier.most.toInt) = window (perc high * amplifier.most.toInt) := by
  have products (x : Int)
      : perc x * amplifier.most.toInt ≤ perc (x + 1) * amplifier.most.toInt
        ∧ perc (x + 1) * amplifier.most.toInt
          ≤ perc x * amplifier.most.toInt + amplifier.most.toInt := by
    have more := rises x
    have less := slowly x
    obtain ⟨most, -⟩ | ⟨most, -⟩ := amplifier.parameters
    all_goals
      rw [most]
      omega
  exact wrapped_monotone_iff amplifier.gain_le amplifier.gain_falls (fun x => (products x).1)
    (fun x => (products x).2) order

/-- The gains by percentage rise exactly if both products are in the same window. Witness: the
percentage itself rises by one.
-/
theorem rises_gainByPercentage_iff {low high : Int} (order : low ≤ high) (amplifier : Amplifier)
    : gainByPercentage.Rises low high amplifier
      ↔ window (gainByPercentage.product low amplifier)
        = window (gainByPercentage.product high amplifier) :=
  gains_rise_iff amplifier (fun x => Int.le_add_one (Int.le_refl x))
    (fun x => Int.le_refl (x + 1)) order

/-- Tenths of a dB as a percentage in exact arithmetic. -/
def exactPercentage (tenthsOfDb : Int) : Int := (tenthsOfDb + 10).tdiv 5

/-- The percentage of the exact sum rises by one at most from one tenth of a dB to the next.
-/
theorem exactPercentage_steps (x : Int)
    : exactPercentage x ≤ exactPercentage (x + 1)
      ∧ exactPercentage (x + 1) ≤ exactPercentage x + 1 := by
  have first := tdiv_eq_ite (x + 10) 5
  have second := tdiv_eq_ite (x + 1 + 10) 5
  simp only [exactPercentage]
  split at first <;> split at second <;> omega

/-- The gain that an amplifier gets for tenths of a dB. -/
def tenthsGain (amplifier : Amplifier) (tenthsOfDb : Int) : Int :=
  amplifier.gain
    ((((tenthsOfDb + 10).bmod (2 ^ 32)).tdiv 5 * amplifier.most.toInt).bmod (2 ^ 32))

/-- Where the sum does not wrap, the gain is that of the exact percentage. -/
theorem tenthsGain_exact (amplifier : Amplifier) {x : Int} (least : -2 ^ 31 ≤ x)
    (fits : x + 10 < 2 ^ 31)
    : tenthsGain amplifier x
      = amplifier.gain ((exactPercentage x * amplifier.most.toInt).bmod (2 ^ 32)) := by
  have sum : (x + 10).bmod (2 ^ 32) = x + 10 := Int.bmod_eq_of_le (by omega) (by omega)
  rw [tenthsGain, sum, exactPercentage]

/-- Where the sum with 10 has wrapped around the gain is 0. -/
theorem tenthsGain_wrapped (amplifier : Amplifier) {x : Int} (wraps : 2 ^ 31 ≤ x + 10)
    (most : x < 2 ^ 31)
    : tenthsGain amplifier x = 0 := by
  have sum : (x + 10).bmod (2 ^ 32) = x + 10 - 2 ^ 32 := by
    simp only [bmod_eq_sub_window, window]
    omega
  have quotient := tdiv_eq_ite (x + 10 - 2 ^ 32) 5
  rw [if_neg (by omega)] at quotient
  have three
      : (x + 10 - 2 ^ 32).tdiv 5 = -429496729 ∨ (x + 10 - 2 ^ 32).tdiv 5 = -429496728
        ∨ (x + 10 - 2 ^ 32).tdiv 5 = -429496727 := by
    omega
  refine amplifier.gain_of_low ?_
  rw [sum, bmod_eq_sub_window, window]
  obtain ⟨highest, -⟩ | ⟨highest, -⟩ := amplifier.parameters
  all_goals
    rw [highest]
    obtain perc | perc | perc := three <;> rw [perc] <;> decide

/-- The windows of the exact products rise with the argument, since the products do. -/
theorem window_exactPercentage_le (amplifier : Amplifier) {x y : Int} (order : x ≤ y)
    : window (exactPercentage x * amplifier.most.toInt)
      ≤ window (exactPercentage y * amplifier.most.toInt) := by
  have positive : 0 ≤ amplifier.most.toInt := by cases amplifier <;> decide
  exact window_le_window (Int.mul_le_mul_of_nonneg_right
    (le_of_steps (fun x => (exactPercentage_steps x).1) order) positive)

/-- The last sum that does not wrap around, and those after it, in exact arithmetic. -/
theorem window_exactPercentage_wrapped (amplifier : Amplifier) {x : Int}
    (last : 2 ^ 31 ≤ x + 11) (most : x < 2 ^ 31)
    : window (exactPercentage x * amplifier.most.toInt)
      = window (exactPercentage (2 ^ 31 - 11) * amplifier.most.toInt) := by
  have quotient := tdiv_eq_ite (x + 10) 5
  rw [if_pos (by omega)] at quotient
  have limit : exactPercentage (2 ^ 31 - 11) = 429496729 := by decide
  rw [limit, exactPercentage, quotient, window, window]
  obtain ⟨highest, -⟩ | ⟨highest, -⟩ := amplifier.parameters
  all_goals
    rw [highest]
    omega

/-- In the window of the last sum that does not wrap around, the low noise amplifier's gain is
0.
-/
theorem tenthsGain_lna_last {x : Int} (least : -2 ^ 31 ≤ x) (most : x < 2 ^ 31)
    (same : window (exactPercentage x * Amplifier.lna.most.toInt)
      = window (exactPercentage (2 ^ 31 - 11) * Amplifier.lna.most.toInt))
    : tenthsGain .lna x = 0 := by
  by_cases fits : x + 10 < 2 ^ 31
  · have limit : exactPercentage (2 ^ 31 - 11) = 429496729 := by decide
    have rise : exactPercentage x ≤ exactPercentage (2 ^ 31 - 11) :=
      le_of_steps (fun x => (exactPercentage_steps x).1) (by omega)
    have highest : Amplifier.lna.most.toInt = 40 := rfl
    rw [tenthsGain_exact _ least fits]
    refine Amplifier.gain_of_low _ ?_
    rw [bmod_eq_sub_window, same, window, limit, highest]
    omega
  · exact tenthsGain_wrapped _ (by omega) most

/-- Where no sum wraps around, or each one does. -/
theorem tenthsGain_rises_iff (amplifier : Amplifier) {low high : Int} (least : -2 ^ 31 ≤ low)
    (most : high < 2 ^ 31) (order : low ≤ high) (sum : low + 10 < 2 ^ 31 → high + 10 < 2 ^ 31)
    : (∀ x y, low ≤ x → x ≤ y → y ≤ high →
          tenthsGain amplifier x ≤ tenthsGain amplifier y)
      ↔ window (exactPercentage low * amplifier.most.toInt)
        = window (exactPercentage high * amplifier.most.toInt) := by
  by_cases fits : low + 10 < 2 ^ 31
  · have last := sum fits
    rw [← gains_rise_iff amplifier (fun x => (exactPercentage_steps x).1)
      (fun x => (exactPercentage_steps x).2) order]
    constructor
    · intro rises x y above between below
      have gains := rises x y above between below
      rwa [tenthsGain_exact _ (by omega) (by omega), tenthsGain_exact _ (by omega) (by omega)]
        at gains
    · intro rises x y above between below
      rw [tenthsGain_exact _ (by omega) (by omega), tenthsGain_exact _ (by omega) (by omega)]
      exact rises x y above between below
  · refine iff_of_true ?_ ?_
    · intro x y above between below
      rw [tenthsGain_wrapped _ (by omega) (by omega), tenthsGain_wrapped _ (by omega) (by omega)]
    · exact (window_exactPercentage_wrapped amplifier (by omega) (by omega)).trans
        (window_exactPercentage_wrapped amplifier (by omega) most).symm

/-- The gain of the baseband rises exactly if neither its products nor its sum wrap in
between. Witness: where the sum wraps, the gain falls from the tenth before the wrap to the
next.
-/
theorem rises_setGain_iff {low high : Int} (least : -2 ^ 31 ≤ low) (most : high < 2 ^ 31)
    (order : low ≤ high)
    : setGain.Rises low high .vga ↔ setGain.Unwrapped low high := by
  by_cases sum : low + 10 < 2 ^ 31 → high + 10 < 2 ^ 31
  · refine (tenthsGain_rises_iff .vga least most order sum).trans ?_
    constructor
    · intro same
      exact ⟨fun amplifier member => List.mem_singleton.mp member ▸ same, fun _ => sum⟩
    · intro unwrapped
      exact unwrapped.products .vga (List.mem_singleton.mpr rfl)
  · refine iff_of_false ?_ (fun unwrapped => sum (unwrapped.sum rfl))
    intro rises
    have gains (x y : Int) (above : low ≤ x) (between : x ≤ y) (below : y ≤ high)
        : tenthsGain .vga x ≤ tenthsGain .vga y :=
      rises x y above between below
    have falls : ¬ tenthsGain .vga (2 ^ 31 - 11) ≤ tenthsGain .vga (2 ^ 31 - 10) := by decide
    exact falls (gains (2 ^ 31 - 11) (2 ^ 31 - 10) (by omega) (by omega) (by omega))

/-- The gain of the amplifier rises exactly if its products are in the same window. Witness:
where the sum wraps, the products are in the last window, and in that one the gain is zero up
to the wrap.
-/
theorem rises_setIfTunerGain_iff {low high : Int} (least : -2 ^ 31 ≤ low)
    (most : high < 2 ^ 31) (order : low ≤ high)
    : setIfTunerGain.Rises low high .lna ↔ setIfTunerGain.Unwrapped low high := by
  have products
      : setIfTunerGain.Unwrapped low high
        ↔ window (exactPercentage low * Amplifier.lna.most.toInt)
          = window (exactPercentage high * Amplifier.lna.most.toInt) := by
    constructor
    · intro unwrapped
      exact unwrapped.products .lna (List.mem_singleton.mpr rfl)
    · intro same
      exact ⟨fun amplifier member => List.mem_singleton.mp member ▸ same, nofun⟩
  rw [products]
  by_cases sum : low + 10 < 2 ^ 31 → high + 10 < 2 ^ 31
  · exact tenthsGain_rises_iff .lna least most order sum
  · have final := @window_exactPercentage_wrapped .lna high (by omega) most
    rw [final]
    constructor
    · intro rises
      refine (tenthsGain_rises_iff .lna least (by omega) (by omega) (by omega)).mp ?_
      intro x y above between below
      exact rises x y above between (by omega)
    · intro same x y above between below
      have first := window_exactPercentage_le .lna above
      have second := window_exactPercentage_le .lna (Int.le_trans between below)
      have lowest : tenthsGain .lna x = 0 :=
        tenthsGain_lna_last (by omega) (by omega) (by omega)
      have nonneg := (Amplifier.lna.gain_safe
        ((((y + 10).bmod (2 ^ 32)).tdiv 5 * Amplifier.lna.most.toInt).bmod (2 ^ 32))).1
      exact Int.le_trans (Int.le_of_eq lowest) nonneg

/-- A gain command sends safe gains for every argument, and no lower ones for higher arguments
exactly where none of its 32-bit results wraps around once more between them.
-/
theorem safeAndMonotone_iff_unwrapped (command : GainCommand) (lowest highest : Int32)
    (order : command.reading lowest ≤ command.reading highest)
    : command.SafeAndMonotone lowest highest
      ↔ command.Unwrapped (command.reading lowest) (command.reading highest) := by
  rw [safeAndMonotone_iff_rises]
  have low := command.reading_bounds lowest
  have high := command.reading_bounds highest
  cases command with
  | setGain =>
      rw [amplifiers, List.forall_mem_singleton]
      exact rises_setGain_iff low.1 high.2 order
  | setIfTunerGain =>
      rw [amplifiers, List.forall_mem_singleton]
      exact rises_setIfTunerGain_iff low.1 high.2 order
  | gainByPercentage =>
      constructor
      · intro rises
        exact ⟨fun amplifier member =>
          (rises_gainByPercentage_iff order amplifier).mp (rises amplifier member), nofun⟩
      · intro unwrapped amplifier member
        exact (rises_gainByPercentage_iff order amplifier).mpr
          (unwrapped.products amplifier member)

/-- From -1 to 49 dB the gain of the baseband rises. Witness: no product wraps around in
between.
-/
theorem safeAndMonotone_over_range : GainCommand.setGain.SafeAndMonotone (-10) 490 :=
  (safeAndMonotone_iff_unwrapped .setGain (-10) 490 (by decide)).mpr
    ⟨by decide, by decide⟩

/-- 53687092 percent are sent as a gain of 0. -/
theorem percentage_wraps : ¬ GainCommand.gainByPercentage.SafeAndMonotone 0 (-1) := by
  intro meets
  have gains := meets.monotone 100 53687092 (by decide) (by decide) (by decide)
  revert gains
  decide

end GainCommand

end RtlTcpAndro.HackRf
