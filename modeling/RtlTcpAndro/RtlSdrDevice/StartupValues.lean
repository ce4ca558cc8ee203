import RtlTcpAndro.RtlSdrDevice.OpenAsync
import RtlTcpAndro.SdrDriverTools.SdrTcpArguments

/-! The values a device is started with, from the startup arguments through the native
`openAsync` to the calls of librtlsdr and of the sockets. Here `openAsync` runs by itself, with
all its arguments, up to the open socket.
-/

namespace RtlTcpAndro.RtlSdrDevice

open RtlTcpAndro.ByteStreams RtlTcpAndro.JavaLang RtlTcpAndro.SdrTcp
open RtlTcpAndro.SdrDriverTools (SdrTcpArguments)

-----------------------------------------------------------------------------------------
-- openAsync
-----------------------------------------------------------------------------------------

/-- A call of librtlsdr or of the sockets with the values it is given. `initialise` is the
section of `sdrtcp_open_socket` that sets up the queues and the header; `bind` has the
`sin_port` of its address, in network order.
-/
inductive Call
  | open2 (fd : Int32) (devicePath : JavaString)
  | setBiasTee (on : Int32)
  | setFreqCorrection (ppm : Int32)
  | setSampleRate (rate : UInt32)
  | setCenterFreq (freq : UInt32)
  | setTunerGainMode (manual : Int32)
  | setTunerGain (gain : Int32)
  | resetBuffer
  | getTunerType
  | getTunerGains
  | initialise (arguments : OpenArguments)
  | socket
  | setsockopt
  | bind (address : JavaString) (sinPort : UInt16)
  | fcntl
  | listen (backlog : Int32)
  deriving DecidableEq, Repr

/-- What a call returns after the calls before it. -/
abbrev Environment := List Call → Call → Int

/-- A computation that makes calls and may throw a `SdrException` with a number. -/
abbrev Opening := ReaderT Environment (ExceptT Int (StateM (List Call)))

/-- One call. -/
def request (call : Call) : Opening Int := do
  let environment ← read
  let made ← getModify (· ++ [call])
  return environment made call

/-- A call whose result only decides on a line of the log. -/
def attempt (call : Call) : Opening Unit := do
  let _ ← request call

/-- `EXIT_WRONG_ARGS` and `EXIT_NOT_ENOUGH_POWER` -/
def exitWrongArgs : Int := 1
def exitNotEnoughPower : Int := 9

/-- The cast `(uint32_t)` of a `jlong`. -/
def castLong (value : Int64) : UInt32 := value.toUInt64.toUInt32

/-- `htons` of an `int`, which it takes as a `uint16_t`. -/
def htons (port : Int32) : UInt16 := byteSwapShort port.toUInt32.toUInt16

/-- The port a `sin_port` stands for. -/
def ntohs (sinPort : UInt16) : UInt16 := byteSwapShort sinPort

/-- `sdrtcp_open_socket` when no other thread uses the object. -/
def openSocket (address : JavaString) (port : Int32) (header : OpenArguments)
    : Opening Bool := do
  attempt (.initialise header)
  let listen_socket ← request .socket
  if listen_socket = -1 then return false
  else
    attempt .setsockopt
    attempt .setsockopt
    let bound ← request (.bind address (htons port))
    if bound ≠ 0 then return false
    else
      attempt .fcntl
      attempt .fcntl
      let listening ← request (.listen 1)
      return listening = 0

/-- `openAsync`: the frequency correction. -/
def openFreqCorrection (ppm : Int32) : Opening Unit :=
  if ppm ≠ 0 then attempt (.setFreqCorrection ppm) else pure ()

/-- `openAsync`: the sample rate. -/
def openSampleRate (samplingrate : Int64) : Opening Unit := do
  if samplingrate < 0 then throw exitWrongArgs
  else
    let result ← request (.setSampleRate (castLong samplingrate))
    if result < 0 then
      -- LIBUSB_ERROR_IO and LIBUSB_ERROR_TIMEOUT
      throw (if result = -1 ∨ result = -7 then exitNotEnoughPower else exitWrongArgs)
    else pure ()

/-- `openAsync`: the frequency. -/
def openCenterFreq (frequency : Int64) : Opening Unit := do
  if frequency < 0 then throw exitWrongArgs
  else
    let result ← request (.setCenterFreq (castLong frequency))
    if result < 0 then throw exitWrongArgs else pure ()

/-- `openAsync`: the gain. -/
def openTunerGain (gain : Int32) : Opening Unit := do
  if gain = 0 then attempt (.setTunerGainMode 0)
  else
    attempt (.setTunerGainMode 1)
    attempt (.setTunerGain gain)

/-- `openAsync`: the calls that set up the device. -/
def openDevice (arguments : SdrTcpArguments) (fd : Int32) (devicePath : JavaString)
    : Opening Unit := do
  let opened ← request (.open2 fd devicePath)
  if opened ≠ 0 then throw opened
  else
    attempt (.setBiasTee arguments.biast)
    openFreqCorrection arguments.ppm
    openSampleRate arguments.samplerateHz
    openCenterFreq arguments.frequencyHz
    openTunerGain arguments.gain
    attempt .resetBuffer

/-- The native `openAsync` up to the open socket. -/
def openAsyncUntilSocket (arguments : SdrTcpArguments) (fd : Int32) (devicePath : JavaString)
    : Opening Unit := do
  openDevice arguments fd devicePath
  let dongleType ← request .getTunerType
  let gainsCount ← request .getTunerGains
  let success ← openSocket arguments.address arguments.port
    ⟨dongleMagic, UInt32.ofInt dongleType, UInt32.ofInt gainsCount⟩
  if ¬ success then throw exitWrongArgs else pure ()

/-- The outcome of a computation with the calls that were made up to its end. -/
def Opening.outcome {α : Type} (opening : Opening α) (environment : Environment)
    (made : List Call)
    : Except Int α × List Call :=
  opening environment made

-----------------------------------------------------------------------------------------
-- Values
-----------------------------------------------------------------------------------------

/-- A result that the caller takes for success. -/
def Call.Succeeds : Call → Int → Prop
  | .open2 .., result => result = 0
  | .bind .., result => result = 0
  | .listen _, result => result = 0
  | _, result => 0 ≤ result

def Environment.Succeeds (environment : Environment) : Prop :=
  ∀ made (call : Call), call.Succeeds (environment made call)

/-- A computation that makes just these calls and gives a value with a property, whatever was
called before.
-/
def Opening.Makes {α : Type} (opening : Opening α) (environment : Environment)
    (calls : List Call) (property : α → Prop) : Prop :=
  ∀ made, ∃ value,
    opening.outcome environment made = (.ok value, made ++ calls) ∧ property value

section Making

variable {α β : Type} {environment : Environment}

/-- A value makes no call and has the property it is to have. -/
theorem Opening.Makes.pure {property : α → Prop} {value : α} (holds : property value)
    : Opening.Makes (pure value) environment [] property := by
  intro made
  exact ⟨value, by rw [List.append_nil]; rfl, holds⟩

/-- Where the outcome of a first part is known, the sequence is the rest on its value and its
calls.
-/
theorem Opening.outcome_bind {opening : Opening α} {next : α → Opening β} {made log : List Call}
    {value : α} (ran : opening.outcome environment made = (.ok value, log))
    : (opening >>= next).outcome environment made = (next value).outcome environment log := by
  change
    (match opening environment made with
      | (result, log) => ExceptT.bindCont (fun value => next value environment) result log)
    = _
  rw [show opening environment made = (.ok value, log) from ran]
  rfl

/-- A sequence makes the calls of its first part and then those of the rest. Witness: the rest
starts with the calls that were made by then.
-/
theorem Opening.Makes.bind {opening : Opening α} {next : α → Opening β} {calls more : List Call}
    {property : α → Prop} {result : β → Prop} (first : opening.Makes environment calls property)
    (rest : ∀ value, property value → (next value).Makes environment more result)
    : (opening >>= next).Makes environment (calls ++ more) result := by
  intro made
  obtain ⟨value, ran, holds⟩ := first made
  obtain ⟨last, went, done⟩ := rest value holds (made ++ calls)
  exact ⟨last, by rw [outcome_bind ran, went, List.append_assoc], done⟩

/-- A computation that throws, whatever was called before. -/
def Opening.Fails (opening : Opening α) (environment : Environment) : Prop :=
  ∀ made, ∃ code log, opening.outcome environment made = (.error code, log)

/-- An error fails, whatever calls were made. -/
theorem Opening.Fails.throw (code : Int) : Opening.Fails (throw code : Opening α) environment :=
  fun made => ⟨code, made, rfl⟩

/-- A sequence fails where its first part goes through and the rest fails after it. -/
theorem Opening.Fails.bind {opening : Opening α} {next : α → Opening β} {calls : List Call}
    {property : α → Prop} (first : opening.Makes environment calls property)
    (rest : ∀ value, property value → (next value).Fails environment)
    : (opening >>= next).Fails environment := by
  intro made
  obtain ⟨value, ran, holds⟩ := first made
  rw [outcome_bind ran]
  exact rest value holds _

/-- A sequence fails where its first part does: nothing goes on from an error. -/
theorem Opening.Fails.first {opening : Opening α} {next : α → Opening β}
    (fails : opening.Fails environment)
    : (opening >>= next).Fails environment := by
  intro made
  obtain ⟨code, log, ran⟩ := fails made
  refine ⟨code, log, ?_⟩
  change
    (match opening environment made with
      | (result, log) => ExceptT.bindCont (fun value => next value environment) result log)
    = _
  rw [show opening environment made = (.error code, log) from ran]
  rfl

/-- Where every call succeeds, a request makes its call and has the answer of a success. -/
theorem request_makes (succeeds : environment.Succeeds) (call : Call)
    : (request call).Makes environment [call] call.Succeeds := by
  intro made
  exact ⟨environment made call, rfl, succeeds made call⟩

/-- An attempt makes its call and ignores the answer. -/
theorem attempt_makes (succeeds : environment.Succeeds) (call : Call)
    : (attempt call).Makes environment [call] (fun _ => True) :=
  .bind (request_makes succeeds call) fun _ _ => .pure trivial

end Making

section Succeeding

variable {environment : Environment} (succeeds : environment.Succeeds)

include succeeds

/-- Opening the socket makes its calls in the order of the source, with the port in the order
of the network. Witness: no answer sends it to its error branch.
-/
theorem openSocket_makes (address : JavaString) (port : Int32) (header : OpenArguments)
    : (openSocket address port header).Makes environment
        [.initialise header, .socket, .setsockopt, .setsockopt, .bind address (htons port),
          .fcntl, .fcntl, .listen 1]
        (fun success => success = true) := by
  refine .bind (attempt_makes succeeds _) fun _ _ => ?_
  refine .bind (request_makes succeeds _) fun listen_socket valid => ?_
  have found : listen_socket ≠ -1 := by
    change 0 ≤ listen_socket at valid
    omega
  rw [if_neg found]
  refine .bind (attempt_makes succeeds _) fun _ _ => ?_
  refine .bind (attempt_makes succeeds _) fun _ _ => ?_
  refine .bind (request_makes succeeds _) fun bound zero => ?_
  rw [if_neg (not_not.mpr (show bound = 0 from zero))]
  refine .bind (attempt_makes succeeds _) fun _ _ => ?_
  refine .bind (attempt_makes succeeds _) fun _ _ => ?_
  refine .bind (request_makes succeeds _) fun listening zero => ?_
  exact .pure (decide_eq_true zero)

/-- The correction is one call, or none if it is zero. -/
theorem openFreqCorrection_makes (ppm : Int32)
    : (openFreqCorrection ppm).Makes environment
        (if ppm ≠ 0 then [.setFreqCorrection ppm] else []) (fun _ => True) := by
  unfold openFreqCorrection
  split
  · exact attempt_makes succeeds _
  · exact .pure trivial

/-- A rate that is not negative is one call with the rate narrowed to 32 bits. -/
theorem openSampleRate_makes {samplingrate : Int64} (nonnegative : ¬ samplingrate < 0)
    : (openSampleRate samplingrate).Makes environment [.setSampleRate (castLong samplingrate)]
        (fun _ => True) := by
  rw [openSampleRate, if_neg nonnegative]
  refine .bind (request_makes succeeds _) fun result valid => ?_
  rw [if_neg (Int.not_lt.mpr valid)]
  exact .pure trivial

/-- A frequency that is not negative is one call with the frequency narrowed to 32 bits. -/
theorem openCenterFreq_makes {frequency : Int64} (nonnegative : ¬ frequency < 0)
    : (openCenterFreq frequency).Makes environment [.setCenterFreq (castLong frequency)]
        (fun _ => True) := by
  rw [openCenterFreq, if_neg nonnegative]
  refine .bind (request_makes succeeds _) fun result valid => ?_
  rw [if_neg (Int.not_lt.mpr valid)]
  exact .pure trivial

/-- A gain of zero is one call for automatic gain, and another one two calls for that gain. -/
theorem openTunerGain_makes (gain : Int32)
    : (openTunerGain gain).Makes environment
        (if gain = 0 then [.setTunerGainMode 0] else [.setTunerGainMode 1, .setTunerGain gain])
        (fun _ => True) := by
  unfold openTunerGain
  split
  · exact attempt_makes succeeds _
  · exact .bind (attempt_makes succeeds _) fun _ _ => attempt_makes succeeds _

/-- The calls that set up a device when all of them succeed. -/
def deviceCalls (arguments : SdrTcpArguments) (fd : Int32) (devicePath : JavaString)
    : List Call :=
  [.open2 fd devicePath]
  ++ [.setBiasTee arguments.biast]
  ++ (if arguments.ppm ≠ 0 then [.setFreqCorrection arguments.ppm] else [])
  ++ [.setSampleRate (castLong arguments.samplerateHz)]
  ++ [.setCenterFreq (castLong arguments.frequencyHz)]
  ++ (if arguments.gain = 0 then [.setTunerGainMode 0]
    else [.setTunerGainMode 1, .setTunerGain arguments.gain])
  ++ [.resetBuffer]

/-- The calls of the rest of `openAsync` when all of them succeed. -/
def serverCalls (arguments : SdrTcpArguments) (header : OpenArguments) : List Call :=
  [.getTunerType, .getTunerGains, .initialise header, .socket, .setsockopt, .setsockopt,
    .bind arguments.address (htons arguments.port), .fcntl, .fcntl, .listen 1]

variable {arguments : SdrTcpArguments} (fd : Int32) (devicePath : JavaString)

/-- Opening with values that are not negative makes the listed calls, part by part in the
order of the source.
-/
theorem openDevice_makes (rate : ¬ arguments.samplerateHz < 0)
    (frequency : ¬ arguments.frequencyHz < 0)
    : (openDevice arguments fd devicePath).Makes environment
        (deviceCalls arguments fd devicePath) (fun _ => True) := by
  simp only [deviceCalls, List.append_assoc]
  refine .bind (request_makes succeeds _) fun opened zero => ?_
  rw [if_neg (not_not.mpr (show opened = 0 from zero))]
  refine .bind (attempt_makes succeeds _) fun _ _ => ?_
  refine .bind (openFreqCorrection_makes succeeds _) fun _ _ => ?_
  refine .bind (openSampleRate_makes succeeds rate) fun _ _ => ?_
  refine .bind (openCenterFreq_makes succeeds frequency) fun _ _ => ?_
  refine .bind (openTunerGain_makes succeeds _) fun _ _ => ?_
  exact attempt_makes succeeds _

/-- A sample rate or a frequency below zero is refused with an exception. -/
theorem openDevice_fails
    (negative : arguments.samplerateHz < 0 ∨ arguments.frequencyHz < 0)
    : (openDevice arguments fd devicePath).Fails environment := by
  refine .bind (request_makes succeeds _) fun opened zero => ?_
  rw [if_neg (not_not.mpr (show opened = 0 from zero))]
  refine .bind (attempt_makes succeeds _) fun _ _ => ?_
  refine .bind (openFreqCorrection_makes succeeds _) fun _ _ => ?_
  by_cases rate : arguments.samplerateHz < 0
  · refine .first ?_
    rw [openSampleRate, if_pos rate]
    exact .throw _
  · refine .bind (openSampleRate_makes succeeds rate) fun _ _ => .first ?_
    rw [openCenterFreq, if_pos (negative.resolve_left rate)]
    exact .throw _

/-- Otherwise all calls are made, whatever the type and the gains of the tuner. -/
theorem openAsyncUntilSocket_makes (rate : ¬ arguments.samplerateHz < 0)
    (frequency : ¬ arguments.frequencyHz < 0)
    : ∃ header,
        (openAsyncUntilSocket arguments fd devicePath).outcome environment []
        = (.ok (), deviceCalls arguments fd devicePath ++ serverCalls arguments header) := by
  obtain ⟨_, opened, -⟩ := openDevice_makes succeeds fd devicePath rate frequency []
  obtain ⟨dongleType, asked, -⟩ := request_makes succeeds .getTunerType
    (deviceCalls arguments fd devicePath)
  obtain ⟨gainsCount, counted, -⟩ := request_makes succeeds .getTunerGains
    (deviceCalls arguments fd devicePath ++ [.getTunerType])
  let header : OpenArguments := ⟨dongleMagic, UInt32.ofInt dongleType, UInt32.ofInt gainsCount⟩
  obtain ⟨success, listens, yes⟩ := openSocket_makes succeeds arguments.address arguments.port
    header (deviceCalls arguments fd devicePath ++ [.getTunerType] ++ [.getTunerGains])
  refine ⟨header, ?_⟩
  rw [openAsyncUntilSocket, Opening.outcome_bind opened, List.nil_append,
    Opening.outcome_bind asked, Opening.outcome_bind counted, Opening.outcome_bind listens, yes]
  exact Prod.ext rfl (by simp [Opening.outcome, serverCalls]; rfl)

end Succeeding

/-- The calls of one kind are given just the wanted value. -/
def GivenExactly {α : Type} (calls : List Call) (kind : α → Call) (value : α → Int)
    (wanted : Int) : Prop :=
  (∃ given, kind given ∈ calls) ∧ ∀ given, kind given ∈ calls → value given = wanted

/-- An outcome without a silent change of a value: an exception, or the sample rate, the
frequency and the port exactly as they were parsed.
-/
def KeepsValues (arguments : SdrTcpArguments) (outcome : Except Int Unit × List Call) : Prop :=
  (∃ code, outcome.1 = .error code)
  ∨ GivenExactly outcome.2 .setSampleRate (fun rate => rate.toNat) arguments.samplerateHz.toInt
    ∧ GivenExactly outcome.2 .setCenterFreq (fun freq => freq.toNat) arguments.frequencyHz.toInt
    ∧ GivenExactly outcome.2 (.bind arguments.address) (fun sinPort => (ntohs sinPort).toNat)
      arguments.port.toInt

/-- A value that is not negative survives its narrowing to 32 bits exactly if it fits them. -/
theorem toNat_castLong_iff {value : Int64} (nonnegative : ¬ value < 0)
    : ((castLong value).toNat : Int) = value.toInt ↔ value.toInt < 2 ^ 32 := by
  have whole := BitVec.toInt_eq_toNat_cond value.toBitVec
  have small := value.toUInt64.toNat_lt
  rw [Int64.lt_iff_toInt_lt, Int64.toInt_zero] at nonnegative
  rw [Int64.toInt_toBitVec, Int64.toNat_toBitVec] at whole
  simp only [castLong, UInt64.toNat_toUInt32]
  split at whole <;> omega

/-- A port survives the order of the network exactly if it fits sixteen bits. Witness:
swapping the bytes twice is no change.
-/
theorem toNat_ntohs_iff {port : Int32}
    : ((ntohs (htons port)).toNat : Int) = port.toInt ↔ 0 ≤ port.toInt ∧ port.toInt < 2 ^ 16 := by
  have whole := BitVec.toInt_eq_toNat_cond port.toBitVec
  have small := port.toUInt32.toNat_lt
  rw [Int32.toInt_toBitVec, Int32.toNat_toBitVec] at whole
  simp only [ntohs, htons, byteSwapShort_byteSwapShort, UInt32.toNat_toUInt16]
  split at whole <;> omega

/-- Where the only call of a kind is known, it decides. -/
theorem givenExactly_iff {α : Type} {calls : List Call} {kind : α → Call} {value : α → Int}
    {wanted : Int} (given : α) (only : ∀ other, kind other ∈ calls ↔ other = given)
    : GivenExactly calls kind value wanted ↔ value given = wanted := by
  simp [GivenExactly, only]

/-- The startup values that reach the device and the socket unchanged: none above the width
it is passed in, unless a value below zero is refused.
-/
theorem startup_values_kept_iff {environment : Environment} (succeeds : environment.Succeeds)
    (fd : Int32) (devicePath string : JavaString)
    : (∀ arguments, SdrTcpArguments.fromString string = .ok arguments
        → KeepsValues arguments
            ((openAsyncUntilSocket arguments fd devicePath).outcome environment []))
      ↔ ∀ arguments, SdrTcpArguments.fromString string = .ok arguments
        → (arguments.samplerateHz < 0 ∨ arguments.frequencyHz < 0)
          ∨ arguments.samplerateHz.toInt < 2 ^ 32
            ∧ arguments.frequencyHz.toInt < 2 ^ 32
            ∧ 0 ≤ arguments.port.toInt
            ∧ arguments.port.toInt < 2 ^ 16 := by
  refine forall₂_congr fun arguments _ => ?_
  by_cases negative : arguments.samplerateHz < 0 ∨ arguments.frequencyHz < 0
  · have failed : (openAsyncUntilSocket arguments fd devicePath).Fails environment :=
      .first (openDevice_fails succeeds fd devicePath negative)
    obtain ⟨code, log, thrown⟩ := failed []
    simp only [negative, true_or, iff_true]
    exact .inl ⟨code, by rw [thrown]⟩
  · obtain ⟨rate, frequency⟩ := not_or.mp negative
    obtain ⟨header, ran⟩ :=
      openAsyncUntilSocket_makes succeeds fd devicePath rate frequency
    rw [ran, KeepsValues, givenExactly_iff (castLong arguments.samplerateHz),
      givenExactly_iff (castLong arguments.frequencyHz),
      givenExactly_iff (htons arguments.port)]
    · simp only [negative, false_or, toNat_castLong_iff rate, toNat_castLong_iff frequency,
        toNat_ntohs_iff, reduceCtorEq, exists_false]
    all_goals
      intro other
      rw [deviceCalls, serverCalls]
      split <;> split <;> simp

/-- A device and a socket that take everything. -/
def obliging : Environment := fun _ _ => 0

/-- The environment of the witnesses is one in which every call succeeds, by cases on the
call.
-/
theorem obliging_succeeds : obliging.Succeeds := by
  intro made call
  cases call <;> simp [Call.Succeeds, obliging]

/-- The highest frequency that fits. -/
theorem startup_values_kept_at_limit
    : KeepsValues { SdrTcpArguments.local1234 with frequencyHz := 4294967295 }
        ((openAsyncUntilSocket
            { SdrTcpArguments.local1234 with frequencyHz := 4294967295 } 3 []).outcome
          obliging []) := by
  have read
      : SdrTcpArguments.fromString (text "-a 127.0.0.1 -p 1234 -f 4294967295")
        = .ok { SdrTcpArguments.local1234 with frequencyHz := 4294967295 } := by
    decide +kernel
  refine (startup_values_kept_iff obliging_succeeds 3 [] _).mpr (fun arguments parsed => ?_) _ read
  obtain rfl := Except.ok.inj (read.symm.trans parsed)
  decide

/-- A frequency of 2^32 more than 100 MHz is tuned as 100 MHz. -/
theorem startup_frequency_truncated
    : ¬ ∀ arguments,
        SdrTcpArguments.fromString (text "-a 127.0.0.1 -p 1234 -f 4394967296") = .ok arguments
        → KeepsValues arguments
            ((openAsyncUntilSocket arguments 3 []).outcome obliging []) := by
  intro kept
  have read
      : SdrTcpArguments.fromString (text "-a 127.0.0.1 -p 1234 -f 4394967296")
        = .ok { SdrTcpArguments.local1234 with frequencyHz := 4394967296 } := by
    decide +kernel
  obtain ⟨code, thrown⟩ | ⟨-, ⟨-, frequency⟩, -⟩ := kept _ read
  · cases thrown
  · exact absurd (frequency 100000000 (by decide +kernel)) (by decide)

end RtlTcpAndro.RtlSdrDevice
