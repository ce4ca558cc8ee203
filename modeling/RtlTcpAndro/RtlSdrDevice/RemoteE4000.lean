import RtlTcpAndro.Registers.WriteLogs
import RtlTcpAndro.RtlSdrDevice.E4000Settings
import RtlTcpAndro.SdrTcp.CommandFraming
import RtlTcpAndro.SdrTcp.Sessions

/-! A device with the E4000 that a client commands: what `tcpCommandCallback` of `rtlsdrdevice.c`
does with the commands of its stream, down to the registers of the tuner. The gains are those of
the gain commands, and the synthesizer is tuned as it was last, whatever other commands come in
between.
-/

namespace RtlTcpAndro.RtlSdrDevice

open RtlTcpAndro.Interleaving RtlTcpAndro.Registers RtlTcpAndro.SdrTcp RtlTcpAndro.Tuners

-----------------------------------------------------------------------------------------
-- The device
-----------------------------------------------------------------------------------------

/-- A device with the state of the driver of its tuner, and its field `gain`. -/
structure TunedE4000 where
  state : E4kState
  gain : Int32

/-- A function of the library. -/
abbrev CommandedE4000 := ReaderT Environment.E4k (StateM TunedE4000)

/-- A function that is not concerned with the synthesizer. -/
def onFrontEnd (call : E4000 Int32) : CommandedE4000 Int32 := fun environment device =>
  let (r, later) := call environment.moves ⟨device.state.chip, device.gain⟩
  (r, { state := { device.state with chip := later.chip }, gain := later.gain })

/-- A function of the driver, called with the repeater on. -/
def onDriver (call : E4kDriver Int32) : CommandedE4000 Int32 := fun environment device =>
  let (r, state) :=
    call environment
      { device.state with chip := { device.state.chip with repeater := true } }
  (r, { device with state := { state with chip := { state.chip with repeater := false } } })

/-- `e4000_set_freq` -/
def e4000SetFreq (freq : UInt32) : E4kDriver Int32 := e4kTuneFreq freq

/-- `e4000_init`, with the clock that `rtlsdr_get_xtal_freq` gives, the registers that a reset
leaves and whether the first transfer is acknowledged.
-/
def e4000Init (fosc : UInt32) (reset : UInt8 → UInt8) (acknowledged : Bool) : E4kDriver Int32 :=
  fun environment state =>
    called (e4kInit fun _ => reset)
      { environment with
        moves := Function.update environment.moves state.chip.transfers acknowledged }
      { state with vco := { state.vco with fosc := fosc } }

-----------------------------------------------------------------------------------------
-- Commands
-----------------------------------------------------------------------------------------

/-- A call that sets gains. -/
def E4000Call.setsGains : E4000Call → Bool
  | .setBw _ => false
  | .exit => false
  | _ => true

abbrev GainCall := { call : E4000Call // call.setsGains = true }

/-- The commands of `tcpCommandCallback` that set gains: `TCP_SET_GAIN_MODE`, `TCP_SET_GAIN`,
`TCP_SET_IF_TUNER_GAIN`, `TCP_SET_TUNER_GAIN_BY_ID` and `TCP_ANDROID_GAIN_BY_PERCENTAGE`
-/
def gainCall (command : UInt8 × UInt32) : Option GainCall :=
  let parameter := command.2
  if command.1 = 0x03 then some ⟨.setGainMode parameter.toInt32, rfl⟩
  else if command.1 = 0x04 then some ⟨.setGain parameter.toInt32, rfl⟩
  else if command.1 = 0x06 then
    some
      ⟨.setIfGain (parameter >>> 16).toInt32
          (parameter &&& 0xffff).toUInt16.toInt16.toInt32, rfl⟩
  else if command.1 = 0x0d then some ⟨.setGainByIndex parameter, rfl⟩
  else if command.1 = 0x7f then some ⟨.setGainByPerc parameter, rfl⟩
  else none

/-- What else the library does with the tuner: the clock changes with `rtlsdr_set_freq_correction`
and `rtlsdr_set_xtal_freq`, `tuner->init` and `tuner->exit` are called by
`rtlsdr_set_direct_sampling`, `tuner->set_freq` wherever the center frequency is set, and
`tuner->set_bw` with the sample rate and the offset tuning.
-/
inductive TunerUse
  | setClock (fosc : UInt32)
  | init (fosc : UInt32) (reset : UInt8 → UInt8) (acknowledged : Bool)
  | exit
  | setFreq (freq : UInt32)
  | setBw (bw : UInt32)

def TunerUse.program : TunerUse → CommandedE4000 Int32
  | .setClock fosc => do
      modify fun device =>
        {
          device with
          state := { device.state with vco := { device.state.vco with fosc := fosc } }
        }
      return 0
  | .init fosc reset acknowledged => onDriver (e4000Init fosc reset acknowledged)
  | .exit => onFrontEnd E4000Call.exit.program
  | .setFreq freq => onDriver (e4000SetFreq freq)
  | .setBw bw => onFrontEnd (E4000Call.setBw bw).program

/-- What happens to the tuner. -/
inductive E4000Event
  | gain (call : GainCall)
  | tuner (use : TunerUse)

/-- `tcpCommandCallback` drops what is returned. -/
def E4000Event.run (environment : Environment.E4k) (device : TunedE4000)
    : E4000Event → TunedE4000
  | .gain call => (onFrontEnd call.val.program environment device).2
  | .tuner use => (use.program environment device).2

def E4000Event.gain? : E4000Event → Option GainCall
  | .gain call => some call
  | .tuner _ => none

def E4000Event.use? : E4000Event → Option TunerUse
  | .gain _ => none
  | .tuner use => some use

/-- A command that was executed, with what the library did with the tuner for it if it sets no
gains. What that is depends on more than the tuner, so that it is left open here.
-/
structure ExecutedCommand where
  command : UInt8 × UInt32
  uses : List TunerUse

def ExecutedCommand.events (executed : ExecutedCommand) : List E4000Event :=
  match gainCall executed.command with
  | some call => [.gain call]
  | none => executed.uses.map .tuner

/-- A device after events. -/
def TunedE4000.after (environment : Environment.E4k) (device : TunedE4000)
    (events : List E4000Event)
    : TunedE4000 :=
  events.foldl (E4000Event.run environment) device

-----------------------------------------------------------------------------------------
-- Settings
-----------------------------------------------------------------------------------------

/-- The settings of the front end, and the parameters of the last tuning. -/
structure TunedSettings where
  front : E4000Settings
  vco : E4kPllParams

/-- The parameters of a frequency, of a tuner with these settings; none are accepted if the number
is zero.
-/
def TunedSettings.tuneParams (settings : TunedSettings) (freq : UInt32) : UInt32 × E4kPllParams :=
  e4kComputePllParams .zero settings.vco.fosc freq

def TunedSettings.Accepts (settings : TunedSettings) (freq : UInt32) : Prop :=
  (settings.tuneParams freq).1 ≠ 0

/-- What a use of the tuner does to the settings; a reset leaves those of its registers. -/
def TunerUse.spec (settings : TunedSettings) : TunerUse → TunedSettings
  | .setClock fosc => { settings with vco := { settings.vco with fosc := fosc } }
  | .init fosc reset _ => {
      front := {
        tuner := (E4kSettings.setUp (e4kLayout.values reset)).2
        gain := settings.front.gain
      }
      vco := { settings.vco with fosc := fosc }
    }
  | .exit => { settings with front := (E4000Call.exit.spec settings.front).2 }
  | .setFreq freq =>
      if (settings.tuneParams freq).1 = 0 then settings
      else { settings with vco := (settings.tuneParams freq).2 }
  | .setBw bw => { settings with front := ((E4000Call.setBw bw).spec settings.front).2 }

/-- What an event does to the settings. -/
def E4000Event.spec (settings : TunedSettings) : E4000Event → TunedSettings
  | .gain call => { settings with front := (call.val.spec settings.front).2 }
  | .tuner use => use.spec settings

/-- The gains that gain calls leave, and what is reported. -/
def E4000Settings.after (settings : E4000Settings) (calls : List GainCall) : E4000Settings :=
  calls.foldl (fun settings call => (call.val.spec settings).2) settings

/-- The fields that hold gains and their modes. -/
def holdsGain : E4kField → Bool
  | .lnaGain => true
  | .mixerGain => true
  | .ifGain _ => true
  | .agcMode => true
  | .mixGainAuto => true
  | .lnaGainEnh => true
  | _ => false

/-- The same gains, and the same is reported. -/
structure SameGains (settings other : E4000Settings) : Prop where
  fields : ∀ i : E4kField, holdsGain i = true → settings.tuner i = other.tuner i
  gain : settings.gain = other.gain

/-- The same but for the gains. -/
structure SameRest (settings other : TunedSettings) : Prop where
  fields : ∀ i : E4kField, holdsGain i = false → settings.front.tuner i = other.front.tuner i
  vco : settings.vco = other.vco

-----------------------------------------------------------------------------------------
-- Tuning
-----------------------------------------------------------------------------------------

/-- The register that an access is to. -/
def accessedReg : E4kAccess → UInt8
  | .write reg _ => reg
  | .setMask reg _ _ => reg

/-- The synthesizer runs with parameters. -/
structure Synthesized (chip : E4kChip) (p : E4kPllParams) : Prop where
  divider : chip.registers e4kRegSynth7 = p.rIdx
  whole : chip.registers e4kRegSynth3 = p.z
  low : chip.registers e4kRegSynth4 = (p.x &&& 0xff).toUInt8
  high : chip.registers e4kRegSynth5 = (p.x >>> 8).toUInt8

/-- What the synthesizer is programmed with. -/
def synthEntries (p : E4kPllParams) : List (UInt8 × UInt8) :=
  [(e4kRegSynth7, p.rIdx), (e4kRegSynth3, p.z), (e4kRegSynth4, (p.x &&& 0xff).toUInt8),
    (e4kRegSynth5, (p.x >>> 8).toUInt8)]

def synthRegisters : List UInt8 := [e4kRegSynth7, e4kRegSynth3, e4kRegSynth4, e4kRegSynth5]

/-- The registers that tuning accesses, or that change with it. -/
def tuneRegisters : List UInt8 := synthRegisters ++ [e4kRegBias, e4kRegSynth1, e4kRegFilt1]

/-- Whether the synthesizer holds the parameters depends on its registers only. Witness: each
field reads one of them.
-/
theorem Synthesized.congr {chip later : E4kChip} {p : E4kPllParams}
    (synthesized : Synthesized chip p)
    (same : ∀ reg ∈ synthRegisters, later.registers reg = chip.registers reg)
    : Synthesized later p where
  divider := (same _ (by decide)).trans synthesized.divider
  whole := (same _ (by decide)).trans synthesized.whole
  low := (same _ (by decide)).trans synthesized.low
  high := (same _ (by decide)).trans synthesized.high

section Tuning

variable {environment : Nat → Bool} {chip : E4kChip}

/-- On a chip whose transfers move, an access succeeds, leaves it so, and changes no register
but its own. Witness: the two kinds of access.
-/
theorem call_ready (ready : (e4kView environment).ready chip) (access : E4kAccess)
    : ∃ later,
        access.call environment chip = (0, later)
        ∧ (e4kView environment).ready later
        ∧ ∀ reg, reg ≠ accessedReg access → later.registers reg = chip.registers reg := by
  cases access with
  | write reg val =>
      refine ⟨_, e4kRegWrite_ready ready reg val, ready_transferred ready 1, ?_⟩
      exact fun other apart => E4kChip.stored_other val apart
  | setMask reg mask val =>
      have again := ready_transferred ready 2
      change ∃ later, e4kRegSetMask reg mask val environment chip = (0, later) ∧ _
      rw [e4kRegSetMask, e4k_bind (e4kRegRead_ready ready reg)]
      split
      next => exact ⟨_, rfl, again, fun _ _ => rfl⟩
      next =>
        refine ⟨_, e4kRegWrite_ready again reg _, ready_transferred again 1, ?_⟩
        exact fun other apart => E4kChip.stored_other _ apart

/-- By induction on the accesses. -/
theorem accessAll_ready (ready : (e4kView environment).ready chip) (accesses : List E4kAccess)
    : (e4kView environment).ready (accessAll environment accesses chip).2
      ∧ ∀ reg,
          reg ∉ accesses.map accessedReg
          → (accessAll environment accesses chip).2.registers reg = chip.registers reg := by
  induction accesses generalizing chip with
  | nil => exact ⟨ready, fun _ _ => rfl⟩
  | cons access rest ih =>
      obtain ⟨later, called, again, kept⟩ := call_ready ready access
      obtain ⟨ends, others⟩ := ih again
      rw [accessAll_cons, called]
      refine ⟨ends, fun reg apart => ?_⟩
      obtain ⟨first, later⟩ := List.ne_and_not_mem_of_not_mem_cons apart
      rw [others reg later, kept reg first]

/-- Registers that are written one after the other. By induction on them. -/
theorem accessAll_written (ready : (e4kView environment).ready chip)
    (entries : List (UInt8 × UInt8))
    : (accessAll environment (entries.map fun entry => .write entry.1 entry.2) chip).2.registers
      = written chip.registers entries := by
  induction entries generalizing chip with
  | nil => rfl
  | cons entry rest ih =>
      have again
          : (e4kView environment).ready ((chip.transferred 1).stored entry.1 entry.2) :=
        ready_transferred ready 1
      have stored
          : ((chip.transferred 1).stored entry.1 entry.2).registers
            = Function.update chip.registers entry.1 entry.2 := by
        funext other
        rw [Function.update_apply]
        rfl
      rw [List.map_cons, accessAll_cons, written_cons, ← stored, ← ih again]
      change (accessAll environment _ (e4kRegWrite entry.1 entry.2 environment chip).2).2.registers
        = _
      rw [e4kRegWrite_ready ready]

/-- The accesses of a tuning leave the synthesizer with its parameters. -/
theorem tuneAccesses_ready (ready : (e4kView environment).ready chip) (p : E4kPllParams)
    (band : E4kBand)
    : (e4kView environment).ready (accessAll environment (tuneAccesses p band) chip).2
      ∧ Synthesized (accessAll environment (tuneAccesses p band) chip).2 p
      ∧ ∀ reg ∉ tuneRegisters,
          (accessAll environment (tuneAccesses p band) chip).2.registers reg
          = chip.registers reg := by
  have once : ((synthEntries p).map Prod.fst).Nodup := by
    change synthRegisters.Nodup
    decide
  have holds {reg val : UInt8} (listed : (reg, val) ∈ synthEntries p)
      : (accessAll environment (synthAccesses p) chip).2.registers reg = val :=
    (congrFun (accessAll_written ready (synthEntries p)) reg).trans (written_of_mem once listed)
  have synthesized : Synthesized (accessAll environment (synthAccesses p) chip).2 p :=
    ⟨holds (by simp [synthEntries]), holds (by simp [synthEntries]),
      holds (by simp [synthEntries]), holds (by simp [synthEntries])⟩
  have programs
      : tuneAccesses p band
        = synthAccesses p ++ (bandAccesses (bandOf p.flo) ++ [filterAccess p band]) :=
    List.append_assoc _ _ _
  obtain ⟨ends, others⟩ := accessAll_ready ready (tuneAccesses p band)
  obtain ⟨-, kept⟩ :=
    accessAll_ready (accessAll_ready ready (synthAccesses p)).1
      (bandAccesses (bandOf p.flo) ++ [filterAccess p band])
  refine ⟨ends, ?_, fun reg apart => others reg fun listed => apart ?_⟩
  · rw [programs, accessAll_append]
    have apart
        : ∀ reg ∈ synthRegisters, reg ∉ [e4kRegBias, e4kRegSynth1, e4kRegSynth1, e4kRegFilt1] :=
      Tables.forall_entries (by decide)
    exact synthesized.congr fun reg listed => kept reg (apart reg listed)
  · have within
        : ∀ reg ∈ synthRegisters ++ [e4kRegBias, e4kRegSynth1, e4kRegSynth1, e4kRegFilt1],
            reg ∈ tuneRegisters :=
      Tables.forall_entries (by decide)
    exact within reg listed

end Tuning

section Driver

variable {environment : Environment.E4k} {state : E4kState}

/-- A frequency is refused, or the synthesizer has its parameters. -/
theorem e4kTuneFreq_ready (ready : (e4kView environment.moves).ready state.chip) (freq : UInt32)
    : ∃ r later,
        e4kTuneFreq freq environment state = (r, later)
        ∧ (e4kView environment.moves).ready later.chip
        ∧ (∀ reg ∉ tuneRegisters, later.chip.registers reg = state.chip.registers reg)
        ∧ ((e4kComputePllParams .zero state.vco.fosc freq).1 = 0 → later = state)
        ∧ ((e4kComputePllParams .zero state.vco.fosc freq).1 ≠ 0 →
            later.vco = (e4kComputePllParams .zero state.vco.fosc freq).2
            ∧ Synthesized later.chip later.vco) := by
  cases computed : e4kComputePllParams .zero state.vco.fosc freq with
  | mk rc p =>
  by_cases refused : rc = 0
  case pos =>
    subst refused
    exact ⟨-22, state, e4kTuneFreq_refused computed, ready, fun _ _ => rfl, fun _ => rfl,
      fun accepted => absurd rfl accepted⟩
  case neg =>
    obtain ⟨band, ran, -⟩ := @e4kTuneParams_run environment state p
    obtain ⟨ends, synthesized, kept⟩ := tuneAccesses_ready ready p band
    generalize (accessAll environment.moves (tuneAccesses p band) state.chip).2 = chip
      at ran ends synthesized kept
    have settled {reg : UInt8} (apart : reg ≠ e4kRegSynth1)
        : (chip.settled environment.locked).registers reg = chip.registers reg :=
      if_neg apart
    have others : ∀ reg ∈ synthRegisters, reg ≠ e4kRegSynth1 := Tables.forall_entries (by decide)
    refine ⟨_, _, e4kTuneFreq_run computed refused ran, ?_, ?_, fun zero => absurd zero refused,
      fun _ => ⟨rfl, synthesized.congr fun reg listed => settled (others reg listed)⟩⟩
    · exact @ready_transferred environment.moves (chip.settled environment.locked) ends _
    · intro reg apart
      have own : reg ≠ e4kRegSynth1 := fun same => apart (same ▸ by decide)
      exact (settled own).trans (kept reg apart)

end Driver

-----------------------------------------------------------------------------------------
-- Runs
-----------------------------------------------------------------------------------------

/-- All transfers from now on move their bytes. -/
def TunedE4000.Ready (device : TunedE4000) (environment : Environment.E4k) : Prop :=
  ∀ number, device.state.chip.transfers ≤ number → environment.moves number = true

/-- The settings that a device shows. -/
def TunedE4000.shown (device : TunedE4000) : TunedSettings :=
  ⟨⟨e4kLayout.values device.state.chip.registers, device.gain⟩, device.state.vco⟩

/-- The event is no initialization of the tuner. -/
def E4000Event.Keeps : E4000Event → Prop
  | .tuner (.init ..) => False
  | _ => True

section Runs

variable {environment : Environment.E4k} {device : TunedE4000}

/-- A call of the front end changes its settings only. -/
theorem onFrontEnd_run (ready : device.Ready environment) {program : E4000 Int32}
    {spec : StateM E4000Settings Int32}
    (refines : (e4000View environment.moves).Refines environment.moves program spec)
    : let later := (onFrontEnd program environment device).2
      later.Ready environment
      ∧ later.shown = { device.shown with front := (spec device.shown.front).2 }
      ∧ ∀ p, Synthesized device.state.chip p → Synthesized later.state.chip p := by
  obtain ⟨front, ran, again, shown, kept⟩ := refines ⟨device.state.chip, device.gain⟩ ready
  have outside
      : ∀ reg ∈ synthRegisters, e4kLayout.Outside ⟨reg, 0xff⟩ := by
    intro reg listed i same
    have apart : ∀ reg ∈ synthRegisters, reg ∉ fieldRegisters := Tables.forall_entries (by decide)
    exact absurd ((show reg = i.bits.reg from same) ▸ reg_mem_fieldRegisters i) (apart reg listed)
  unfold onFrontEnd
  rw [ran]
  refine ⟨again, ?_, fun p synthesized => synthesized.congr fun reg listed => ?_⟩
  · exact congrArg (TunedSettings.mk · device.state.vco) shown
  · have same := kept _ (outside reg listed)
    simpa only [BitField.value, show (0xff : UInt8) = -1 from rfl, UInt8.and_neg_one] using same

/-- A tuning changes the parameters only, those of the registers with those of the driver. -/
theorem setFreq_run (ready : device.Ready environment) (freq : UInt32)
    : let later := (onDriver (e4000SetFreq freq) environment device).2
      later.Ready environment
      ∧ later.shown = (TunerUse.setFreq freq).spec device.shown
      ∧ (Synthesized device.state.chip device.state.vco ∨ device.shown.Accepts freq
        → Synthesized later.state.chip later.state.vco) := by
  obtain ⟨r, later, ran, again, kept, refused, accepted⟩ :=
    @e4kTuneFreq_ready environment
      { device.state with chip := { device.state.chip with repeater := true } } ⟨rfl, ready⟩ freq
  have fields
      : e4kLayout.values later.chip.registers
        = e4kLayout.values device.state.chip.registers := by
    have apart : ∀ reg ∈ fieldRegisters, reg ∉ tuneRegisters := Tables.forall_entries (by decide)
    funext i
    change later.chip.registers i.bits.reg &&& i.bits.mask = _
    rw [kept _ (apart _ (reg_mem_fieldRegisters i))]
    rfl
  unfold onDriver e4000SetFreq
  rw [ran]
  refine ⟨again.2, ?_, ?_⟩
  · change (⟨⟨e4kLayout.values later.chip.registers, device.gain⟩, later.vco⟩ : TunedSettings)
      = if (device.shown.tuneParams freq).1 = 0 then device.shown
        else { device.shown with vco := (device.shown.tuneParams freq).2 }
    rw [fields]
    split
    next zero => rw [refused zero]; rfl
    next found => rw [(accepted found).1]; rfl
  · rintro (synthesized | found)
    · by_cases zero : (device.shown.tuneParams freq).1 = 0
      · rw [refused zero]
        exact ⟨synthesized.1, synthesized.2, synthesized.3, synthesized.4⟩
      · have tuned := (accepted zero).2
        exact ⟨tuned.1, tuned.2, tuned.3, tuned.4⟩
    · have tuned := (accepted found).2
      exact ⟨tuned.1, tuned.2, tuned.3, tuned.4⟩

/-- An initialization leaves the settings of a reset that are not among the initial ones. -/
theorem init_run (ready : device.Ready environment) (fosc : UInt32) (reset : UInt8 → UInt8)
    (acknowledged : Bool)
    : let later := (onDriver (e4000Init fosc reset acknowledged) environment device).2
      later.Ready environment
      ∧ later.shown = (TunerUse.init fosc reset acknowledged).spec device.shown := by
  have awake (number : Nat) (late : device.state.chip.transfers < number)
      : Function.update environment.moves device.state.chip.transfers acknowledged number
        = true := by
    rw [Function.update_of_ne (Nat.ne_of_gt late)]
    exact ready number (Nat.le_of_lt late)
  obtain ⟨between, registers, ran, ready', resets⟩ :=
    @e4kInit_run (Function.update environment.moves device.state.chip.transfers acknowledged)
      { device.state.chip with repeater := true } rfl awake fun _ => reset
  obtain ⟨later, ended, again, shown, -⟩ := e4kSetUp_refines between ready'
  unfold onDriver e4000Init called
  dsimp only
  rw [ran, ended]
  refine ⟨fun number late => ?_, ?_⟩
  · by_cases first : number = device.state.chip.transfers
    · exact ready number (Nat.le_of_eq first.symm)
    · have moves := again.2 number late
      rwa [Function.update_of_ne first] at moves
  · change (⟨⟨e4kLayout.values later.registers, device.gain⟩, _⟩ : TunedSettings) = _
    have shown' : e4kLayout.values later.registers
        = (E4kSettings.setUp (e4kLayout.values between.registers)).2 := shown
    rw [shown', resets]
    rfl

/-- One event, by its kind. -/
theorem E4000Event.run_shown (ready : device.Ready environment) (event : E4000Event)
    : (event.run environment device).Ready environment
      ∧ (event.run environment device).shown = event.spec device.shown := by
  cases event with
  | gain call =>
      obtain ⟨again, shown, -⟩ := onFrontEnd_run ready (E4000Call.refines call.val)
      exact ⟨again, shown⟩
  | tuner use =>
      cases use with
      | setClock fosc => exact ⟨ready, rfl⟩
      | init fosc reset acknowledged => exact init_run ready fosc reset acknowledged
      | exit =>
          obtain ⟨again, shown, -⟩ := onFrontEnd_run ready (E4000Call.refines .exit)
          exact ⟨again, shown⟩
      | setFreq freq =>
          obtain ⟨again, shown, -⟩ := setFreq_run ready freq
          exact ⟨again, shown⟩
      | setBw bw =>
          obtain ⟨again, shown, -⟩ := onFrontEnd_run ready (E4000Call.refines (.setBw bw))
          exact ⟨again, shown⟩

/-- The synthesizer stays with the parameters of the driver, unless the tuner is initialized. -/
theorem E4000Event.run_synthesized (ready : device.Ready environment) {event : E4000Event}
    (keeps : event.Keeps) (synthesized : Synthesized device.state.chip device.state.vco)
    : Synthesized (event.run environment device).state.chip
        (event.run environment device).state.vco := by
  cases event with
  | gain call => exact (onFrontEnd_run ready (E4000Call.refines call.val)).2.2 _ synthesized
  | tuner use =>
      cases use with
      | setClock fosc =>
          exact ⟨synthesized.1, synthesized.2, synthesized.3, synthesized.4⟩
      | init fosc reset acknowledged => exact absurd keeps id
      | exit => exact (onFrontEnd_run ready (E4000Call.refines .exit)).2.2 _ synthesized
      | setFreq freq => exact (setFreq_run ready freq).2.2 (.inl synthesized)
      | setBw bw => exact (onFrontEnd_run ready (E4000Call.refines (.setBw bw))).2.2 _ synthesized

/-- Over any events, a device shows what the record of its settings has. By induction on them. -/
theorem TunedE4000.after_shown (ready : device.Ready environment) (events : List E4000Event)
    : (device.after environment events).Ready environment
      ∧ (device.after environment events).shown = events.foldl E4000Event.spec device.shown := by
  induction events generalizing device with
  | nil => exact ⟨ready, rfl⟩
  | cons event rest ih =>
      obtain ⟨again, shown⟩ := E4000Event.run_shown ready event
      rw [List.foldl_cons, ← shown]
      exact ih again

/-- By induction on the events. -/
theorem TunedE4000.after_synthesized (ready : device.Ready environment) {events : List E4000Event}
    (keeps : ∀ event ∈ events, event.Keeps)
    (synthesized : Synthesized device.state.chip device.state.vco)
    : Synthesized (device.after environment events).state.chip
        (device.after environment events).state.vco := by
  induction events generalizing device with
  | nil => exact synthesized
  | cons event rest ih =>
      obtain ⟨first, others⟩ := List.forall_mem_cons.mp keeps
      exact ih (E4000Event.run_shown ready event).1 others
        (E4000Event.run_synthesized ready first synthesized)

end Runs

-----------------------------------------------------------------------------------------
-- Gains and the rest
-----------------------------------------------------------------------------------------

/-- A field that holds no gain. -/
def holdsRest (i : E4kField) : Bool := !holdsGain i

section Parts

/-- Setting the gain changes only the fields that hold the gain. Witness: the fields it sets,
or none for a gain not in the table.
-/
theorem setGain_within (gain : Int32) : Within holdsGain (E4kSettings.setGain gain) := by
  unfold E4kSettings.setGain
  cases lnaCode (lnaRequest gain) with
  | none => exact .pure
  | some code =>
      exact .bind (.setField rfl code) fun _ => .bind (.setField rfl _) fun _ => .pure

/-- Setting an intermediate gain changes only fields that hold the gain. Witness: the one
field of its stage.
-/
theorem setIfGain_within (stage : UInt8) (value : Int8)
    : Within holdsGain (E4kSettings.setIfGain stage value) := by
  unfold E4kSettings.setIfGain
  simp only []
  split
  · exact .pure
  · split
    · exact .bind (.setField rfl _) fun _ => .pure
    · exact .bind .pure fun _ => .pure

/-- Choosing the gain mode changes only fields that hold the gain. Witness: the fields of
either mode.
-/
theorem setGainMode_within (manual : UInt8)
    : Within holdsGain (E4kSettings.setGainMode manual) := by
  unfold E4kSettings.setGainMode
  split
  · exact .bind (.setField rfl _) fun _ => .bind (.setField rfl _) fun _ => .pure
  · exact .bind (.setField rfl _) fun _ =>
      .bind (.setField rfl _) fun _ => .bind (.setField rfl _) fun _ => .pure

/-- Setting the bandwidth changes no field that holds the gain. Witness: the three filters'
fields.
-/
theorem setBw_within (bw : UInt32) : Within holdsRest (E4kSettings.setBw bw) :=
  .bind (.bind (.setField rfl _) fun _ => .pure) fun _ =>
    .bind (.bind (.setField rfl _) fun _ => .pure) fun _ =>
      .bind (.bind (.setField rfl _) fun _ => .pure) fun _ => .pure

/-- Standby changes no field that holds the gain. Witness: its one field. -/
theorem standby_within (enable : Int32) : Within holdsRest (E4kSettings.standby enable) :=
  .bind (.setField rfl _) fun _ => .pure

/-- A gain call is concerned with gains only. -/
theorem GainCall.spec_gains (call : GainCall) {settings other : E4000Settings}
    (same : SameGains settings other)
    : SameGains (call.val.spec settings).2 (call.val.spec other).2 := by
  have changed {spec : StateM E4kSettings Int32} (within : Within holdsGain spec)
      : SameGains (E4000Settings.tuned spec settings).2 (E4000Settings.tuned spec other).2 :=
    ⟨(within.same _ _ same.fields).2, same.gain⟩
  obtain ⟨call, sets⟩ := call
  unfold E4000Call.spec
  cases asked : call.gain with
  | some gain =>
      obtain ⟨returned, fields⟩ := (setGain_within gain).same _ _ same.fields
      refine ⟨fields, ?_⟩
      exact congrArg (fun r : Int32 => if r = 0 then gain else 0) returned
  | none =>
      cases call with
      | setGain gain => cases asked
      | setGainByIndex index | setGainByPerc percent => exact same
      | setIfGain stage gain => exact changed (setIfGain_within _ _)
      | setGainMode mode => exact changed (setGainMode_within _)
      | setBw bw | exit => cases sets

/-- A call that sets a gain leaves the rest of the settings. Witness: one case per call, each
within the gain's fields.
-/
theorem GainCall.spec_rest (call : GainCall) (settings : E4000Settings) {i : E4kField}
    (rest : holdsGain i = false)
    : (call.val.spec settings).2.tuner i = settings.tuner i := by
  obtain ⟨call, sets⟩ := call
  unfold E4000Call.spec
  cases asked : call.gain with
  | some gain => exact (setGain_within gain).kept _ i rest
  | none =>
      cases call with
      | setGain gain => cases asked
      | setGainByIndex index | setGainByPerc percent => rfl
      | setIfGain stage gain => exact (setIfGain_within _ _).kept _ i rest
      | setGainMode mode => exact (setGainMode_within _).kept _ i rest
      | setBw bw | exit => cases sets

/-- Other uses of the tuner leave the gains alone. -/
theorem TunerUse.spec_gains {use : TunerUse} (keeps : (E4000Event.tuner use).Keeps)
    (settings : TunedSettings)
    : SameGains (use.spec settings).front settings.front := by
  have changed {spec : StateM E4kSettings Int32} (within : Within holdsRest spec)
      : SameGains (E4000Settings.tuned spec settings.front).2 settings.front :=
    ⟨fun i gains => within.kept _ i (by rw [holdsRest, gains]; rfl), rfl⟩
  cases use with
  | setClock fosc => exact ⟨fun _ _ => rfl, rfl⟩
  | init fosc reset acknowledged => exact absurd keeps id
  | exit => exact changed (standby_within 1)
  | setFreq freq =>
      rw [TunerUse.spec]
      split
      · exact ⟨fun _ _ => rfl, rfl⟩
      · exact ⟨fun _ _ => rfl, rfl⟩
  | setBw bw => exact changed (setBw_within bw)

/-- Two settings that agree beside the gain still do after any use that keeps them. Witness:
what a use changes there does not depend on the gain's fields.
-/
theorem TunerUse.spec_rest {use : TunerUse} (keeps : (E4000Event.tuner use).Keeps)
    {settings other : TunedSettings} (same : SameRest settings other)
    : SameRest (use.spec settings) (use.spec other) := by
  have changed {spec : StateM E4kSettings Int32} (within : Within holdsRest spec)
      : ∀ i : E4kField,
          holdsGain i = false
          → (E4000Settings.tuned spec settings.front).2.tuner i
            = (E4000Settings.tuned spec other.front).2.tuner i := by
    intro i rest
    refine (within.same _ _ fun j inside => same.fields j ?_).2 i (by rw [holdsRest, rest]; rfl)
    simpa [holdsRest] using inside
  cases use with
  | setClock fosc =>
      exact ⟨same.fields, congrArg (fun vco : E4kPllParams => { vco with fosc := fosc }) same.vco⟩
  | init fosc reset acknowledged => exact absurd keeps id
  | exit => exact ⟨changed (standby_within 1), same.vco⟩
  | setFreq freq =>
      rw [TunerUse.spec, TunerUse.spec, TunedSettings.tuneParams, TunedSettings.tuneParams,
        same.vco]
      split
      · exact same
      · exact ⟨same.fields, rfl⟩
  | setBw bw => exact ⟨changed (setBw_within bw), same.vco⟩

/-- The gains that events leave are those of the gain calls among them, and all else is that of the
other events.
-/
theorem foldl_spec_parts {events : List E4000Event} (keeps : ∀ event ∈ events, event.Keeps)
    (settings : TunedSettings)
    : SameGains (events.foldl E4000Event.spec settings).front
          (settings.front.after (events.filterMap E4000Event.gain?))
      ∧ SameRest (events.foldl E4000Event.spec settings)
          ((events.filterMap E4000Event.use?).foldl TunerUse.spec settings) := by
  constructor
  · refine @foldl_part TunedSettings _ _ _ (fun settings gains => SameGains settings.front gains)
      _ _ _ events ?_ ?_ _ _ ⟨fun _ _ => rfl, rfl⟩
    · intro event _ state part call same found
      cases event with
      | gain call' => cases found; exact GainCall.spec_gains call same
      | tuner use => cases found
    · intro event listed state part same found
      cases event with
      | gain call => cases found
      | tuner use =>
          have left := TunerUse.spec_gains (keeps _ listed) state
          exact ⟨fun i gains => (left.fields i gains).trans (same.fields i gains),
            left.gain.trans same.gain⟩
  · refine @foldl_part _ _ _ _ SameRest _ _ _ events ?_ ?_ _ _ ⟨fun _ _ => rfl, rfl⟩
    · intro event listed state part use same found
      cases event with
      | gain call => cases found
      | tuner use' => cases found; exact TunerUse.spec_rest (keeps _ listed) same
    · intro event _ state part same found
      cases event with
      | gain call =>
          exact ⟨fun i rest => (GainCall.spec_rest call _ rest).trans (same.fields i rest),
            same.vco⟩
      | tuner use => cases found

/-- The gain calls of executed commands are those of the commands that set gains. -/
theorem filterMap_events (executed : List ExecutedCommand)
    : (executed.flatMap ExecutedCommand.events).filterMap E4000Event.gain?
      = (executed.map ExecutedCommand.command).filterMap gainCall := by
  rw [List.filterMap_flatMap, List.filterMap_map, List.filterMap_eq_flatMap_toList]
  refine List.flatMap_congr fun command _ => ?_
  unfold ExecutedCommand.events
  cases found : gainCall command.command with
  | some call => simp [found, E4000Event.gain?]
  | none => simp [found, E4000Event.gain?, List.filterMap_map]

end Parts

-----------------------------------------------------------------------------------------
-- What a client commands
-----------------------------------------------------------------------------------------

section Commands

variable {environment : Environment.E4k} {device : TunedE4000}

/-- Whatever bytes a client has sent and however they were received: the gains of the tuner, with
the one that is reported, are those of the gain commands among the commands of the stream that were
executed, and its filters and its tuning those of what else the library did with it, as long as
that is no initialization.
-/
theorem remote_gains {listener : Listening}
    (reachable : (listening.restrict Listening.served).Reachable listener)
    (ready : device.Ready environment) {executed : List ExecutedCommand}
    (handed : executed.map ExecutedCommand.command <+: listener.shared.traffic.commands)
    (keeps : ∀ event ∈ executed.flatMap ExecutedCommand.events, event.Keeps)
    : SameGains
          (device.after environment (executed.flatMap ExecutedCommand.events)).shown.front
          (device.shown.front.after
            (((commandsOf listener.received).take executed.length).filterMap gainCall))
      ∧ SameRest (device.after environment (executed.flatMap ExecutedCommand.events)).shown
          (((executed.flatMap ExecutedCommand.events).filterMap E4000Event.use?).foldl
            TunerUse.spec device.shown) := by
  have stream := commands_of_received reachable
  have first : (commandsOf listener.received).take executed.length
      = executed.map ExecutedCommand.command := by
    rw [← stream, ← List.length_map ExecutedCommand.command]
    exact (List.prefix_iff_eq_take.mp (handed.trans (List.prefix_append _ _))).symm
  rw [first, ← filterMap_events, (TunedE4000.after_shown ready _).2]
  exact foldl_spec_parts keeps _

/-- A device with the E4000, a clock of 28.8 MHz and registers that are zero. -/
def TunedE4000.idle : TunedE4000 := ⟨.idle, 0⟩

/-- A gain of 50 dB and a part of the next command. -/
def gainSchedule : List ListeningEvent :=
  [.listener .none, .listener .none, .listener .none, .listener (.value 1), .listener .none,
    .listener (.bytes [4, 0, 0]), .listener .none, .listener .none, .listener (.value 1),
    .listener .none, .listener (.bytes [1, 244]), .listener .none, .listener .none,
    .listener .none, .listener .none, .listener .none, .listener .none, .listener (.value 1),
    .listener .none, .listener (.bytes [1])]

/-- A gain of 50 dB that is received in two chunks. -/
theorem remote_gains_50dB
    : ∃ listener : Listening,
        listener.received = [4, 0, 0, 1, 244, 1]
        ∧ SameGains
            (TunedE4000.idle.after ⟨fun _ => true, true⟩
              (([⟨(4, 500), []⟩] : List ExecutedCommand).flatMap
                ExecutedCommand.events)).shown.front
            (TunedE4000.idle.shown.front.after
              (((commandsOf listener.received).take 1).filterMap gainCall)) := by
  have replayed
      : ((listening.restrict Listening.served).run
            ⟨(World.initial .zeroed).shared.setState .clientServing, .loop .initial, []⟩
            gainSchedule).map
          (fun listener => (listener.received, listener.shared.traffic.commands))
        = some ([4, 0, 0, 1, 244, 1], [(4, 500)]) := by
    decide +kernel
  obtain ⟨listener, reachable, seen⟩ := System.exists_reachable_of_run replayed ⟨rfl, rfl, rfl⟩
  obtain ⟨received, commands⟩ := Prod.mk.inj seen
  refine ⟨listener, received, (remote_gains reachable (fun _ _ => rfl) ?_ ?_).1⟩
  · rw [commands]
    exact List.prefix_refl _
  · intro event listed
    cases List.mem_singleton.mp
      (show event ∈ [E4000Event.gain ⟨.setGain (500 : UInt32).toInt32, rfl⟩] from listed)
    trivial

/-- After a frequency is accepted, whatever else is done with the tuner that is no initialization,
the registers of the synthesizer have the parameters of the frequency accepted last.
-/
theorem remote_stays_tuned (ready : device.Ready environment) (before after : List E4000Event)
    {freq : UInt32} (accepts : (before.foldl E4000Event.spec device.shown).Accepts freq)
    (keeps : ∀ event ∈ after, event.Keeps)
    : Synthesized
        (device.after environment (before ++ .tuner (.setFreq freq) :: after)).state.chip
        ((before ++ .tuner (.setFreq freq) :: after).foldl E4000Event.spec device.shown).vco := by
  obtain ⟨again, shown⟩ := TunedE4000.after_shown ready before
  obtain ⟨-, ends⟩ :=
    TunedE4000.after_shown ready (before ++ .tuner (.setFreq freq) :: after)
  rw [← ends]
  rw [← shown] at accepts
  obtain ⟨tuned, -, synthesized⟩ := setFreq_run again freq
  have later := TunedE4000.after_synthesized tuned keeps (synthesized (.inr accepts))
  unfold TunedE4000.after at later ⊢
  rw [List.foldl_append]
  exact later

/-- 100 MHz between a gain and a bandwidth. -/
theorem remote_stays_tuned_100MHz
    : Synthesized
        (TunedE4000.idle.after ⟨fun _ => true, true⟩
          ([E4000Event.gain ⟨.setGain 500, rfl⟩] ++ E4000Event.tuner (.setFreq 100000000)
            :: [E4000Event.tuner (.setBw 2048000)])).state.chip
        (([E4000Event.gain ⟨.setGain 500, rfl⟩] ++ E4000Event.tuner (.setFreq 100000000)
            :: [E4000Event.tuner (.setBw 2048000)]).foldl E4000Event.spec TunedE4000.idle.shown).vco := by
  have ready : TunedE4000.idle.Ready ⟨fun _ => true, true⟩ := fun _ _ => rfl
  refine remote_stays_tuned ready _ _ ?_ ?_
  · change (e4kComputePllParams .zero 28800000 100000000).1 ≠ 0
    decide
  · intro event listed
    cases List.mem_singleton.mp listed
    trivial

end Commands

end RtlTcpAndro.RtlSdrDevice
