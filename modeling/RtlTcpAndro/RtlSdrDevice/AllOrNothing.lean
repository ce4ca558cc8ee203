import RtlTcpAndro.RtlSdrDevice.Open2

/-! Whether `rtlsdr_open2` hands out a device or releases all of it. -/

namespace RtlTcpAndro.RtlSdrDevice

-----------------------------------------------------------------------------------------
-- What setting up keeps
-----------------------------------------------------------------------------------------

/-- Only calls on the handle that leave it open are made. -/
def OpenState.OnlyUses (before after : OpenState) : Prop :=
  ∃ made : List HandleCall,
    .close ∉ made
    ∧ after.calls = before.calls ++ made.map fun call => .onHandle call before.dev.devh

/-- Nothing done is only use: the list of calls made on the handle is empty. -/
theorem OpenState.OnlyUses.refl (state : OpenState) : state.OnlyUses state :=
  ⟨[], by simp, by simp⟩

/-- Use after use of the same handle is only use. Witness: the calls of the two in a row, none
of which closes it.
-/
theorem OpenState.OnlyUses.trans {before between after : OpenState}
    (first : before.OnlyUses between) (devh : between.dev.devh = before.dev.devh)
    (second : between.OnlyUses after)
    : before.OnlyUses after := by
  obtain ⟨made, stays, calls⟩ := first
  obtain ⟨more, remains, rest⟩ := second
  refine ⟨made ++ more, by simp [stays, remains], ?_⟩
  rw [rest, calls, devh, List.map_append, List.append_assoc]

/-- The handle is only used, and what was acquired is the same. -/
structure OpenState.Kept (before after : OpenState) : Prop where
  allocated : after.allocated = before.allocated
  ctx : after.dev.ctx = before.dev.ctx
  devh : after.dev.devh = before.dev.devh
  tuner : after.dev.tuner = before.dev.tuner
  outDev : after.outDev = before.outDev
  claimed : after.claimed = before.claimed
  tunerInit : after.tunerInit = before.tunerInit
  uses : before.OnlyUses after

/-- A state that nothing was done to keeps what was acquired, by reflexivity of every field.
-/
theorem OpenState.Kept.refl (state : OpenState) : state.Kept state :=
  ⟨rfl, rfl, rfl, rfl, rfl, rfl, rfl, .refl state⟩

/-- What two parts keep one after the other is kept. Witness: the equations are chained, and
the calls of both are made on the same handle.
-/
theorem OpenState.Kept.trans {before between after : OpenState} (first : before.Kept between)
    (second : between.Kept after)
    : before.Kept after :=
  ⟨second.allocated.trans first.allocated, second.ctx.trans first.ctx,
    second.devh.trans first.devh, second.tuner.trans first.tuner,
    second.outDev.trans first.outDev, second.claimed.trans first.claimed,
    second.tunerInit.trans first.tunerInit, first.uses.trans first.devh second.uses⟩

/-- A computation that keeps what was acquired. -/
def Open2.Keeps {α : Type} (computation : Open2 α) : Prop :=
  ∀ environment state, OpenState.Kept state (computation environment state).2

/-- A computation that keeps what was acquired and whose value is known. -/
def Open2.Returns {α : Type} (computation : Open2 α) (environment : Environment.Open2)
    (value : α)
    : Prop :=
  ∀ state,
    (computation environment state).1 = value
    ∧ OpenState.Kept state (computation environment state).2

section Rules

variable {α β : Type} {environment : Environment.Open2}

/-- A value keeps what was acquired, by reflexivity. -/
theorem Open2.Keeps.pure (value : α) : (Pure.pure value : Open2 α).Keeps :=
  fun _ state => .refl state

/-- A sequence keeps what was acquired where both of its parts do, by transitivity through the
state between them.
-/
theorem Open2.Keeps.bind {first : Open2 α} {rest : α → Open2 β} (keeps : first.Keeps)
    (next : ∀ value, (rest value).Keeps)
    : (first >>= rest).Keeps :=
  fun environment state =>
    (keeps environment state).trans (next _ environment (first environment state).2)

/-- A branching keeps what was acquired where each branch does under its condition. -/
theorem Open2.Keeps.ite {condition : Prop} [Decidable condition] {first second : Open2 α}
    (yes : condition → first.Keeps) (no : ¬ condition → second.Keeps)
    : (if condition then first else second).Keeps := by
  split
  next holds => exact yes holds
  next fails => exact no fails

/-- Reading what the calls answer keeps what was acquired, by reflexivity. -/
theorem Open2.Keeps.read : (read : Open2 Environment.Open2).Keeps := fun _ state => .refl state

/-- Reading the state keeps what was acquired, by reflexivity. -/
theorem Open2.Keeps.get : (get : Open2 OpenState).Keeps := fun _ state => .refl state

/-- A value is what it returns, and what was acquired is kept. -/
theorem Open2.Returns.pure (value : α) : (Pure.pure value : Open2 α).Returns environment value :=
  fun state => ⟨rfl, .refl state⟩

/-- Where a first part returns a known value, the sequence returns what the rest returns for
it. Witness: the run of the rest on the state that the first part leaves.
-/
theorem Open2.Returns.bind {first : Open2 α} {rest : α → Open2 β} {value : α} {result : β}
    (returns : first.Returns environment value)
    (next : (rest value).Returns environment result)
    : (first >>= rest).Returns environment result := by
  intro state
  obtain ⟨same, kept⟩ := returns state
  obtain ⟨known, also⟩ := next (first environment state).2
  refine ⟨?_, kept.trans ?_⟩
  · change (rest (first environment state).1 environment (first environment state).2).1 = result
    rw [same, known]
  · change OpenState.Kept _
      (rest (first environment state).1 environment (first environment state).2).2
    rw [same]
    exact also

/-- Where the rest returns the same after every value, a first part that keeps what was
acquired need not have a known one.
-/
theorem Open2.Returns.bind_keeps {first : Open2 α} {rest : α → Open2 β} {result : β}
    (keeps : first.Keeps) (next : ∀ value, (rest value).Returns environment result)
    : (first >>= rest).Returns environment result :=
  fun state =>
    ⟨(next _ (first environment state).2).1,
      (keeps environment state).trans (next _ (first environment state).2).2⟩

/-- A branching returns the value of the branch that is taken, under its condition. -/
theorem Open2.Returns.ite {condition : Prop} [Decidable condition] {first second : Open2 α}
    {value other : α} (yes : condition → first.Returns environment value)
    (no : ¬ condition → second.Returns environment other)
    : (if condition then first else second).Returns environment
        (if condition then value else other) := by
  split
  next holds => exact yes holds
  next fails => exact no fails

end Rules

/-- A call on the handle that is not its close keeps what was acquired: it is the one call
that was made.
-/
theorem makeOnHandle_keeps {call : HandleCall} (stays : call ≠ .close)
    : (makeOnHandle call).Keeps :=
  fun _ _ => ⟨rfl, rfl, rfl, rfl, rfl, rfl, rfl, [call], by simpa using stays.symm, rfl⟩

/-- A change of the device that spares context, handle and tuner keeps what was acquired.
Witness: what it spares, field by field.
-/
theorem changeDev_keeps {update : Dongle → Dongle}
    (same : ∀ dev, (update dev).ctx = dev.ctx ∧ (update dev).devh = dev.devh
      ∧ (update dev).tuner = dev.tuner)
    : (changeDev update).Keeps :=
  fun _ state =>
    ⟨rfl, (same state.dev).1, (same state.dev).2.1, (same state.dev).2.2, rfl, rfl, rfl,
      .refl state⟩

/-- A control transfer keeps what was acquired: it is a call on the handle, and none that
closes it.
-/
theorem controlTransfer_keeps (transfer : ControlTransfer) : (controlTransfer transfer).Keeps :=
  .bind .get fun _ => .bind (makeOnHandle_keeps (by decide)) fun _ => .bind .read fun _ => .pure _

/-- What is done to the radio keeps what was acquired. Witness: as many control transfers as
the radio has counted more calls afterwards.
-/
theorem onRadio_keeps {α : Type} (tuning : Tuning α) : (onRadio tuning).Keeps := by
  intro environment state
  refine ⟨rfl, rfl, rfl, rfl, rfl, rfl, rfl,
    List.replicate
      ((tuning environment.radio state.dev.radio).2.chip.calls - state.dev.radio.chip.calls)
      .controlTransfer, ?_, ?_⟩
  · simp
  · rw [List.map_replicate]
    rfl

/-- Writing to a block keeps what was acquired; it is one control transfer. -/
theorem rtlsdrWriteArray_keeps (block addr : UInt16) (array : List UInt8)
    : (rtlsdrWriteArray block addr array).Keeps :=
  .bind (controlTransfer_keeps _) fun _ => .pure _

/-- Writing a register keeps what was acquired; it is an array of its bytes. -/
theorem rtlsdrWriteReg_keeps (block addr val : UInt16) (len : UInt8)
    : (rtlsdrWriteReg block addr val len).Keeps :=
  rtlsdrWriteArray_keeps _ _ _

/-- Reading a register keeps what was acquired; it is one control transfer. -/
theorem rtlsdrReadReg_keeps (block addr : UInt16) : (rtlsdrReadReg block addr).Keeps :=
  .bind (controlTransfer_keeps _) fun _ => .pure _

/-- Setting a bit of the GPIOs keeps what was acquired; it is a register that is read and
written.
-/
theorem rtlsdrSetGpioBit_keeps (gpio : UInt16) (val : Bool) : (rtlsdrSetGpioBit gpio val).Keeps :=
  .bind (rtlsdrReadReg_keeps _ _) fun _ => .bind (rtlsdrWriteReg_keeps _ _ _ _) fun _ => .pure _

/-- Making a GPIO an output keeps what was acquired; two registers are read and written. -/
theorem rtlsdrSetGpioOutput_keeps (gpio : UInt16) : (rtlsdrSetGpioOutput gpio).Keeps :=
  .bind (rtlsdrReadReg_keeps _ _) fun _ =>
    .bind (rtlsdrWriteReg_keeps _ _ _ _) fun _ =>
      .bind (rtlsdrReadReg_keeps _ _) fun _ =>
        .bind (rtlsdrWriteReg_keeps _ _ _ _) fun _ => .pure _

/-- Initialising the baseband keeps what was acquired. Witness: its writes of registers one by
one, and what is done to the radio.
-/
theorem rtlsdrInitBaseband_keeps : rtlsdrInitBaseband.Keeps := by
  refine .bind (rtlsdrWriteReg_keeps _ _ _ _) fun _ => ?_
  refine .bind (rtlsdrWriteReg_keeps _ _ _ _) fun _ => ?_
  refine .bind (rtlsdrWriteReg_keeps _ _ _ _) fun _ => ?_
  refine .bind (rtlsdrWriteReg_keeps _ _ _ _) fun _ => ?_
  refine .bind (rtlsdrWriteReg_keeps _ _ _ _) fun _ => ?_
  refine .bind (onRadio_keeps _) fun _ => ?_
  refine .bind (onRadio_keeps _) fun _ => ?_
  exact onRadio_keeps _

/-- The reads of the EEPROM keep what was acquired, by induction on the bytes that are left; a
read that fails ends them.
-/
theorem readEepromBytes_keeps (left : Nat) (r : Int32) : (readEepromBytes left r).Keeps := by
  induction left generalizing r with
  | zero => exact .pure r
  | succ left ih =>
      exact .bind (controlTransfer_keeps _) fun _ => .ite (fun _ => .pure _) fun _ => ih _

/-- Reading the EEPROM keeps what was acquired, whether the range is refused, the address
cannot be written or the bytes are read.
-/
theorem rtlsdrReadEeprom_keeps (offset : UInt8) (len : Nat)
    : (rtlsdrReadEeprom offset len).Keeps :=
  .ite (fun _ => .pure _) fun _ =>
    .bind (rtlsdrWriteArray_keeps _ _ _) fun _ =>
      .ite (fun _ => .pure _) fun _ => readEepromBytes_keeps _ _

/-- Reading the names of the dongle keeps what was acquired: they are stored in fields of the
device that are none of those.
-/
theorem readDongleStrings_keeps : readDongleStrings.Keeps :=
  .bind (rtlsdrReadEeprom_keeps _ _) fun _ =>
    .bind .read fun _ => changeDev_keeps fun _ => ⟨rfl, rfl, rfl⟩

/-- The write that finds out whether the device is reachable keeps what was acquired, also
where it resets the device.
-/
theorem dummyWrite_keeps : dummyWrite.Keeps :=
  .bind (rtlsdrWriteReg_keeps _ _ _ _) fun _ =>
    .ite (fun _ => makeOnHandle_keeps (by decide)) fun _ => .pure _

/-- Everything before the search for a tuner keeps what was acquired, part by part. -/
theorem setUpBaseband_keeps : setUpBaseband.Keeps := by
  refine .bind (changeDev_keeps fun _ => ⟨rfl, rfl, rfl⟩) fun _ => ?_
  refine .bind dummyWrite_keeps fun _ => ?_
  refine .bind rtlsdrInitBaseband_keeps fun _ => ?_
  refine .bind (changeDev_keeps fun _ => ⟨rfl, rfl, rfl⟩) fun _ => ?_
  exact readDongleStrings_keeps

/-- The tuner that the reads of the probing name. -/
def Environment.Open2.tunerFound (environment : Environment.Open2) : RtlsdrTuner :=
  if environment.i2cReads .e4000 = 0x40 then .e4000
  else if environment.i2cReads .fc0013 = 0xa3 then .fc0013
  else if environment.i2cReads .r820t = 0x69 then .r820t
  else if environment.i2cReads .r828d = 0x69 then .r828d
  else if environment.i2cReads .fc2580 &&& 0x7f = 0x56 then .fc2580
  else if environment.i2cReads .fc0012 = 0xa1 then .fc0012
  else .unknown

/-- Reading a register of a tuner returns what the environment has there, and keeps what was
acquired. Witness: the write of the register's number is one transfer, the read another.
-/
theorem rtlsdrI2cReadReg_returns (environment : Environment.Open2) (tuner : RtlsdrTuner)
    (i2cAddr reg : UInt8)
    : (rtlsdrI2cReadReg tuner i2cAddr reg).Returns environment (environment.i2cReads tuner) :=
  .bind_keeps (rtlsdrWriteArray_keeps _ _ _) fun _ =>
    .bind_keeps (controlTransfer_keeps _) fun _ state => ⟨rfl, .refl state⟩

/-- The search returns the first tuner, in the order of the source, whose register answers as
its kind does. Witness: the probes in order, each with the answer of its tuner.
-/
theorem probeTuners_returns (environment : Environment.Open2)
    : probeTuners.Returns environment environment.tunerFound := by
  refine .bind_keeps (onRadio_keeps _) fun _ => ?_
  refine .bind (rtlsdrI2cReadReg_returns _ _ _ _) (.ite (fun _ => .pure _) fun _ => ?_)
  refine .bind (rtlsdrI2cReadReg_returns _ _ _ _) (.ite (fun _ => .pure _) fun _ => ?_)
  refine .bind (rtlsdrI2cReadReg_returns _ _ _ _) (.ite (fun _ => .pure _) fun _ => ?_)
  refine .bind (rtlsdrI2cReadReg_returns _ _ _ _) (.ite (fun _ => .pure _) fun _ => ?_)
  refine .bind_keeps (rtlsdrSetGpioOutput_keeps _) fun _ => ?_
  refine .bind_keeps (rtlsdrSetGpioBit_keeps _ _) fun _ => ?_
  refine .bind_keeps (rtlsdrSetGpioBit_keeps _ _) fun _ => ?_
  refine .bind (rtlsdrI2cReadReg_returns _ _ _ _) (.ite (fun _ => .pure _) fun _ => ?_)
  refine .bind (rtlsdrI2cReadReg_returns _ _ _ _) (.ite (fun _ => ?_) fun _ => .pure _)
  exact .bind_keeps (rtlsdrSetGpioOutput_keeps _) fun _ => .pure _

/-- The bias tee, forced or not, keeps what was acquired. -/
theorem forceBiasTee_keeps : forceBiasTee.Keeps := by
  refine .bind .read fun environment => ?_
  refine .bind (changeDev_keeps fun _ => ⟨rfl, rfl, rfl⟩) fun _ => ?_
  exact .ite (fun _ => .bind (rtlsdrSetGpioOutput_keeps _) fun _ => rtlsdrSetGpioBit_keeps _ _)
    fun _ => .pure _

/-- What the demodulator is set to for a kind of tuner keeps what was acquired. Witness: the
branches for an R82xx, for no known tuner and for the rest.
-/
theorem switchDemodulator_keeps (tuner : RtlsdrTuner) : (switchDemodulator tuner).Keeps := by
  refine .ite (fun _ => ?_) fun _ => .ite (fun _ => ?_) fun _ => .pure _
  · refine .bind (onRadio_keeps _) fun _ => ?_
    refine .bind (onRadio_keeps _) fun _ => ?_
    refine .bind (onRadio_keeps _) fun _ => ?_
    exact .bind (onRadio_keeps _) fun _ => .pure _
  · exact .bind (onRadio_keeps _) fun _ => .pure _

-----------------------------------------------------------------------------------------
-- Setting up a device
-----------------------------------------------------------------------------------------

section Runs

variable (environment : Environment.Open2) (state : OpenState)

/-- A sequence runs its rest on the value and the state of its first part, by computation. -/
theorem Open2.run_bind {α β : Type} (first : Open2 α) (rest : α → Open2 β)
    : (first >>= rest) environment state
      = rest (first environment state).1 environment (first environment state).2 :=
  rfl

/-- A value runs to itself in the state it finds, by computation. -/
theorem Open2.run_pure {α : Type} (value : α)
    : (pure value : Open2 α) environment state = (value, state) :=
  rfl

/-- A branching runs the branch of its condition. Witness: both branches compute. -/
theorem Open2.run_ite {α : Type} (condition : Prop) [Decidable condition]
    (first second : Open2 α)
    : (if condition then first else second) environment state
      = if condition then first environment state else second environment state := by
  split <;> rfl

def OpenState.withTuner (tuner : RtlsdrTuner) : OpenState :=
  { state with dev := { state.dev with tuner := some tuner } }

/-- Besides what is kept, `dev->tuner` is set. Witness: the store of the tuner, and then what
the demodulator is switched to.
-/
theorem setUpFor_kept (tuner : RtlsdrTuner)
    : (state.withTuner tuner).Kept (setUpFor tuner environment state).2 := by
  rw [setUpFor, Open2.run_bind, Open2.run_bind]
  refine .trans ?_ (switchDemodulator_keeps tuner environment _)
  exact ⟨rfl, rfl, rfl, rfl, rfl, rfl, rfl, .refl state⟩

/-- What is left once the tuner was initialised. -/
def OpenState.withInit (tuner : RtlsdrTuner) : OpenState :=
  if tuner.supported then
    { state with
      calls := state.calls ++ [.onHandle .tunerInit state.dev.devh]
      tunerInit := some (environment.tunerInit tuner) }
  else state

/-- Starting the tuner calls its initialization where the kind is known, and records its
answer; for an unknown one nothing is done. Witness: the tuner that the state has.
-/
theorem initTuner_eq {tuner : RtlsdrTuner} (known : state.dev.tuner = some tuner)
    : (initTuner environment state).2 = state.withInit environment tuner := by
  have current : (get : Open2 OpenState) environment state = (state, state) := rfl
  rw [initTuner, Open2.run_bind, current]
  simp only [known]
  rw [Open2.run_ite, OpenState.withInit]
  split <;> rfl

/-- Starting a tuner uses the handle for one call at most, which does not close it, and leaves
the device and the claim alone.
-/
theorem OpenState.withInit_uses (tuner : RtlsdrTuner)
    : state.OnlyUses (state.withInit environment tuner)
      ∧ (state.withInit environment tuner).dev = state.dev
      ∧ (state.withInit environment tuner).claimed = state.claimed := by
  unfold withInit
  split
  · exact ⟨⟨[.tunerInit], by simp, rfl⟩, rfl, rfl⟩
  · exact ⟨.refl state, rfl, rfl⟩

/-- The answer that is recorded for a start is that of the tuner, where its kind is known. -/
theorem OpenState.withInit_tunerInit (tuner : RtlsdrTuner)
    : (state.withInit environment tuner).tunerInit
      = if tuner.supported then some (environment.tunerInit tuner) else state.tunerInit := by
  unfold withInit
  split <;> rfl

/-- What a set up device has. -/
structure OpenState.SetUp (before after : OpenState) : Prop where
  outDev : ∃ dev, after.outDev = some dev ∧ dev.devh = before.dev.devh
  claimed : after.claimed = before.claimed
  tunerInit
    : after.tunerInit
      = if environment.tunerFound.supported then
          some (environment.tunerInit environment.tunerFound)
        else before.tunerInit
  uses : before.OnlyUses after

/-- The last part of opening hands a device out with the handle and the claim it was given,
with the tuner's initialization recorded. Witness: the states after each part, each kept from
the one before.
-/
theorem setUpDevice_setUp : state.SetUp environment (setUpDevice environment state).2 := by
  -- the states after each part
  let based := (setUpBaseband environment state).2
  let probed := (probeTuners environment based).2
  let found := (setUpFor environment.tunerFound environment probed).2
  let supplied := (forceBiasTee environment found).2
  let started := supplied.withInit environment environment.tunerFound
  let ended := (onRadio (rtlsdrSetI2cRepeater false) environment started).2
  obtain ⟨known, probing⟩ := probeTuners_returns environment based
  have setting : (probed.withTuner environment.tunerFound).Kept found := setUpFor_kept _ _ _
  have supplying : (probed.withTuner environment.tunerFound).Kept supplied :=
    setting.trans (forceBiasTee_keeps environment found)
  have before : state.Kept probed := (setUpBaseband_keeps environment state).trans probing
  have ending : started.Kept ended := onRadio_keeps _ environment started
  obtain ⟨starting, dev, claimed⟩ := supplied.withInit_uses environment environment.tunerFound
  have run : (setUpDevice environment state).2 = ended.handOut := by
    have initialised := initTuner_eq environment supplied supplying.tuner
    rw [setUpDevice, Open2.run_bind, Open2.run_bind, known]
    change ((onRadio (rtlsdrSetI2cRepeater false) environment
      (initTuner environment supplied).2).2).handOut = _
    rw [initialised]
  have devh : supplied.dev.devh = state.dev.devh := supplying.devh.trans before.devh
  rw [run]
  constructor
  case outDev => exact ⟨ended.dev, rfl, ending.devh.trans ((congrArg Dongle.devh dev).trans devh)⟩
  case claimed =>
    exact ending.claimed.trans (claimed.trans (supplying.claimed.trans before.claimed))
  case tunerInit =>
    refine ending.tunerInit.trans ?_
    rw [OpenState.withInit_tunerInit, supplying.tunerInit]
    exact congrArg (ite _ _) before.tunerInit
  case uses =>
    refine OpenState.OnlyUses.trans ?_ ((congrArg Dongle.devh dev).trans devh) ending.uses
    refine OpenState.OnlyUses.trans ?_ devh starting
    exact OpenState.OnlyUses.trans before.uses before.devh supplying.uses

-----------------------------------------------------------------------------------------
-- The states of rtlsdr_open2
-----------------------------------------------------------------------------------------

def afterMalloc : OpenState := (malloc environment (.initial environment.demod)).2

def afterInit : OpenState := (libusbInit environment (afterMalloc environment)).2

def afterGetDevice2 : OpenState :=
  (libusbGetDevice2 environment
    (changeDev (fun dev => { dev with devLost := true }) environment (afterInit environment)).2).2

def OpenState.afterClaim : OpenState :=
  { state with
    dev :=
      { state.dev with
        devh := decide (environment.libusbOpen2 = 0)
        driverActive :=
          if environment.libusbKernelDriverActive = 1 then true else state.dev.driverActive }
    claimed := decide (0 ≤ environment.libusbClaimInterface)
    calls :=
      state.calls
      ++ [.open2]
      ++ [.onHandle .kernelDriverActive (decide (environment.libusbOpen2 = 0))]
      ++ [.onHandle .claimInterface (decide (environment.libusbOpen2 = 0))] }

/-- With a device found, a claim that fails releases everything and any other sets the device
up, without a look at what opening it returned. Witness: the calls up to the claim compute.
-/
theorem openWithDevice_eq
    : openWithDevice environment state
      = if environment.libusbClaimInterface < 0 then
          (environment.libusbClaimInterface,
            (release environment (state.afterClaim environment)).2)
        else (0, (setUpDevice environment (state.afterClaim environment)).2) := by
  unfold openWithDevice OpenState.afterClaim
  simp only [Open2.run_bind, Open2.run_ite, Open2.run_pure]
  have answer
      : (libusbKernelDriverActive environment (libusbOpen2 environment state).2).1
        = environment.libusbKernelDriverActive :=
    rfl
  rw [answer]
  by_cases active : environment.libusbKernelDriverActive = 1
  · rw [if_pos active, if_pos active]
    rfl
  · rw [if_neg active, if_neg active]
    rfl

/-- The whole of `rtlsdr_open2`, by the first call that fails: no memory, no context, no
device, and otherwise what is done with a device. Witness: its branches compute.
-/
theorem openRun_eq
    : openRun environment
      = if ¬ environment.malloc = true then (enomem, afterMalloc environment)
        else if environment.libusbInit.1 ≠ 0 then
          (environment.libusbInit.1, afterInit environment)
        else if ¬ environment.libusbInit.2 = true then (libusbErrorOther, afterInit environment)
        else if ¬ environment.libusbGetDevice2 = true then
          (-1, (release environment (afterGetDevice2 environment)).2)
        else openWithDevice environment (afterGetDevice2 environment) := by
  unfold openRun rtlsdrOpen2
  simp only [Open2.run_bind, Open2.run_ite, Open2.run_pure]
  rfl

/-- What `err` does once there is a context: a handle is closed, the context left and the
device freed, in this order. Witness: the cases of the handle and of the calls compute.
-/
theorem release_eq (allocated : state.allocated = true) (ctx : state.dev.ctx = true)
    : (release environment state).2
      = { state with
          calls :=
            state.calls
            ++ (if state.dev.devh then [.onHandle .close true] else [])
            ++ [.exit] ++ [.free] } := by
  obtain ⟨_, dev, outDev, calls, claimed, tunerInit⟩ := state
  obtain ⟨_, devh, radio, tuner, devLost, driverActive, forceBt, manufact, product⟩ := dev
  dsimp only at allocated ctx
  subst allocated ctx
  cases devh with
  | true => rfl
  | false =>
      have none : calls ++ [] = calls := List.append_nil calls
      simp only [Bool.false_eq_true, if_false, none]
      rfl

end Runs

-----------------------------------------------------------------------------------------
-- All or nothing
-----------------------------------------------------------------------------------------

/-- `rtlsdr_open2` has handed out a device that works, of which nothing is released. -/
structure OpenState.Opened (r : Int32) (state : OpenState) : Prop where
  status : r = 0
  outDev : ∃ dev, state.outDev = some dev ∧ dev.devh = true
  claimed : state.claimed = true
  tunerInit : state.tunerInit = some 0
  unreleased
    : .free ∉ state.calls ∧ .exit ∉ state.calls
      ∧ ∀ handle, .onHandle .close handle ∉ state.calls

/-- `rtlsdr_open2` has handed out nothing and released once what it acquired. -/
structure OpenState.Released (r : Int32) (state : OpenState) : Prop where
  status : r < 0
  outDev : state.outDev = none
  device : state.calls.count .free = state.allocated.toNat
  context : state.calls.count .exit = state.dev.ctx.toNat
  handle : state.calls.count (.onHandle .close true) = state.dev.devh.toNat

/-- No call is made on a `NULL` handle. -/
def OpenState.NeverNull (state : OpenState) : Prop :=
  ∀ call, .onHandle call false ∉ state.calls

/-- A result of `rtlsdr_open2` is all or nothing. -/
def AllOrNothing (outcome : Int32 × OpenState) : Prop :=
  (outcome.2.Opened outcome.1 ∨ outcome.2.Released outcome.1) ∧ outcome.2.NeverNull

section Outcomes

variable {environment : Environment.Open2}

/-- Without memory nothing was acquired and nothing is released: the allocation is the only
call.
-/
theorem allOrNothing_of_no_memory (none : ¬ environment.malloc = true)
    : AllOrNothing (enomem, afterMalloc environment) := by
  have calls : (afterMalloc environment).calls = [.malloc] := rfl
  have negative : enomem < 0 := by decide
  have unallocated : 0 = environment.malloc.toNat := by simp [none]
  refine ⟨.inr ⟨negative, rfl, unallocated, rfl, rfl⟩, ?_⟩
  intro call
  simp [calls]

/-- Where there is no context the device is not freed. Witness: what was allocated is freed no
times.
-/
theorem not_allOrNothing_of_no_context (memory : environment.malloc = true) {r : Int32}
    (fails : r ≠ 0)
    : ¬ AllOrNothing (r, afterInit environment) := by
  rintro ⟨opened | released, -⟩
  · exact fails opened.status
  · have freed : 0 = environment.malloc.toNat := released.device
    rw [memory] at freed
    cases freed

/-- Without a device the context is left and the memory freed, each once. Witness: the calls
that were made are counted.
-/
theorem allOrNothing_of_no_device (memory : environment.malloc = true)
    (context : environment.libusbInit.2 = true)
    : AllOrNothing (-1, (release environment (afterGetDevice2 environment)).2) := by
  have negative : (-1 : Int32) < 0 := by decide
  have allocated : 1 = environment.malloc.toNat := by simp [memory]
  have initialised : 1 = environment.libusbInit.2.toNat := by simp [context]
  have calls : (afterGetDevice2 environment).calls = [.malloc, .init, .getDevice2] := rfl
  have devh : (afterGetDevice2 environment).dev.devh = false := rfl
  rw [release_eq environment (afterGetDevice2 environment) memory context]
  refine ⟨.inr ⟨negative, rfl, allocated, initialised, rfl⟩, ?_⟩
  intro call
  simp [calls, devh]

/-- The calls up to the claim. -/
theorem calls_afterClaim (environment : Environment.Open2)
    : ((afterGetDevice2 environment).afterClaim environment).calls
      = [.malloc, .init, .getDevice2, .open2,
        .onHandle .kernelDriverActive (decide (environment.libusbOpen2 = 0)),
        .onHandle .claimInterface (decide (environment.libusbOpen2 = 0))] :=
  rfl

/-- Without a handle its calls are made on `NULL`. Witness: the query for a kernel driver is
among the calls up to the claim.
-/
theorem not_allOrNothing_of_no_handle (r : Int32) (state : OpenState)
    (null : environment.libusbOpen2 ≠ 0)
    (begins : ((afterGetDevice2 environment).afterClaim environment).calls <+: state.calls)
    : ¬ AllOrNothing (r, state) := by
  rintro ⟨-, neverNull⟩
  refine neverNull .kernelDriverActive (begins.subset ?_)
  simp [calls_afterClaim, null]

/-- Releasing adds its calls behind those up to the claim. -/
theorem release_extends (memory : environment.malloc = true)
    (context : environment.libusbInit.2 = true)
    : ((afterGetDevice2 environment).afterClaim environment).calls
      <+: (release environment ((afterGetDevice2 environment).afterClaim environment)).2.calls := by
  rw [release_eq environment _ memory context]
  exact ⟨_, by rw [List.append_assoc, List.append_assoc]⟩

/-- A claim that fails is all or nothing exactly if there is a handle. Witness: with one, it
is closed once and the rest is released once; without one, calls were made on `NULL`.
-/
theorem allOrNothing_claim_fails_iff (memory : environment.malloc = true)
    (context : environment.libusbInit.2 = true) (fails : environment.libusbClaimInterface < 0)
    : AllOrNothing (environment.libusbClaimInterface,
        (release environment ((afterGetDevice2 environment).afterClaim environment)).2)
      ↔ environment.libusbOpen2 = 0 := by
  by_cases null : environment.libusbOpen2 = 0
  · refine iff_of_true ?_ null
    have allocated : 1 = environment.malloc.toNat := by simp [memory]
    have initialised : 1 = environment.libusbInit.2.toNat := by simp [context]
    have devh : ((afterGetDevice2 environment).afterClaim environment).dev.devh = true :=
      decide_eq_true null
    have opened : 1 = ((afterGetDevice2 environment).afterClaim environment).dev.devh.toNat := by
      rw [devh]
      rfl
    have calls := calls_afterClaim environment
    rw [decide_eq_true null] at calls
    rw [release_eq environment _ memory context, calls, devh]
    refine ⟨.inr ⟨fails, rfl, allocated, initialised, opened⟩, ?_⟩
    intro call
    simp
  · refine iff_of_false ?_ null
    exact not_allOrNothing_of_no_handle _ _ null (release_extends memory context)

/-- A device that was set up is all or nothing exactly if there is a handle and a known tuner
started. Witness: the status is zero, so nothing may be released, and what is handed out must
have been acquired.
-/
theorem allOrNothing_set_up_iff {after : OpenState}
    (setUp : ((afterGetDevice2 environment).afterClaim environment).SetUp environment after)
    (claims : ¬ environment.libusbClaimInterface < 0)
    : AllOrNothing (0, after)
      ↔ environment.libusbOpen2 = 0 ∧ environment.tunerFound ≠ .unknown
        ∧ environment.tunerInit environment.tunerFound = 0 := by
  obtain ⟨made, stays, calls⟩ := setUp.uses
  by_cases null : environment.libusbOpen2 = 0
  case neg =>
    refine iff_of_false ?_ fun holds => null holds.1
    exact not_allOrNothing_of_no_handle _ _ null ⟨_, calls.symm⟩
  have devh : ((afterGetDevice2 environment).afterClaim environment).dev.devh = true :=
    decide_eq_true null
  rw [calls_afterClaim, devh, decide_eq_true null] at calls
  constructor
  · rintro ⟨opened | released, -⟩
    · have initialised := setUp.tunerInit.symm.trans opened.tunerInit
      split at initialised
      next found =>
        exact ⟨null, of_decide_eq_true found, Option.some.inj initialised⟩
      next unknown => cases initialised
    · have negative : (0 : Int32) < 0 := released.status
      exact absurd negative (by decide)
  · rintro ⟨-, found, starts⟩
    have supported : environment.tunerFound.supported = true := decide_eq_true found
    obtain ⟨dev, out, same⟩ := setUp.outDev
    have claimed : decide (0 ≤ environment.libusbClaimInterface) = true :=
      decide_eq_true (Int32.not_lt.mp claims)
    refine ⟨.inl ⟨rfl, ⟨dev, out, same.trans devh⟩, setUp.claimed.trans claimed, ?_, ?_⟩, ?_⟩
    · rw [setUp.tunerInit, if_pos supported, starts]
    · rw [calls]
      simp [stays]
    · intro call
      rw [calls]
      simp

end Outcomes

/-- Nothing can be acquired, or a context is and, if there is a device, its handle; then the claim
fails or a tuner is found and starts.
-/
def Environment.Open2.Orderly (environment : Environment.Open2) : Prop :=
  environment.malloc = false
  ∨ environment.libusbInit = (0, true)
    ∧ (environment.libusbGetDevice2 = false
      ∨ environment.libusbOpen2 = 0
        ∧ (environment.libusbClaimInterface < 0
          ∨ environment.tunerFound ≠ .unknown
            ∧ environment.tunerInit environment.tunerFound = 0))

/-- `rtlsdr_open2` is all or nothing exactly where the calls it does not check succeed.
Witness: the first call that fails, and for each what was released by then.
-/
theorem open2_all_or_nothing_iff (environment : Environment.Open2)
    : AllOrNothing (openRun environment) ↔ environment.Orderly := by
  rw [openRun_eq, Environment.Open2.Orderly]
  by_cases memory : environment.malloc = true
  case neg =>
    rw [if_pos memory]
    exact iff_of_true (allOrNothing_of_no_memory memory) (.inl (Bool.eq_false_iff.mpr memory))
  have some : environment.malloc ≠ false := by simp [memory]
  rw [if_neg (not_not.mpr memory), or_iff_right some]
  by_cases started : environment.libusbInit.1 = 0
  case neg =>
    rw [if_pos started]
    refine iff_of_false (not_allOrNothing_of_no_context memory started) ?_
    rintro ⟨init, -⟩
    exact started (congrArg Prod.fst init)
  rw [if_neg (not_not.mpr started)]
  by_cases context : environment.libusbInit.2 = true
  case neg =>
    rw [if_pos context]
    refine iff_of_false (not_allOrNothing_of_no_context memory (by decide)) ?_
    rintro ⟨init, -⟩
    exact context (congrArg Prod.snd init)
  rw [if_neg (not_not.mpr context), and_iff_right (Prod.ext started context)]
  by_cases device : environment.libusbGetDevice2 = true
  case neg =>
    rw [if_pos device]
    exact iff_of_true (allOrNothing_of_no_device memory context)
      (.inl (Bool.eq_false_iff.mpr device))
  have found : environment.libusbGetDevice2 ≠ false := by simp [device]
  rw [if_neg (not_not.mpr device), openWithDevice_eq, or_iff_right found]
  by_cases claim : environment.libusbClaimInterface < 0
  · rw [if_pos claim, allOrNothing_claim_fails_iff memory context claim]
    exact (and_iff_left (.inl claim)).symm
  · rw [if_neg claim, allOrNothing_set_up_iff (setUpDevice_setUp _ _) claim, or_iff_right claim]

/-- Every call succeeds but `libusb_init`. -/
def noContext : Environment.Open2 where
  malloc := true
  libusbInit := (-99, false)
  libusbGetDevice2 := true
  libusbOpen2 := 0
  libusbKernelDriverActive := 0
  libusbClaimInterface := 0
  transfers _ _ := (1, [0])
  i2cReads _ := 0x69
  buf _ := 0
  demod _ _ := 0
  radio := ⟨fun _ => true, fun _ _ => 0⟩
  tunerInit _ := 0

/-- The device that was allocated is lost where there is no context. Witness: neither a status
of zero nor a free device comes out.
-/
theorem open2_leaks : ¬ AllOrNothing (openRun noContext) := by
  rintro ⟨opened | released, -⟩
  · exact absurd opened.status (by decide)
  · exact absurd released.device (by decide)

end RtlTcpAndro.RtlSdrDevice
