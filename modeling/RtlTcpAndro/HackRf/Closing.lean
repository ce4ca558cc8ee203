import RtlTcpAndro.HackRf.Receiver

/-! One `HackRfSdrDevice.openAsync` from the opening of the device to its closing, through
`Hackrf.initHackrf` and its callbacks, for every outcome of the calls it makes.
-/

namespace RtlTcpAndro.HackRf

-----------------------------------------------------------------------------------------
-- Outcomes and effects
-----------------------------------------------------------------------------------------

/-- What the handlers tell apart: a `HackrfUsbException` and any other exception. -/
inductive Failure
  | hackrfUsbException
  | other
  deriving DecidableEq, Repr

/-- What the listeners and the device see of a session. What a listener does in a callback,
such as starting the next session, happens at its effect here.
-/
inductive Effect
  | permissionRequested
  | hackrfReady
  | onOpen (listener : Nat)
  | stop
  | onClosed (listener : Nat) (e : Option Failure)
  deriving DecidableEq, Repr

/-- The listeners of an `SdrDevice`, and what they and the device have seen so far. -/
structure SdrDevice where
  listeners : List Nat
  trace : List Effect

/-- A computation on an `SdrDevice` that may throw. -/
abbrev Session := EStateM Failure SdrDevice

/-- The outcomes of the calls of a session: whether there is a `UsbManager`, whether the
permission is there already and else how the user answers, if at all, whether the device
opens, and what each later call throws, if anything.
-/
structure Outcomes where
  usbManager : Bool
  hasPermission : Bool
  granted : Option Bool
  openDevice : Bool
  newHackRfTcp : Option Failure
  initDevice : Option Failure
  prepareToAcceptConnections : Option Failure
  onOpen : Nat → Option Failure
  serveAndBlock : Option Failure
  stop : Option Failure
  stopInCatch : Option Failure

-----------------------------------------------------------------------------------------
-- The calls
-----------------------------------------------------------------------------------------

namespace Session

/-- One effect. -/
def emit (effect : Effect) : Session Unit :=
  modify fun device => { device with trace := device.trace ++ [effect] }

/-- A call with its outcome. -/
def call : Option Failure → Session Unit
  | none => pure ()
  | some e => throw e

/-- `Hackrf.stop` with the outcome of its USB transfer. -/
def stop (outcome : Option Failure) : Session Unit := do
  emit .stop
  call outcome

/-- `announceOnOpen` -/
def announceOnOpen (outcome : Nat → Option Failure) : List Nat → Session Unit
  | [] => pure ()
  | listener :: rest => do
      emit (.onOpen listener)
      call (outcome listener)
      announceOnOpen outcome rest

/-- `announceOnClosed`, which polls the listeners until none is left. -/
def announceOnClosed (e : Option Failure) : Session Unit :=
  modify fun device =>
    { listeners := []
      trace := device.trace ++ device.listeners.map (Effect.onClosed · e) }

/-- The constructor of `Hackrf`: whatever fails while it opens the device is a
`HackrfUsbException`, and a queue of no packet is an `IllegalArgumentException`.
-/
def newHackrf (outcomes : Outcomes) (queueSize : Int) : Session Unit := do
  if outcomes.openDevice = false then throw .hackrfUsbException
  if queueSize.tdiv packetSize < 1 then throw .other

/-- `onHackrfReady` before it announces that it has closed. -/
def serve (outcomes : Outcomes) : Session Unit := do
  call outcomes.newHackRfTcp
  call outcomes.initDevice
  call outcomes.prepareToAcceptConnections
  announceOnOpen outcomes.onOpen (← get).listeners
  call outcomes.serveAndBlock
  stop outcomes.stop

/-- `onHackrfReady` -/
def onHackrfReady (outcomes : Outcomes) : Session Unit := do
  emit .hackrfReady
  try
    serve outcomes
    announceOnClosed none
  catch e =>
    announceOnClosed (some e)
    try
      stop outcomes.stopInCatch
    catch ee =>
      match ee with
      | .hackrfUsbException => pure ()
      | .other => throw ee

/-- `onHackrfError`, which announces an `IOException`. -/
def onHackrfError : Session Unit := announceOnClosed (some .other)

/-- The creation of the `Hackrf` in `initHackrf`. -/
def createHackrf (outcomes : Outcomes) (queueSize : Int) : Session Unit := do
  try
    newHackrf outcomes queueSize
    onHackrfReady outcomes
  catch e =>
    match e with
    | .hackrfUsbException => onHackrfError
    | .other => throw e

/-- `initHackrf` -/
def initHackrf (outcomes : Outcomes) (queueSize : Int) : Session Unit :=
  if outcomes.usbManager = false then pure ()
  else if outcomes.hasPermission = false then emit .permissionRequested
  else createHackrf outcomes queueSize

/-- `run` of the thread that `openAsync` starts. -/
def processingThread (outcomes : Outcomes) (queueSize : Int) : Session Unit := do
  try
    initHackrf outcomes queueSize
  catch e =>
    announceOnClosed (some e)

/-- `permissionBroadcastReceiver.onReceive` -/
def onReceive (outcomes : Outcomes) (queueSize : Int) (granted : Bool) : Session Unit :=
  if granted then createHackrf outcomes queueSize else onHackrfError

/-- What `openAsync` starts: its thread, and the user's answer if it asks for the permission. -/
def openAsync (outcomes : Outcomes) (queueSize : Int) : Session Unit := do
  processingThread outcomes queueSize
  if outcomes.usbManager = true ∧ outcomes.hasPermission = false then
    match outcomes.granted with
    | some granted => onReceive outcomes queueSize granted
    | none => pure ()

end Session

/-- What the listeners and the device see of an `openAsync`, also when an exception is left
uncaught.
-/
def openTrace (outcomes : Outcomes) (queueSize : Int) (listeners : List Nat) : List Effect :=
  match Session.openAsync outcomes queueSize ⟨listeners, []⟩ with
  | .ok _ device => device.trace
  | .error _ device => device.trace

-----------------------------------------------------------------------------------------
-- Closing
-----------------------------------------------------------------------------------------

/-- A listener hears `onClosed`. -/
def Effect.closes (listener : Nat) : Effect → Bool
  | .onClosed heard _ => heard == listener
  | _ => false

/-- Each listener hears `onClosed` once, not before a stop of a `Hackrf` that was ready, and no
stop follows.
-/
structure ClosedOnceAndLast (listeners : List Nat) (trace : List Effect) : Prop where
  once : ∀ listener ∈ listeners, trace.countP (Effect.closes listener) = 1
  last
    : ∀ before listener e after,
        trace = before ++ .onClosed listener e :: after
        → (.hackrfReady ∈ trace → .stop ∈ before) ∧ .stop ∉ after

/-- Everything that a session does with its `Hackrf` succeeds. -/
structure Outcomes.Serves (outcomes : Outcomes) (listeners : List Nat) : Prop where
  newHackRfTcp : outcomes.newHackRfTcp = none
  initDevice : outcomes.initDevice = none
  prepareToAcceptConnections : outcomes.prepareToAcceptConnections = none
  onOpen : ∀ listener ∈ listeners, outcomes.onOpen listener = none
  serveAndBlock : outcomes.serveAndBlock = none
  stop : outcomes.stop = none

/-- The `Hackrf` is created. -/
def Outcomes.creates (outcomes : Outcomes) (queueSize : Int) : Prop :=
  outcomes.openDevice = true ∧ 1 ≤ queueSize.tdiv packetSize

/-- A `Hackrf` is created and everything that is done with it succeeds, or none is created and
that is noticed. It is not noticed without a `UsbManager` or an answer of the user, nor when the
queue has no room for a packet after the user granted the permission.
-/
def Outcomes.ServedOrNoticed (outcomes : Outcomes) (queueSize : Int) (listeners : List Nat)
    : Prop :=
  outcomes.usbManager = true
  ∧ (outcomes.hasPermission = true ∧ (outcomes.creates queueSize → outcomes.Serves listeners)
    ∨ outcomes.hasPermission = false
      ∧ (outcomes.granted = some false
        ∨ outcomes.granted = some true
          ∧ (outcomes.openDevice = false
            ∨ outcomes.creates queueSize ∧ outcomes.Serves listeners)))

-----------------------------------------------------------------------------------------
-- What the calls leave in the trace
-----------------------------------------------------------------------------------------

/-- More effects of the same listeners. -/
def SdrDevice.sees (device : SdrDevice) (effects : List Effect) : SdrDevice :=
  { device with trace := device.trace ++ effects }

/-- Effects recorded one after the other are recorded as one list. Witness: appending is
associative.
-/
theorem SdrDevice.sees_sees (device : SdrDevice) (first second : List Effect)
    : (device.sees first).sees second = device.sees (first ++ second) := by
  simp [SdrDevice.sees, List.append_assoc]

/-- No listener hears `onClosed`. -/
def Silent (effects : List Effect) : Prop := ∀ listener, ∀ e, .onClosed listener e ∉ effects

namespace Session

section Calls

variable {α β : Type} {device next : SdrDevice}

/-- A step that returns hands its value and the device to the rest. Witness: the definition of
sequencing.
-/
theorem bind_ok {first : Session α} {rest : α → Session β} {value : α}
    (ran : first device = .ok value next)
    : (first >>= rest) device = rest value next := by
  simp [bind, EStateM.bind, ran]

/-- A step that throws ends the sequence. Witness: the definition of sequencing. -/
theorem bind_error {first : Session α} {rest : α → Session β} {e : Failure}
    (ran : first device = .error e next)
    : (first >>= rest) device = .error e next := by
  simp [bind, EStateM.bind, ran]

/-- A body that returns leaves the handler out. -/
theorem try_ok {body : Session α} {handler : Failure → Session α} {value : α}
    (ran : body device = .ok value next)
    : tryCatch body handler device = .ok value next := by
  change EStateM.tryCatch body handler device = _
  delta EStateM.tryCatch
  simp only [ran]

/-- The handler of a body that throws goes on where the body threw. -/
theorem try_error {body : Session α} {handler : Failure → Session α} {e : Failure}
    (ran : body device = .error e next)
    : tryCatch body handler device = handler e next := by
  change EStateM.tryCatch body handler device = _
  delta EStateM.tryCatch
  simp only [ran]
  rfl

/-- An effect is recorded and nothing else happens. Witness: by definition. -/
theorem emit_ok (effect : Effect) (device : SdrDevice)
    : emit effect device = .ok () (device.sees [effect]) :=
  rfl

/-- A throwing call leaves nothing, a returning one goes on. -/
theorem call_bind (outcome : Option Failure) (rest : Unit → Session β) (device : SdrDevice)
    : (call outcome >>= rest) device
      = match outcome with
        | none => rest () device
        | some e => .error e device := by
  cases outcome <;> rfl

/-- When no listener throws, all of them hear that the device is open, in order. Witness:
induction on the listeners.
-/
theorem announceOnOpen_ok {outcome : Nat → Option Failure} {listeners : List Nat}
    (succeeds : ∀ listener ∈ listeners, outcome listener = none) (device : SdrDevice)
    : announceOnOpen outcome listeners device
      = .ok () (device.sees (listeners.map .onOpen)) := by
  induction listeners generalizing device with
  | nil => simp [announceOnOpen, SdrDevice.sees, pure, EStateM.pure]
  | cons listener rest ih =>
      rw [announceOnOpen, bind_ok (emit_ok _ _), call_bind,
        succeeds listener List.mem_cons_self]
      simp only []
      rw [ih (fun other among => succeeds other (List.mem_cons_of_mem _ among)),
        SdrDevice.sees_sees]
      rfl

/-- The first listener that throws ends the announcement, by induction on the listeners. -/
theorem announceOnOpen_error {outcome : Nat → Option Failure} {listeners : List Nat}
    (fails : ¬ ∀ listener ∈ listeners, outcome listener = none) (device : SdrDevice)
    : ∃ e seen,
        Silent seen ∧ announceOnOpen outcome listeners device = .error e (device.sees seen) := by
  induction listeners generalizing device with
  | nil => exact absurd nofun fails
  | cons listener rest ih =>
      rw [announceOnOpen, bind_ok (emit_ok _ _), call_bind]
      cases here : outcome listener with
      | some e => exact ⟨e, [.onOpen listener], by simp [Silent], rfl⟩
      | none =>
          have later : ¬ ∀ other ∈ rest, outcome other = none := by
            intro all
            refine fails fun other among => ?_
            obtain rfl | among := List.mem_cons.mp among
            · exact here
            · exact all other among
          obtain ⟨e, seen, silent, ran⟩ := ih later (device.sees [.onOpen listener])
          refine ⟨e, .onOpen listener :: seen, ?_, ?_⟩
          · simpa [Silent] using silent
          · simp only []
            rw [ran, SdrDevice.sees_sees]
            rfl

/-- The current listeners. -/
theorem get_bind (rest : SdrDevice → Session β) (device : SdrDevice)
    : ((get : Session SdrDevice) >>= rest) device = rest device device :=
  rfl

/-- When every call succeeds, serving announces the opening to all listeners and ends with the
stop. Witness: the calls in order.
-/
theorem serve_ok {outcomes : Outcomes} (device : SdrDevice)
    (serves : outcomes.Serves device.listeners)
    : serve outcomes device
      = .ok () (device.sees (device.listeners.map .onOpen ++ [.stop])) := by
  unfold serve
  rw [serves.newHackRfTcp, serves.initDevice, serves.prepareToAcceptConnections,
    serves.serveAndBlock, serves.stop]
  change (announceOnOpen outcomes.onOpen device.listeners >>= _) device = _
  rw [bind_ok (announceOnOpen_ok serves.onOpen device), ← SdrDevice.sees_sees]
  rfl

/-- When some call fails, serving throws, and no listener has heard of a closing by then.
Witness: the first call that fails, in order.
-/
theorem serve_error {outcomes : Outcomes} (device : SdrDevice)
    (fails : ¬ outcomes.Serves device.listeners)
    : ∃ e seen, Silent seen ∧ serve outcomes device = .error e (device.sees seen) := by
  have nothing (e : Failure)
      : ∃ e' seen,
          Silent seen
          ∧ (.error e device : EStateM.Result Failure SdrDevice Unit)
            = .error e' (device.sees seen) :=
    ⟨e, [], nofun, by simp [SdrDevice.sees]⟩
  unfold serve
  rw [call_bind]
  cases newHackRfTcp : outcomes.newHackRfTcp with
  | some e => exact nothing e
  | none =>
  simp only []
  rw [call_bind]
  cases initDevice : outcomes.initDevice with
  | some e => exact nothing e
  | none =>
  simp only []
  rw [call_bind]
  cases prepareToAcceptConnections : outcomes.prepareToAcceptConnections with
  | some e => exact nothing e
  | none =>
  simp only []
  rw [get_bind]
  by_cases onOpen : ∀ listener ∈ device.listeners, outcomes.onOpen listener = none
  · rw [bind_ok (announceOnOpen_ok onOpen device), call_bind]
    cases serveAndBlock : outcomes.serveAndBlock with
    | some e => exact ⟨e, device.listeners.map .onOpen, by simp [Silent], rfl⟩
    | none =>
    simp only []
    cases stopped : outcomes.stop with
    | some e =>
        refine ⟨e, device.listeners.map .onOpen ++ [.stop], by simp [Silent], ?_⟩
        rw [← SdrDevice.sees_sees]
        rfl
    | none =>
        exact absurd
          ⟨newHackRfTcp, initDevice, prepareToAcceptConnections, onOpen, serveAndBlock, stopped⟩
          fails
  · obtain ⟨e, seen, silent, ran⟩ := announceOnOpen_error onOpen device
    exact ⟨e, seen, silent, bind_error ran⟩

/-- What `announceOnClosed` leaves. -/
def closing (listeners : List Nat) (e : Option Failure) : List Effect :=
  listeners.map (Effect.onClosed · e)

/-- A session ends in a state; an exception it leaves uncaught is no `HackrfUsbException`. -/
def Ends (session : Session Unit) (device next : SdrDevice) : Prop :=
  session device = .ok () next ∨ session device = .error .other next

/-- A session that succeeds stops, then announces. -/
theorem onHackrfReady_ok {outcomes : Outcomes} (device : SdrDevice)
    (serves : outcomes.Serves device.listeners)
    : (onHackrfReady outcomes).Ends device
        ⟨[], device.trace ++ [.hackrfReady]
          ++ (device.listeners.map .onOpen ++ [.stop])
          ++ closing device.listeners none⟩ := by
  left
  have served := serve_ok (device.sees [.hackrfReady]) serves
  rw [onHackrfReady, bind_ok (emit_ok _ _)]
  refine try_ok ?_
  rw [bind_ok served]
  rfl

/-- A session that fails announces, then stops. -/
theorem onHackrfReady_error {outcomes : Outcomes} (device : SdrDevice)
    (fails : ¬ outcomes.Serves device.listeners)
    : ∃ e seen,
        Silent seen
        ∧ (onHackrfReady outcomes).Ends device
            ⟨[], device.trace ++ [.hackrfReady] ++ seen ++ closing device.listeners (some e)
              ++ [.stop]⟩ := by
  obtain ⟨e, seen, silent, ran⟩ := serve_error (device.sees [.hackrfReady]) fails
  refine ⟨e, seen, silent, ?_⟩
  unfold Ends
  rw [onHackrfReady, bind_ok (emit_ok _ _), try_error (bind_error ran)]
  cases outcomes.stopInCatch with
  | none => exact .inl rfl
  | some ee =>
      cases ee with
      | hackrfUsbException => exact .inl rfl
      | other => exact .inr rfl

/-- With an interface to claim and room for a packet, the device object is built. Witness:
both tests pass.
-/
theorem newHackrf_ok {outcomes : Outcomes} {queueSize : Int}
    (creates : outcomes.creates queueSize) (device : SdrDevice)
    : newHackrf outcomes queueSize device = .ok () device := by
  have room : ¬ queueSize.tdiv packetSize < 1 := Int.not_lt.mpr creates.2
  rw [newHackrf, creates.1, if_neg room]
  rfl

/-- Once built, the device ends as the callback for a ready device does. Witness: the `try`
around it catches what the callback throws, and nothing is thrown before.
-/
theorem createHackrf_of_ready {outcomes : Outcomes} {queueSize : Int}
    (creates : outcomes.creates queueSize) (ends : (onHackrfReady outcomes).Ends device next)
    : (createHackrf outcomes queueSize).Ends device next := by
  have ready
      : (newHackrf outcomes queueSize >>= fun _ => onHackrfReady outcomes) device
        = onHackrfReady outcomes device :=
    bind_ok (newHackrf_ok creates device)
  rcases ends with ran | ran
  · exact .inl (try_ok (ready.trans ran))
  · exact .inr (try_error (ready.trans ran))

/-- A device that does not open is announced as closed. -/
theorem createHackrf_unopened {outcomes : Outcomes} (unopened : outcomes.openDevice = false)
    (queueSize : Int) (device : SdrDevice)
    : (createHackrf outcomes queueSize).Ends device
        ⟨[], device.trace ++ closing device.listeners (some .other)⟩ := by
  left
  rw [createHackrf, newHackrf, unopened]
  rfl

/-- A queue with no room for a packet leaves an exception uncaught here. -/
theorem createHackrf_unqueued {outcomes : Outcomes} {queueSize : Int}
    (opened : outcomes.openDevice = true) (small : ¬ 1 ≤ queueSize.tdiv packetSize)
    (device : SdrDevice)
    : createHackrf outcomes queueSize device = .error .other device := by
  rw [createHackrf, newHackrf, opened, if_pos (Int.not_le.mp small)]
  rfl

/-- The thread catches what is left uncaught, and then nobody is left to hear of it. -/
theorem processingThread_of_ends {outcomes : Outcomes} {queueSize : Int}
    (ends : (initHackrf outcomes queueSize).Ends device next) (gone : next.listeners = [])
    : processingThread outcomes queueSize device = .ok () next := by
  rcases ends with ran | ran
  · exact try_ok ran
  refine (try_error ran).trans ?_
  obtain ⟨listeners, trace⟩ := next
  subst gone
  change (.ok () ⟨[], trace ++ []⟩ : EStateM.Result Failure SdrDevice Unit) = _
  rw [List.append_nil]

/-- With the permission there, `openAsync` is its thread. -/
theorem openAsync_permitted {outcomes : Outcomes} {queueSize : Int}
    (permitted : outcomes.hasPermission = true)
    (ran : processingThread outcomes queueSize device = .ok () next)
    : openAsync outcomes queueSize device = .ok () next := by
  have unasked : ¬ (outcomes.usbManager = true ∧ outcomes.hasPermission = false) := by
    simp [permitted]
  rw [openAsync, bind_ok ran, if_neg unasked]
  rfl

/-- Else it is the user's answer. -/
theorem openAsync_asking {outcomes : Outcomes} (queueSize : Int)
    (manager : outcomes.usbManager = true) (unpermitted : outcomes.hasPermission = false)
    (device : SdrDevice)
    : openAsync outcomes queueSize device
      = (match outcomes.granted with
        | some granted => onReceive outcomes queueSize granted
        | none => pure ())
        (device.sees [.permissionRequested]) := by
  have asked : processingThread outcomes queueSize device
      = .ok () (device.sees [.permissionRequested]) := by
    rw [processingThread, initHackrf, manager, unpermitted]
    rfl
  rw [openAsync, bind_ok asked, if_pos ⟨manager, unpermitted⟩]

end Calls

end Session

-----------------------------------------------------------------------------------------
-- Traces
-----------------------------------------------------------------------------------------

section Traces

open Session

variable {outcomes : Outcomes} {queueSize : Int} {listeners : List Nat}

/-- The trace of an opening is the one it ends with, whether it returns or throws. Witness:
both results carry it.
-/
theorem openTrace_of_ends {next : SdrDevice}
    (ends : (openAsync outcomes queueSize).Ends ⟨listeners, []⟩ next)
    : openTrace outcomes queueSize listeners = next.trace := by
  unfold openTrace
  rcases ends with ran | ran <;> rw [ran]

/-- What comes before the `Hackrf` is created. -/
def Outcomes.asking (outcomes : Outcomes) : List Effect :=
  if outcomes.hasPermission then [] else [.permissionRequested]

/-- Asking for permission records no other effect. Witness: it records one or none. -/
theorem Outcomes.not_mem_asking {effect : Effect} (other : effect ≠ .permissionRequested)
    : effect ∉ outcomes.asking := by
  unfold asking
  split <;> simp [other]

/-- With a USB manager and permission, held or granted, the trace of an opening is the one
that building the device ends with. Witness: the two ways to the permission, by cases.
-/
theorem openTrace_of_createHackrf {next : SdrDevice}
    (manager : outcomes.usbManager = true)
    (asked : outcomes.hasPermission = true ∨ outcomes.granted = some true)
    (ends : (createHackrf outcomes queueSize).Ends ⟨listeners, outcomes.asking⟩ next)
    (gone : next.listeners = [])
    : openTrace outcomes queueSize listeners = next.trace := by
  refine openTrace_of_ends ?_
  cases permission : outcomes.hasPermission with
  | true =>
      rw [Outcomes.asking, permission, if_pos rfl] at ends
      refine .inl (openAsync_permitted permission (processingThread_of_ends ?_ gone))
      rw [initHackrf, manager, permission]
      exact ends
  | false =>
      have granted : outcomes.granted = some true := by
        simpa [permission] using asked
      rw [Outcomes.asking, permission] at ends
      unfold Ends
      rw [openAsync_asking queueSize manager permission, granted]
      exact ends

/-- A session that creates its `Hackrf` announces after the stop or before it. -/
theorem openTrace_created (listeners : List Nat) (manager : outcomes.usbManager = true)
    (asked : outcomes.hasPermission = true ∨ outcomes.granted = some true)
    (creates : outcomes.creates queueSize)
    : (outcomes.Serves listeners
        → ∃ seen e,
            Silent seen
            ∧ .stop ∈ seen
            ∧ openTrace outcomes queueSize listeners = seen ++ closing listeners e)
      ∧ (¬ outcomes.Serves listeners
        → ∃ seen e,
            Silent seen
            ∧ openTrace outcomes queueSize listeners
              = seen ++ closing listeners e ++ [.stop]) := by
  have quiet (more : List Effect) (silent : Silent more)
      : Silent (outcomes.asking ++ [.hackrfReady] ++ more) := by
    intro listener e heard
    simp only [List.mem_append, List.mem_singleton] at heard
    obtain (heard | heard) | heard := heard
    · exact Outcomes.not_mem_asking (by simp) heard
    · cases heard
    · exact silent listener e heard
  constructor
  · intro serves
    have ready := onHackrfReady_ok ⟨listeners, outcomes.asking⟩ serves
    refine ⟨outcomes.asking ++ [.hackrfReady] ++ (listeners.map .onOpen ++ [.stop]), none,
      quiet _ (by simp [Silent]), by simp, ?_⟩
    exact openTrace_of_createHackrf manager asked (createHackrf_of_ready creates ready) rfl
  · intro fails
    obtain ⟨e, seen, silent, ready⟩ :=
      onHackrfReady_error ⟨listeners, outcomes.asking⟩ fails
    refine ⟨outcomes.asking ++ [.hackrfReady] ++ seen, e, quiet seen silent, ?_⟩
    exact openTrace_of_createHackrf manager asked (createHackrf_of_ready creates ready) rfl

/-- Where no `Hackrf` is created and that is noticed, it is announced. -/
theorem openTrace_uncreated (manager : outcomes.usbManager = true)
    (noticed
      : outcomes.hasPermission = true ∧ ¬ outcomes.creates queueSize
        ∨ outcomes.hasPermission = false ∧ outcomes.granted = some false
        ∨ outcomes.granted = some true ∧ outcomes.openDevice = false)
    : openTrace outcomes queueSize listeners
      = outcomes.asking ++ closing listeners (some .other) := by
  have unopened (asked : outcomes.hasPermission = true ∨ outcomes.granted = some true)
      (fails : outcomes.openDevice = false)
      : openTrace outcomes queueSize listeners
        = outcomes.asking ++ closing listeners (some .other) :=
    openTrace_of_createHackrf manager asked (createHackrf_unopened fails queueSize _) rfl
  obtain ⟨permission, uncreated⟩ | ⟨permission, denied⟩ | ⟨granted, fails⟩ := noticed
  · cases opened : outcomes.openDevice with
    | false => exact unopened (.inl permission) opened
    | true =>
        have small : ¬ 1 ≤ queueSize.tdiv packetSize := fun room => uncreated ⟨opened, room⟩
        have caught
            : processingThread outcomes queueSize ⟨listeners, []⟩
              = .ok () ⟨[], closing listeners (some .other)⟩ := by
          have ran : initHackrf outcomes queueSize ⟨listeners, []⟩
              = .error .other ⟨listeners, []⟩ := by
            rw [initHackrf, manager, permission]
            exact createHackrf_unqueued opened small _
          exact try_error ran
        rw [openTrace_of_ends (.inl (openAsync_permitted permission caught)), Outcomes.asking,
          permission]
        rfl
  · have ends : openAsync outcomes queueSize ⟨listeners, []⟩
        = .ok () ⟨[], [.permissionRequested] ++ closing listeners (some .other)⟩ := by
      rw [openAsync_asking queueSize manager permission, denied]
      rfl
    rw [openTrace_of_ends (.inl ends), Outcomes.asking, permission]
    rfl
  · exact unopened (.inr granted) fails

/-- Where it is not noticed, nobody hears of it. -/
theorem openTrace_unnoticed
    (unnoticed
      : outcomes.usbManager = false
        ∨ outcomes.usbManager = true
          ∧ outcomes.hasPermission = false
          ∧ (outcomes.granted = none
            ∨ outcomes.granted = some true
              ∧ outcomes.openDevice = true
              ∧ ¬ outcomes.creates queueSize))
    : Silent (openTrace outcomes queueSize listeners) := by
  obtain missing | ⟨manager, permission, unanswered | ⟨granted, opened, uncreated⟩⟩ := unnoticed
  · have ran : openAsync outcomes queueSize ⟨listeners, []⟩ = .ok () ⟨listeners, []⟩ := by
      rw [openAsync, processingThread, initHackrf, missing]
      rfl
    rw [openTrace_of_ends (.inl ran)]
    nofun
  · have ran : openAsync outcomes queueSize ⟨listeners, []⟩
        = .ok () ⟨listeners, [.permissionRequested]⟩ := by
      rw [openAsync_asking queueSize manager permission, unanswered]
      rfl
    rw [openTrace_of_ends (.inl ran)]
    simp [Silent]
  · have small : ¬ 1 ≤ queueSize.tdiv packetSize := fun room => uncreated ⟨opened, room⟩
    have ran : openAsync outcomes queueSize ⟨listeners, []⟩
        = .error .other ⟨listeners, [.permissionRequested]⟩ := by
      rw [openAsync_asking queueSize manager permission, granted]
      exact createHackrf_unqueued opened small _
    rw [openTrace_of_ends (.inr ran)]
    simp [Silent]

/-- A session stops first, or its trace has the stop last or no announcement. -/
theorem openTrace_cases (outcomes : Outcomes) (queueSize : Int) (listeners : List Nat)
    : outcomes.ServedOrNoticed queueSize listeners
        ∧ (∃ seen e,
          Silent seen
          ∧ (.hackrfReady ∈ seen → .stop ∈ seen)
          ∧ openTrace outcomes queueSize listeners = seen ++ closing listeners e)
      ∨ ¬ outcomes.ServedOrNoticed queueSize listeners
        ∧ (Silent (openTrace outcomes queueSize listeners)
          ∨ ∃ seen e,
            Silent seen
            ∧ openTrace outcomes queueSize listeners
              = seen ++ closing listeners e ++ [.stop]) := by
  have uncreated (manager : outcomes.usbManager = true)
      (noticed
        : outcomes.hasPermission = true ∧ ¬ outcomes.creates queueSize
          ∨ outcomes.hasPermission = false ∧ outcomes.granted = some false
          ∨ outcomes.granted = some true ∧ outcomes.openDevice = false)
      : ∃ seen e,
          Silent seen
          ∧ (.hackrfReady ∈ seen → .stop ∈ seen)
          ∧ openTrace outcomes queueSize listeners = seen ++ closing listeners e :=
    ⟨outcomes.asking, _, fun _ _ => Outcomes.not_mem_asking (by simp),
      fun ready => absurd ready (Outcomes.not_mem_asking (by simp)),
      openTrace_uncreated manager noticed⟩
  cases manager : outcomes.usbManager with
  | false =>
      refine .inr ⟨fun first => ?_, .inl (openTrace_unnoticed (.inl manager))⟩
      rw [Outcomes.ServedOrNoticed, manager] at first
      exact absurd first.1 Bool.false_ne_true
  | true =>
      have created (asked : outcomes.hasPermission = true ∨ outcomes.granted = some true)
          (creates : outcomes.creates queueSize) :=
        openTrace_created listeners manager asked creates
      cases permission : outcomes.hasPermission with
      | true =>
          by_cases creates : outcomes.creates queueSize
          · by_cases serves : outcomes.Serves listeners
            · obtain ⟨seen, e, silent, stopped, trace⟩ :=
                (created (.inl permission) creates).1 serves
              exact .inl ⟨⟨manager, .inl ⟨permission, fun _ => serves⟩⟩,
                seen, e, silent, fun _ => stopped, trace⟩
            · refine .inr ⟨fun first => ?_, .inr ((created (.inl permission) creates).2 serves)⟩
              simp [Outcomes.ServedOrNoticed, permission, creates, serves] at first
          · exact .inl ⟨⟨manager, .inl ⟨permission, fun created => absurd created creates⟩⟩,
              uncreated manager (.inl ⟨permission, creates⟩)⟩
      | false =>
          cases answer : outcomes.granted with
          | none =>
              refine .inr ⟨fun first => ?_,
                .inl (openTrace_unnoticed (.inr ⟨manager, permission, .inl answer⟩))⟩
              simp [Outcomes.ServedOrNoticed, permission, answer] at first
          | some granted =>
              cases granted with
              | false =>
                  exact .inl ⟨⟨manager, .inr ⟨permission, .inl answer⟩⟩,
                    uncreated manager (.inr (.inl ⟨permission, answer⟩))⟩
              | true =>
                  cases opened : outcomes.openDevice with
                  | false =>
                      exact .inl ⟨⟨manager, .inr ⟨permission, .inr ⟨answer, .inl opened⟩⟩⟩,
                        uncreated manager (.inr (.inr ⟨answer, opened⟩))⟩
                  | true =>
                      by_cases creates : outcomes.creates queueSize
                      · have made := created (.inr answer) creates
                        by_cases serves : outcomes.Serves listeners
                        · obtain ⟨seen, e, silent, stopped, trace⟩ := made.1 serves
                          exact .inl
                            ⟨⟨manager, .inr ⟨permission, .inr ⟨answer, .inr ⟨creates, serves⟩⟩⟩⟩,
                              seen, e, silent, fun _ => stopped, trace⟩
                        · refine .inr ⟨fun first => ?_, .inr (made.2 serves)⟩
                          simp [Outcomes.ServedOrNoticed, permission, answer, opened, serves] at first
                      · refine .inr ⟨fun first => ?_, .inl (openTrace_unnoticed
                          (.inr ⟨manager, permission, .inr ⟨answer, opened, creates⟩⟩))⟩
                        simp [Outcomes.ServedOrNoticed, permission, answer, opened, creates] at first

end Traces

-----------------------------------------------------------------------------------------
-- Once and last
-----------------------------------------------------------------------------------------

section OnceAndLast

open Session

variable {outcomes : Outcomes} {queueSize : Int} {listeners : List Nat} {seen : List Effect}

/-- Closing tells each listener as many times as it is registered. Witness: counting through
the map.
-/
theorem countP_closing (listener : Nat) (e : Option Failure)
    : (closing listeners e).countP (Effect.closes listener) = listeners.count listener := by
  rw [closing, List.countP_map]
  rfl

/-- In a silent trace a listener hears of no closing. Witness: no effect of it is an
`onClosed`.
-/
theorem Silent.countP (silent : Silent seen) (listener : Nat)
    : seen.countP (Effect.closes listener) = 0 := by
  rw [List.countP_eq_zero]
  intro effect member
  cases effect with
  | onClosed heard e => exact absurd member (silent heard e)
  | _ => exact Bool.false_ne_true

/-- An announcement after silence is heard once by each listener and followed by nothing. -/
theorem closedOnceAndLast_of_announced (distinct : listeners.Nodup) (silent : Silent seen)
    (stopped : .hackrfReady ∈ seen → .stop ∈ seen) (e : Option Failure)
    : ClosedOnceAndLast listeners (seen ++ closing listeners e) := by
  refine ⟨fun listener among => ?_, fun before listener e' after split => ?_⟩
  · rw [List.countP_append, silent.countP, countP_closing, Nat.zero_add]
    rw [distinct.count, if_pos among]
  · have unready : Effect.hackrfReady ∉ closing listeners e := by
      simp [closing]
    have unstopped : Effect.stop ∉ closing listeners e := by
      simp [closing]
    -- the announcement found is none of the silent effects
    have later : ∃ more, before = seen ++ more ∧ closing listeners e
        = more ++ .onClosed listener e' :: after := by
      obtain ⟨more, ahead, rest⟩ | ⟨more, behind, rest⟩ := List.append_eq_append_iff.mp split
      · exact ⟨more, ahead, rest⟩
      · cases more with
        | nil => exact ⟨[], by simpa using behind.symm, rest.symm⟩
        | cons first more =>
            cases rest
            refine absurd ?_ (silent listener e')
            rw [behind]
            exact List.mem_append_right _ List.mem_cons_self
    obtain ⟨more, rfl, rest⟩ := later
    refine ⟨fun ready => ?_, fun stops => unstopped ?_⟩
    · have ahead := (List.mem_append.mp ready).resolve_right unready
      exact List.mem_append_left _ (stopped ahead)
    · rw [rest]
      exact List.mem_append_right _ (List.mem_cons_of_mem _ stops)

/-- A stop after the announcement is too late for any listener. -/
theorem not_closedOnceAndLast_of_late (seen : List Effect) (heard : listeners ≠ [])
    (e : Option Failure)
    : ¬ ClosedOnceAndLast listeners (seen ++ closing listeners e ++ [.stop]) := by
  intro closed
  obtain ⟨listener, rest, rfl⟩ := List.exists_cons_of_ne_nil heard
  have late := closed.last seen listener e (closing rest e ++ [.stop]) (by simp [closing])
  exact late.2 (List.mem_append_right _ (List.mem_singleton_self _))

/-- Silence is not heard. -/
theorem not_closedOnceAndLast_of_silent (heard : listeners ≠ []) (silent : Silent seen)
    : ¬ ClosedOnceAndLast listeners seen := by
  intro closed
  obtain ⟨listener, rest, rfl⟩ := List.exists_cons_of_ne_nil heard
  have once := closed.once listener List.mem_cons_self
  rw [silent.countP] at once
  cases once

/-- Without listeners nobody hears anything. -/
theorem closedOnceAndLast_nil (silent : Silent seen) : ClosedOnceAndLast [] seen :=
  ⟨nofun, fun _ listener e _ split =>
    absurd (split ▸ List.mem_append_right _ List.mem_cons_self) (silent listener e)⟩

/-- The close is announced once and last exactly when nobody listens, or the session stops
first and is noticed.
-/
theorem closed_once_and_last_iff (distinct : listeners.Nodup)
    : ClosedOnceAndLast listeners (openTrace outcomes queueSize listeners)
      ↔ listeners = [] ∨ outcomes.ServedOrNoticed queueSize listeners := by
  obtain ⟨first, seen, e, silent, stopped, trace⟩ | ⟨later, shape⟩ :=
    openTrace_cases outcomes queueSize listeners
  · refine ⟨fun _ => .inr first, fun _ => ?_⟩
    rw [trace]
    exact closedOnceAndLast_of_announced distinct silent stopped e
  · by_cases heard : listeners = []
    · refine ⟨fun _ => .inl heard, fun _ => ?_⟩
      subst heard
      obtain silent | ⟨seen, e, silent, trace⟩ := shape
      · exact closedOnceAndLast_nil silent
      · rw [trace]
        exact closedOnceAndLast_nil (by simpa [Silent, closing] using silent)
    · refine ⟨fun closed => ?_, fun either => absurd (either.resolve_left heard) later⟩
      obtain silent | ⟨seen, e, silent, trace⟩ := shape
      · exact absurd closed (not_closedOnceAndLast_of_silent heard silent)
      · rw [trace] at closed
        exact absurd closed (not_closedOnceAndLast_of_late seen heard e)

/-- A session in which everything succeeds. -/
def Outcomes.allSucceed : Outcomes where
  usbManager := true
  hasPermission := true
  granted := none
  openDevice := true
  newHackRfTcp := none
  initDevice := none
  prepareToAcceptConnections := none
  onOpen := fun _ => none
  serveAndBlock := none
  stop := none
  stopInCatch := none

/-- Two listeners hear of a session that ends without an exception. -/
theorem closed_once_and_last_after_success
    : ClosedOnceAndLast [0, 1] (openTrace .allSucceed 409600 [0, 1]) := by
  refine (closed_once_and_last_iff (by decide)).mpr (.inr ⟨rfl, .inl ⟨rfl, fun _ => ?_⟩⟩)
  exact ⟨rfl, rfl, rfl, fun _ _ => rfl, rfl, rfl⟩

/-- When serving ends with an exception, the listener hears `onClosed` before the device is
stopped.
-/
theorem closed_before_stop
    : openTrace { Outcomes.allSucceed with serveAndBlock := some .other } 409600 [0]
          = [.hackrfReady, .onOpen 0, .onClosed 0 (some .other), .stop]
      ∧ ¬ ClosedOnceAndLast [0]
        (openTrace { Outcomes.allSucceed with serveAndBlock := some .other } 409600 [0]) := by
  have trace
      : openTrace { Outcomes.allSucceed with serveAndBlock := some .other } 409600 [0]
        = [.hackrfReady, .onOpen 0, .onClosed 0 (some .other), .stop] := by
    rfl
  refine ⟨trace, ?_⟩
  rw [trace]
  exact not_closedOnceAndLast_of_late [.hackrfReady, .onOpen 0] (List.cons_ne_nil 0 [])
    (some .other)

end OnceAndLast

end RtlTcpAndro.HackRf
