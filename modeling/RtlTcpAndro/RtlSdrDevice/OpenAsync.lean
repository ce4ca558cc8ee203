import RtlTcpAndro.RtlSdrDevice.Librtlsdr
import RtlTcpAndro.SdrTcp.Sessions

/-! One call of `openAsync` of `rtlsdrdevice.c` with the threads of its session: the thread
that opens the device, drives the rtl_tcp server and reads from the device, and the callbacks
that the server's threads make into `rtlsdrdevice.c`.
-/

namespace RtlTcpAndro.RtlSdrDevice

open RtlTcpAndro.Interleaving RtlTcpAndro.SdrTcp

/-- Program points of `_libusb_callback` and of the `rtlsdr_callback` it makes, inside
`libusb_handle_events_timeout_completed`; `idle` is outside of both.
-/
inductive TransferPoint
  | idle
  | testDevice (call : FeedCall)
  | feeding
  | cancel (pos : CancelPoint)
  deriving DecidableEq, Repr

/-- Program points of `openAsync`; `succesful` is its local. `configure` stands for the calls
that set up the device before `sdrtcp_open_socket`, `closeFailed` for the label `err`.
-/
inductive OpenAsyncPoint
  | open2
  | configure
  | openSocket
  | opening
  | storeDevice
  | serveClientAsync
  | serving
  | announceOnOpen
  | readAsync (succesful : Bool) (pos : ReadPoint) (transfer : TransferPoint)
  | clearDevice (succesful : Bool)
  | close (succesful : Bool) (pos : ClosePoint)
  | stopServing (succesful : Bool)
  | stopping (succesful : Bool)
  | closeFailed (pos : ClosePoint)
  | returned (succesful : Bool)
  deriving DecidableEq, Repr

/-- Program points of `tcpClosedCallback`; each read of `dev->rtl_dev` is one step. -/
inductive ClosedPoint
  | testDevice
  | loadDevice
  | cancel (pos : CancelPoint)
  deriving DecidableEq, Repr

/-- Program points of `tcpCommandCallback`: the check of `dev->rtl_dev`, the read of it for
the argument of a call, the call, and the stop request of `TCP_ANDROID_EXIT`.
-/
inductive CommandPoint
  | testDevice
  | loadDevice
  | issueCall
  | insideCall
  | stopping
  deriving DecidableEq, Repr

/-- `TCP_ANDROID_EXIT` -/
def tcpAndroidExit : UInt8 := 0x7e

/-- The commands that `tcpCommandCallback` turns into a call of librtlsdr:
`SUPPORTED_COMMANDS` but `TCP_ANDROID_EXIT`.
-/
def deviceCommands : List UInt8 :=
  [0x01, 0x02, 0x03, 0x04, 0x05, 0x06, 0x07, 0x08, 0x09, 0x0a, 0x0b, 0x0c, 0x0d, 0x7f]

/-- The magic that `openAsync` passes to `sdrtcp_open_socket`. -/
def dongleMagic : UInt8 × UInt8 × UInt8 × UInt8 := (82, 84, 76, 48)

/-- A `rtlsdr_android_t` with the threads around it. `rtlDev` tells whether `dev->rtl_dev` is
the opened device or NULL. `closed none` is the callback of a `sdrtcp_serve_client_async` that
refuses, `closed (some k)` that of server thread `k`. `closedReturned` is history: some
`tcpClosedCallback` has returned.
-/
structure Native where
  world : World
  device : Device
  rtlDev : Bool
  caller : OpenAsyncPoint
  closed : Option Nat → ClosedPoint
  command : Nat → CommandPoint
  closedReturned : Bool

/-- What may happen next: the thread of `openAsync` steps on or one of its transfers ends, a
callback of a server or listener thread steps on, or one of those threads or of the threads
that request a stop makes a step of its own.
-/
inductive NativeEvent
  | openSocket (arguments : OpenArguments)
  | caller (reply : Reply)
  | completed (call : FeedCall)
  | lost
  | closedcb (thread : Option Nat)
  | commandcb (session : Nat)
  | thread (event : Event)
  deriving DecidableEq, Repr

/-- The stop request that `openAsync` makes, and the one `tcpCommandCallback` makes. -/
def callerStop : Nat := 0
def commandStop : Nat := 1

/-- The steps that server, listener and stopping threads make outside the callbacks. -/
def Native.outside (native : Native) : Event → Bool
  | .server session _ => decide (native.world.server session ≠ .closedcb)
  | .listener session _ =>
      match native.world.listener session with
      | .commandcb _ => false
      | _ => true
  | .stop caller | .stopper caller => decide (commandStop < caller)
  | _ => false

/-- A step inside `libusb_handle_events_timeout_completed` or of `rtlsdr_read_async` itself. -/
def Native.readStep (native : Native) (succesful : Bool) (pos : ReadPoint) (reply : Reply)
    : TransferPoint → Option Native
  | .testDevice call =>
      if native.rtlDev then do
        let world ← native.world.step (.feed call)
        some { native with world := world, caller := .readAsync succesful pos .feeding }
      else some { native with caller := .readAsync succesful pos .idle }
  | .feeding =>
      match native.world.feeder with
      | .returned _ => some { native with caller := .readAsync succesful pos .idle }
      | _ => do
          let world ← native.world.step (.feeder reply)
          some { native with world := world }
  | .cancel cancelling =>
      match rtlsdrCancelAsync native.device cancelling with
      | (device, .point next) =>
          some
            { native with device := device, caller := .readAsync succesful pos (.cancel next) }
      | (device, .returned _) =>
          some { native with device := device, caller := .readAsync succesful pos .idle }
  | .idle => do
      match ← rtlsdrReadAsync native.device reply pos with
      | (device, .point next) =>
          some { native with device := device, caller := .readAsync succesful next .idle }
      | (device, .returned r) =>
          some
            { native with device := device, caller := .clearDevice (succesful && r == 0) }

/-- The next step of `openAsync`. -/
def Native.callerStep (native : Native) (reply : Reply) : Option Native :=
  match native.caller with
  | .open2 =>
      match reply with
      | .value r =>
          some { native with caller := if r = 0 then .configure else .returned false }
      | _ => none
  | .configure =>
      match reply with
      | .value r =>
          some { native with caller := if r = 0 then .openSocket else .closeFailed .testLost }
      | _ => none
  | .opening =>
      match native.world.owner with
      | .opening _ _ => do
          let world ← native.world.step (.owner reply)
          some { native with world := world }
      | .opened success =>
          some
            { native with
              caller := if success then .storeDevice else .closeFailed .testLost }
      | _ => none
  | .storeDevice => some { native with rtlDev := true, caller := .serveClientAsync }
  | .serveClientAsync => do
      let world ← native.world.step .serveClientAsync
      some { native with world := world, caller := .serving }
  | .serving =>
      match native.world.owner with
      | .serving .closedcb => none
      | .serving _ => do
          let world ← native.world.step (.owner reply)
          some { native with world := world }
      | .idle => some { native with caller := .announceOnOpen }
      | _ => none
  | .announceOnOpen =>
      match reply with
      | .value thrown =>
          some { native with caller := .readAsync (thrown == 0) .testInactive .idle }
      | _ => none
  | .readAsync succesful pos transfer => native.readStep succesful pos reply transfer
  | .clearDevice succesful =>
      some { native with rtlDev := false, caller := .close succesful .testLost }
  | .close succesful pos =>
      match rtlsdrClose native.device pos with
      | (device, .point next) =>
          some { native with device := device, caller := .close succesful next }
      | (device, .returned _) =>
          some { native with device := device, caller := .stopServing succesful }
  | .stopServing succesful => do
      let world ← native.world.step (.stop callerStop)
      some { native with world := world, caller := .stopping succesful }
  | .stopping succesful =>
      match native.world.stopper callerStop with
      | .idle => some { native with caller := .returned succesful }
      | _ => do
          let world ← native.world.step (.stopper callerStop)
          some { native with world := world }
  | .closeFailed pos =>
      match rtlsdrClose native.device pos with
      | (device, .point next) =>
          some { native with device := device, caller := .closeFailed next }
      | (device, .returned _) =>
          some { native with device := device, caller := .returned false }
  | .openSocket => none
  | .returned _ => none

/-- The thread that makes the callback is at its call of `closedcb`. -/
def Native.callsClosed (native : Native) : Option Nat → Bool
  | none => decide (native.world.owner = .serving .closedcb)
  | some session => decide (native.world.server session = .closedcb)

/-- `closedcb` returns: its thread steps on. -/
def Native.closedReturn (native : Native) (thread : Option Nat) : Option Native := do
  let world ←
    native.world.step
      (match thread with
        | none => .owner .none
        | some session => .server session .none)
  some
    { native with
      world := world
      closed := Function.update native.closed thread .testDevice
      closedReturned := true }

/-- The next step of `tcpClosedCallback`. -/
def Native.closedStep (native : Native) (thread : Option Nat) : Option Native :=
  if native.callsClosed thread then
    match native.closed thread with
    | .testDevice =>
        if native.rtlDev then
          some { native with closed := Function.update native.closed thread .loadDevice }
        else native.closedReturn thread
    | .loadDevice =>
        -- `rtlsdr_cancel_async` returns at once on NULL
        if native.rtlDev then
          some
            { native with
              closed := Function.update native.closed thread (.cancel .testRunning) }
        else native.closedReturn thread
    | .cancel pos =>
        match rtlsdrCancelAsync native.device pos with
        | (device, .point next) =>
            some
              { native with
                device := device
                closed := Function.update native.closed thread (.cancel next) }
        | (device, .returned _) => { native with device := device }.closedReturn thread
  else none

/-- `commandcb` returns: its listener steps on. -/
def Native.commandReturn (native : Native) (session : Nat) : Option Native := do
  let world ← native.world.step (.listener session .none)
  some
    { native with
      world := world
      command := Function.update native.command session .testDevice }

/-- The next step of `tcpCommandCallback` for the command in `receiving`. -/
def Native.commandStep (native : Native) (session : Nat) : Option Native :=
  match native.world.listener session with
  | .commandcb receiving =>
      match native.command session with
      | .testDevice =>
          if native.rtlDev then
            if receiving.command.1 = tcpAndroidExit then do
              let world ← native.world.step (.stop commandStop)
              some
                { native with
                  world := world
                  command := Function.update native.command session .stopping }
            else if receiving.command.1 ∈ deviceCommands then
              some { native with command := Function.update native.command session .loadDevice }
            else native.commandReturn session
          else native.commandReturn session
      | .loadDevice =>
          -- the calls of librtlsdr return an error on NULL
          if native.rtlDev then
            some { native with command := Function.update native.command session .issueCall }
          else native.commandReturn session
      | .issueCall =>
          some { native with command := Function.update native.command session .insideCall }
      | .insideCall => native.commandReturn session
      | .stopping =>
          match native.world.stopper commandStop with
          | .idle => native.commandReturn session
          | _ => do
              let world ← native.world.step (.stopper commandStop)
              some { native with world := world }
  | _ => none

/-- One choice of the scheduler. -/
def Native.step (native : Native) : NativeEvent → Option Native
  | .openSocket arguments =>
      if native.caller = .openSocket ∧ arguments.dongleMagic = dongleMagic then do
        let world ← native.world.step (.openSocket arguments)
        some { native with world := world, caller := .opening }
      else none
  | .caller reply => native.callerStep reply
  | .completed call =>
      match native.caller with
      | .readAsync succesful pos .idle =>
          if pos.handlesEvents then
            some { native with caller := .readAsync succesful pos (.testDevice call) }
          else none
      | _ => none
  | .lost =>
      match native.caller with
      | .readAsync succesful pos .idle =>
          if pos.handlesEvents then
            some
              { native with
                device := { native.device with devLost := true }
                caller := .readAsync succesful pos (.cancel .testRunning) }
          else none
      | _ => none
  | .closedcb thread => native.closedStep thread
  | .commandcb session => native.commandStep session
  | .thread event =>
      if native.outside event then do
        let world ← native.world.step event
        some { native with world := world }
      else none

/-- The state in which `openAsync` is called on an object that `initialize` has returned. -/
def Native.initial (workpool : WorkPool) : Native where
  world := World.initial workpool
  device := .opened
  rtlDev := false
  caller := .open2
  closed := fun _ => .testDevice
  command := fun _ => .testDevice
  closedReturned := false

/-- A call of `openAsync` and the threads of its session. -/
def openAsync : System Native NativeEvent where
  initial native := ∃ workpool, native = Native.initial workpool
  step := Native.step

/-- The choices of an `openAsync` up to its call of `announceOnOpen`, with server thread 0
created.
-/
def launchSchedule : List NativeEvent :=
  [.caller (.value 0), .caller (.value 0), .openSocket ⟨dongleMagic, 5, 29⟩, .caller .none,
    .caller .none, .caller (.bytes []), .caller .none, .caller (.value 3), .caller .none,
    .caller .none, .caller (.value 0), .caller .none, .caller .none, .caller .none,
    .caller .none, .caller .none, .caller .none, .caller .none, .caller .none]

/-- A stop request from outside that finds server thread 0 at its beginning, and the thread's
choices up to its call of `closedcb`.
-/
def closingSchedule : List NativeEvent :=
  [.thread (.stop 2), .thread (.stopper 2), .thread (.stopper 2), .thread (.stopper 2),
    .thread (.server 0 .none), .thread (.server 0 .none), .thread (.server 0 .none),
    .thread (.server 0 .none)]

/-- The steps of `openAsync` that change nothing but its own position; `owner` is where it is
in `sdrtcp.c`.
-/
inductive OpenAsyncPoint.Advances (owner : OwnerPoint) : OpenAsyncPoint → OpenAsyncPoint → Prop
  | failed : Advances owner .open2 (.returned false)
  | opened : Advances owner .open2 .configure
  | misconfigured : Advances owner .configure (.closeFailed .testLost)
  | configured : Advances owner .configure .openSocket
  | refused (opened : owner = .opened false)
    : Advances owner .opening (.closeFailed .testLost)
  | listening (opened : owner = .opened true) : Advances owner .opening .storeDevice
  | served (outside : owner = .idle) : Advances owner .serving .announceOnOpen
  | announced {succesful}
    : Advances owner .announceOnOpen (.readAsync succesful .testInactive .idle)
  | transfer {succesful pos transfer following}
    : Advances owner (.readAsync succesful pos transfer) (.readAsync succesful pos following)
  | stopped {succesful} : Advances owner (.stopping succesful) (.returned succesful)

/-- The steps of `openAsync` that are steps of the rtl_tcp server. -/
inductive OpenAsyncPoint.Drives : OpenAsyncPoint → Event → OpenAsyncPoint → Prop
  | openSocket {arguments} : Drives .openSocket (.openSocket arguments) .opening
  | opening {reply} : Drives .opening (.owner reply) .opening
  | serveClientAsync : Drives .serveClientAsync .serveClientAsync .serving
  | serving {reply} : Drives .serving (.owner reply) .serving
  | feed {succesful pos call}
    : Drives (.readAsync succesful pos (.testDevice call)) (.feed call)
        (.readAsync succesful pos .feeding)
  | feeding {succesful pos reply}
    : Drives (.readAsync succesful pos .feeding) (.feeder reply)
        (.readAsync succesful pos .feeding)
  | stopServing {succesful}
    : Drives (.stopServing succesful) (.stop callerStop) (.stopping succesful)
  | stopping {succesful}
    : Drives (.stopping succesful) (.stopper callerStop) (.stopping succesful)

/-- The steps of `tcpCommandCallback` that leave the server alone. -/
inductive CommandPoint.Advances (rtlDev : Bool) : CommandPoint → CommandPoint → Prop
  | checked (held : rtlDev = true) : Advances rtlDev .testDevice .loadDevice
  | loaded (held : rtlDev = true) : Advances rtlDev .loadDevice .issueCall
  | issued : Advances rtlDev .issueCall .insideCall

/-- The step of the server that follows a call of `closedcb`. -/
def afterClosed : Option Nat → Event
  | none => .owner .none
  | some session => .server session .none

/-- The effect of an enabled choice, one constructor for each way the parties can move. -/
inductive Native.Fires (native : Native) : NativeEvent → Native → Prop
  | advances {event caller} (step : native.caller.Advances native.world.owner caller)
    : native.Fires event { native with caller := caller }
  | drives {event inner caller world} (step : native.caller.Drives inner caller)
    (moved : native.world.step inner = some world)
    : native.Fires event { native with world := world, caller := caller }
  | stored {event} (position : native.caller = .storeDevice)
    : native.Fires event { native with rtlDev := true, caller := .serveClientAsync }
  | cleared {event succesful} (position : native.caller = .clearDevice succesful)
    : native.Fires event { native with rtlDev := false, caller := .close succesful .testLost }
  | reads {event reply succesful pos device next}
    (position : native.caller = .readAsync succesful pos .idle)
    (moved : rtlsdrReadAsync native.device reply pos = some (device, .point next))
    : native.Fires event
        { native with device := device, caller := .readAsync succesful next .idle }
  | read {event reply succesful pos device r}
    (position : native.caller = .readAsync succesful pos .idle)
    (moved : rtlsdrReadAsync native.device reply pos = some (device, .returned r))
    : native.Fires event
        { native with device := device, caller := .clearDevice (succesful && r == 0) }
  | lost {event succesful pos} (position : native.caller = .readAsync succesful pos .idle)
    : native.Fires event
        { native with
          device := { native.device with devLost := true }
          caller := .readAsync succesful pos (.cancel .testRunning) }
  | cancels {event succesful pos inner transfer}
    (position : native.caller = .readAsync succesful pos (.cancel inner))
    : native.Fires event
        { native with
          device := (rtlsdrCancelAsync native.device inner).1
          caller := .readAsync succesful pos transfer }
  | closes {event succesful pos caller} (position : native.caller = .close succesful pos)
    (following : (∃ next, caller = .close succesful next) ∨ caller = .stopServing succesful)
    : native.Fires event
        { native with device := (rtlsdrClose native.device pos).1, caller := caller }
  | closesFailed {event pos caller} (position : native.caller = .closeFailed pos)
    (following : (∃ next, caller = .closeFailed next) ∨ caller = .returned false)
    : native.Fires event
        { native with device := (rtlsdrClose native.device pos).1, caller := caller }
  | loads {thread following} (calls : native.callsClosed thread = true)
    (held : native.rtlDev = true)
    (step : following = .loadDevice ∨ following = .cancel .testRunning)
    : native.Fires (.closedcb thread)
        { native with closed := Function.update native.closed thread following }
  | cancelling {thread pos next} (calls : native.callsClosed thread = true)
    (position : native.closed thread = .cancel pos)
    (moved : (rtlsdrCancelAsync native.device pos).2 = .point next)
    : native.Fires (.closedcb thread)
        { native with
          device := (rtlsdrCancelAsync native.device pos).1
          closed := Function.update native.closed thread (.cancel next) }
  | ignored {thread world} (calls : native.callsClosed thread = true)
    (cleared : native.rtlDev = false)
    (moved : native.world.step (afterClosed thread) = some world)
    : native.Fires (.closedcb thread)
        { native with
          world := world
          closed := Function.update native.closed thread .testDevice
          closedReturned := true }
  | cancelled {thread pos r world} (calls : native.callsClosed thread = true)
    (position : native.closed thread = .cancel pos)
    (ended : (rtlsdrCancelAsync native.device pos).2 = .returned r)
    (moved : native.world.step (afterClosed thread) = some world)
    : native.Fires (.closedcb thread)
        { native with
          world := world
          device := (rtlsdrCancelAsync native.device pos).1
          closed := Function.update native.closed thread .testDevice
          closedReturned := true }
  | commands {event session following}
    (step : (native.command session).Advances native.rtlDev following)
    : native.Fires event
        { native with command := Function.update native.command session following }
  | commanded {event session following inner world}
    (step : following = .testDevice ∨ following = .stopping)
    (other
      : (∃ caller, inner = .stop caller ∨ inner = .stopper caller)
        ∨ ∃ reply, inner = .listener session reply)
    (moved : native.world.step inner = some world)
    : native.Fires event
        { native with
          world := world
          command := Function.update native.command session following }
  | thread {inner world} (outside : native.outside inner = true)
    (moved : native.world.step inner = some world)
    : native.Fires (.thread inner) { native with world := world }

section Inversion

variable {native next : Native}

/-- A step of the server that leaves `openAsync` where it is. -/
theorem Native.Fires.driving {event : NativeEvent} {inner : Event} {world : World}
    (step : native.caller.Drives inner native.caller)
    (moved : native.world.step inner = some world)
    : native.Fires event { native with world := world } :=
  .drives step moved

/-- The steps that `openAsync` makes inside `rtlsdr_read_async`. -/
theorem Native.fires_of_readStep {event : NativeEvent} {succesful : Bool} {pos : ReadPoint}
    {reply : Reply} {transfer : TransferPoint}
    (position : native.caller = .readAsync succesful pos transfer)
    (fired : native.readStep succesful pos reply transfer = some next)
    : native.Fires event next := by
  cases transfer with
  | idle =>
      obtain ⟨⟨device, progress⟩, moved, rest⟩ := Option.bind_eq_some_iff.mp fired
      cases progress <;> cases rest
      · exact .reads position moved
      · exact .read position moved
  | testDevice call =>
      simp only [Native.readStep] at fired
      split at fired
      · obtain ⟨world, moved, rest⟩ := Option.bind_eq_some_iff.mp fired
        cases rest
        exact .drives (position ▸ .feed) moved
      · cases fired
        exact .advances (position ▸ .transfer)
  | feeding =>
      simp only [Native.readStep] at fired
      split at fired
      · cases fired
        exact .advances (position ▸ .transfer)
      · obtain ⟨world, moved, rest⟩ := Option.bind_eq_some_iff.mp fired
        cases rest
        exact .driving (position ▸ .feeding) moved
  | cancel inner =>
      have cancels := @Native.Fires.cancels native event succesful pos inner
      simp only [Native.readStep] at fired
      split at fired <;> rename_i step <;> rw [step] at cancels <;> cases fired <;>
        exact cancels position

/-- The steps of `openAsync`, by cases on its position. -/
theorem Native.fires_of_callerStep {event : NativeEvent} {reply : Reply}
    (fired : native.callerStep reply = some next)
    : native.Fires event next := by
  unfold Native.callerStep at fired
  split at fired <;> rename_i position
  · split at fired <;> cases fired
    split
    · exact .advances (position ▸ .opened)
    · exact .advances (position ▸ .failed)
  · split at fired <;> cases fired
    split
    · exact .advances (position ▸ .configured)
    · exact .advances (position ▸ .misconfigured)
  · split at fired
    · obtain ⟨world, moved, rest⟩ := Option.bind_eq_some_iff.mp fired
      cases rest
      exact .driving (position ▸ .opening) moved
    · rename_i success owner
      cases fired
      cases success with
      | true => exact .advances (position ▸ .listening owner)
      | false => exact .advances (position ▸ .refused owner)
    · cases fired
  · cases fired
    exact .stored position
  · obtain ⟨world, moved, rest⟩ := Option.bind_eq_some_iff.mp fired
    cases rest
    exact .drives (position ▸ .serveClientAsync) moved
  · split at fired
    · cases fired
    · obtain ⟨world, moved, rest⟩ := Option.bind_eq_some_iff.mp fired
      cases rest
      exact .driving (position ▸ .serving) moved
    · rename_i owner
      cases fired
      exact .advances (position ▸ .served owner)
    · cases fired
  · split at fired <;> cases fired
    exact .advances (position ▸ .announced)
  · exact Native.fires_of_readStep position fired
  · cases fired
    exact .cleared position
  · rename_i succesful pos
    have closes := @Native.Fires.closes native event succesful pos
    split at fired <;> rename_i step <;> rw [step] at closes <;> cases fired
    · exact closes position (.inl ⟨_, rfl⟩)
    · exact closes position (.inr rfl)
  · obtain ⟨world, moved, rest⟩ := Option.bind_eq_some_iff.mp fired
    cases rest
    exact .drives (position ▸ .stopServing) moved
  · split at fired
    · cases fired
      exact .advances (position ▸ .stopped)
    · obtain ⟨world, moved, rest⟩ := Option.bind_eq_some_iff.mp fired
      cases rest
      exact .driving (position ▸ .stopping) moved
  · rename_i pos
    have closes := @Native.Fires.closesFailed native event pos
    split at fired <;> rename_i step <;> rw [step] at closes <;> cases fired
    · exact closes position (.inl ⟨_, rfl⟩)
    · exact closes position (.inr rfl)
  · cases fired
  · cases fired

/-- The return of `closedcb` steps its thread on. -/
theorem Native.closedReturn_eq {thread : Option Nat}
    (fired : native.closedReturn thread = some next)
    : ∃ world,
        native.world.step (afterClosed thread) = some world
        ∧ next
          = { native with
              world := world
              closed := Function.update native.closed thread .testDevice
              closedReturned := true } := by
  obtain ⟨world, moved, rest⟩ := Option.bind_eq_some_iff.mp fired
  cases rest
  refine ⟨world, ?_, rfl⟩
  cases thread <;> exact moved

/-- The steps of `tcpClosedCallback`, by cases on its position. -/
theorem Native.fires_of_closedStep {thread : Option Nat}
    (fired : native.closedStep thread = some next)
    : native.Fires (.closedcb thread) next := by
  unfold Native.closedStep at fired
  split at fired
  · rename_i calls
    split at fired <;> rename_i position
    · split at fired
      · rename_i held
        cases fired
        exact .loads calls held (.inl rfl)
      · rename_i cleared
        obtain ⟨world, moved, rfl⟩ := Native.closedReturn_eq fired
        exact .ignored calls (by simpa using cleared) moved
    · split at fired
      · rename_i held
        cases fired
        exact .loads calls held (.inr rfl)
      · rename_i cleared
        obtain ⟨world, moved, rfl⟩ := Native.closedReturn_eq fired
        exact .ignored calls (by simpa using cleared) moved
    · rename_i pos
      have cancelling := @Native.Fires.cancelling native thread pos
      have cancelled := @Native.Fires.cancelled native thread pos
      split at fired <;> rename_i step <;> rw [step] at cancelling cancelled
      · cases fired
        exact cancelling calls position rfl
      · obtain ⟨world, moved, rfl⟩ := Native.closedReturn_eq fired
        exact cancelled calls position rfl moved
  · cases fired

/-- The return of `commandcb` steps its listener on. -/
theorem Native.fires_of_commandReturn {event : NativeEvent} {session : Nat}
    (fired : native.commandReturn session = some next)
    : native.Fires event next := by
  obtain ⟨world, moved, rest⟩ := Option.bind_eq_some_iff.mp fired
  cases rest
  exact .commanded (.inl rfl) (.inr ⟨_, rfl⟩) moved

/-- The steps of `tcpCommandCallback`, by cases on its position. -/
theorem Native.fires_of_commandStep {event : NativeEvent} {session : Nat}
    (fired : native.commandStep session = some next)
    : native.Fires event next := by
  unfold Native.commandStep at fired
  split at fired
  · split at fired <;> rename_i position
    · split at fired
      · rename_i held
        split at fired
        · obtain ⟨world, moved, rest⟩ := Option.bind_eq_some_iff.mp fired
          cases rest
          exact .commanded (.inr rfl) (.inl ⟨_, .inl rfl⟩) moved
        · split at fired
          · cases fired
            exact .commands (position ▸ .checked held)
          · exact Native.fires_of_commandReturn fired
      · exact Native.fires_of_commandReturn fired
    · split at fired
      · rename_i held
        cases fired
        exact .commands (position ▸ .loaded held)
      · exact Native.fires_of_commandReturn fired
    · cases fired
      exact .commands (position ▸ .issued)
    · exact Native.fires_of_commandReturn fired
    · split at fired
      · exact Native.fires_of_commandReturn fired
      · obtain ⟨world, moved, rest⟩ := Option.bind_eq_some_iff.mp fired
        cases rest
        have commanded := @Native.Fires.commanded native event session .stopping _ world
          (.inr rfl) (.inl ⟨commandStop, .inr rfl⟩) moved
        rwa [← position, Function.update_eq_self] at commanded
  · cases fired

/-- Everything an enabled choice can do. Witness: each event's branch of `Native.step`. -/
theorem Native.step_cases {event : NativeEvent} (fired : native.step event = some next)
    : native.Fires event next := by
  cases event with
  | openSocket arguments =>
      simp only [Native.step] at fired
      split at fired
      · rename_i position
        obtain ⟨world, moved, rest⟩ := Option.bind_eq_some_iff.mp fired
        cases rest
        exact .drives (position.1 ▸ .openSocket) moved
      · cases fired
  | caller reply => exact Native.fires_of_callerStep fired
  | completed call =>
      simp only [Native.step] at fired
      split at fired
      · rename_i position
        split at fired <;> cases fired
        exact .advances (position ▸ .transfer)
      · cases fired
  | lost =>
      simp only [Native.step] at fired
      split at fired
      · rename_i position
        split at fired <;> cases fired
        exact .lost position
      · cases fired
  | closedcb thread => exact Native.fires_of_closedStep fired
  | commandcb session => exact Native.fires_of_commandStep fired
  | thread inner =>
      simp only [Native.step] at fired
      split at fired
      · rename_i outside
        obtain ⟨world, moved, rest⟩ := Option.bind_eq_some_iff.mp fired
        cases rest
        exact .thread outside moved
      · cases fired

end Inversion

/-- Every step is at most one step of the rtl_tcp server. -/
theorem Native.Fires.world {native next : Native} {event : NativeEvent}
    (fires : native.Fires event next)
    : next.world = native.world
      ∨ ∃ inner, native.world.step inner = some next.world := by
  cases fires with
  | drives _ moved | ignored _ _ moved | cancelled _ _ _ moved | commanded _ _ moved
  | thread _ moved => exact .inr ⟨_, moved⟩
  | _ => exact .inl rfl

/-- The server behind a call of `openAsync` runs as one of `sdrtcp.c`. -/
theorem world_of_reachable {native : Native} (reachable : openAsync.Reachable native)
    : server.Reachable native.world := by
  refine reachable.project ?_ ?_
  · intro start initial
    obtain ⟨workpool, rfl⟩ := initial
    exact ⟨workpool, rfl⟩
  · intro current choice next fired
    exact (Native.step_cases fired).world

end RtlTcpAndro.RtlSdrDevice
