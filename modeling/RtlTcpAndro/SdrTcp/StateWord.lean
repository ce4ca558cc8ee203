import RtlTcpAndro.SdrTcp.Sessions

/-! Who writes the control fields of the object: the stores to `obj->state`, the critical
section of `sdrtcp_cleanup`, the four assignments of descriptors, and nothing else.
-/

namespace RtlTcpAndro.SdrTcp

open RtlTcpAndro.Interleaving

/-- The stage that the owner's next step assigns to `obj->state`. -/
def OwnerPoint.stores (control : Control) : OwnerPoint → Option Stage
  | .opening _ .initialise => some .initialized
  | .opening _ .publishSocket => if control.listenSocket ≠ -1 then some .socketOpen else none
  | .serving .storeStartedAsync => some .clientOpenStartedAsync
  | _ => none

/-- The stage that a server thread's next step assigns to `obj->state`. -/
def ServerPoint.stores : ServerPoint → Option Stage
  | .waiting .storeClientOpen => some .clientOpen
  | .storeServing => some .clientServing
  | .serving (.storeSelectFailed _) => some .needsStopping
  | .serving (.storeSendFailed _) => some .needsStopping
  | _ => none

/-- The stage that a listener's next step assigns to `obj->state`. -/
def ListenerPoint.stores : ListenerPoint → Option Stage
  | .storeReceiveFailed _ => some .needsStopping
  | _ => none

/-- The stage that the next step of a stop request assigns to `obj->state`. -/
def StopPoint.stores : StopPoint → Option Stage
  | .storeNeedsStopping => some .needsStopping
  | _ => none

/-- The stage that a choice assigns to `obj->state` outside `sdrtcp_cleanup`. -/
def World.stores (world : World) : Event → Option Stage
  | .owner _ => world.owner.stores world.shared.control
  | .server session _ => (world.server session).stores
  | .listener session _ => (world.listener session).stores
  | .stopper caller => (world.stopper caller).stores
  | _ => none

/-- No store assigns `STAGE_UNINITIALIZED`, by cases on the choices that store. -/
theorem World.stores_live {world : World} {event : Event}
    (stored : world.stores event = some .uninitialized)
    : False := by
  cases event with
  | owner reply =>
      simp only [World.stores, OwnerPoint.stores] at stored
      split at stored <;> try split at stored
      all_goals cases stored
  | server session reply =>
      simp only [World.stores, ServerPoint.stores] at stored
      split at stored <;> cases stored
  | listener session reply =>
      simp only [World.stores, ListenerPoint.stores] at stored
      split at stored <;> cases stored
  | stopper caller =>
      simp only [World.stores, StopPoint.stores] at stored
      split at stored <;> cases stored
  | _ => cases stored

/-- Whether a choice is the critical section of `sdrtcp_cleanup`. -/
def World.cleansUp (world : World) : Event → Bool
  | .owner _ =>
      match world.owner with
      | .opening _ .fail | .serving .cleanup => true
      | _ => false
  | .server session _ => world.server session = .cleanup
  | .stopper caller => world.stopper caller = .cleanup
  | _ => false

/-- The cleanup is no store. -/
theorem World.stores_of_cleansUp {world : World} {event : Event}
    (cleaned : world.cleansUp event = true)
    : world.stores event = none := by
  cases event with
  | owner reply =>
      simp only [World.cleansUp] at cleaned
      split at cleaned
      · rename_i position
        simp [World.stores, position, OwnerPoint.stores]
      · rename_i position
        simp [World.stores, position, OwnerPoint.stores]
      · cases cleaned
  | server session reply =>
      simp only [World.stores, of_decide_eq_true cleaned, ServerPoint.stores]
  | stopper caller => simp only [World.stores, of_decide_eq_true cleaned, StopPoint.stores]
  | _ => cases cleaned

/-- Whether a choice executes `pool_free` for a session. -/
def World.freesPool (world : World) (event : Event) : Prop :=
  world.cleansUp event = true ∧ world.shared.control.state ≠ .uninitialized

instance (world : World) (event : Event) : Decidable (world.freesPool event) :=
  inferInstanceAs (Decidable (_ ∧ _))

/-- The stage after a step that assigns `stored` or cleans up. -/
def Stage.after (stage : Stage) (stored : Option Stage) (cleaned : Bool) : Stage :=
  if cleaned then .uninitialized else stored.getD stage

/-- A listener asks for a stop if it assigns a stage at all. -/
theorem ListenerPoint.stores_eq {pos : ListenerPoint} {stage : Stage}
    (stored : pos.stores = some stage)
    : stage = .needsStopping := by
  unfold ListenerPoint.stores at stored
  split at stored <;> cases stored
  rfl

/-- A server thread stores `STAGE_CLIENT_SERVING` at one position. -/
theorem ServerPoint.stores_serving {pos : ServerPoint}
    (stores : pos.stores = some .clientServing)
    : pos = .storeServing := by
  unfold ServerPoint.stores at stores
  split at stores <;> cases stores
  rfl

/-- The owner after a step of `sdrtcp_open_socket`. -/
def OwnerPoint.ofOpening (arguments : OpenArguments)
    : Progress OpenPoint Bool → OwnerPoint
  | .point following => .opening arguments following
  | .returned success => .opened success

/-- A critical section entered at once is entered with the lock free. -/
@[simp] theorem Shared.locked_eq_some {α : Type} {shared : Shared} {result final : α}
    : shared.locked result = some final ↔ shared.stateLocker = false ∧ result = final := by
  unfold Shared.locked
  cases shared.stateLocker <;> simp

section Updates

variable (shared : Shared) (stage : Stage) (descriptor : Int) (update : History → History)

/-- Storing the stage is seen in the control data as that stage. -/
@[simp] theorem Shared.control_setState
    : (shared.setState stage).control = { shared.control with state := stage } := rfl

/-- Storing the client's socket is seen in the control data. -/
@[simp] theorem Shared.control_setClientSocket
    : (shared.setClientSocket descriptor).control
      = { shared.control with clientSocket := descriptor } := rfl

/-- Storing the listening socket is seen in the control data. -/
@[simp] theorem Shared.control_setListenSocket
    : (shared.setListenSocket descriptor).control
      = { shared.control with listenSocket := descriptor } := rfl

/-- A note in the history is seen in the control data. -/
@[simp] theorem Shared.control_note
    : (shared.note update).control
      = { shared.control with history := update shared.control.history } := rfl

/-- The cleanup acts on the control data as its section says. -/
@[simp] theorem control_sdrtcpCleanup
    : (sdrtcpCleanup shared).control = cleanupSection shared.control := rfl

end Updates

/-- The cleanup of an uninitialized object does nothing. -/
theorem cleanupSection_of_uninitialized {control : Control}
    (fresh : control.state = .uninitialized)
    : cleanupSection control = control := by
  simp [cleanupSection, fresh]

/-- The cleanup of a session: the stage test inside it always succeeds, after its own
store.
-/
theorem cleanupSection_of_live {control : Control} (live : control.state ≠ .uninitialized)
    : cleanupSection control
      = { control with
          state := .uninitialized
          clientSocket := -1
          listenSocket := -1
          descriptors :=
            if control.listenSocket ≠ -1 then
              control.descriptors.close control.listenSocket
            else control.descriptors } := by
  by_cases closed : control.listenSocket = -1 <;> simp [cleanupSection, live, closed]

/-- The critical section of the cleanup always leaves `STAGE_UNINITIALIZED`. -/
@[simp] theorem cleanupSection_state (control : Control)
    : (cleanupSection control).state = .uninitialized := by
  by_cases fresh : control.state = .uninitialized
  · rw [cleanupSection_of_uninitialized fresh, fresh]
  · rw [cleanupSection_of_live fresh]

/-- The cleanup writes no history. -/
@[simp] theorem cleanupSection_history (control : Control)
    : (cleanupSection control).history = control.history := by
  by_cases fresh : control.state = .uninitialized
  · rw [cleanupSection_of_uninitialized fresh]
  · rw [cleanupSection_of_live fresh]

/-- The control after a step that assigns `stored` to the stage, or cleans up. -/
def Control.moved (control : Control) (stored : Option Stage) (cleaned : Bool) : Control :=
  if cleaned then cleanupSection control
  else { control with state := stored.getD control.state }

/-- A move that cleans is the cleanup, whatever it would store. -/
@[simp] theorem Control.moved_cleaned (control : Control) (stored : Option Stage)
    : control.moved stored true = cleanupSection control := rfl

/-- A move that does not clean stores the stage, or keeps it. -/
@[simp] theorem Control.moved_stored (control : Control) (stored : Option Stage)
    : control.moved stored false
      = { control with state := stored.getD control.state } := rfl

/-- The stage after a move is the one `Stage.after` says. Witness: with and without the
cleanup.
-/
@[simp] theorem Control.state_moved (control : Control) (stored : Option Stage)
    (cleaned : Bool)
    : (control.moved stored cleaned).state = control.state.after stored cleaned := by
  cases cleaned <;> simp [Stage.after]

/-- A move leaves the history. Witness: with and without the cleanup. -/
@[simp] theorem Control.history_moved (control : Control) (stored : Option Stage)
    (cleaned : Bool)
    : (control.moved stored cleaned).history = control.history := by
  cases cleaned <;> simp

/-- `sdrtcp_feed` changes nothing that decides how a session proceeds. Witness: it writes
the lock, the pool and the traffic only.
-/
theorem sdrtcpFeed_control {shared after : Shared} {reply : Reply} {pos next : FeedPoint}
    (moved : sdrtcpFeed shared reply pos = some (after, next))
    : after.control = shared.control := by
  cases pos with
  | lock call =>
      obtain ⟨-, result⟩ := Shared.locked_eq_some.mp moved
      cases result
      rfl
  | prepare call buffer =>
      cases reply with
      | bytes junk =>
          obtain ⟨ready, -, result⟩ := Option.bind_eq_some_iff.mp moved
          cases result
          rfl
      | _ => cases moved
  | copy call buffer =>
      obtain ⟨copied, -, result⟩ := Option.bind_eq_some_iff.mp moved
      cases result
      rfl
  | testWaiting stages holdsLock =>
      cases stages with
      | nil =>
          cases moved
          rfl
      | cons stage stages =>
          simp only [sdrtcpFeed] at moved
          split at moved <;> cases moved <;> rfl
  | _ =>
      simp only [sdrtcpFeed] at moved
      try split at moved
      all_goals cases moved <;> rfl

/-- `serveClient` assigns `STAGE_NEEDS_STOPPING` after a failed call, and nothing else. -/
theorem serveClient_control {shared after : Shared} {reply : Reply}
    {pos : ServeClientPoint} {progress : Progress ServeClientPoint Unit}
    (moved : serveClient shared reply pos = some (after, progress))
    : after.control
      = { shared.control with
          state := (ServerPoint.serving pos).stores.getD shared.control.state } := by
  cases pos with
  | select sending =>
      cases reply with
      | value r =>
          simp only [serveClient] at moved
          split at moved <;> cases moved <;> rfl
      | _ => cases moved
  | send sending =>
      cases reply with
      | value bytessent =>
          simp only [serveClient] at moved
          split at moved <;> cases moved
          rfl
      | _ => cases moved
  | _ =>
      simp only [serveClient] at moved
      try split at moved
      all_goals (cases moved; rfl)

/-- `sdrtcp_wait_for_client` assigns `STAGE_CLIENT_OPEN` and the client's descriptor. -/
theorem sdrtcpWaitForClient_control {shared after : Shared} {reply : Reply} {pos : WaitPoint}
    {progress : Progress WaitPoint Unit}
    (moved : sdrtcpWaitForClient shared reply pos = some (after, progress))
    : after.control = shared.control.moved (ServerPoint.waiting pos).stores false
      ∨ pos = .clearClientSocket
        ∧ after.control = { shared.control with clientSocket := -1 }
      ∨ ∃ result,
          pos = .accept
          ∧ after.control
            = { shared.control with
                clientSocket := result
                descriptors := shared.control.descriptors.accept result } := by
  cases pos with
  | clearClientSocket =>
      cases moved
      exact .inr (.inl ⟨rfl, rfl⟩)
  | select =>
      cases reply with
      | value r =>
          cases moved
          exact .inl rfl
      | _ => cases moved
  | accept =>
      cases reply with
      | value result =>
          simp only [sdrtcpWaitForClient] at moved
          split at moved <;> cases moved
          exact .inr (.inr ⟨result, rfl, rfl⟩)
      | _ => cases moved
  | _ =>
      simp only [sdrtcpWaitForClient] at moved
      try split at moved
      all_goals (cases moved; exact .inl rfl)

/-- `tcp_server` writes its stores, its cleanup and the client's descriptor only. -/
theorem tcpServer_control {shared after : Shared} {reply : Reply} {joined : Bool}
    {pos next : ServerPoint} (moved : tcpServer shared reply joined pos = some (after, next))
    : after.control = shared.control.moved pos.stores (decide (pos = .cleanup))
      ∨ pos = .waiting .clearClientSocket
        ∧ after.control = { shared.control with clientSocket := -1 }
      ∨ ∃ result,
          pos = .waiting .accept
          ∧ after.control
            = { shared.control with
                clientSocket := result
                descriptors := shared.control.descriptors.accept result } := by
  cases pos with
  | waiting pos =>
      obtain ⟨⟨middle, progress⟩, inner, rest⟩ := Option.bind_eq_some_iff.mp moved
      have effect := sdrtcpWaitForClient_control inner
      cases progress <;> cases rest <;> simpa using effect
  | serving pos =>
      obtain ⟨⟨middle, progress⟩, inner, rest⟩ := Option.bind_eq_some_iff.mp moved
      have effect := serveClient_control inner
      cases progress <;> cases rest <;> exact .inl effect
  | storeServing | testFinal | cleanup =>
      obtain ⟨-, result⟩ := Shared.locked_eq_some.mp moved
      cases result
      exact .inl rfl
  | _ =>
      simp only [tcpServer] at moved
      try split at moved
      all_goals cases moved <;> exact .inl rfl

/-- `commandListener` assigns `STAGE_NEEDS_STOPPING` after a failed `recv`, notes the
failure, and changes nothing else that decides how a session proceeds.
-/
theorem commandListener_control {shared after : Shared} {reply : Reply}
    {pos next : ListenerPoint}
    (moved : commandListener shared reply pos = some (after, next))
    : after.control = shared.control.moved pos.stores false
      ∨ (∃ receiving, pos = .receive receiving)
        ∧ after = shared.note (fun history => { history with recvFailed := true }) := by
  cases pos with
  | select receiving =>
      cases reply with
      | value r =>
          cases moved
          exact .inl rfl
      | _ => cases moved
  | receive receiving =>
      cases reply with
      | none => cases moved
      | value result =>
          simp only [commandListener] at moved
          split at moved <;> cases moved
          exact .inr ⟨⟨receiving, rfl⟩, rfl⟩
      | bytes received =>
          simp only [commandListener] at moved
          split at moved <;> cases moved
          exact .inl rfl
  | _ =>
      simp only [commandListener] at moved
      try split at moved
      all_goals cases moved <;> exact .inl rfl

/-- The first critical section of `sdrtcp_open_socket` assigns `STAGE_INITIALIZED`. -/
theorem initialise_control {shared ready : Shared} {arguments : OpenArguments}
    {junk : List UInt8} (initialised : initialise shared arguments junk = some ready)
    : ready.control = { shared.control with state := .initialized } := by
  obtain ⟨pool, -, rest⟩ := Option.bind_eq_some_iff.mp initialised
  cases rest
  rfl

/-- `sdrtcp_open_socket` writes its two stores, its cleanup and `listen_socket` only. -/
theorem sdrtcpOpenSocket_control {arguments : OpenArguments} {shared after : Shared}
    {reply : Reply} {pos : OpenPoint} {progress : Progress OpenPoint Bool}
    (moved : sdrtcpOpenSocket arguments shared reply pos = some (after, progress))
    : after.control
        = shared.control.moved ((OwnerPoint.opening arguments pos).stores shared.control)
            (decide (pos = .fail))
      ∨ pos = .clearListenSocket
        ∧ after.control = { shared.control with listenSocket := -1 }
      ∨ ∃ result,
          pos = .createSocket
          ∧ after.control
            = { shared.control with
                listenSocket := result
                descriptors := shared.control.descriptors.socket result } := by
  cases pos with
  | clearListenSocket =>
      cases moved
      exact .inr (.inl ⟨rfl, rfl⟩)
  | initialise =>
      cases reply with
      | bytes junk =>
          obtain ⟨ready, initialised, rest⟩ := Option.bind_eq_some_iff.mp moved
          obtain ⟨-, result⟩ := Shared.locked_eq_some.mp rest
          cases result
          exact .inl (initialise_control initialised)
      | _ => cases moved
  | createSocket =>
      cases reply with
      | value result =>
          simp only [sdrtcpOpenSocket] at moved
          split at moved <;> cases moved
          exact .inr (.inr ⟨result, rfl, rfl⟩)
      | _ => cases moved
  | publishSocket =>
      obtain ⟨-, result⟩ := Shared.locked_eq_some.mp moved
      cases result
      by_cases missing : shared.control.listenSocket = -1
      · simp only [missing, ne_eq, not_true_eq_false, if_false, OwnerPoint.stores]
        exact .inl rfl
      · simp [missing, OwnerPoint.stores]
  | bindAndListen =>
      cases reply with
      | value result =>
          cases moved
          exact .inl rfl
      | _ => cases moved
  | fail =>
      obtain ⟨-, result⟩ := Shared.locked_eq_some.mp moved
      cases result
      exact .inl rfl
  | _ =>
      simp only [sdrtcpOpenSocket] at moved
      try split at moved
      all_goals (cases moved; exact .inl rfl)

/-- `sdrtcp_serve_client_async` writes its store and its cleanup only. -/
theorem sdrtcpServeClientAsync_control {shared after : Shared} {pos : ServePoint}
    {progress : Progress ServePoint Bool}
    (moved : sdrtcpServeClientAsync shared pos = some (after, progress))
    : after.control
      = shared.control.moved ((OwnerPoint.serving pos).stores shared.control)
          (decide (pos = .cleanup)) := by
  cases pos with
  | cleanup =>
      obtain ⟨-, result⟩ := Shared.locked_eq_some.mp moved
      cases result
      rfl
  | _ =>
      simp only [sdrtcpServeClientAsync] at moved
      try split at moved
      all_goals (cases moved; rfl)

/-- `sdrtcp_stop_serving_client` writes its store, its cleanup and the history only. -/
theorem sdrtcpStopServingClient_control {shared after : Shared} {pos next : StopPoint}
    (moved : sdrtcpStopServingClient shared pos = some (after, next))
    : after.control
      = { shared.control.moved pos.stores (decide (pos = .cleanup)) with
          history := after.control.history } := by
  cases pos with
  | cleanup =>
      obtain ⟨-, result⟩ := Shared.locked_eq_some.mp moved
      cases result
      rfl
  | _ =>
      simp only [sdrtcpStopServingClient] at moved
      try split at moved
      all_goals cases moved <;> rfl

/-- What a choice can write to the control fields: its store or cleanup with a note in the
history, or one of the four assignments of descriptors, each at its position.
-/
inductive World.Writes (world : World) (event : Event) : Control → Prop
  | moved (history : History)
    : world.Writes event
        { world.shared.control.moved (world.stores event) (world.cleansUp event) with
          history := history }
  | clientDropped {session reply} (chosen : event = .server session reply)
    (position : world.server session = .waiting .clearClientSocket)
    : world.Writes event { world.shared.control with clientSocket := -1 }
  | clientAccepted {session reply result} (chosen : event = .server session reply)
    (position : world.server session = .waiting .accept)
    : world.Writes event
        { world.shared.control with
          clientSocket := result
          descriptors := world.shared.control.descriptors.accept result }
  | listenDropped {arguments reply} (chosen : event = .owner reply)
    (position : world.owner = .opening arguments .clearListenSocket)
    : world.Writes event { world.shared.control with listenSocket := -1 }
  | listenCreated {arguments reply result} (chosen : event = .owner reply)
    (position : world.owner = .opening arguments .createSocket)
    : world.Writes event
        { world.shared.control with
          listenSocket := result
          descriptors := world.shared.control.descriptors.socket result }

/-- A step that writes its store or cleanup writes what the world tells of the choice. -/
theorem World.writes_of_moved {world : World} {event : Event} {after : Control}
    {stored : Option Stage} {cleaned : Bool}
    (effect : after = world.shared.control.moved stored cleaned)
    (stores : world.stores event = stored) (cleansUp : world.cleansUp event = cleaned)
    : world.Writes event after := by
  subst effect stores cleansUp
  exact World.Writes.moved (Control.history _)

/-- `sdrtcp_open_socket` writes what the world tells of the owner's choice. -/
theorem World.writes_of_opening {world : World} {arguments : OpenArguments} {reply : Reply}
    {pos : OpenPoint} {after : Shared} {progress : Progress OpenPoint Bool}
    (inside : world.owner = .opening arguments pos)
    (moved : sdrtcpOpenSocket arguments world.shared reply pos = some (after, progress))
    : world.Writes (.owner reply) after.control := by
  rcases sdrtcpOpenSocket_control moved with effect | ⟨rfl, effect⟩ | ⟨result, rfl, effect⟩
  · refine World.writes_of_moved effect (by simp only [World.stores, inside]) ?_
    cases pos <;> simp [World.cleansUp, inside]
  · rw [effect]
    exact .listenDropped rfl inside
  · rw [effect]
    exact .listenCreated rfl inside

/-- `sdrtcp_serve_client_async` writes what the world tells of the owner's choice. -/
theorem World.writes_of_serving {world : World} {reply : Reply} {pos : ServePoint}
    {after : Shared} {progress : Progress ServePoint Bool}
    (inside : world.owner = .serving pos)
    (moved : sdrtcpServeClientAsync world.shared pos = some (after, progress))
    : world.Writes (.owner reply) after.control := by
  refine World.writes_of_moved (sdrtcpServeClientAsync_control moved)
    (by simp only [World.stores, inside]) ?_
  cases pos <;> simp [World.cleansUp, inside]

/-- Every step writes the control fields in one of these ways. -/
theorem World.Fires.writes {world next : World} {event : Event}
    (fires : world.Fires event next)
    : world.Writes event next.shared.control := by
  cases fires with
  | openSocket => exact World.Writes.moved _
  | serveClientAsync | feed | stop => exact World.writes_of_moved rfl rfl rfl
  | opening inside moved | opened inside moved => exact World.writes_of_opening inside moved
  | serving inside moved | refused inside moved | created inside moved =>
      exact World.writes_of_serving inside moved
  | feeder moved =>
      rw [sdrtcpFeed_control moved]
      exact World.writes_of_moved rfl rfl rfl
  | server moved =>
      rcases tcpServer_control moved with effect | ⟨position, effect⟩ | ⟨_, position, effect⟩
      · exact World.writes_of_moved effect rfl rfl
      · rw [effect]
        exact .clientDropped rfl position
      · rw [effect]
        exact .clientAccepted rfl position
  | @listener session reply shared pos moved =>
      rcases commandListener_control moved with effect | ⟨⟨receiving, position⟩, rfl⟩
      · exact World.writes_of_moved effect rfl rfl
      · have stores : world.stores (.listener session reply) = none := by
          simp [World.stores, position, ListenerPoint.stores]
        have writes := @World.Writes.moved world (.listener session reply)
        simpa [stores, World.cleansUp] using writes _
  | stopper moved =>
      rw [sdrtcpStopServingClient_control moved]
      exact World.Writes.moved _

/-- Nothing but the stores of `World.stores` and the cleanup changes the stage. -/
theorem World.Writes.state {world : World} {event : Event} {after : Control}
    (writes : world.Writes event after)
    : after.state
      = world.shared.control.state.after (world.stores event) (world.cleansUp event) := by
  cases writes with
  | moved history => exact Control.state_moved ..
  | clientDropped chosen position | clientAccepted chosen position =>
      subst chosen
      simp [World.stores, World.cleansUp, position, ServerPoint.stores, Stage.after]
  | listenDropped chosen position | listenCreated chosen position =>
      subst chosen
      simp [World.stores, World.cleansUp, position, OwnerPoint.stores, Stage.after]

/-- Nothing but the stores of `World.stores` and the cleanup changes the stage. -/
theorem World.Fires.state {world next : World} {event : Event}
    (fires : world.Fires event next)
    : next.shared.control.state
      = world.shared.control.state.after (world.stores event) (world.cleansUp event) :=
  fires.writes.state

section Corollaries

variable {shared after : Shared} {reply : Reply}

/-- `sdrtcp_open_socket` changes the stage by its stores and its cleanup, and no history. -/
theorem sdrtcpOpenSocket_state {arguments : OpenArguments} {pos : OpenPoint}
    {progress : Progress OpenPoint Bool}
    (moved : sdrtcpOpenSocket arguments shared reply pos = some (after, progress))
    : after.control.state
        = shared.control.state.after
            ((OwnerPoint.opening arguments pos).stores shared.control)
            (decide (pos = .fail))
      ∧ after.control.history = shared.control.history := by
  rcases sdrtcpOpenSocket_control moved with effect | ⟨rfl, effect⟩ | ⟨_, rfl, effect⟩ <;>
    simp [effect, OwnerPoint.stores, Stage.after]

/-- `sdrtcp_serve_client_async` changes the stage by its store and its cleanup, and no
history.
-/
theorem sdrtcpServeClientAsync_state {pos : ServePoint} {progress : Progress ServePoint Bool}
    (moved : sdrtcpServeClientAsync shared pos = some (after, progress))
    : after.control.state
        = shared.control.state.after ((OwnerPoint.serving pos).stores shared.control)
            (decide (pos = .cleanup))
      ∧ after.control.history = shared.control.history := by
  simp [sdrtcpServeClientAsync_control moved]

/-- `sdrtcp_wait_for_client` changes the stage by its store. -/
theorem sdrtcpWaitForClient_state {pos : WaitPoint} {progress : Progress WaitPoint Unit}
    (moved : sdrtcpWaitForClient shared reply pos = some (after, progress))
    : after.control.state
      = (ServerPoint.waiting pos).stores.getD shared.control.state := by
  rcases sdrtcpWaitForClient_control moved with effect | ⟨rfl, effect⟩ | ⟨_, rfl, effect⟩ <;>
    simp [effect, ServerPoint.stores]

/-- `tcp_server` changes the stage by its stores and its cleanup, and no history. -/
theorem tcpServer_state {joined : Bool} {pos next : ServerPoint}
    (moved : tcpServer shared reply joined pos = some (after, next))
    : after.control.state
        = shared.control.state.after pos.stores (decide (pos = .cleanup))
      ∧ after.control.history = shared.control.history := by
  rcases tcpServer_control moved with effect | ⟨rfl, effect⟩ | ⟨_, rfl, effect⟩ <;>
    simp [effect, ServerPoint.stores, Stage.after]

/-- `sdrtcp_stop_serving_client` changes the stage by its store and its cleanup. -/
theorem sdrtcpStopServingClient_state {pos next : StopPoint}
    (moved : sdrtcpStopServingClient shared pos = some (after, next))
    : after.control.state
      = shared.control.state.after pos.stores (decide (pos = .cleanup)) := by
  rw [sdrtcpStopServingClient_control moved]
  exact Control.state_moved ..

end Corollaries

end RtlTcpAndro.SdrTcp
