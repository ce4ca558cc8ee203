import RtlTcpAndro.SdrTcp.Programs

/-! Every interleaving of the threads around one `sdrtcp_t`: the owner that opens and serves
sessions, the thread that feeds samples, any number of threads that request a stop, and for
each session a server thread with its command listener.
-/

namespace RtlTcpAndro.SdrTcp

open RtlTcpAndro.Interleaving

/-- Where the owner is. It opens a session at any time it is not inside a call, and serves
one only after a successful `sdrtcp_open_socket`.
-/
inductive OwnerPoint
  | idle
  | opening (arguments : OpenArguments) (pos : OpenPoint)
  | opened (success : Bool)
  | serving (pos : ServePoint)
  deriving DecidableEq, Repr

/-- All threads over the shared state. Server `k` and listener `k` are the threads of the
`k`-th served session; `opens` counts calls of `sdrtcp_open_socket`, `servers` the created
server threads.
-/
structure World where
  shared : Shared
  owner : OwnerPoint
  feeder : FeedPoint
  server : Nat → ServerPoint
  listener : Nat → ListenerPoint
  stopper : Nat → StopPoint
  opens : Nat
  servers : Nat

/-- What may happen next: a call begins, or a thread inside a call makes its next step. -/
inductive Event
  | openSocket (arguments : OpenArguments)
  | serveClientAsync
  | feed (call : FeedCall)
  | stop (caller : Nat)
  | owner (reply : Reply)
  | feeder (reply : Reply)
  | server (session : Nat) (reply : Reply)
  | listener (session : Nat) (reply : Reply)
  | stopper (caller : Nat)
  deriving DecidableEq, Repr

/-- The owner's next step inside `sdrtcp_open_socket` or `sdrtcp_serve_client_async`. -/
def World.ownerStep (world : World) (reply : Reply) : Option World :=
  match world.owner with
  | .opening arguments pos => do
      match ← sdrtcpOpenSocket arguments world.shared reply pos with
      | (shared, .point next) =>
          some { world with shared := shared, owner := .opening arguments next }
      | (shared, .returned success) =>
          some { world with shared := shared, owner := .opened success }
  | .serving pos => do
      match ← sdrtcpServeClientAsync world.shared pos with
      | (shared, .point next) =>
          some { world with shared := shared, owner := .serving next }
      | (shared, .returned created) =>
          if created then
            some
              { world with
                shared := shared
                owner := .idle
                server :=
                  Function.update world.server world.servers (.waiting .testStartedAsync)
                servers := world.servers + 1 }
          else some { world with shared := shared, owner := .idle }
  | _ => none

/-- The next step of a session's server thread; `pthread_create` starts the listener of the
same session and `pthread_join` waits for its end.
-/
def World.serverStep (world : World) (session : Nat) (reply : Reply) : Option World := do
  let joined := decide (world.listener session = .exited)
  let (shared, next) ← tcpServer world.shared reply joined (world.server session)
  some
    { world with
      shared := shared
      server := Function.update world.server session next
      listener :=
        if world.server session = .createListener then
          Function.update world.listener session (.loop .initial)
        else world.listener }

/-- One choice of the scheduler. -/
def World.step (world : World) : Event → Option World
  | .openSocket arguments =>
      match world.owner with
      | .idle | .opened _ =>
          some
            { world with
              shared := world.shared.note (fun history => { history with stopReturned := false })
              owner := .opening arguments .testUninitialized
              opens := world.opens + 1 }
      | _ => none
  | .serveClientAsync =>
      match world.owner with
      | .opened true => some { world with owner := .serving .testSocketOpen }
      | _ => none
  | .feed call =>
      match world.feeder with
      | .returned _ =>
          if call.Valid then some { world with feeder := .testServing call } else none
      | _ => none
  | .stop caller =>
      match world.stopper caller with
      | .idle =>
          some
            { world with
              stopper := Function.update world.stopper caller .testUninitialized }
      | _ => none
  | .owner reply => world.ownerStep reply
  | .feeder reply => do
      let (shared, next) ← sdrtcpFeed world.shared reply world.feeder
      some { world with shared := shared, feeder := next }
  | .server session reply => world.serverStep session reply
  | .listener session reply => do
      let (shared, next) ← commandListener world.shared reply (world.listener session)
      some
        { world with
          shared := shared
          listener := Function.update world.listener session next }
  | .stopper caller => do
      let (shared, next) ← sdrtcpStopServingClient world.shared (world.stopper caller)
      some { world with shared := shared, stopper := Function.update world.stopper caller next }

/-- The state after `sdrtcp_init`, which leaves the object's `workpool` as the allocator
gave it.
-/
def World.initial (workpool : WorkPool) : World where
  shared :=
    { control :=
        { state := .uninitialized
          clientSocket := -1
          listenSocket := -1
          descriptors := ⟨[], [], [], []⟩
          history := ⟨false, false, false⟩ }
      stateLocker := false
      workpool := workpool
      traffic := ⟨none, [], [], []⟩ }
  owner := .idle
  feeder := .returned 0
  server := fun _ => .notStarted
  listener := fun _ => .notStarted
  stopper := fun _ => .idle
  opens := 0
  servers := 0

/-- The rtl_tcp server and its callers. -/
def server : System World Event where
  initial world := ∃ workpool, world = World.initial workpool
  step := World.step

/-- A pool over zeroed memory, for schedules replayed from a concrete start. -/
def WorkPool.zeroed : WorkPool where
  queues := fun _ => []
  maxElements := 0
  maxIds := 0
  elements := 0
  extbufferType := .ushort
  valid := false
  heap := fun _ => extbufferInit .ushort
  allocated := 0

/-- The owner's choices up to the creation of a server thread that listens on descriptor 3. -/
def servingSchedule : List Event :=
  [.openSocket ⟨(82, 84, 76, 48), 5, 29⟩, .owner .none, .owner .none, .owner (.bytes []),
    .owner .none, .owner (.value 3), .owner .none, .owner .none, .owner (.value 0),
    .owner .none, .serveClientAsync, .owner .none, .owner .none, .owner .none]

/-- A server thread's choices from its start to the check of the accepted descriptor 4. -/
def acceptingSchedule : List Event :=
  [.server 0 .none, .server 0 .none, .server 0 .none, .server 0 .none,
    .server 0 (.value 1), .server 0 .none, .server 0 (.value 4), .server 0 .none]

/-- The effect of an enabled choice, one constructor for each way a thread can move. -/
inductive World.Fires (world : World) : Event → World → Prop
  | openSocket {arguments}
    (outside : world.owner = .idle ∨ ∃ success, world.owner = .opened success)
    : world.Fires (.openSocket arguments)
        { world with
          shared := world.shared.note (fun history => { history with stopReturned := false })
          owner := .opening arguments .testUninitialized
          opens := world.opens + 1 }
  | serveClientAsync (opened : world.owner = .opened true)
    : world.Fires .serveClientAsync { world with owner := .serving .testSocketOpen }
  | feed {call result} (outside : world.feeder = .returned result) (valid : call.Valid)
    : world.Fires (.feed call) { world with feeder := .testServing call }
  | stop {caller} (outside : world.stopper caller = .idle)
    : world.Fires (.stop caller)
        { world with stopper := Function.update world.stopper caller .testUninitialized }
  | opening {reply arguments pos shared next} (inside : world.owner = .opening arguments pos)
    (moved : sdrtcpOpenSocket arguments world.shared reply pos = some (shared, .point next))
    : world.Fires (.owner reply)
        { world with shared := shared, owner := .opening arguments next }
  | opened {reply arguments pos shared success}
    (inside : world.owner = .opening arguments pos)
    (moved
      : sdrtcpOpenSocket arguments world.shared reply pos = some (shared, .returned success))
    : world.Fires (.owner reply) { world with shared := shared, owner := .opened success }
  | serving {reply pos shared next} (inside : world.owner = .serving pos)
    (moved : sdrtcpServeClientAsync world.shared pos = some (shared, .point next))
    : world.Fires (.owner reply) { world with shared := shared, owner := .serving next }
  | refused {reply pos shared} (inside : world.owner = .serving pos)
    (moved : sdrtcpServeClientAsync world.shared pos = some (shared, .returned false))
    : world.Fires (.owner reply) { world with shared := shared, owner := .idle }
  | created {reply pos shared} (inside : world.owner = .serving pos)
    (moved : sdrtcpServeClientAsync world.shared pos = some (shared, .returned true))
    : world.Fires (.owner reply)
        { world with
          shared := shared
          owner := .idle
          server := Function.update world.server world.servers (.waiting .testStartedAsync)
          servers := world.servers + 1 }
  | feeder {reply shared pos}
    (moved : sdrtcpFeed world.shared reply world.feeder = some (shared, pos))
    : world.Fires (.feeder reply) { world with shared := shared, feeder := pos }
  | server {session reply shared pos}
    (moved
      : tcpServer world.shared reply (decide (world.listener session = .exited))
          (world.server session)
        = some (shared, pos))
    : world.Fires (.server session reply)
        { world with
          shared := shared
          server := Function.update world.server session pos
          listener :=
            if world.server session = .createListener then
              Function.update world.listener session (.loop .initial)
            else world.listener }
  | listener {session reply shared pos}
    (moved : commandListener world.shared reply (world.listener session) = some (shared, pos))
    : world.Fires (.listener session reply)
        { world with
          shared := shared
          listener := Function.update world.listener session pos }
  | stopper {caller shared pos}
    (moved : sdrtcpStopServingClient world.shared (world.stopper caller) = some (shared, pos))
    : world.Fires (.stopper caller)
        { world with
          shared := shared
          stopper := Function.update world.stopper caller pos }

/-- The owner's steps are those of the function it is inside. -/
theorem World.fires_of_ownerStep {world next : World} {reply : Reply}
    (fired : world.ownerStep reply = some next)
    : world.Fires (.owner reply) next := by
  unfold World.ownerStep at fired
  cases owner : world.owner with
  | opening arguments pos =>
      simp only [owner] at fired
      obtain ⟨⟨shared, progress⟩, moved, rest⟩ := Option.bind_eq_some_iff.mp fired
      cases progress with
      | point following =>
          cases rest
          exact .opening owner moved
      | returned success =>
          cases rest
          exact .opened owner moved
  | serving pos =>
      simp only [owner] at fired
      obtain ⟨⟨shared, progress⟩, moved, rest⟩ := Option.bind_eq_some_iff.mp fired
      cases progress with
      | point following =>
          cases rest
          exact .serving owner moved
      | returned created =>
          cases created with
          | false =>
              cases rest
              exact .refused owner moved
          | true =>
              cases rest
              exact .created owner moved
  | _ =>
      simp only [owner] at fired
      cases fired

/-- Everything an enabled choice can do. Witness: each event's branch of `World.step`. -/
theorem World.step_cases {world next : World} {event : Event}
    (fired : world.step event = some next)
    : world.Fires event next := by
  cases event with
  | openSocket arguments =>
      unfold World.step at fired
      cases owner : world.owner <;> simp only [owner] at fired <;> cases fired
      · exact .openSocket (.inl owner)
      · exact .openSocket (.inr ⟨_, owner⟩)
  | serveClientAsync =>
      simp only [World.step] at fired
      split at fired
      · rename_i owner
        cases fired
        exact .serveClientAsync owner
      · cases fired
  | feed call =>
      simp only [World.step] at fired
      split at fired
      · rename_i result feeder
        by_cases valid : call.Valid
        · simp only [valid, if_true] at fired
          cases fired
          exact .feed feeder valid
        · simp [valid] at fired
      · cases fired
  | stop caller =>
      simp only [World.step] at fired
      split at fired
      · rename_i idle
        cases fired
        exact .stop idle
      · cases fired
  | owner reply => exact World.fires_of_ownerStep fired
  | feeder reply =>
      obtain ⟨⟨shared, pos⟩, moved, rest⟩ := Option.bind_eq_some_iff.mp fired
      cases rest
      exact .feeder moved
  | server session reply =>
      obtain ⟨⟨shared, pos⟩, moved, rest⟩ := Option.bind_eq_some_iff.mp fired
      cases rest
      exact .server moved
  | listener session reply =>
      obtain ⟨⟨shared, pos⟩, moved, rest⟩ := Option.bind_eq_some_iff.mp fired
      cases rest
      exact .listener moved
  | stopper caller =>
      obtain ⟨⟨shared, pos⟩, moved, rest⟩ := Option.bind_eq_some_iff.mp fired
      cases rest
      exact .stopper moved

/-- Only a call of `sdrtcp_open_socket` counts as one. -/
theorem World.Fires.opens {world next : World} {event : Event}
    (fires : world.Fires event next)
    : next.opens = world.opens
      ∨ (∃ arguments, event = .openSocket arguments) ∧ next.opens = world.opens + 1 := by
  cases fires with
  | openSocket => exact .inr ⟨⟨_, rfl⟩, rfl⟩
  | _ => exact .inl rfl

/-- A server thread is created by an owner inside `sdrtcp_serve_client_async`. -/
theorem World.Fires.launches {world next : World} {event : Event}
    (fires : world.Fires event next)
    : next.servers = world.servers
      ∨ (∃ pos, world.owner = .serving pos) ∧ next.servers = world.servers + 1 := by
  cases fires with
  | created inside => exact .inr ⟨⟨_, inside⟩, rfl⟩
  | _ => exact .inl rfl

/-- An owner is inside `sdrtcp_serve_client_async` only by its call. -/
theorem World.Fires.serving_of_owner {world next : World} {event : Event}
    (fires : world.Fires event next) {pos : ServePoint} (inside : next.owner = .serving pos)
    : (∃ before, world.owner = .serving before) ∨ event = .serveClientAsync := by
  cases fires with
  | openSocket | opening | opened | refused | created => cases inside
  | serveClientAsync => exact .inr rfl
  | serving before => exact .inl ⟨_, before⟩
  | feed | stop | feeder | server | listener | stopper => exact .inl ⟨_, inside⟩

end RtlTcpAndro.SdrTcp
