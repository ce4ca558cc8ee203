import RtlTcpAndro.SdrTcp.StateWord

/-! One session of an object: which stages each position of its threads can meet.
The bounds hold for every interleaving, late stop requests included; later results narrow
them for the runs they speak about.
-/

namespace RtlTcpAndro.SdrTcp

open RtlTcpAndro.Interleaving

/-- The stages the owner can meet while no server thread exists. -/
def OwnerPoint.stages : OwnerPoint → List Stage
  | .idle => [.uninitialized]
  | .opening _ pos =>
      match pos with
      | .testUninitialized | .clearListenSocket | .initialise => [.uninitialized]
      | .testInitialized | .createSocket | .publishSocket => [.initialized, .uninitialized]
      | _ => [.initialized, .socketOpen, .uninitialized]
  | .opened _ => [.socketOpen, .uninitialized]
  | .serving .createThread => [.clientOpenStartedAsync, .needsStopping, .uninitialized]
  | .serving _ => [.socketOpen, .uninitialized]

/-- The stages the session's server thread can meet. -/
def ServerPoint.stages : ServerPoint → List Stage
  | .notStarted => []
  | .waiting .loop | .testClientOpen =>
      [.clientOpenStartedAsync, .clientOpen, .needsStopping, .uninitialized]
  | .waiting _ => [.clientOpenStartedAsync, .needsStopping, .uninitialized]
  | .createListener | .storeServing => [.clientOpen, .needsStopping, .uninitialized]
  | .serving _ => [.clientServing, .needsStopping, .uninitialized]
  | .join => [.needsStopping, .uninitialized]
  | .testFinal | .cleanup => [.clientOpenStartedAsync, .needsStopping, .uninitialized]
  | .closedcb | .exited => [.needsStopping, .uninitialized]

/-- The stages a session can be in, told by its server thread once that exists. -/
def World.stages (world : World) : List Stage :=
  if world.servers = 0 then world.owner.stages else (world.server 0).stages

/-- The server thread has not created its listener. -/
def ServerPoint.listenerless : ServerPoint → Bool
  | .notStarted | .waiting _ | .testClientOpen | .createListener => true
  | _ => false

/-- The server thread has waited for the end of its listener, if it had one. -/
def ServerPoint.joined : ServerPoint → Bool
  | .testFinal | .cleanup | .closedcb | .exited => true
  | _ => false

/-- What relates the threads of an object's only session. -/
structure World.OneSession (world : World) : Prop where
  fresh : world.opens = 0 → world.owner = .idle ∧ world.servers = 0
  served : world.servers = 0 ∨ world.servers = 1 ∧ world.owner = .idle
  absent
    : ∀ session,
        world.servers ≤ session
        → world.server session = .notStarted ∧ world.listener session = .notStarted
  stage : world.shared.control.state ∈ world.stages
  listenerless
    : (world.server 0).listenerless = true → world.listener 0 = .notStarted
  joined
    : (world.server 0).joined = true
      → world.listener 0 = .notStarted ∨ world.listener 0 = .exited
  accompanied
    : (world.server 0).listenerless = false
      → (world.server 0).joined = false
      → world.listener 0 ≠ .notStarted
  stopping
    : ∀ caller,
        world.stopper caller = .storeNeedsStopping → .needsStopping ∈ world.stages

/-- A session can be cleaned up at every position. -/
theorem OwnerPoint.uninitialized_mem_stages (owner : OwnerPoint)
    : .uninitialized ∈ owner.stages := by
  unfold OwnerPoint.stages
  split <;> try split
  all_goals simp

/-- A stage from `STAGE_CLIENT_OPEN_STARTED_ASYNC` on allows a stop request to be stored. -/
theorem OwnerPoint.needsStopping_mem_stages {owner : OwnerPoint} {stage : Stage}
    (member : stage ∈ owner.stages) (started : 4 ≤ stage.code)
    : .needsStopping ∈ owner.stages := by
  revert member
  unfold OwnerPoint.stages
  split <;> try split
  all_goals cases stage <;> simp_all [Stage.code]

/-- A running server thread can find its session cleaned up or asked to stop. -/
theorem ServerPoint.ending_mem_stages {pos : ServerPoint} {stage : Stage}
    (member : stage ∈ pos.stages)
    : .uninitialized ∈ pos.stages ∧ .needsStopping ∈ pos.stages := by
  revert member
  unfold ServerPoint.stages
  split <;> simp

/-- A session that can be asked to stop has a listening socket, or was cleaned up. -/
theorem OwnerPoint.code_of_needsStopping {owner : OwnerPoint} {stage : Stage}
    (member : stage ∈ owner.stages) (started : .needsStopping ∈ owner.stages)
    : stage = .uninitialized ∨ Stage.socketOpen.code ≤ stage.code := by
  revert member started
  unfold OwnerPoint.stages
  split <;> try split
  all_goals cases stage <;> simp [Stage.code]

/-- A session with a server thread has a listening socket, or was cleaned up. -/
theorem ServerPoint.code_of_mem_stages {pos : ServerPoint} {stage : Stage}
    (member : stage ∈ pos.stages)
    : stage = .uninitialized ∨ Stage.socketOpen.code ≤ stage.code := by
  revert member
  unfold ServerPoint.stages
  split <;> cases stage <;> simp [Stage.code]

/-- No client is served before there is a server thread. -/
theorem OwnerPoint.serving_not_mem_stages (owner : OwnerPoint)
    : .clientServing ∉ owner.stages := by
  unfold OwnerPoint.stages
  split <;> try split
  all_goals simp

/-- A client is served only inside `serveClient`. -/
theorem ServerPoint.serving_mem_stages {pos : ServerPoint}
    (member : .clientServing ∈ pos.stages)
    : ∃ inner, pos = .serving inner := by
  revert member
  unfold ServerPoint.stages
  split <;> simp

/-- `sdrtcp_open_socket` stays within the stages of its positions, by cases on them. -/
theorem sdrtcpOpenSocket_stages {arguments : OpenArguments} {shared after : Shared}
    {reply : Reply} {pos : OpenPoint} {progress : Progress OpenPoint Bool}
    (moved : sdrtcpOpenSocket arguments shared reply pos = some (after, progress))
    (stage : shared.control.state ∈ (OwnerPoint.opening arguments pos).stages)
    : after.control.state ∈ (OwnerPoint.ofOpening arguments progress).stages := by
  rw [(sdrtcpOpenSocket_state moved).1]
  cases pos with
  | initialise =>
      cases reply with
      | bytes junk =>
          obtain ⟨ready, -, rest⟩ := Option.bind_eq_some_iff.mp moved
          obtain ⟨-, result⟩ := Shared.locked_eq_some.mp rest
          cases result
          simp [OwnerPoint.ofOpening, OwnerPoint.stages, OwnerPoint.stores, Stage.after]
      | _ => cases moved
  | createSocket =>
      cases reply with
      | value result =>
          simp only [sdrtcpOpenSocket] at moved
          split at moved <;> cases moved
          exact stage
      | _ => cases moved
  | publishSocket =>
      obtain ⟨-, result⟩ := Shared.locked_eq_some.mp moved
      cases result
      simp only [OwnerPoint.stages, List.mem_cons, List.not_mem_nil, or_false] at stage
      by_cases missing : shared.control.listenSocket = -1 <;> rcases stage with found | found <;>
        simp [missing, found, OwnerPoint.ofOpening, OwnerPoint.stages, OwnerPoint.stores,
          Stage.after]
  | bindAndListen =>
      cases reply with
      | value result =>
          cases moved
          exact stage
      | _ => cases moved
  | fail =>
      obtain ⟨-, result⟩ := Shared.locked_eq_some.mp moved
      cases result
      simp [OwnerPoint.ofOpening, OwnerPoint.stages, Stage.after]
  | _ =>
      simp only [sdrtcpOpenSocket] at moved
      try split at moved
      all_goals
        cases moved
        simp [OwnerPoint.ofOpening, OwnerPoint.stages, OwnerPoint.stores, Stage.after]
          at stage ⊢
        grind

/-- The owner after a step of `sdrtcp_serve_client_async` that created no thread. -/
def OwnerPoint.ofServing : Progress ServePoint Bool → OwnerPoint
  | .point following => .serving following
  | .returned _ => .idle

/-- `sdrtcp_serve_client_async` stays within the stages of its positions and, once it created
the server thread, within those of that thread's first position.
-/
theorem sdrtcpServeClientAsync_stages {shared after : Shared} {pos : ServePoint}
    {progress : Progress ServePoint Bool}
    (moved : sdrtcpServeClientAsync shared pos = some (after, progress))
    (stage : shared.control.state ∈ (OwnerPoint.serving pos).stages)
    : after.control.state
      ∈ if progress = .returned true then (ServerPoint.waiting .testStartedAsync).stages
        else (OwnerPoint.ofServing progress).stages := by
  rw [(sdrtcpServeClientAsync_state moved).1]
  cases pos with
  | cleanup =>
      obtain ⟨-, result⟩ := Shared.locked_eq_some.mp moved
      cases result
      simp [OwnerPoint.ofServing, OwnerPoint.stages, Stage.after]
  | createThread =>
      cases moved
      exact stage
  | _ =>
      simp only [sdrtcpServeClientAsync] at moved
      try split at moved
      all_goals
        cases moved
        simp [OwnerPoint.ofServing, OwnerPoint.stages, OwnerPoint.stores, Stage.after]
          at stage ⊢
        try exact stage

/-- `sdrtcp_wait_for_client` stays within the stages of its positions. -/
theorem sdrtcpWaitForClient_stages {shared after : Shared} {reply : Reply} {pos : WaitPoint}
    {progress : Progress WaitPoint Unit}
    (moved : sdrtcpWaitForClient shared reply pos = some (after, progress))
    (stage : shared.control.state ∈ (ServerPoint.waiting pos).stages)
    : after.control.state
      ∈ match progress with
        | .point next => (ServerPoint.waiting next).stages
        | .returned _ => ServerPoint.testClientOpen.stages := by
  rw [sdrtcpWaitForClient_state moved]
  cases pos with
  | select =>
      cases reply with
      | value r =>
          cases moved
          exact stage
      | _ => cases moved
  | accept =>
      cases reply with
      | value result =>
          simp only [sdrtcpWaitForClient] at moved
          split at moved <;> cases moved
          exact stage
      | _ => cases moved
  | _ =>
      simp only [sdrtcpWaitForClient] at moved
      try split at moved
      all_goals
        cases moved
        simp [ServerPoint.stages, ServerPoint.stores] at stage ⊢
        try grind

/-- `serveClient` returns only from its two tests, when the session is no longer served. -/
theorem serveClient_returned {shared after : Shared} {reply : Reply}
    {pos : ServeClientPoint} {result : Unit}
    (moved : serveClient shared reply pos = some (after, .returned result))
    : (pos = .loop ∨ pos = .testServing)
      ∧ after = shared
      ∧ shared.control.state ≠ .clientServing := by
  cases pos with
  | loop =>
      simp only [serveClient] at moved
      split at moved <;> cases moved
      exact ⟨.inl rfl, rfl, by assumption⟩
  | testServing =>
      simp only [serveClient] at moved
      split at moved <;> cases moved
      exact ⟨.inr rfl, rfl, by assumption⟩
  | select sending =>
      cases reply with
      | value r =>
          simp only [serveClient] at moved
          split at moved <;> cases moved
      | _ => cases moved
  | send sending =>
      cases reply with
      | value bytessent =>
          simp only [serveClient] at moved
          split at moved <;> cases moved
      | _ => cases moved
  | _ =>
      simp only [serveClient] at moved
      try split at moved
      all_goals cases moved

/-- `serveClient` meets the stages of a served session, and returns when it has ended. -/
theorem serveClient_stages {shared after : Shared} {reply : Reply} {pos : ServeClientPoint}
    {progress : Progress ServeClientPoint Unit}
    (moved : serveClient shared reply pos = some (after, progress))
    (stage : shared.control.state ∈ (ServerPoint.serving pos).stages)
    : after.control.state
      ∈ match progress with
        | .point next => (ServerPoint.serving next).stages
        | .returned _ => ServerPoint.join.stages := by
  cases progress with
  | point next =>
      rw [serveClient_control moved]
      cases pos <;> simp_all [ServerPoint.stages, ServerPoint.stores]
  | returned result =>
      obtain ⟨-, rfl, ended⟩ := serveClient_returned moved
      simpa [ServerPoint.stages, ended] using stage

/-- `tcp_server` stays within the stages of its positions. -/
theorem tcpServer_stages {shared after : Shared} {reply : Reply} {joined : Bool}
    {pos next : ServerPoint} (moved : tcpServer shared reply joined pos = some (after, next))
    (stage : shared.control.state ∈ pos.stages)
    : after.control.state ∈ next.stages := by
  cases pos with
  | waiting pos =>
      obtain ⟨⟨middle, progress⟩, inner, rest⟩ := Option.bind_eq_some_iff.mp moved
      have effect := sdrtcpWaitForClient_stages inner stage
      cases progress <;> cases rest <;> exact effect
  | serving pos =>
      obtain ⟨⟨middle, progress⟩, inner, rest⟩ := Option.bind_eq_some_iff.mp moved
      have effect := serveClient_stages inner stage
      cases progress <;> cases rest <;> exact effect
  | storeServing =>
      obtain ⟨-, result⟩ := Shared.locked_eq_some.mp moved
      cases result
      simp [ServerPoint.stages]
  | testFinal =>
      obtain ⟨-, result⟩ := Shared.locked_eq_some.mp moved
      cases result
      by_cases fresh : shared.control.state = .uninitialized
      · simp [fresh, ServerPoint.stages]
      · rw [if_pos fresh]
        exact stage
  | cleanup =>
      obtain ⟨-, result⟩ := Shared.locked_eq_some.mp moved
      cases result
      simp [ServerPoint.stages]
  | _ =>
      simp only [tcpServer] at moved
      try split at moved
      all_goals
        cases moved
        try simp_all [ServerPoint.stages]

/-- A server thread that has created its listener never returns to before that. -/
theorem tcpServer_listenerless {shared after : Shared} {reply : Reply} {joined : Bool}
    {pos next : ServerPoint} (moved : tcpServer shared reply joined pos = some (after, next))
    (early : next.listenerless = true)
    : pos.listenerless = true ∧ pos ≠ .createListener := by
  cases pos with
  | waiting pos => exact ⟨rfl, by simp⟩
  | serving pos =>
      obtain ⟨⟨middle, progress⟩, inner, rest⟩ := Option.bind_eq_some_iff.mp moved
      cases progress <;> cases rest <;> cases early
  | storeServing =>
      obtain ⟨-, result⟩ := Shared.locked_eq_some.mp moved
      cases result
      cases early
  | testFinal =>
      obtain ⟨-, result⟩ := Shared.locked_eq_some.mp moved
      cases result
      split at early <;> cases early
  | cleanup =>
      obtain ⟨-, result⟩ := Shared.locked_eq_some.mp moved
      cases result
      cases early
  | _ =>
      simp only [tcpServer] at moved
      try split at moved
      all_goals cases moved
      all_goals first | (cases early; done) | exact ⟨rfl, by simp⟩

/-- A server thread passes its `pthread_join` only once the listener has ended, or without
having created one.
-/
theorem tcpServer_joined {shared after : Shared} {reply : Reply} {joined : Bool}
    {pos next : ServerPoint} (moved : tcpServer shared reply joined pos = some (after, next))
    (late : next.joined = true)
    : pos.joined = true
      ∨ pos.listenerless = true ∧ pos ≠ .createListener
      ∨ pos = .join ∧ joined = true := by
  cases pos with
  | waiting pos => exact .inr (.inl ⟨rfl, by simp⟩)
  | serving pos =>
      obtain ⟨⟨middle, progress⟩, inner, rest⟩ := Option.bind_eq_some_iff.mp moved
      cases progress <;> cases rest <;> cases late
  | storeServing =>
      obtain ⟨-, result⟩ := Shared.locked_eq_some.mp moved
      cases result
      cases late
  | join =>
      cases joined with
      | true => exact .inr (.inr ⟨rfl, rfl⟩)
      | false => cases moved
  | testFinal | cleanup | closedcb | exited => exact .inl rfl
  | _ =>
      simp only [tcpServer] at moved
      try split at moved
      all_goals cases moved
      all_goals first | (cases late; done) | exact .inr (.inl ⟨rfl, by simp⟩)

/-- A listener never becomes one that was not started. -/
theorem commandListener_started {shared after : Shared} {reply : Reply}
    {pos next : ListenerPoint}
    (moved : commandListener shared reply pos = some (after, next))
    : next ≠ .notStarted := by
  cases pos with
  | select receiving =>
      cases reply with
      | value r => cases moved; simp
      | _ => cases moved
  | receive receiving =>
      cases reply with
      | none => cases moved
      | _ =>
          simp only [commandListener] at moved
          split at moved <;> cases moved
          simp
  | _ =>
      simp only [commandListener] at moved
      try split at moved
      all_goals cases moved <;> simp

/-- A server thread runs beside its listener only from its creation on and up to its end. -/
theorem tcpServer_accompanied {shared after : Shared} {reply : Reply} {joined : Bool}
    {pos next : ServerPoint} (moved : tcpServer shared reply joined pos = some (after, next))
    (created : next.listenerless = false) (running : next.joined = false)
    : pos = .createListener ∨ pos.listenerless = false ∧ pos.joined = false := by
  cases pos with
  | waiting pos =>
      obtain ⟨⟨middle, progress⟩, inner, rest⟩ := Option.bind_eq_some_iff.mp moved
      cases progress <;> cases rest <;> cases created
  | createListener => exact .inl rfl
  | testFinal =>
      obtain ⟨-, result⟩ := Shared.locked_eq_some.mp moved
      cases result
      split at running <;> cases running
  | cleanup =>
      obtain ⟨-, result⟩ := Shared.locked_eq_some.mp moved
      cases result
      cases running
  | storeServing | serving | join => exact .inr ⟨rfl, rfl⟩
  | _ =>
      simp only [tcpServer] at moved
      try split at moved
      all_goals cases moved
      all_goals first | (cases created; done) | cases running

/-- The number of opened sessions only grows. -/
theorem World.Fires.opens_le {world next : World} {event : Event}
    (fires : world.Fires event next)
    : world.opens ≤ next.opens := by
  rcases fires.opens with same | ⟨-, grown⟩ <;> omega

namespace World.OneSession

variable {world : World}

/-- While the owner is inside a call there is no server thread. -/
theorem unserved (session : world.OneSession) (busy : world.owner ≠ .idle)
    : world.servers = 0 := by
  rcases session.served with unserved | ⟨-, idle⟩
  · exact unserved
  · exact absurd idle busy

/-- While the owner is inside a call its position tells the stages. -/
theorem owner_stage (session : world.OneSession) (busy : world.owner ≠ .idle)
    : world.shared.control.state ∈ world.owner.stages := by
  have stage := session.stage
  rwa [World.stages, if_pos (session.unserved busy)] at stage

/-- Only server thread 0 runs, its owner is idle, and its position tells the stages. -/
theorem serving (session : world.OneSession) {index : Nat}
    (running : world.server index ≠ .notStarted ∨ world.listener index ≠ .notStarted)
    : index = 0 ∧ world.servers = 1 ∧ world.owner = .idle
      ∧ world.shared.control.state ∈ (world.server 0).stages := by
  have exists_ : index < world.servers := by
    by_contra absent
    obtain ⟨server, listener⟩ := session.absent index (by omega)
    simp [server, listener] at running
  rcases session.served with unserved | ⟨one, idle⟩
  · omega
  · have stage := session.stage
    rw [World.stages, if_neg (by omega)] at stage
    exact ⟨by omega, one, idle, stage⟩

/-- While a client is served, server thread 0 is inside `serveClient`. -/
theorem serving_position (session : world.OneSession)
    (serving : world.shared.control.state = .clientServing)
    : ∃ inner, world.server 0 = .serving inner := by
  have stage := session.stage
  rw [serving, World.stages] at stage
  split at stage
  · exact absurd stage (OwnerPoint.serving_not_mem_stages _)
  · exact ServerPoint.serving_mem_stages stage

/-- A session can be cleaned up at any time. -/
theorem uninitialized_mem (session : world.OneSession)
    : .uninitialized ∈ world.stages := by
  have stage := session.stage
  unfold World.stages at stage ⊢
  split
  · exact OwnerPoint.uninitialized_mem_stages _
  · rename_i served
    rw [if_neg served] at stage
    exact (ServerPoint.ending_mem_stages stage).1

/-- A session that a stop request found started can be asked to stop at any time. -/
theorem needsStopping_mem (session : world.OneSession)
    (started : 4 ≤ world.shared.control.state.code)
    : .needsStopping ∈ world.stages := by
  have stage := session.stage
  unfold World.stages at stage ⊢
  split
  · rename_i unserved
    rw [if_pos unserved] at stage
    exact OwnerPoint.needsStopping_mem_stages stage started
  · rename_i served
    rw [if_neg served] at stage
    exact (ServerPoint.ending_mem_stages stage).2

/-- A step of the owner relates the threads again when it stays within the stages of its
next position.
-/
theorem ownerMoved (session : world.OneSession) {before after : OwnerPoint} {shared : Shared}
    (inside : world.owner = before) (busy : before ≠ .idle)
    (stage
      : world.shared.control.state ∈ before.stages → shared.control.state ∈ after.stages)
    (stopping : .needsStopping ∈ before.stages → .needsStopping ∈ after.stages)
    : ({ world with shared := shared, owner := after } : World).OneSession := by
  subst inside
  have unserved := session.unserved busy
  refine ⟨fun unopened => absurd (session.fresh unopened).1 busy, .inl unserved,
    session.absent, ?_, session.listenerless, session.joined, session.accompanied, ?_⟩
  · rw [World.stages, if_pos unserved]
    exact stage (session.owner_stage busy)
  · intro caller waiting
    have member := session.stopping caller waiting
    rw [World.stages, if_pos unserved] at member ⊢
    exact stopping member

/-- The owner's last step creates server thread 0. -/
theorem started (session : world.OneSession) {pos : ServePoint} {shared : Shared}
    (inside : world.owner = .serving pos)
    (moved : sdrtcpServeClientAsync world.shared pos = some (shared, .returned true))
    : ({ world with
          shared := shared
          owner := .idle
          server := Function.update world.server world.servers (.waiting .testStartedAsync)
          servers := world.servers + 1 } : World).OneSession := by
  have busy : world.owner ≠ .idle := by simp [inside]
  have unserved := session.unserved busy
  have stage := session.owner_stage busy
  rw [inside] at stage
  have following := sdrtcpServeClientAsync_stages moved stage
  have absent := session.absent 0 (by omega)
  constructor
  case fresh => exact fun unopened => absurd (session.fresh unopened).1 busy
  case served => exact .inr ⟨by simp [unserved], rfl⟩
  case absent =>
    intro index later
    have later : world.servers + 1 ≤ index := later
    have absent := session.absent index (by omega)
    exact ⟨(Function.update_of_ne (by omega) ..).trans absent.1, absent.2⟩
  case stage => simpa [World.stages, unserved] using following
  case listenerless => exact fun _ => absent.2
  case joined => exact fun _ => .inl absent.2
  case accompanied =>
    intro created
    simp [unserved, ServerPoint.listenerless] at created
  case stopping => simp [World.stages, unserved, ServerPoint.stages]

/-- A step of a server thread is one of server thread 0, and keeps it beside its listener. -/
theorem serverMoved (session : world.OneSession) {index : Nat} {reply : Reply} {shared : Shared}
    {pos : ServerPoint}
    (moved
      : tcpServer world.shared reply (decide (world.listener index = .exited))
          (world.server index)
        = some (shared, pos))
    : ({ world with
          shared := shared
          server := Function.update world.server index pos
          listener :=
            if world.server index = .createListener then
              Function.update world.listener index (.loop .initial)
            else world.listener } : World).OneSession := by
  have running : world.server index ≠ .notStarted := by
    intro absent
    rw [absent] at moved
    cases moved
  obtain ⟨rfl, one, idle, stage⟩ := session.serving (.inl running)
  have following := tcpServer_stages moved stage
  constructor
  case fresh => exact fun unopened => by simp [(session.fresh unopened).2] at one
  case served => exact .inr ⟨one, idle⟩
  case absent =>
    intro other later
    have later : world.servers ≤ other := later
    have absent := session.absent other later
    have distinct : other ≠ 0 := by omega
    refine ⟨(Function.update_of_ne distinct ..).trans absent.1, ?_⟩
    dsimp only
    split
    · exact (Function.update_of_ne distinct ..).trans absent.2
    · exact absent.2
  case stage => simpa [World.stages, one] using following
  case listenerless =>
    intro early
    dsimp only at early ⊢
    rw [Function.update_self] at early
    obtain ⟨before, other⟩ := tcpServer_listenerless moved early
    rw [if_neg other]
    exact session.listenerless before
  case joined =>
    intro late
    dsimp only at late ⊢
    rw [Function.update_self] at late
    rcases tcpServer_joined moved late with before | ⟨before, other⟩ | ⟨join, ended⟩
    · rw [if_neg (by intro created; simp [created, ServerPoint.joined] at before)]
      exact session.joined before
    · rw [if_neg other]
      exact .inl (session.listenerless before)
    · rw [if_neg (by simp [join])]
      exact .inr (of_decide_eq_true ended)
  case accompanied =>
    intro created running
    dsimp only at created running ⊢
    rw [Function.update_self] at created running
    rcases tcpServer_accompanied moved created running with fresh | ⟨before, unjoined⟩
    · simp [fresh]
    · rw [if_neg (by intro fresh; simp [fresh, ServerPoint.listenerless] at before)]
      exact session.accompanied before unjoined
  case stopping =>
    intro caller waiting
    simpa [World.stages, one] using (ServerPoint.ending_mem_stages following).2

/-- A step of a listener thread is one of listener 0, and stores no stage but the one that asks
for the end.
-/
theorem listenerMoved (session : world.OneSession) {index : Nat} {reply : Reply}
    {shared : Shared} {pos : ListenerPoint}
    (moved : commandListener world.shared reply (world.listener index) = some (shared, pos))
    : ({ world with
          shared := shared
          listener := Function.update world.listener index pos } : World).OneSession := by
  have running : world.listener index ≠ .notStarted := by
    intro absent
    rw [absent] at moved
    cases moved
  obtain ⟨rfl, one, idle, stage⟩ := session.serving (.inr running)
  constructor
  case fresh => exact session.fresh
  case served => exact session.served
  case absent =>
    intro other later
    have later : world.servers ≤ other := later
    have absent := session.absent other later
    exact ⟨absent.1, (Function.update_of_ne (by omega) ..).trans absent.2⟩
  case stage =>
    simp only [World.stages, one, Nat.one_ne_zero, if_false]
    rcases commandListener_control moved with effect | ⟨-, rfl⟩
    · rw [effect, Control.moved_stored]
      cases stored : (world.listener 0).stores with
      | none => exact stage
      | some following =>
          rw [ListenerPoint.stores_eq stored]
          exact (ServerPoint.ending_mem_stages stage).2
    · exact stage
  case listenerless => exact fun early => absurd (session.listenerless early) running
  case joined =>
    intro late
    rcases session.joined late with absent | exited
    · exact absurd absent running
    · rw [exited] at moved
      cases moved
  case accompanied =>
    intro _ _
    dsimp only
    rw [Function.update_self]
    exact commandListener_started moved
  case stopping => exact session.stopping

/-- A stop request moves no other thread: it stays within the session's stages. -/
theorem stopperAt (session : world.OneSession) {shared : Shared} {caller : Nat}
    {pos : StopPoint} (stage : shared.control.state ∈ world.stages)
    (stopping : pos = .storeNeedsStopping → .needsStopping ∈ world.stages)
    : ({ world with
          shared := shared
          stopper := Function.update world.stopper caller pos } : World).OneSession := by
  refine ⟨session.fresh, session.served, session.absent, stage, session.listenerless,
    session.joined, session.accompanied, ?_⟩
  intro other waiting
  have waiting : Function.update world.stopper caller pos other = .storeNeedsStopping := waiting
  by_cases same : other = caller
  · rw [same, Function.update_self] at waiting
    exact stopping waiting
  · rw [Function.update_of_ne same] at waiting
    exact session.stopping other waiting

end World.OneSession

/-- A stop request stays within the stages of the session it found. -/
theorem World.OneSession.stopperMoved {world : World} (session : world.OneSession)
    {caller : Nat} {shared : Shared} {pos : StopPoint}
    (moved : sdrtcpStopServingClient world.shared (world.stopper caller) = some (shared, pos))
    : shared.control.state ∈ world.stages
      ∧ (pos = .storeNeedsStopping → .needsStopping ∈ world.stages) := by
  rw [sdrtcpStopServingClient_state moved]
  cases position : world.stopper caller with
  | testStage =>
      simp only [position, sdrtcpStopServingClient] at moved
      split at moved <;> cases moved
      · exact ⟨session.stage, by simp⟩
      · rename_i started
        exact ⟨session.stage,
          fun _ => session.needsStopping_mem (by simpa [Stage.code] using started)⟩
  | cleanup =>
      rw [position] at moved
      obtain ⟨-, result⟩ := Shared.locked_eq_some.mp moved
      cases result
      exact ⟨session.uninitialized_mem, by simp⟩
  | storeNeedsStopping =>
      rw [position] at moved
      cases moved
      exact ⟨session.stopping caller position, by simp⟩
  | _ =>
      simp only [position, sdrtcpStopServingClient] at moved
      try split at moved
      all_goals cases moved <;> exact ⟨session.stage, by simp⟩

/-- Every step within one session keeps its threads related. -/
theorem World.Fires.oneSession {world next : World} {event : Event}
    (fires : world.Fires event next) (session : world.OneSession) (once : next.opens ≤ 1)
    : next.OneSession := by
  cases fires with
  | openSocket outside =>
      obtain ⟨idle, unserved⟩ := session.fresh (by simp at once; omega)
      have stage := session.stage
      rw [World.stages, if_pos unserved, idle] at stage
      refine ⟨by simp, .inl unserved, session.absent, ?_, session.listenerless,
        session.joined, session.accompanied, ?_⟩
      · rw [World.stages, if_pos unserved]
        exact stage
      · intro caller waiting
        have member := session.stopping caller waiting
        rw [World.stages, if_pos unserved, idle] at member
        simp [OwnerPoint.stages] at member
  | serveClientAsync opened =>
      exact session.ownerMoved opened (by simp) (fun stage => stage) (by simp [OwnerPoint.stages])
  | feed outside valid => exact { session with }
  | @stop caller outside => exact session.stopperAt session.stage (by simp)
  | @opening reply arguments pos shared next inside moved =>
      refine session.ownerMoved inside (by simp) (sdrtcpOpenSocket_stages moved) ?_
      cases pos <;> simp [OwnerPoint.stages]
  | @opened reply arguments pos shared success inside moved =>
      refine session.ownerMoved inside (by simp) (sdrtcpOpenSocket_stages moved) ?_
      cases pos <;> simp [OwnerPoint.stages]
  | @serving reply pos shared next inside moved =>
      refine session.ownerMoved inside (by simp) (sdrtcpServeClientAsync_stages moved) ?_
      cases pos with
      | createThread => cases moved
      | _ => simp [OwnerPoint.stages]
  | @refused reply pos shared inside moved =>
      refine session.ownerMoved inside (by simp) (sdrtcpServeClientAsync_stages moved) ?_
      cases pos with
      | createThread => cases moved
      | _ => simp [OwnerPoint.stages]
  | created inside moved => exact session.started inside moved
  | feeder moved =>
      have control := sdrtcpFeed_control moved
      exact { session with stage := by rw [control]; exact session.stage }
  | server moved => exact session.serverMoved moved
  | listener moved => exact session.listenerMoved moved
  | stopper moved =>
      obtain ⟨stage, stopping⟩ := session.stopperMoved moved
      exact session.stopperAt stage stopping

/-- In every reachable state of an object's first session its threads are related. -/
theorem oneSession_of_reachable {world : World} (reachable : server.Reachable world)
    (once : world.opens ≤ 1)
    : world.OneSession := by
  refine reachable.invariant (fun world => world.opens ≤ 1 → world.OneSession) ?_ ?_ once
  · intro start initial _
    obtain ⟨workpool, rfl⟩ := initial
    exact ⟨fun _ => ⟨rfl, rfl⟩, .inl rfl, fun _ _ => ⟨rfl, rfl⟩, by simp [World.stages,
      World.initial, OwnerPoint.stages], fun _ => rfl, fun _ => .inl rfl, nofun, nofun⟩
  · intro current choice next _ known fired once
    have fires := World.step_cases fired
    exact fires.oneSession (known (Nat.le_trans fires.opens_le once)) once

end RtlTcpAndro.SdrTcp
