import RtlTcpAndro.SdrTcp.StateWord

/-! Who holds a buffer of the pool, and which steps touch the pool or the sample stream.
A buffer is in a queue or held by a thread between a call that returned it and the call
that passes it on.
-/

namespace RtlTcpAndro.SdrTcp

open RtlTcpAndro.Interleaving

/-- The buffer `pool_get_wait_lock` has allocated but not returned. -/
def GetPoint.held : GetPoint → Option Nat
  | .loadElements result | .storeElements result _ => some result
  | _ => none

/-- The buffer `sdrtcp_feed` holds. -/
def FeedPoint.held : FeedPoint → Option Nat
  | .get _ pos => pos.held
  | .prepare _ buffer | .copy _ buffer | .pass _ buffer _ => some buffer
  | _ => none

/-- Whether `sdrtcp_feed` is inside its critical section. -/
def FeedPoint.inSection : FeedPoint → Bool
  | .testLocked _ | .get _ _ | .prepare _ _ | .copy _ _ | .pass _ _ _ | .unlock _ => true
  | .testWaiting _ holdsLock => holdsLock
  | _ => false

/-- The buffer `serveClient` holds. -/
def ServeClientPoint.held : ServeClientPoint → Option Nat
  | .loop | .testServing => none
  | .get pos => pos.held
  | .measure buffer | .pass buffer _ => some buffer
  | .sendLoop sending | .testSelect sending | .select sending | .storeSelectFailed sending
  | .testSend sending _ | .send sending | .testSendFailed sending _
  | .storeSendFailed sending => some sending.buffer

/-- The buffer a server thread holds. -/
def ServerPoint.held : ServerPoint → Option Nat
  | .serving pos => pos.held
  | _ => none

/-- A thread that holds a buffer in `sdrtcp_feed` is inside the critical section. -/
theorem FeedPoint.inSection_of_held {pos : FeedPoint} {buffer : Nat}
    (held : pos.held = some buffer)
    : pos.inSection = true := by
  cases pos <;> first | rfl | cases held

/-- What one step of `pool_get_wait_lock` can do; only stage 0 allocates. -/
inductive GetOutcome (id : Nat) (pool : WorkPool) (pos : GetPoint)
    : WorkPool → Progress GetPoint (Option Nat) → Prop
  | waits {next : GetPoint} (same : next.held = pos.held) (first : next = .allocate → id = 0)
    : GetOutcome id pool pos pool (.point next)
  | empty (free : pos.held = none) : GetOutcome id pool pos pool (.returned none)
  | popped {buffer rest} (free : pos.held = none) (queue : pool.queues id = buffer :: rest)
    : GetOutcome id pool pos { pool with queues := Function.update pool.queues id rest }
        (.returned (some buffer))
  | fresh (position : pos = .allocate)
    : GetOutcome id pool pos
        { pool.setBuffer pool.allocated (extbufferInit pool.extbufferType) with
          allocated := pool.allocated + 1 }
        (.point (.loadElements pool.allocated))
  | obtained {buffer elements} (holding : pos.held = some buffer)
    : GetOutcome id pool pos { pool with elements := elements } (.returned (some buffer))

/-- A pop takes the head of its queue, or leaves the pool alone. -/
theorem queuePop_cases (id : Nat) (pool : WorkPool)
    : pool.queuePop id = (none, pool)
      ∨ ∃ buffer rest,
          pool.queues id = buffer :: rest
          ∧ pool.queuePop id
            = (some buffer, { pool with queues := Function.update pool.queues id rest }) := by
  cases queue : pool.queues id with
  | nil => exact .inl (WorkPool.queuePop_nil queue)
  | cons buffer rest => exact .inr ⟨buffer, rest, rfl, WorkPool.queuePop_cons queue⟩

/-- Every step of `pool_get_wait_lock` has one of these outcomes. -/
theorem poolGetWaitLock_outcome (id : Nat) (block : Bool) (pool : WorkPool) (pos : GetPoint)
    : GetOutcome id pool pos (poolGetWaitLock id block pool pos).1
        (poolGetWaitLock id block pool pos).2 := by
  cases pos with
  | checkValid =>
      simp only [poolGetWaitLock]
      split
      · exact .waits rfl nofun
      · exact .empty rfl
  | tryPop =>
      simp only [poolGetWaitLock]
      split
      · rcases queuePop_cases id pool with same | ⟨buffer, rest, queue, popped⟩
        · rw [same]
          exact .waits rfl nofun
        · rw [popped]
          exact .popped rfl queue
      · exact .waits rfl nofun
  | testCapacity =>
      simp only [poolGetWaitLock]
      split
      · rename_i room
        exact .waits rfl (fun _ => room.1)
      · split
        · exact .waits rfl nofun
        · exact .empty rfl
  | allocate => exact .fresh rfl
  | loadElements result => exact .waits rfl nofun
  | storeElements result elements => exact .obtained rfl
  | waitPop =>
      simp only [poolGetWaitLock]
      split
      · rcases queuePop_cases id pool with same | ⟨buffer, rest, queue, popped⟩
        · rw [same]
          exact .waits rfl nofun
        · rw [popped]
          exact .popped rfl queue
      · exact .empty rfl
  | timedPop =>
      simp only [poolGetWaitLock]
      rcases queuePop_cases id pool with same | ⟨buffer, rest, queue, popped⟩
      · rw [same]
        exact .empty rfl
      · rw [popped]
        exact .popped rfl queue

/-- Taking a buffer does not touch the pool's constants. -/
theorem GetOutcome.constants {id : Nat} {pool after : WorkPool} {pos : GetPoint}
    {progress : Progress GetPoint (Option Nat)}
    (outcome : GetOutcome id pool pos after progress)
    : after.valid = pool.valid
      ∧ after.maxIds = pool.maxIds
      ∧ after.extbufferType = pool.extbufferType := by
  cases outcome <;> exact ⟨rfl, rfl, rfl⟩

/-- Passing a buffer on does not touch the pool's constants. -/
theorem poolGetUnlock_constants (id buffer : Nat) (pool : WorkPool) (pos : UnlockPoint)
    : (poolGetUnlock id buffer pool pos).1.valid = pool.valid
      ∧ (poolGetUnlock id buffer pool pos).1.maxIds = pool.maxIds
      ∧ (poolGetUnlock id buffer pool pos).1.extbufferType = pool.extbufferType := by
  cases pos <;> simp only [poolGetUnlock] <;> try split
  all_goals exact ⟨rfl, rfl, rfl⟩

/-- A freed pool is invalid. -/
@[simp] theorem poolFree_valid (pool : WorkPool) : (poolFree pool).valid = false := by
  unfold poolFree
  split <;> rfl

/-- The part of the traffic that the sample stream consists of. -/
def Traffic.stream (traffic : Traffic)
    : Option OpenArguments × List (List UInt8) × List UInt8 :=
  (traffic.opened, traffic.fed, traffic.sent)

/-- A step that cleans up or leaves the pool alone, and leaves the sample stream alone. -/
structure Shared.Aside (cleaned : Bool) (shared after : Shared) : Prop where
  pool
    : after.workpool
      = if cleaned then (sdrtcpCleanup shared).workpool else shared.workpool
  locker : after.stateLocker = shared.stateLocker
  free : cleaned = true → shared.stateLocker = false
  stream : after.traffic.stream = shared.traffic.stream

/-- A step that writes control fields only. -/
theorem Shared.aside_of_control {shared after : Shared} (control : Control)
    (same : after = { shared with control := control })
    : shared.Aside false after := by
  subst same
  exact ⟨rfl, rfl, nofun, rfl⟩

/-- The cleanup, entered with the lock free. -/
theorem Shared.aside_of_cleanup {shared : Shared} (free : shared.stateLocker = false)
    : shared.Aside true (sdrtcpCleanup shared) :=
  ⟨rfl, rfl, fun _ => free, rfl⟩

/-- A listener leaves the sample stream alone. -/
theorem commandListener_aside {shared after : Shared} {reply : Reply}
    {pos next : ListenerPoint}
    (moved : commandListener shared reply pos = some (after, next))
    : shared.Aside false after := by
  cases pos with
  | select receiving =>
      cases reply with
      | value r =>
          cases moved
          exact Shared.aside_of_control _ rfl
      | _ => cases moved
  | receive receiving =>
      cases reply with
      | none => cases moved
      | _ =>
          simp only [commandListener] at moved
          split at moved <;> cases moved
          exact Shared.aside_of_control _ rfl
  | testComplete receiving =>
      simp only [commandListener] at moved
      split at moved <;> cases moved <;> exact ⟨rfl, rfl, by rintro ⟨⟩, rfl⟩
  | _ =>
      simp only [commandListener] at moved
      try split at moved
      all_goals cases moved <;> exact Shared.aside_of_control _ rfl

/-- `sdrtcp_wait_for_client` leaves the sample stream alone. -/
theorem sdrtcpWaitForClient_aside {shared after : Shared} {reply : Reply} {pos : WaitPoint}
    {progress : Progress WaitPoint Unit}
    (moved : sdrtcpWaitForClient shared reply pos = some (after, progress))
    : shared.Aside false after := by
  cases pos with
  | select =>
      cases reply with
      | value r =>
          cases moved
          exact Shared.aside_of_control _ rfl
      | _ => cases moved
  | accept =>
      cases reply with
      | value result =>
          simp only [sdrtcpWaitForClient] at moved
          split at moved <;> cases moved
          exact Shared.aside_of_control _ rfl
      | _ => cases moved
  | _ =>
      simp only [sdrtcpWaitForClient] at moved
      try split at moved
      all_goals
        cases moved
        exact Shared.aside_of_control _ rfl

/-- Outside `serveClient` a server thread leaves the sample stream alone, but for its
cleanup, and enters `serveClient` at its beginning.
-/
theorem tcpServer_aside {shared after : Shared} {reply : Reply} {joined : Bool}
    {pos next : ServerPoint} (moved : tcpServer shared reply joined pos = some (after, next))
    (outside : ∀ inner, pos ≠ .serving inner)
    : shared.Aside (decide (pos = .cleanup)) after
      ∧ ∀ inner, next = .serving inner → inner = .loop := by
  cases pos with
  | waiting pos =>
      obtain ⟨⟨middle, progress⟩, inner, rest⟩ := Option.bind_eq_some_iff.mp moved
      have effect := sdrtcpWaitForClient_aside inner
      cases progress <;> cases rest <;> exact ⟨effect, by rintro _ ⟨⟩⟩
  | serving pos => exact absurd rfl (outside pos)
  | storeServing =>
      obtain ⟨-, result⟩ := Shared.locked_eq_some.mp moved
      cases result
      exact ⟨Shared.aside_of_control _ rfl, by simp⟩
  | testFinal =>
      obtain ⟨-, result⟩ := Shared.locked_eq_some.mp moved
      cases result
      refine ⟨Shared.aside_of_control _ rfl, ?_⟩
      split <;> simp
  | cleanup =>
      obtain ⟨free, result⟩ := Shared.locked_eq_some.mp moved
      cases result
      exact ⟨Shared.aside_of_cleanup free, by rintro _ ⟨⟩⟩
  | _ =>
      simp only [tcpServer] at moved
      try split at moved
      all_goals cases moved <;> exact ⟨Shared.aside_of_control _ rfl, by rintro _ ⟨⟩⟩

/-- A stop request leaves the sample stream alone, but for its cleanup. -/
theorem sdrtcpStopServingClient_aside {shared after : Shared} {pos next : StopPoint}
    (moved : sdrtcpStopServingClient shared pos = some (after, next))
    : shared.Aside (decide (pos = .cleanup)) after := by
  cases pos with
  | cleanup =>
      obtain ⟨free, result⟩ := Shared.locked_eq_some.mp moved
      cases result
      exact ⟨rfl, rfl, fun _ => free, rfl⟩
  | _ =>
      simp only [sdrtcpStopServingClient] at moved
      try split at moved
      all_goals cases moved <;> exact Shared.aside_of_control _ rfl

/-- `sdrtcp_serve_client_async` leaves the sample stream alone, but for its cleanup. -/
theorem sdrtcpServeClientAsync_aside {shared after : Shared} {pos : ServePoint}
    {progress : Progress ServePoint Bool}
    (moved : sdrtcpServeClientAsync shared pos = some (after, progress))
    : shared.Aside (decide (pos = .cleanup)) after := by
  cases pos with
  | cleanup =>
      obtain ⟨free, result⟩ := Shared.locked_eq_some.mp moved
      cases result
      exact Shared.aside_of_cleanup free
  | _ =>
      simp only [sdrtcpServeClientAsync] at moved
      try split at moved
      all_goals
        cases moved
        exact Shared.aside_of_control _ rfl

/-- After its first critical section `sdrtcp_open_socket` leaves the sample stream alone,
but for its cleanup.
-/
theorem sdrtcpOpenSocket_aside {arguments : OpenArguments} {shared after : Shared}
    {reply : Reply} {pos : OpenPoint} {progress : Progress OpenPoint Bool}
    (moved : sdrtcpOpenSocket arguments shared reply pos = some (after, progress))
    (later : pos ≠ .initialise)
    : shared.Aside (decide (pos = .fail)) after := by
  cases pos with
  | initialise => exact absurd rfl later
  | createSocket =>
      cases reply with
      | value result =>
          simp only [sdrtcpOpenSocket] at moved
          split at moved <;> cases moved
          exact Shared.aside_of_control _ rfl
      | _ => cases moved
  | publishSocket =>
      obtain ⟨-, result⟩ := Shared.locked_eq_some.mp moved
      cases result
      split <;> exact Shared.aside_of_control _ rfl
  | bindAndListen =>
      cases reply with
      | value result =>
          cases moved
          exact Shared.aside_of_control _ rfl
      | _ => cases moved
  | fail =>
      obtain ⟨free, result⟩ := Shared.locked_eq_some.mp moved
      cases result
      exact Shared.aside_of_cleanup free
  | _ =>
      simp only [sdrtcpOpenSocket] at moved
      try split at moved
      all_goals
        cases moved
        exact Shared.aside_of_control _ rfl

/-- A server thread after a step of `serveClient`. -/
def ServerPoint.ofServing : Progress ServeClientPoint Unit → ServerPoint
  | .point following => .serving following
  | .returned _ => .join

/-- Which steps touch the pool or the sample stream: the first critical section of
`sdrtcp_open_socket`, a step of `sdrtcp_feed` or of a `serveClient`, and a cleanup.
-/
inductive World.Streams (world : World) (event : Event) (next : World) : Prop
  | aside (aside : world.shared.Aside (world.cleansUp event) next.shared)
    (stores : world.stores event ≠ some .initialized)
    (feeder
      : next.feeder = world.feeder
        ∨ ∃ result call,
            world.feeder = .returned result
            ∧ call.Valid
            ∧ next.feeder = .testServing call)
    (serving
      : ∀ session,
          next.server session = world.server session
          ∨ (world.servers ≤ session ∨ ∀ pos, world.server session ≠ .serving pos)
            ∧ ∀ pos, next.server session = .serving pos → pos = .loop)
  | initialised {arguments junk} (chosen : event = .owner (.bytes junk))
    (position : world.owner = .opening arguments .initialise)
    (ready : initialise world.shared arguments junk = some next.shared)
    (free : world.shared.stateLocker = false)
    (feeder : next.feeder = world.feeder)
    (server : next.server = world.server)
  | fed {reply} (chosen : event = .feeder reply)
    (moved : sdrtcpFeed world.shared reply world.feeder = some (next.shared, next.feeder))
    (server : next.server = world.server)
  | served {session reply pos progress} (chosen : event = .server session reply)
    (position : world.server session = .serving pos)
    (moved : serveClient world.shared reply pos = some (next.shared, progress))
    (server
      : next.server = Function.update world.server session (ServerPoint.ofServing progress))
    (feeder : next.feeder = world.feeder)

/-- A server thread does not initialise the object. -/
theorem ServerPoint.stores_ne_initialized {pos : ServerPoint}
    : pos.stores ≠ some .initialized := by
  unfold ServerPoint.stores
  split <;> simp

/-- Every step is of one of these kinds. -/
theorem World.Fires.streams {world next : World} {event : Event}
    (fires : world.Fires event next)
    : world.Streams event next := by
  cases fires with
  | openSocket | serveClientAsync | stop =>
      exact .aside ⟨rfl, rfl, nofun, rfl⟩ nofun (.inl rfl) (fun _ => .inl rfl)
  | @feed call result outside valid =>
      exact .aside ⟨rfl, rfl, nofun, rfl⟩ nofun (.inr ⟨result, call, outside, valid, rfl⟩)
        (fun _ => .inl rfl)
  | @opening reply arguments pos shared next inside moved =>
      by_cases first : pos = .initialise
      · subst first
        cases reply with
        | bytes junk =>
            obtain ⟨ready, initialised, rest⟩ := Option.bind_eq_some_iff.mp moved
            obtain ⟨free, result⟩ := Shared.locked_eq_some.mp rest
            cases result
            exact .initialised rfl inside initialised free rfl rfl
        | _ => cases moved
      · have aside := sdrtcpOpenSocket_aside moved first
        refine .aside ?_ ?_ (.inl rfl) (fun _ => .inl rfl)
        · cases pos <;> simpa [World.cleansUp, inside] using aside
        · cases pos <;> simp [World.stores, OwnerPoint.stores, inside] at first ⊢
  | @opened reply arguments pos shared success inside moved =>
      by_cases first : pos = .initialise
      · subst first
        cases reply with
        | bytes junk =>
            obtain ⟨ready, initialised, rest⟩ := Option.bind_eq_some_iff.mp moved
            obtain ⟨free, result⟩ := Shared.locked_eq_some.mp rest
            cases result
        | _ => cases moved
      · have aside := sdrtcpOpenSocket_aside moved first
        refine .aside ?_ ?_ (.inl rfl) (fun _ => .inl rfl)
        · cases pos <;> simpa [World.cleansUp, inside] using aside
        · cases pos <;> simp [World.stores, OwnerPoint.stores, inside] at first ⊢
  | @serving reply pos shared next inside moved =>
      have aside := sdrtcpServeClientAsync_aside moved
      refine .aside ?_ ?_ (.inl rfl) (fun _ => .inl rfl)
      · cases pos <;> simpa [World.cleansUp, inside] using aside
      · cases pos <;> simp [World.stores, OwnerPoint.stores, inside]
  | @refused reply pos shared inside moved =>
      have aside := sdrtcpServeClientAsync_aside moved
      refine .aside ?_ ?_ (.inl rfl) (fun _ => .inl rfl)
      · cases pos <;> simpa [World.cleansUp, inside] using aside
      · cases pos <;> simp [World.stores, OwnerPoint.stores, inside]
  | @created reply pos shared inside moved =>
      have aside := sdrtcpServeClientAsync_aside moved
      refine .aside ?_ ?_ (.inl rfl) ?_
      · cases pos <;> simpa [World.cleansUp, inside] using aside
      · cases pos <;> simp [World.stores, OwnerPoint.stores, inside]
      · intro session
        by_cases new : session = world.servers
        · exact .inr ⟨.inl new.ge, by simp [new]⟩
        · exact .inl (Function.update_of_ne new ..)
  | feeder moved => exact .fed rfl moved rfl
  | @server index reply shared pos moved =>
      cases position : world.server index with
      | serving inner =>
          rw [position] at moved
          obtain ⟨⟨middle, progress⟩, step, rest⟩ := Option.bind_eq_some_iff.mp moved
          cases progress <;> cases rest <;>
            exact .served rfl position step rfl rfl
      | _ =>
          obtain ⟨aside, entered⟩ := tcpServer_aside moved (by simp [position])
          refine .aside aside ServerPoint.stores_ne_initialized (.inl rfl) ?_
          intro session
          by_cases same : session = index
          · subst same
            refine .inr ⟨.inr (by simp [position]), fun inner serving => ?_⟩
            exact entered inner ((Function.update_self ..).symm.trans serving)
          · exact .inl (Function.update_of_ne same ..)
  | listener moved =>
      refine .aside (commandListener_aside moved) ?_ (.inl rfl) (fun _ => .inl rfl)
      exact fun stored => by cases ListenerPoint.stores_eq stored
  | stopper moved =>
      refine .aside (sdrtcpStopServingClient_aside moved) ?_ (.inl rfl) (fun _ => .inl rfl)
      simp only [World.stores, StopPoint.stores]
      split <;> simp

/-- A buffer the server can send from: it holds `uint16_t`s and its block is accounted for. -/
structure ExtBuffer.Usable (container : ExtBuffer) : Prop where
  ushort : container.type = .ushort
  backed : container.Backed
  nonneg : 0 ≤ container.sizeValidElements

/-- A fresh container is usable. -/
theorem extbufferInit_usable : (extbufferInit .ushort).Usable :=
  ⟨rfl, extbufferInit_backed .ushort, Int.le_refl 0⟩

/-- A usable buffer stays so when its block is overwritten. -/
theorem ExtBuffer.Usable.overwritten {container : ExtBuffer} {block copied : Block}
    (usable : container.Usable) (pointer : container.ushortbuffer = some block)
    (length : copied.length = block.length)
    : ({ container with ushortbuffer := some copied } : ExtBuffer).Usable := by
  refine ⟨usable.ushort, ?_, usable.nonneg⟩
  have backed := usable.backed
  unfold ExtBuffer.Backed at backed ⊢
  simp only [usable.ushort, ExtBuffer.field, pointer] at backed ⊢
  rw [length, backed]

/-- A usable buffer is prepared for any number of elements without a fault, and then has
room for them.
-/
theorem ExtBuffer.Usable.prepared {container : ExtBuffer} (usable : container.Usable)
    (size : Nat) (junk : List UInt8)
    : ∃ ready,
        extbufferPreparetohandle container size (some junk) = some ready
        ∧ ready.Usable
        ∧ ready.sizeValidElements = size
        ∧ (0 < size
          → ∃ block, ready.ushortbuffer = some block ∧ 2 * size ≤ block.length) := by
  rcases Nat.eq_zero_or_pos size with rfl | positive
  · exact ⟨_, extbufferPreparetohandle_zero container _,
      ⟨usable.ushort, usable.backed, Int.le_refl 0⟩, rfl, nofun⟩
  · obtain ⟨ready, block, prepared, type, valid, field, length, room⟩ :=
      preparetohandle_backed junk usable.backed (Int.natCast_pos.mpr positive)
    rw [usable.ushort] at type field length room
    refine ⟨ready, prepared, ⟨type, ?_, valid ▸ Int.natCast_nonneg size⟩, valid,
      fun _ => ⟨block, field, room⟩⟩
    unfold ExtBuffer.Backed
    rw [type, field]
    exact length

/-- With an allocator that succeeds, the header is queued for the server in a buffer of its
own, whose payload it is.
-/
theorem queueHeader_eq {pool : WorkPool} {info : List UInt8} (junk : List UInt8)
    (valid : pool.valid = true) (empty : pool.queues = fun _ => [])
    (room : pool.elements < pool.maxElements) (ids : pool.maxIds = 2)
    (type : pool.extbufferType = .ushort) (nonempty : 0 < info.length / 2)
    (even : 2 * (info.length / 2) = info.length)
    : ∃ header,
        queueHeader pool info junk
          = some
              { pool with
                queues := Function.update pool.queues 1 [pool.allocated]
                elements := pool.elements + 1
                heap := Function.update pool.heap pool.allocated header
                allocated := pool.allocated + 1 }
        ∧ header.Usable
        ∧ header.payload = info := by
  obtain ⟨ready, prepared, usable, size, roomy⟩ :=
    extbufferInit_usable.prepared (info.length / 2) junk
  obtain ⟨block, pointer, fits⟩ := roomy nonempty
  rw [even] at fits
  obtain ⟨copied, copy, sameLength, payload⟩ := memcpyBlock_of_fits (Nat.le_refl _) fits
  have taken
      : runToReturn (poolGetWaitLock 0 true) 8 pool .checkValid
        = some
            ({ pool with
                elements := pool.elements + 1
                heap := Function.update pool.heap pool.allocated (extbufferInit .ushort)
                allocated := pool.allocated + 1 },
              some pool.allocated) := by
    simp [runToReturn, poolGetWaitLock, WorkPool.queuePop, WorkPool.setBuffer, valid, empty,
      room, type]
  have passed (header : ExtBuffer)
      : runToReturn (poolGetUnlock 0 pool.allocated) 8
          { pool with
            elements := pool.elements + 1
            heap := Function.update pool.heap pool.allocated header
            allocated := pool.allocated + 1 }
          .checkValid
        = some
            ({ pool with
                queues := Function.update pool.queues 1 [pool.allocated]
                elements := pool.elements + 1
                heap := Function.update pool.heap pool.allocated header
                allocated := pool.allocated + 1 },
              ()) := by
    simp [runToReturn, poolGetUnlock, WorkPool.queueAdd, valid, empty, ids]
  refine ⟨{ ready with ushortbuffer := some copied }, ?_,
    usable.overwritten pointer sameLength, ?_⟩
  · have passed := passed { ready with ushortbuffer := some copied }
    have half : (info.length : Int) / 2 = (info.length / 2 : Nat) := by omega
    simp only [queueHeader, taken, Option.bind_eq_bind, Option.bind_some, Function.update_self,
      half, prepared, pointer, copy, WorkPool.setBuffer, Function.update_idem, passed]
  · simp only [ExtBuffer.payload, size, Option.getD_some, Int.toNat_natCast, even]
    rw [payload, List.take_length]

/-- The first critical section of `sdrtcp_open_socket` succeeds with an allocator that does,
and leaves a valid pool in which only the header is queued.
-/
theorem initialise_eq (shared : Shared) (arguments : OpenArguments) (junk : List UInt8)
    : ∃ header elements maxElements,
        initialise shared arguments junk
          = some
              { (shared.setState .initialized) with
                workpool :=
                  { queues := Function.update (fun _ => []) 1 [shared.workpool.allocated]
                    maxElements := maxElements
                    maxIds := 2
                    elements := elements
                    extbufferType := .ushort
                    valid := true
                    heap :=
                      Function.update shared.workpool.heap shared.workpool.allocated header
                    allocated := shared.workpool.allocated + 1 }
                traffic :=
                  { shared.traffic with opened := some arguments, fed := [], sent := [] } }
        ∧ header.Usable
        ∧ header.payload = dongleInfo arguments := by
  have prepared
      : poolSetThreads (poolInit shared.workpool poolMaxElements .ushort) 2
        = { shared.workpool with
            queues := fun _ => []
            maxElements := poolMaxElements
            maxIds := 2
            elements := 0
            extbufferType := .ushort
            valid := true } := by
    simp [poolSetThreads, poolInit, poolFree]
  have length : (dongleInfo arguments).length = 12 := rfl
  obtain ⟨header, queued, usable, payload⟩ :=
    @queueHeader_eq
      { shared.workpool with
        queues := fun _ => []
        maxElements := poolMaxElements
        maxIds := 2
        elements := 0
        extbufferType := .ushort
        valid := true }
      (dongleInfo arguments) junk rfl rfl (by simp [poolMaxElements]) rfl rfl (by simp [length])
      (by simp [length])
  refine ⟨header, 0 + 1, poolMaxElements, ?_, usable, payload⟩
  simp only [initialise, prepared, queued, Option.bind_eq_bind, Option.bind_some]

end RtlTcpAndro.SdrTcp
