import RtlTcpAndro.SdrTcp.BufferOwners
import RtlTcpAndro.SdrTcp.OneSession

/-! The state word of one session against the pool and the descriptors it stands for. -/

namespace RtlTcpAndro.SdrTcp

open RtlTcpAndro.Interleaving

/-- The lock is held exactly while `sdrtcp_feed` is inside its critical section. -/
def World.Locked (world : World) : Prop :=
  world.shared.stateLocker = world.feeder.inSection

/-- `sdrtcp_feed` takes and releases the lock at the ends of its critical section, and leaves
the pool's validity and the session's arguments alone.
-/
theorem sdrtcpFeed_frame {shared after : Shared} {reply : Reply} {pos next : FeedPoint}
    (moved : sdrtcpFeed shared reply pos = some (after, next))
    (locked : shared.stateLocker = pos.inSection)
    : after.stateLocker = next.inSection
      ∧ after.workpool.valid = shared.workpool.valid
      ∧ after.traffic.opened = shared.traffic.opened := by
  cases pos with
  | lock call =>
      obtain ⟨-, result⟩ := Shared.locked_eq_some.mp moved
      cases result
      exact ⟨rfl, rfl, rfl⟩
  | get call pos =>
      have outcome := (poolGetWaitLock_outcome 0 true shared.workpool pos).constants
      simp only [sdrtcpFeed] at moved
      split at moved <;> rename_i step <;> rw [step] at outcome <;> cases moved <;>
        exact ⟨locked, outcome.1, rfl⟩
  | prepare call buffer =>
      cases reply with
      | bytes junk =>
          obtain ⟨ready, -, result⟩ := Option.bind_eq_some_iff.mp moved
          cases result
          exact ⟨locked, rfl, rfl⟩
      | _ => cases moved
  | copy call buffer =>
      obtain ⟨copied, -, result⟩ := Option.bind_eq_some_iff.mp moved
      cases result
      exact ⟨locked, rfl, rfl⟩
  | pass call buffer pos =>
      have outcome := poolGetUnlock_constants 0 buffer shared.workpool pos
      simp only [sdrtcpFeed] at moved
      split at moved <;> rename_i step <;> rw [step] at outcome <;> cases moved <;>
        exact ⟨locked, outcome.1, rfl⟩
  | testWaiting stages holdsLock =>
      cases stages with
      | nil =>
          cases moved
          cases holdsLock <;> exact ⟨locked, rfl, rfl⟩
      | cons stage stages =>
          simp only [sdrtcpFeed] at moved
          split at moved <;> cases moved <;> cases holdsLock <;> exact ⟨locked, rfl, rfl⟩
  | unlock result =>
      cases moved
      exact ⟨rfl, rfl, rfl⟩
  | _ =>
      simp only [sdrtcpFeed] at moved
      try split at moved
      all_goals cases moved <;> exact ⟨locked, rfl, rfl⟩

/-- `serveClient` leaves the lock, the pool's validity and the session's arguments alone. -/
theorem serveClient_frame {shared after : Shared} {reply : Reply} {pos : ServeClientPoint}
    {progress : Progress ServeClientPoint Unit}
    (moved : serveClient shared reply pos = some (after, progress))
    : after.stateLocker = shared.stateLocker
      ∧ after.workpool.valid = shared.workpool.valid
      ∧ after.traffic.opened = shared.traffic.opened := by
  cases pos with
  | get pos =>
      have outcome := (poolGetWaitLock_outcome 1 true shared.workpool pos).constants
      simp only [serveClient] at moved
      split at moved <;> rename_i step <;> rw [step] at outcome <;> cases moved <;>
        exact ⟨rfl, outcome.1, rfl⟩
  | select sending =>
      cases reply with
      | value r =>
          simp only [serveClient] at moved
          split at moved <;> cases moved <;> exact ⟨rfl, rfl, rfl⟩
      | _ => cases moved
  | send sending =>
      cases reply with
      | value bytessent =>
          simp only [serveClient] at moved
          split at moved <;> cases moved
          exact ⟨rfl, rfl, rfl⟩
      | _ => cases moved
  | pass buffer pos =>
      have outcome := poolGetUnlock_constants 1 buffer shared.workpool pos
      simp only [serveClient] at moved
      split at moved <;> rename_i step <;> rw [step] at outcome <;> cases moved <;>
        exact ⟨rfl, outcome.1, rfl⟩
  | _ =>
      simp only [serveClient] at moved
      try split at moved
      all_goals
        cases moved
        exact ⟨rfl, rfl, rfl⟩

/-- Every step keeps the lock in step with the feeder. -/
theorem World.Streams.locked {world next : World} {event : Event}
    (streams : world.Streams event next) (locked : world.Locked)
    : next.Locked := by
  unfold World.Locked at locked ⊢
  cases streams with
  | aside aside stores feeder =>
      rw [aside.locker, locked]
      rcases feeder with same | ⟨result, call, outside, -, entered⟩
      · rw [same]
      · rw [outside, entered]
        rfl
  | initialised chosen position ready free feeder =>
      obtain ⟨header, elements, maxElements, ended, -⟩ := initialise_eq world.shared _ _
      rw [ended] at ready
      rw [← Option.some.inj ready, feeder]
      exact locked
  | fed chosen moved => exact (sdrtcpFeed_frame moved locked).1
  | served chosen position moved server feeder =>
      rw [(serveClient_frame moved).1, feeder, locked]

/-- In every reachable state the lock is in step with the feeder. -/
theorem locked_of_reachable {world : World} (reachable : server.Reachable world)
    : world.Locked := by
  refine reachable.invariant World.Locked ?_ ?_
  · intro start initial
    obtain ⟨workpool, rfl⟩ := initial
    rfl
  · intro current choice next _ known fired
    exact (World.step_cases fired).streams.locked known

/-- A step changes the validity of the pool only at the two ends of a session. -/
theorem World.Streams.valid {world next : World} {event : Event}
    (streams : world.Streams event next) (locked : world.Locked)
    : next.shared.workpool.valid
      = if world.freesPool event then false
        else if world.stores event = some .initialized then true
        else world.shared.workpool.valid := by
  cases streams with
  | aside aside stores =>
      rw [aside.pool, if_neg stores]
      by_cases freed : world.freesPool event
      · simp [freed, freed.1, sdrtcpCleanup, freed.2]
      · rw [if_neg freed]
        cases cleaned : world.cleansUp event with
        | false => rfl
        | true =>
            have fresh : world.shared.control.state = .uninitialized := by
              by_contra live
              exact freed ⟨cleaned, live⟩
            simp [sdrtcpCleanup, fresh]
  | initialised chosen position ready =>
      obtain ⟨header, elements, maxElements, ended, -⟩ := initialise_eq world.shared _ _
      rw [ended] at ready
      rw [← Option.some.inj ready]
      simp [chosen, World.freesPool, World.cleansUp, World.stores, OwnerPoint.stores, position]
  | fed chosen moved =>
      rw [(sdrtcpFeed_frame moved locked).2.1]
      simp [chosen, World.freesPool, World.cleansUp, World.stores]
  | served chosen position moved =>
      rw [(serveClient_frame moved).2.1]
      simp [chosen, World.freesPool, World.cleansUp, World.stores, position,
        ServerPoint.stores_ne_initialized]

/-- The order of steps in which state and resources agree: no stage is stored over
`STAGE_UNINITIALIZED` but by the call that initialises the object, `socket` is called while
the object is initialized, and a stop request's cleanup does not run once the client is
served.
-/
def World.orderly (world : World) (event : Event) : Prop :=
  (∀ stage ∈ world.stores event,
    stage = .initialized ∨ world.shared.control.state ≠ .uninitialized)
  ∧ match event with
    | .owner _ =>
        match world.owner with
        | .opening _ .createSocket => world.shared.control.state = .initialized
        | _ => True
    | .stopper caller =>
        world.stopper caller = .cleanup
        → world.shared.control.state ≠ .clientServing
          ∧ world.shared.control.state ≠ .needsStopping
    | _ => True

instance (world : World) (event : Event) : Decidable (world.orderly event) :=
  let test : Bool :=
    match event with
    | .owner _ =>
        match world.owner with
        | .opening _ .createSocket => decide (world.shared.control.state = .initialized)
        | _ => true
    | .stopper caller =>
        decide (world.stopper caller = .cleanup
          → world.shared.control.state ≠ .clientServing
            ∧ world.shared.control.state ≠ .needsStopping)
    | _ => true
  decidable_of_iff
    ((∀ stage ∈ world.stores event,
        stage = .initialized ∨ world.shared.control.state ≠ .uninitialized)
      ∧ test = true) (by
    unfold World.orderly
    simp only [test]
    refine and_congr_right fun _ => ?_
    split <;> try split
    all_goals simp only [decide_eq_true_eq])

/-- The stage tells the resources the object has. -/
structure World.Agrees (world : World) : Prop where
  uninitialized
    : world.shared.control.state = .uninitialized
      → world.shared.workpool.valid = false ∧ world.shared.control.listenSocket = -1
  listening
    : Stage.socketOpen.code ≤ world.shared.control.state.code
      → world.shared.workpool.valid = true
        ∧ world.shared.control.listenSocket ∈ world.shared.control.descriptors.opened
  serving
    : world.shared.control.state = .clientServing
      → world.shared.control.descriptors.accepted.head?
        = some world.shared.control.clientSocket

/-- No thread holds a buffer of the pool. -/
def World.unheld (world : World) : Prop :=
  world.feeder.held = none ∧ ∀ session, (world.server session).held = none

/-- The server thread is between an `accept` that succeeded and the store that the client is
served.
-/
def ServerPoint.accepted : ServerPoint → Bool
  | .waiting .storeClientOpen | .createListener | .storeServing => true
  | _ => false

/-- What an orderly session keeps of its resources: the pool is valid, and the listening
socket known, exactly while the object is not uninitialized.
-/
structure Provided (valid : Bool) (control : Control) : Prop where
  pool : valid = true ↔ control.state ≠ .uninitialized
  unset : control.state = .uninitialized → control.listenSocket = -1
  bound : Stage.socketOpen.code ≤ control.state.code → control.listenSocket ≠ -1
  opened
    : control.listenSocket = -1 ∨ control.listenSocket ∈ control.descriptors.opened

/-- `client_socket` is the descriptor of the client accepted last. -/
def Control.linked (control : Control) : Prop :=
  control.descriptors.accepted.head? = some control.clientSocket

/-- What an orderly session keeps of its client, told by the server thread's position: its
descriptor is in `client_socket` from the `accept` on, and it is served by an object that is
not uninitialized.
-/
structure Attended (pos : ServerPoint) (control : Control) : Prop where
  tested
    : pos = .waiting .testClientSocket → control.clientSocket = -1 ∨ control.linked
  accepted : pos.accepted = true → control.state = .uninitialized ∨ control.linked
  opened : control.state = .clientOpen ∨ control.state = .clientServing → control.linked
  serving : ∀ inner, pos = .serving inner → control.state ≠ .uninitialized

/-- A session with its resources and its client attended to agrees with its stage. -/
theorem Provided.agrees {world : World}
    (provided : Provided world.shared.workpool.valid world.shared.control)
    (attended : Attended (world.server 0) world.shared.control)
    : world.Agrees where
  uninitialized fresh := by
    refine ⟨?_, provided.unset fresh⟩
    cases valid : world.shared.workpool.valid with
    | false => rfl
    | true => exact absurd fresh (provided.pool.mp valid)
  listening late := by
    refine ⟨provided.pool.mpr ?_, ?_⟩
    · intro fresh
      rw [fresh] at late
      simp [Stage.code] at late
    · rcases provided.opened with unset | opened
      · exact absurd unset (provided.bound late)
      · exact opened
  serving served := attended.opened (.inr served)

/-- A store of an orderly session leaves a listening socket behind, by cases on the choices
that store.
-/
theorem Provided.listen_of_store {world : World} {event : Event} {stage : Stage}
    (provided : Provided world.shared.workpool.valid world.shared.control)
    (session : world.OneSession)
    (stored : world.stores event = some stage) (later : stage ≠ .initialized)
    (live : world.shared.control.state ≠ .uninitialized)
    : world.shared.control.listenSocket ≠ -1 := by
  cases event with
  | owner reply =>
      simp only [World.stores, OwnerPoint.stores] at stored
      split at stored
      · exact absurd (Option.some.inj stored).symm later
      · split at stored
        · assumption
        · cases stored
      · rename_i position
        have found := session.owner_stage (by simp [position])
        rw [position] at found
        simp only [OwnerPoint.stages, List.mem_cons, List.not_mem_nil, or_false] at found
        rcases found with found | found
        · exact provided.bound (by rw [found])
        · exact absurd found live
      · cases stored
  | server index reply =>
      have running : world.server index ≠ .notStarted := by
        intro absent
        simp [World.stores, absent, ServerPoint.stores] at stored
      obtain ⟨-, -, -, found⟩ := session.serving (.inl running)
      exact provided.bound ((ServerPoint.code_of_mem_stages found).resolve_left live)
  | listener index reply =>
      have running : world.listener index ≠ .notStarted := by
        intro absent
        simp [World.stores, absent, ListenerPoint.stores] at stored
      obtain ⟨-, -, -, found⟩ := session.serving (.inr running)
      exact provided.bound ((ServerPoint.code_of_mem_stages found).resolve_left live)
  | stopper caller =>
      have waiting : world.stopper caller = .storeNeedsStopping := by
        simp only [World.stores, StopPoint.stores] at stored
        split at stored
        · assumption
        · cases stored
      have started := session.stopping caller waiting
      have found := session.stage
      unfold World.stages at started found
      split at started
      · rename_i unserved
        rw [if_pos unserved] at found
        exact provided.bound
          ((OwnerPoint.code_of_needsStopping found started).resolve_left live)
      · rename_i served
        rw [if_neg served] at found
        exact provided.bound ((ServerPoint.code_of_mem_stages found).resolve_left live)
  | _ => cases stored

/-- Every step of an orderly session keeps its resources in step with its stage. -/
theorem World.Writes.provided {world : World} {event : Event} {valid : Bool}
    {after : Control} (writes : world.Writes event after)
    (pool
      : valid
        = if world.freesPool event then false
          else if world.stores event = some .initialized then true
          else world.shared.workpool.valid)
    (session : world.OneSession) (orderly : world.orderly event)
    (provided : Provided world.shared.workpool.valid world.shared.control)
    : Provided valid after := by
  cases writes with
  | moved history =>
      cases cleaned : world.cleansUp event with
      | true =>
          by_cases fresh : world.shared.control.state = .uninitialized
          · have unfreed : ¬ world.freesPool event := fun freed => freed.2 fresh
            have unstored := World.stores_of_cleansUp cleaned
            rw [if_neg unfreed, unstored, if_neg nofun] at pool
            rw [Control.moved_cleaned, cleanupSection_of_uninitialized fresh, pool]
            exact ⟨provided.pool, provided.unset, provided.bound, provided.opened⟩
          · rw [if_pos ⟨cleaned, fresh⟩] at pool
            rw [Control.moved_cleaned, cleanupSection_of_live fresh, pool]
            exact ⟨by simp, fun _ => rfl, by simp [Stage.code], .inl rfl⟩
      | false =>
          have unfreed : ¬ world.freesPool event := by simp [World.freesPool, cleaned]
          rw [if_neg unfreed] at pool
          rw [Control.moved_stored]
          cases stored : world.stores event with
          | none =>
              rw [stored, if_neg nofun] at pool
              rw [pool]
              exact ⟨provided.pool, provided.unset, provided.bound, provided.opened⟩
          | some stage =>
              have later : stage ≠ .uninitialized := by
                intro same
                subst same
                exact World.stores_live stored
              by_cases first : stage = .initialized
              · subst first
                rw [stored, if_pos rfl] at pool
                rw [pool]
                exact ⟨by simp, by simp, by simp [Stage.code], provided.opened⟩
              · have live := (orderly.1 stage stored).resolve_left first
                rw [stored, if_neg (by simpa using first)] at pool
                rw [pool, provided.pool.mpr live]
                exact ⟨by simp [later], by simp [later],
                  fun _ => provided.listen_of_store session stored first live,
                  provided.opened⟩
  | clientDropped chosen position =>
      subst chosen
      simp [World.freesPool, World.cleansUp, World.stores, position,
        ServerPoint.stores] at pool
      rw [pool]
      exact ⟨provided.pool, provided.unset, provided.bound, provided.opened⟩
  | @clientAccepted _ _ result chosen position =>
      subst chosen
      simp [World.freesPool, World.cleansUp, World.stores, position,
        ServerPoint.stores] at pool
      rw [pool]
      refine ⟨provided.pool, provided.unset, provided.bound, provided.opened.imp_right ?_⟩
      intro member
      simp only [Descriptors.accept]
      split
      · exact member
      · exact List.mem_cons_of_mem _ member
  | listenDropped chosen position =>
      subst chosen
      simp [World.freesPool, World.cleansUp, World.stores, position,
        OwnerPoint.stores] at pool
      have fresh := session.owner_stage (by simp [position])
      rw [position] at fresh
      simp only [OwnerPoint.stages, List.mem_singleton] at fresh
      rw [pool]
      exact ⟨provided.pool, fun _ => rfl, by simp [fresh, Stage.code], .inl rfl⟩
  | @listenCreated _ _ result chosen position =>
      subst chosen
      simp [World.freesPool, World.cleansUp, World.stores, position,
        OwnerPoint.stores] at pool
      have initialized : world.shared.control.state = .initialized := by
        simpa only [World.orderly, position] using orderly.2
      rw [pool]
      refine ⟨provided.pool, by simp [initialized], by simp [initialized, Stage.code], ?_⟩
      by_cases failed : result = -1
      · exact .inl failed
      · simp [Descriptors.socket, failed]

/-- Where a server thread gets its client's descriptor, and how it comes to serve it. -/
theorem tcpServer_client {shared after : Shared} {reply : Reply} {joined : Bool}
    {pos next : ServerPoint} (moved : tcpServer shared reply joined pos = some (after, next))
    : (next = .waiting .testClientSocket → pos = .waiting .accept)
      ∧ (pos = .waiting .accept
        → next = .waiting .testClientSocket
          ∧ ∃ result,
              after.control
                = { shared.control with
                    clientSocket := result
                    descriptors := shared.control.descriptors.accept result })
      ∧ (pos = .waiting .clearClientSocket → next = .waiting .loop)
      ∧ (next.accepted = true
        → pos = .waiting .testClientSocket ∧ shared.control.clientSocket ≠ -1
          ∨ pos = .testClientOpen ∧ shared.control.state = .clientOpen
          ∨ pos.accepted = true)
      ∧ (∀ inner,
          next = .serving inner → pos = .storeServing ∨ ∃ earlier, pos = .serving earlier) := by
  cases pos with
  | waiting pos =>
      obtain ⟨⟨middle, progress⟩, inner, rest⟩ := Option.bind_eq_some_iff.mp moved
      cases pos with
      | select =>
          cases reply with
          | value r =>
              cases inner
              cases rest
              simp [ServerPoint.accepted]
          | _ => cases inner
      | accept =>
          cases reply with
          | value result =>
              simp only [sdrtcpWaitForClient] at inner
              split at inner <;> cases inner
              cases rest
              exact ⟨fun _ => rfl, fun _ => ⟨rfl, result, rfl⟩, by rintro ⟨⟩, by rintro ⟨⟩,
                by rintro _ ⟨⟩⟩
          | _ => cases inner
      | testClientSocket =>
          simp only [sdrtcpWaitForClient] at inner
          split at inner <;> cases inner <;> cases rest <;> simp_all [ServerPoint.accepted]
      | _ =>
          simp only [sdrtcpWaitForClient] at inner
          try split at inner
          all_goals
            cases inner
            cases rest
            simp [ServerPoint.accepted]
  | serving pos =>
      obtain ⟨⟨middle, progress⟩, inner, rest⟩ := Option.bind_eq_some_iff.mp moved
      cases progress <;> cases rest <;> simp [ServerPoint.accepted]
  | storeServing | cleanup =>
      obtain ⟨-, result⟩ := Shared.locked_eq_some.mp moved
      cases result
      simp [ServerPoint.accepted]
  | testFinal =>
      obtain ⟨-, result⟩ := Shared.locked_eq_some.mp moved
      cases result
      split <;> simp [ServerPoint.accepted]
  | _ =>
      simp only [tcpServer] at moved
      try split at moved
      all_goals cases moved <;> simp_all [ServerPoint.accepted]

/-- A server thread stores a stage of its client only after an `accept`. -/
theorem ServerPoint.accepted_of_stores {pos : ServerPoint} {stage : Stage}
    (stored : pos.stores = some stage)
    : stage = .needsStopping ∨ pos.accepted = true := by
  unfold ServerPoint.stores at stored
  split at stored <;> cases stored <;> simp [ServerPoint.accepted]

/-- The server thread of an orderly session attends to its client, by cases on what its step
writes.
-/
theorem Attended.server {world : World} {reply : Reply} {shared : Shared}
    {pos : ServerPoint} (attended : Attended (world.server 0) world.shared.control)
    (stage : world.shared.control.state ∈ (world.server 0).stages)
    (orderly : world.orderly (.server 0 reply)) {joined : Bool}
    (moved : tcpServer world.shared reply joined (world.server 0) = some (shared, pos))
    : Attended pos shared.control := by
  obtain ⟨tested, accepts, clears, accepted, serving⟩ := tcpServer_client moved
  by_cases accepting : world.server 0 = .waiting .accept
  · obtain ⟨next, result, effect⟩ := accepts accepting
    rw [accepting] at stage
    simp only [ServerPoint.stages, List.mem_cons, List.not_mem_nil, or_false] at stage
    rw [next, effect]
    refine ⟨fun _ => ?_, by rintro ⟨⟩, ?_, by rintro _ ⟨⟩⟩
    · by_cases failed : result = -1
      · exact .inl failed
      · exact .inr (by simp [Control.linked, Descriptors.accept, failed])
    · rintro (opened | served) <;> simp_all
  rcases tcpServer_control moved with effect | ⟨position, effect⟩ | ⟨_, position, -⟩
  · by_cases cleaning : world.server 0 = .cleanup
    · rw [cleaning] at moved
      obtain ⟨-, result⟩ := Shared.locked_eq_some.mp moved
      cases result
      exact ⟨by rintro ⟨⟩, by rintro ⟨⟩, by simp, by rintro _ ⟨⟩⟩
    · simp only [cleaning, decide_false, Control.moved_stored] at effect
      rw [effect]
      have live (stage : Stage) (stored : (world.server 0).stores = some stage)
          : world.shared.control.state ≠ .uninitialized := by
        refine (orderly.1 stage stored).resolve_left ?_
        intro same
        subst same
        exact ServerPoint.stores_ne_initialized stored
      refine ⟨fun next => absurd (tested next) accepting, ?_, ?_, ?_⟩
      · intro late
        rcases accepted late with ⟨before, found⟩ | ⟨before, found⟩ | before
        · exact .inr ((attended.tested before).resolve_left found)
        · exact .inr (attended.opened (.inl found))
        · rcases attended.accepted before with fresh | linked
          · cases stored : (world.server 0).stores with
            | none => exact .inl fresh
            | some stage => exact absurd fresh (live stage stored)
          · exact .inr linked
      · intro found
        cases stored : (world.server 0).stores with
        | none =>
            rw [stored] at found
            exact attended.opened found
        | some stage =>
            rw [stored] at found
            rcases ServerPoint.accepted_of_stores stored with needs | before
            · rw [needs] at found
              simp at found
            · exact (attended.accepted before).resolve_left (live stage stored)
      · intro inner next fresh
        cases stored : (world.server 0).stores with
        | none =>
            rw [stored] at fresh
            rcases serving inner next with before | ⟨earlier, before⟩
            · rw [before] at stored
              cases stored
            · exact attended.serving earlier before fresh
        | some stage =>
            rw [stored] at fresh
            have fresh : stage = .uninitialized := fresh
            subst fresh
            exact @World.stores_live world (.server 0 reply) stored
  · rw [position] at stage
    simp only [ServerPoint.stages, List.mem_cons, List.not_mem_nil, or_false] at stage
    rw [clears position, effect]
    refine ⟨by rintro ⟨⟩, by rintro ⟨⟩, ?_, by rintro _ ⟨⟩⟩
    rintro (opened | served) <;> simp_all
  · exact absurd position accepting

/-- An orderly cleanup finds no client served. -/
theorem World.OneSession.unserved_of_freesPool {world : World} {event : Event}
    (session : world.OneSession) (orderly : world.orderly event)
    (freed : world.freesPool event) (index : Nat) (pos : ServeClientPoint)
    : world.server index ≠ .serving pos := by
  intro serving
  have running : world.server index ≠ .notStarted := by simp [serving]
  obtain ⟨rfl, one, idle, stage⟩ := session.serving (.inl running)
  rw [serving] at stage
  simp only [ServerPoint.stages, List.mem_cons, List.not_mem_nil, or_false] at stage
  obtain ⟨cleaned, live⟩ := freed
  cases event with
  | owner reply =>
      simp [World.cleansUp, idle] at cleaned
  | server other reply =>
      have cleaning : world.server other = .cleanup := of_decide_eq_true cleaned
      have running : world.server other ≠ .notStarted := by simp [cleaning]
      obtain ⟨rfl, -⟩ := session.serving (.inl running)
      rw [serving] at cleaning
      cases cleaning
  | stopper caller =>
      obtain ⟨unserved, unasked⟩ := orderly.2 (of_decide_eq_true cleaned)
      rcases stage with found | found | found
      · exact unserved found
      · exact unasked found
      · exact live found
  | _ => cases cleaned

/-- Only a server thread stores a stage of its client. -/
theorem World.stores_unclient {world : World} {event : Event} {stage : Stage}
    (stored : world.stores event = some stage)
    (other : ∀ index reply, event ≠ .server index reply)
    : stage ≠ .clientOpen ∧ stage ≠ .clientServing := by
  cases event with
  | owner reply =>
      simp only [World.stores, OwnerPoint.stores] at stored
      split at stored <;> try split at stored
      all_goals cases stored <;> simp
  | server index reply => exact absurd rfl (other index reply)
  | listener index reply =>
      rw [ListenerPoint.stores_eq stored]
      simp
  | stopper caller =>
      simp only [World.stores, StopPoint.stores] at stored
      split at stored <;> cases stored
      simp
  | _ => cases stored

/-- The object is initialised before there is a server thread. -/
theorem World.OneSession.unstarted_of_initialised {world : World} {event : Event}
    (session : world.OneSession) (stored : world.stores event = some .initialized)
    : world.server 0 = .notStarted ∧ world.listener 0 = .notStarted := by
  cases event with
  | owner reply =>
      have busy : world.owner ≠ .idle := by
        intro idle
        simp [World.stores, idle, OwnerPoint.stores] at stored
      exact session.absent 0 (by simp [session.unserved busy])
  | server index reply => exact absurd stored ServerPoint.stores_ne_initialized
  | listener index reply => cases ListenerPoint.stores_eq stored
  | stopper caller =>
      simp only [World.stores, StopPoint.stores] at stored
      split at stored <;> cases stored
  | _ => cases stored

/-- A step of another thread leaves the client of an orderly session attended to. -/
theorem Attended.other {world : World} {event : Event} {control : Control}
    (attended : Attended (world.server 0) world.shared.control) (session : world.OneSession)
    (orderly : world.orderly event) (writes : world.Writes event control)
    (other : ∀ index reply, event ≠ .server index reply)
    : Attended (world.server 0) control := by
  cases writes with
  | moved history =>
      cases cleaned : world.cleansUp event with
      | true =>
          by_cases fresh : world.shared.control.state = .uninitialized
          · rw [Control.moved_cleaned, cleanupSection_of_uninitialized fresh]
            exact ⟨attended.tested, attended.accepted, attended.opened, attended.serving⟩
          · rw [Control.moved_cleaned, cleanupSection_of_live fresh]
            refine ⟨fun _ => .inl rfl, fun _ => .inl rfl, by simp, ?_⟩
            intro inner serving
            exact absurd serving
              (session.unserved_of_freesPool orderly ⟨cleaned, fresh⟩ 0 inner)
      | false =>
          rw [Control.moved_stored]
          cases stored : world.stores event with
          | none => exact ⟨attended.tested, attended.accepted, attended.opened, attended.serving⟩
          | some stage =>
              have unclient := World.stores_unclient stored other
              refine ⟨attended.tested, ?_, ?_, ?_⟩
              · intro late
                refine .inr ((attended.accepted late).resolve_left ?_)
                rcases orderly.1 stage stored with first | live
                · rw [(session.unstarted_of_initialised (first ▸ stored)).1] at late
                  cases late
                · exact live
              · rintro (found | found)
                · exact absurd found unclient.1
                · exact absurd found unclient.2
              · intro inner _ fresh
                have fresh : stage = .uninitialized := fresh
                exact World.stores_live (fresh ▸ stored)
  | clientDropped chosen | clientAccepted chosen => exact absurd chosen (other _ _)
  | listenDropped => exact ⟨attended.tested, attended.accepted, attended.opened, attended.serving⟩
  | listenCreated =>
      refine ⟨?_, ?_, ?_, attended.serving⟩ <;>
        simp only [Control.linked, Descriptors.socket] <;> split
      all_goals first
        | exact attended.tested
        | exact attended.accepted
        | exact attended.opened

/-- A thread that serves a client or feeds it holds a buffer only where the pool may not be
freed: with the lock, or inside `serveClient`.
-/
theorem World.unheld_of_freesPool {world : World} {event : Event}
    (session : world.OneSession) (locked : world.Locked) (free : world.shared.stateLocker = false)
    (orderly : world.orderly event) (freed : world.freesPool event)
    : world.unheld := by
  refine ⟨?_, ?_⟩
  · cases held : world.feeder.held with
    | none => rfl
    | some buffer =>
        have inside := FeedPoint.inSection_of_held held
        unfold World.Locked at locked
        rw [locked, inside] at free
        cases free
  · intro index
    cases position : world.server index with
    | serving pos =>
        exact absurd position (session.unserved_of_freesPool orderly freed index pos)
    | _ => rfl

/-- A cleanup enters its critical section with the lock free. -/
theorem World.Streams.free_of_cleansUp {world next : World} {event : Event}
    (streams : world.Streams event next) (cleaned : world.cleansUp event = true)
    : world.shared.stateLocker = false := by
  cases streams with
  | aside aside => exact aside.free cleaned
  | initialised chosen position =>
      simp [chosen, World.cleansUp, position] at cleaned
  | fed chosen => simp [chosen, World.cleansUp] at cleaned
  | served chosen position => simp [chosen, World.cleansUp, position] at cleaned

/-- Every step of an orderly session keeps its client attended to. -/
theorem World.Fires.attended {world next : World} {event : Event}
    (fires : world.Fires event next) (session : world.OneSession)
    (orderly : world.orderly event)
    (attended : Attended (world.server 0) world.shared.control)
    : Attended (next.server 0) next.shared.control := by
  have writes := fires.writes
  cases fires with
  | openSocket | serveClientAsync | feed | stop | opening | opened | serving | refused
  | feeder | listener | stopper => exact attended.other session orderly writes nofun
  | created inside moved =>
      have kept := attended.other session orderly writes nofun
      have unserved := session.unserved (by simp [inside])
      dsimp only
      rw [unserved, Function.update_self]
      exact ⟨nofun, nofun, kept.opened, nofun⟩
  | @server index reply shared pos moved =>
      have running : world.server index ≠ .notStarted := by
        intro absent
        rw [absent] at moved
        cases moved
      obtain ⟨rfl, -, -, stage⟩ := session.serving (.inl running)
      dsimp only
      rw [Function.update_self]
      exact attended.server stage orderly moved

/-- In an orderly run of one session, from memory in which the pool is invalid, the stage
agrees with the resources in every state reached, and `pool_free` is executed only while no
thread holds a buffer.
-/
theorem stage_agrees_with_resources {workpool : WorkPool} {world : World}
    (invalid : workpool.valid = false)
    (run : (server.restrict World.orderly).Leads (World.initial workpool) world)
    (once : world.opens ≤ 1)
    : world.Agrees
      ∧ ∀ event next,
          (server.restrict World.orderly).step world event = some next
          → world.freesPool event
          → world.unheld := by
  have known (world : World)
      (run : (server.restrict World.orderly).Leads (World.initial workpool) world)
      (once : world.opens ≤ 1)
      : world.OneSession ∧ world.Locked := by
    have restricted : (server.restrict World.orderly).Reachable world :=
      ⟨_, ⟨workpool, rfl⟩, run⟩
    have reachable := restricted.of_restrict
    exact ⟨oneSession_of_reachable reachable once, locked_of_reachable reachable⟩
  have kept
      : world.opens ≤ 1
        → Provided world.shared.workpool.valid world.shared.control
          ∧ Attended (world.server 0) world.shared.control := by
    clear once
    induction run with
    | refl =>
        intro _
        exact ⟨⟨by simp [World.initial, invalid], fun _ => rfl, by simp [World.initial,
          Stage.code], .inl rfl⟩, nofun, nofun, by simp [World.initial], nofun⟩
    | step before fired ih =>
        intro once
        obtain ⟨orderly, fired⟩ := System.restrict_step_iff.mp fired
        have fires := World.step_cases fired
        have earlier := Nat.le_trans fires.opens_le once
        obtain ⟨session, locked⟩ := known _ before earlier
        obtain ⟨provided, attended⟩ := ih earlier
        exact ⟨fires.writes.provided (fires.streams.valid locked) session orderly provided,
          fires.attended session orderly attended⟩
  obtain ⟨provided, attended⟩ := kept once
  obtain ⟨session, locked⟩ := known world run once
  refine ⟨provided.agrees attended, ?_⟩
  intro event next fired freed
  obtain ⟨orderly, fired⟩ := System.restrict_step_iff.mp fired
  have free := (World.step_cases fired).streams.free_of_cleansUp freed.1
  exact World.unheld_of_freesPool session locked free orderly freed

/-- A session whose client is served agrees with its stage. -/
theorem stage_agrees_while_serving
    : ∃ world,
        (server.restrict World.orderly).Leads (World.initial .zeroed) world
        ∧ world.shared.control.state = .clientServing
        ∧ world.Agrees := by
  have replayed
      : ((server.restrict World.orderly).run (World.initial .zeroed)
            (servingSchedule ++ acceptingSchedule
            ++ [.server 0 .none, .server 0 .none, .server 0 .none, .server 0 .none,
              .server 0 .none])).map
          (fun world => (decide (world.opens ≤ 1), world.shared.control.state))
        = some (true, .clientServing) := by
    decide +kernel
  obtain ⟨world, ended, seen⟩ := Option.map_eq_some_iff.mp replayed
  simp only [Prod.mk.injEq, decide_eq_true_eq] at seen
  have run := System.leads_of_run ended
  exact ⟨world, run, seen.2, (stage_agrees_with_resources rfl run seen.1).1⟩

/-- A stop request that cleans up between the call of `socket` and the store after it leaves
a socket open behind an invalid pool.
-/
theorem stage_disagrees_after_overtaken_open
    : ¬ ∀ workpool world,
        workpool.valid = false
        → server.Leads (World.initial workpool) world
        → world.opens ≤ 1
        → world.Agrees := by
  intro claim
  have replayed
      : (server.run (World.initial .zeroed)
            (servingSchedule.take 5
            ++ [.stop 0, .stopper 0, .stopper 0, .stopper 0, .owner (.value 3),
              .owner .none])).map
          (fun world =>
            (decide (world.opens ≤ 1), world.shared.control.state,
              world.shared.workpool.valid))
        = some (true, .socketOpen, false) := by
    decide +kernel
  obtain ⟨world, ended, seen⟩ := Option.map_eq_some_iff.mp replayed
  simp only [Prod.mk.injEq, decide_eq_true_eq] at seen
  obtain ⟨once, open_, invalid⟩ := seen
  have agrees := claim .zeroed world rfl (System.leads_of_run ended) once
  have valid := (agrees.listening (by rw [open_])).1
  rw [invalid] at valid
  cases valid

end RtlTcpAndro.SdrTcp
