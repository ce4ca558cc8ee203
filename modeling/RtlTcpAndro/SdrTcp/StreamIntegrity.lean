import RtlTcpAndro.SdrTcp.SendLoop

/-! What `send` accepts is the header and the fed samples, in order and without a gap, up to
the point where the session ends.
-/

namespace RtlTcpAndro.SdrTcp

open RtlTcpAndro.Interleaving RtlTcpAndro.ByteStreams

/-- What a client receives first: the magic, then dongle type and gain count in network byte
order.
-/
def sessionHeader (arguments : OpenArguments) : List UInt8 :=
  arguments.magic ++ bigEndian arguments.dongleType ++ bigEndian arguments.gainsCount

/-- The filled-in `dongle_info_t` is this header. -/
theorem dongleInfo_eq (arguments : OpenArguments)
    : dongleInfo arguments = sessionHeader arguments := by
  simp only [dongleInfo, sessionHeader, htonl, littleEndian_byteSwap]

/-- A server thread inside `serveClient`. -/
def ServerPoint.serves : ServerPoint → Bool
  | .serving _ => true
  | _ => false

/-- Sessions follow one another, and no cleanup frees the pool while a client is served. -/
def World.undisturbed (world : World) (event : Event) : Prop :=
  world.successive event
  ∧ (world.freesPool event
    → ∀ session < world.servers, (world.server session).serves = false)

instance (world : World) (event : Event) : Decidable (world.undisturbed event) :=
  inferInstanceAs (Decidable (_ ∧ _))

/-- A `sdrtcp_feed` outside its critical section knows the arguments of its call. -/
def World.Calling (world : World) : Prop :=
  world.feeder.inSection = false → ∀ pool, world.feeder.Prepared pool

/-- The session's server thread can send no more. -/
inductive World.Ended (world : World) : Prop
  | starved (invalid : world.shared.workpool.valid = false) (free : world.current.held = none)
  | finishing (unrenewed : world.owner.renewed = false)
    (finishing : world.current.Finishing world.shared.control.state)

/-- The bytes of the session are sent, being sent, queued or being fed; once the session has
ended those sent are the first of them.
-/
inductive World.Flow (world : World) (header : List UInt8) : Prop
  | live (valid : world.shared.workpool.valid = true)
    (counted : ∀ inner, world.current = .serving inner → inner.Counted)
    (exact
      : header ++ world.shared.traffic.fed.flatten
        = world.shared.traffic.sent
          ++ world.current.remaining world.shared.workpool
          ++ world.shared.workpool.backlog
          ++ world.feeder.pending)
  | ended (first : world.shared.traffic.sent <+: header ++ world.shared.traffic.fed.flatten)
    (ended : world.Ended)

/-- What a session keeps of its stream from its initialisation on. -/
structure World.Streaming (world : World) (header : List UInt8) : Prop where
  owns : world.shared.workpool.Owns (circulating world.shared.workpool world.feeder world.current)
  prepared : world.feeder.Prepared world.shared.workpool
  last : ∀ inner, world.current = .serving inner → inner.LastStage
  stages : world.shared.workpool.TwoStages
  flow : world.Flow header

/-- The bytes sent are in any case the first of the session's. -/
theorem World.Flow.sent {world : World} {header : List UInt8} (flow : world.Flow header)
    : world.shared.traffic.sent <+: header ++ world.shared.traffic.fed.flatten := by
  cases flow with
  | live valid counted exact =>
      rw [exact, List.append_assoc, List.append_assoc]
      exact List.prefix_append _ _
  | ended first => exact first

section Idle

variable {pos : ServerPoint}

/-- At the beginning of `serveClient` or outside it a thread holds no buffer. -/
theorem ServerPoint.Idle.held (idle : pos.Idle) : pos.held = none := by
  cases pos with
  | serving inner => rw [idle inner rfl]; rfl
  | _ => rfl

/-- At the beginning of `serveClient` or outside it nothing is being sent. -/
theorem ServerPoint.Idle.remaining (idle : pos.Idle) (pool : WorkPool)
    : pos.remaining pool = [] := by
  cases pos with
  | serving inner => rw [idle inner rfl]; rfl
  | _ => rfl

/-- The beginning of `serveClient` is a last stage that has counted no failure. -/
theorem ServerPoint.Idle.counted (idle : pos.Idle) (inner : ServeClientPoint)
    (position : pos = .serving inner)
    : inner.LastStage ∧ inner.Counted := by
  rw [idle inner position]
  exact ⟨trivial, trivial⟩

end Idle

/-- A pool that was freed is empty. -/
theorem WorkPool.TwoStages.poolFree_queues {pool : WorkPool} (stages : pool.TwoStages)
    (id : Nat)
    : (poolFree pool).queues id = [] := by
  unfold poolFree
  split
  · rfl
  · rename_i unset
    cases valid : pool.valid with
    | false => exact stages.drained valid id
    | true => simp [stages.ids valid] at unset

/-- A pool that was freed keeps what a session's pool keeps. -/
theorem WorkPool.TwoStages.poolFree {pool : WorkPool} (stages : pool.TwoStages)
    : (poolFree pool).TwoStages := by
  refine ⟨by simp, ?_, fun _ id => stages.poolFree_queues id⟩
  unfold SdrTcp.poolFree
  split <;> exact stages.ushort

section Steps

variable {world next : World} {event : Event} {header : List UInt8}

/-- A cleanup ends the stream of a session whose client is not served. -/
theorem World.Streaming.freed (streaming : world.Streaming header)
    (pool : next.shared.workpool = poolFree world.shared.workpool)
    (stream : next.shared.traffic.stream = world.shared.traffic.stream)
    (feeder : next.feeder.held = none) (prepared : ∀ pool, next.feeder.Prepared pool)
    (idle : next.current.Idle)
    : next.Streaming header := by
  simp only [Traffic.stream, Prod.mk.injEq] at stream
  obtain ⟨-, fed, sent⟩ := stream
  refine ⟨?_, prepared _, fun inner position => (idle.counted inner position).1, ?_,
    .ended ?_ (.starved ?_ idle.held)⟩
  · have empty : circulating next.shared.workpool next.feeder next.current = [] := by
      simp [circulating, pool, streaming.stages.poolFree_queues, feeder, idle.held]
    rw [empty]
    exact ⟨List.nodup_nil, by rintro _ ⟨⟩, by rintro _ ⟨⟩⟩
  · rw [pool]
    exact streaming.stages.poolFree
  · rw [sent, fed]
    exact streaming.flow.sent
  · rw [pool, poolFree_valid]

/-- A step that leaves pool and stream alone. -/
theorem World.Streaming.aside (streaming : world.Streaming header)
    (pool : next.shared.workpool = world.shared.workpool)
    (stream : next.shared.traffic.stream = world.shared.traffic.stream)
    (held : next.feeder.held = world.feeder.held)
    (pending : next.feeder.pending = world.feeder.pending)
    (prepared : next.feeder.Prepared world.shared.workpool)
    (current : next.current = world.current ∨ world.current.Idle ∧ next.current.Idle)
    (ended
      : world.owner.renewed = false
        → world.current.Finishing world.shared.control.state
        → next.owner.renewed = false ∧ next.current.Finishing next.shared.control.state)
    : next.Streaming header := by
  simp only [Traffic.stream, Prod.mk.injEq] at stream
  obtain ⟨-, fed, sent⟩ := stream
  have free : next.current.held = world.current.held := by
    rcases current with same | ⟨before, after⟩
    · rw [same]
    · rw [before.held, after.held]
  refine ⟨?_, pool ▸ prepared, ?_, pool ▸ streaming.stages, ?_⟩
  · have same : circulating next.shared.workpool next.feeder next.current
        = circulating world.shared.workpool world.feeder world.current := by
      simp only [circulating, pool, held, free]
    rw [same, pool]
    exact streaming.owns
  · intro inner position
    rcases current with same | ⟨-, after⟩
    · exact streaming.last inner (same ▸ position)
    · exact (after.counted inner position).1
  · cases streaming.flow with
    | live valid counted exact =>
        refine .live (by rw [pool, valid]) ?_ ?_
        · intro inner position
          rcases current with same | ⟨-, after⟩
          · exact counted inner (same ▸ position)
          · exact (after.counted inner position).2
        · have remaining : next.current.remaining world.shared.workpool
              = world.current.remaining world.shared.workpool := by
            rcases current with same | ⟨before, after⟩
            · rw [same]
            · rw [before.remaining, after.remaining]
          rw [pool, sent, fed, remaining, pending, exact]
    | ended first silent =>
        refine .ended (by rw [sent, fed]; exact first) ?_
        cases silent with
        | starved invalid unheld => exact .starved (by rw [pool, invalid]) (free.trans unheld)
        | finishing unrenewed finishing =>
            obtain ⟨later, still⟩ := ended unrenewed finishing
            exact .finishing later still

/-- The initialisation starts the stream with the header alone. -/
theorem World.streaming_of_initialised {arguments : OpenArguments} {junk : List UInt8}
    (ready : initialise world.shared arguments junk = some next.shared)
    (idle : next.current.Idle) (free : next.feeder.held = none)
    (pending : next.feeder.pending = []) (prepared : ∀ pool, next.feeder.Prepared pool)
    : next.Streaming (sessionHeader arguments) := by
  obtain ⟨contents, elements, maxElements, found, usable, payload⟩ :=
    initialise_eq world.shared arguments junk
  have shared := (Option.some.inj (found.symm.trans ready)).symm
  refine ⟨?_, prepared _, fun inner position => (idle.counted inner position).1, ?_,
    .live ?_ (fun inner position => (idle.counted inner position).2) ?_⟩
  · simp only [shared, circulating, free, idle.held]
    refine ⟨by simp, by simp, ?_⟩
    intro buffer member
    have same : buffer = world.shared.workpool.allocated := by simpa using member
    simpa [same] using usable
  · rw [shared]
    exact ⟨fun _ => rfl, rfl, by rintro ⟨⟩⟩
  · rw [shared]
  · rw [idle.remaining, pending]
    simp [shared, WorkPool.backlog, payload, dongleInfo_eq]

/-- A step of `sdrtcp_feed` puts what it hands over at the end of the stream. -/
theorem World.Streaming.fed (streaming : world.Streaming header)
    (effect
      : FeedEffect world.current world.feeder next.feeder world.shared next.shared)
    (current : next.current = world.current)
    (state : next.shared.control.state = world.shared.control.state)
    (owner : next.owner.renewed = true → world.owner.renewed = true)
    : next.Streaming header := by
  obtain ⟨more, handed, moved⟩ := effect.handed
  refine ⟨current ▸ effect.owns, effect.prepared, current ▸ streaming.last, effect.stages, ?_⟩
  cases streaming.flow with
  | live valid counted exact =>
      refine .live (effect.valid.trans valid) (current ▸ counted) ?_
      rw [handed, ← List.append_assoc, exact, effect.sent, current, effect.remaining,
        List.append_assoc _ next.shared.workpool.backlog, moved valid]
      simp only [List.append_assoc]
  | ended first silent =>
      refine .ended ?_ ?_
      · rw [handed, effect.sent, ← List.append_assoc]
        exact first.trans (List.prefix_append _ _)
      · cases silent with
        | starved invalid free =>
            exact .starved (effect.valid.trans invalid) (current ▸ free)
        | finishing unrenewed finishing =>
            refine .finishing ?_ (by rw [current, state]; exact finishing)
            cases renewed : next.owner.renewed with
            | false => rfl
            | true => rw [owner renewed] at unrenewed; cases unrenewed

/-- A step of `serveClient` moves bytes of the stream towards the client. -/
theorem World.Streaming.served (streaming : world.Streaming header) {reply : Reply}
    {pos : ServeClientPoint} {progress : Progress ServeClientPoint Unit}
    (position : world.current = .serving pos)
    (moved : serveClient world.shared reply pos = some (next.shared, progress))
    (current : next.current = .ofServing progress) (feeder : next.feeder = world.feeder)
    (unrenewed : next.owner.renewed = false)
    : next.Streaming header := by
  have owns := streaming.owns
  rw [position] at owns
  have last := streaming.last pos position
  have frame := serveClient_keeps owns streaming.stages streaming.prepared last moved
  have following (inner : ServeClientPoint) (found : next.current = .serving inner)
      : progress = .point inner := by
    rw [current] at found
    cases progress with
    | point other => cases found; rfl
    | returned result => cases found
  refine ⟨by rw [current, feeder]; exact frame.owns, by rw [feeder]; exact frame.prepared,
    fun inner found => frame.last inner (following inner found), frame.stages, ?_⟩
  have first (same : next.shared.traffic.sent = world.shared.traffic.sent)
      : next.shared.traffic.sent <+: header ++ next.shared.traffic.fed.flatten := by
    rw [same, frame.fed]
    exact streaming.flow.sent
  cases streaming.flow with
  | live valid counted exact =>
      rcases serveClient_sends owns streaming.stages last valid (counted pos position) moved
        with ⟨still, onward⟩ | ⟨same, finishing⟩
      · refine .live (frame.valid.trans valid)
          (fun inner found => still inner (following inner found)) ?_
        rw [frame.fed, exact, position, feeder, current, onward]
      · exact .ended (first same) (.finishing unrenewed (by rw [current]; exact finishing))
  | ended _ silent =>
      cases silent with
      | starved invalid free =>
          rw [position] at free
          obtain ⟨same, unheld⟩ := serveClient_starved streaming.stages invalid last free moved
          exact .ended (first same)
            (.starved (frame.valid.trans invalid) (by rw [current]; exact unheld))
      | finishing _ finishing =>
          rw [position] at finishing
          obtain ⟨same, still⟩ := serveClient_finishing finishing moved
          exact .ended (first same) (.finishing unrenewed (by rw [current]; exact still))

/-- Outside its critical section `sdrtcp_feed` hands nothing over. -/
theorem FeedPoint.outside {pos : FeedPoint} (outside : pos.inSection = false)
    : pos.held = none ∧ pos.pending = [] := by
  cases pos <;> first | (cases outside; done) | exact ⟨rfl, rfl⟩

/-- A step of `sdrtcp_feed` outside its critical section keeps the arguments of its call. -/
theorem sdrtcpFeed_calling {shared after : Shared} {reply : Reply} {pos following : FeedPoint}
    (moved : sdrtcpFeed shared reply pos = some (after, following))
    (calling : pos.inSection = false → ∀ pool, pos.Prepared pool)
    (outside : following.inSection = false) (pool : WorkPool)
    : following.Prepared pool := by
  cases following with
  | testServing call | lock call =>
      cases pos with
      | testServing other =>
          simp only [sdrtcpFeed] at moved
          split at moved <;> cases moved <;> exact calling rfl pool
      | returned result => cases moved
      | lock other =>
          obtain ⟨-, result⟩ := Shared.locked_eq_some.mp moved
          cases result
      | get other inner | pass other buffer inner =>
          simp only [sdrtcpFeed] at moved
          split at moved <;> cases moved
      | prepare other buffer =>
          cases reply with
          | bytes junk =>
              obtain ⟨ready, -, result⟩ := Option.bind_eq_some_iff.mp moved
              cases result
          | _ => cases moved
      | copy other buffer =>
          obtain ⟨copied, -, result⟩ := Option.bind_eq_some_iff.mp moved
          cases result
      | testWaiting stages holdsLock =>
          cases stages with
          | nil => cases holdsLock <;> cases moved
          | cons stage rest =>
              simp only [sdrtcpFeed] at moved
              split at moved <;> cases holdsLock <;> cases moved
      | _ =>
          simp only [sdrtcpFeed] at moved
          try split at moved
          all_goals cases moved
  | returned | testWaiting => trivial
  | _ => cases outside

/-- Every step keeps the arguments of a feed call known. -/
theorem World.Streams.calling (streams : world.Streams event next) (calling : world.Calling)
    : next.Calling := by
  intro outside pool
  cases streams with
  | aside aside stores feeder =>
      rcases feeder with same | ⟨result, call, -, valid, entered⟩
      · rw [same] at outside ⊢
        exact calling outside pool
      · rw [entered]
        exact valid
  | initialised chosen position ready free feeder =>
      rw [feeder] at outside ⊢
      exact calling outside pool
  | fed chosen moved => exact sdrtcpFeed_calling moved calling outside pool
  | served chosen position moved server feeder =>
      rw [feeder] at outside ⊢
      exact calling outside pool

/-- A server thread that does not serve is idle. -/
theorem ServerPoint.idle_of_serves {pos : ServerPoint} (outside : pos.serves = false)
    : pos.Idle := by
  intro inner position
  rw [position] at outside
  cases outside

/-- The latest server thread is idle when no thread serves. -/
theorem World.Successive.idle (successive : world.Successive)
    (outside : ∀ session < world.servers, (world.server session).serves = false)
    : world.current.Idle := by
  refine ServerPoint.idle_of_serves ?_
  unfold World.current
  rcases Nat.eq_zero_or_pos world.servers with none_ | positive
  · rw [successive.absent _ (by omega)]
    rfl
  · exact outside _ (by omega)

/-- A finished server thread does not serve. -/
theorem ServerPoint.serves_of_finished {pos : ServerPoint} (finished : pos.finished = true)
    : pos.serves = false := by
  cases pos <;> first | rfl | cases finished

/-- Every step aside from the stream keeps it, a cleanup of an undisturbed session included. -/
theorem World.Streaming.of_aside (streaming : world.Streaming header)
    (fires : world.Fires event next) (successive : world.Successive)
    (locked : world.Locked) (calling : world.Calling) (undisturbed : world.undisturbed event)
    (aside : world.shared.Aside (world.cleansUp event) next.shared)
    (stores : world.stores event ≠ some .initialized)
    (feeder
      : next.feeder = world.feeder
        ∨ ∃ result call,
            world.feeder = .returned result
            ∧ call.Valid
            ∧ next.feeder = .testServing call)
    (serving
      : ∀ session,
          next.server session = world.server session
          ∨ (world.servers ≤ session ∨ ∀ pos, world.server session ≠ .serving pos)
            ∧ ∀ pos, next.server session = .serving pos → pos = .loop)
    : next.Streaming header := by
  have current := fires.current successive serving
  by_cases freed : world.freesPool event
  · have pool : next.shared.workpool = SdrTcp.poolFree world.shared.workpool := by
      rw [aside.pool, freed.1, if_pos rfl, sdrtcpCleanup, if_pos freed.2]
    have outside : world.feeder.inSection = false := locked.symm.trans (aside.free freed.1)
    have idle : next.current.Idle := by
      rcases current with same | ⟨-, idle⟩
      · exact same ▸ successive.idle (undisturbed.2 freed)
      · exact idle
    rcases feeder with same | ⟨result, call, -, valid, entered⟩
    · exact streaming.freed pool aside.stream (by rw [same]; exact (FeedPoint.outside outside).1)
        (by rw [same]; exact calling outside) idle
    · exact streaming.freed pool aside.stream (by rw [entered]; rfl)
        (by rw [entered]; exact fun _ => valid) idle
  · have pool : next.shared.workpool = world.shared.workpool := by
      rw [aside.pool]
      cases cleaned : world.cleansUp event with
      | false => rfl
      | true =>
          have fresh : world.shared.control.state = .uninitialized := by
            by_contra live
            exact freed ⟨cleaned, live⟩
          simp [sdrtcpCleanup, fresh]
    have ended (unrenewed : world.owner.renewed = false)
        (finishing : world.current.Finishing world.shared.control.state)
        : next.owner.renewed = false ∧ next.current.Finishing next.shared.control.state := by
      refine ⟨?_, fires.finishing successive unrenewed serving finishing⟩
      cases renewed : next.owner.renewed with
      | false => rfl
      | true =>
          rcases fires.renewed renewed with before | stored
          · rw [unrenewed] at before
            cases before
          · exact absurd stored stores
    rcases feeder with same | ⟨result, call, outside, valid, entered⟩
    · exact streaming.aside pool aside.stream (by rw [same]) (by rw [same])
        (by rw [same]; exact streaming.prepared) current ended
    · exact streaming.aside pool aside.stream (by rw [entered, outside]; rfl)
        (by rw [entered, outside]; rfl) (by rw [entered]; exact valid) current ended

/-- Every step of an undisturbed session keeps its stream. -/
theorem World.Streams.streaming (streams : world.Streams event next)
    (fires : world.Fires event next) (successive : world.Successive) (locked : world.Locked)
    (calling : world.Calling) (undisturbed : world.undisturbed event)
    (streaming
      : ∀ arguments,
          world.shared.traffic.opened = some arguments
          → world.Streaming (sessionHeader arguments))
    (arguments : OpenArguments) (opened : next.shared.traffic.opened = some arguments)
    : next.Streaming (sessionHeader arguments) := by
  cases streams with
  | aside aside stores feeder serving =>
      have same := congrArg Prod.fst aside.stream
      exact (streaming arguments (same.symm.trans opened)).of_aside fires successive locked
        calling undisturbed aside stores feeder serving
  | @initialised others junk chosen position ready free feeder server =>
      have outside : world.feeder.inSection = false := locked.symm.trans free
      have finished : ∀ session < world.servers, (world.server session).finished = true := by
        have successive := undisturbed.1
        rw [chosen] at successive
        simpa only [World.successive, position] using successive
      have idle : next.current.Idle := by
        have known := successive.idle fun session exists_ =>
          ServerPoint.serves_of_finished (finished session exists_)
        rcases fires.servers with same | ⟨renewed, -⟩
        · rwa [World.current, same, server]
        · rw [position] at renewed
          cases renewed
      obtain ⟨held, pending⟩ := FeedPoint.outside outside
      obtain ⟨_, _, _, found, -⟩ := initialise_eq world.shared others junk
      have same : others = arguments := by
        rw [found] at ready
        rw [← Option.some.inj ready] at opened
        exact Option.some.inj opened
      subst same
      exact World.streaming_of_initialised ready idle (by rw [feeder, held])
        (by rw [feeder, pending]) (by rw [feeder]; exact calling outside)
  | fed chosen moved server =>
      have same := (sdrtcpFeed_frame moved locked).2.2
      have known := streaming arguments (same.symm.trans opened)
      have unstored : world.stores event = none := by rw [chosen]; rfl
      have effect := sdrtcpFeed_effect known.owns known.stages known.prepared moved
      refine known.fed effect ?_ ?_ ?_
      · rcases fires.servers with same | ⟨-, grown⟩
        · rw [World.current, same, server]
          rfl
        · subst chosen
          cases fires
          simp at grown
      · rw [fires.state, unstored, chosen]
        rfl
      · intro renewed
        rcases fires.renewed renewed with before | stored
        · exact before
        · rw [unstored] at stored
          cases stored
  | @served session reply pos progress chosen position moved server feeder =>
      have same := (serveClient_frame moved).2.2
      have known := streaming arguments (same.symm.trans opened)
      have latest := @World.Successive.latest _ successive session (by simp [position])
        (by rw [position]; rfl)
      have unrenewed : world.owner.renewed = false := by
        cases renewed : world.owner.renewed with
        | false => rfl
        | true =>
            have finished := successive.renewed renewed session (by omega)
            rw [position] at finished
            cases finished
      have index : world.servers - 1 = session := by omega
      have servers : next.servers = world.servers := by
        rcases fires.servers with same | ⟨renewed, -⟩
        · exact same
        · rw [unrenewed] at renewed
          cases renewed
      refine known.served (by rw [World.current, index, position]) moved ?_ feeder ?_
      · rw [World.current, servers, index, server, Function.update_self]
      · cases renewed : next.owner.renewed with
        | false => rfl
        | true =>
            rcases fires.renewed renewed with before | stored
            · rw [unrenewed] at before
              cases before
            · rw [chosen] at stored
              exact absurd stored ServerPoint.stores_ne_initialized

end Steps

/-- In every state of every undisturbed run the session keeps its stream. -/
theorem streaming_of_reachable {world : World} {arguments : OpenArguments}
    (reachable : (server.restrict World.undisturbed).Reachable world)
    (opened : world.shared.traffic.opened = some arguments)
    : world.Streaming (sessionHeader arguments) := by
  have known :=
    reachable.invariant
      (fun world =>
        world.Successive
        ∧ world.Calling
        ∧ ∀ arguments,
            world.shared.traffic.opened = some arguments
            → world.Streaming (sessionHeader arguments))
      (by
        intro start initial
        obtain ⟨workpool, rfl⟩ := initial
        exact ⟨⟨fun _ _ => rfl, nofun, nofun⟩, fun _ _ => trivial, nofun⟩)
      (by
        intro current choice next before known fired
        obtain ⟨successive, calling, streaming⟩ := known
        obtain ⟨undisturbed, fired⟩ := System.restrict_step_iff.mp fired
        have fires := World.step_cases fired
        have locked := locked_of_reachable before.of_restrict
        exact ⟨fires.successive undisturbed.1 successive, fires.streams.calling calling,
          fires.streams.streaming fires successive locked calling undisturbed streaming⟩)
  exact known.2.2 arguments opened

/-- `sdrtcp_feed` never writes past the buffer it obtained: with an allocator that succeeds
neither its preparation nor its copy faults.
-/
theorem feed_never_faults {world : World} {arguments : OpenArguments} {call : FeedCall}
    {buffer : Nat} (reachable : (server.restrict World.undisturbed).Reachable world)
    (opened : world.shared.traffic.opened = some arguments)
    (inside : world.feeder = .prepare call buffer ∨ world.feeder = .copy call buffer)
    (junk : List UInt8)
    : (sdrtcpFeed world.shared (.bytes junk) world.feeder).isSome := by
  have streaming := streaming_of_reachable reachable opened
  have held : world.feeder.held = some buffer := by
    rcases inside with position | position <;> rw [position] <;> rfl
  have usable := streaming.owns.usable buffer (by simp [circulating, held])
  have prepared := streaming.prepared
  rcases inside with position | position
  · obtain ⟨ready, found, -⟩ := usable.prepared call.len junk
    simp [position, sdrtcpFeed, found]
  · rw [position] at prepared
    obtain ⟨enough, size, roomy⟩ := prepared
    obtain ⟨copied, found, -⟩ := usable.copied enough size roomy
    simp [position, sdrtcpFeed, found]

/-- In every state of every undisturbed run, whatever its timeouts, partial sends and order of
steps, the bytes that `send` accepted in the session are the first of its header followed by
the payloads of the feed calls that obtained a buffer, in the order of those calls.
-/
theorem sent_prefix_of_header_and_fed {world : World} {arguments : OpenArguments}
    (reachable : (server.restrict World.undisturbed).Reachable world)
    (opened : world.shared.traffic.opened = some arguments)
    : world.shared.traffic.sent
      <+: sessionHeader arguments ++ world.shared.traffic.fed.flatten :=
  (streaming_of_reachable reachable opened).flow.sent

/-- A feed call that finds the queue empty and allocates a buffer. -/
def feedSchedule : List Event :=
  [.feed ⟨[1, 2, 3, 4], 2⟩] ++ List.replicate 9 (.feeder .none) ++ [.feeder (.bytes [])]
    ++ List.replicate 4 (.feeder .none)

/-- A server thread that sends the header in two parts, with a timeout between them, and
then the first bytes of the next buffer.
-/
def sendSchedule : List Event :=
  List.replicate 7 (.server 0 .none)
  ++ [.server 0 (.value 1), .server 0 .none, .server 0 (.value 5), .server 0 .none,
    .server 0 .none, .server 0 .none, .server 0 (.value 0), .server 0 .none,
    .server 0 .none, .server 0 .none, .server 0 (.value 1), .server 0 .none,
    .server 0 (.value 7)]
  ++ List.replicate 12 (.server 0 .none)
  ++ [.server 0 (.value 1), .server 0 .none, .server 0 (.value 3)]

/-- A client that has received its header and three of the four bytes fed. -/
theorem sent_prefix_after_partial_sends
    : ∃ world,
        (server.restrict World.undisturbed).Reachable world
        ∧ world.shared.traffic.sent.length = 15
        ∧ world.shared.traffic.sent
          <+: sessionHeader ⟨(82, 84, 76, 48), 5, 29⟩
            ++ world.shared.traffic.fed.flatten := by
  have replayed
      : ((server.restrict World.undisturbed).run (World.initial .zeroed)
            (servingSchedule ++ acceptingSchedule ++ List.replicate 5 (.server 0 .none)
            ++ feedSchedule ++ sendSchedule)).map
          (fun world =>
            (world.shared.traffic.opened, world.shared.traffic.sent.length))
        = some (some ⟨(82, 84, 76, 48), 5, 29⟩, 15) := by
    decide +kernel
  obtain ⟨world, reachable, seen⟩ := System.exists_reachable_of_run replayed ⟨.zeroed, rfl⟩
  simp only [Prod.mk.injEq] at seen
  exact ⟨world, reachable, seen.2, sent_prefix_of_header_and_fed reachable seen.1⟩

end RtlTcpAndro.SdrTcp
