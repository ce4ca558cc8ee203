import RtlTcpAndro.SdrTcp.BufferOwners

/-! The sample stream between `sdrtcp_feed` and `serveClient`.
Each buffer in circulation has one place, and the bytes handed over but not yet sent are
those of the served buffer, of the queue to the server and of the feed in progress.
-/

namespace RtlTcpAndro.SdrTcp

open RtlTcpAndro.Interleaving RtlTcpAndro.ByteStreams

/-- The buffers in circulation are distinct, allocated and usable. -/
structure WorkPool.Owns (pool : WorkPool) (buffers : List Nat) : Prop where
  distinct : buffers.Nodup
  allocated : ∀ buffer ∈ buffers, buffer < pool.allocated
  usable : ∀ buffer ∈ buffers, (pool.heap buffer).Usable

section Owns

variable {pool : WorkPool} {buffers others : List Nat}

/-- Buffers may change places or leave the circulation. -/
theorem WorkPool.Owns.of_subperm (owns : pool.Owns buffers)
    (fewer : others.Subperm buffers)
    : pool.Owns others where
  distinct := by
    obtain ⟨middle, perm, sublist⟩ := fewer
    exact perm.nodup_iff.mp (owns.distinct.sublist sublist)
  allocated buffer member := owns.allocated buffer (fewer.subset member)
  usable buffer member := owns.usable buffer (fewer.subset member)

/-- A buffer in circulation may be filled with usable contents. -/
theorem WorkPool.Owns.setBuffer (owns : pool.Owns buffers) {buffer : Nat}
    {contents : ExtBuffer} (usable : contents.Usable)
    : (pool.setBuffer buffer contents).Owns buffers where
  distinct := owns.distinct
  allocated := owns.allocated
  usable other member := by
    by_cases same : other = buffer
    · subst same
      simpa [WorkPool.setBuffer] using usable
    · simpa [WorkPool.setBuffer, Function.update_of_ne same] using owns.usable other member

/-- A newly allocated buffer enters the circulation. -/
theorem WorkPool.Owns.fresh (owns : pool.Owns buffers)
    (ushort : pool.extbufferType = .ushort)
    : ({ pool.setBuffer pool.allocated (extbufferInit pool.extbufferType) with
          allocated := pool.allocated + 1 } : WorkPool).Owns
        (pool.allocated :: buffers) where
  distinct :=
    List.nodup_cons.mpr
      ⟨fun member => Nat.lt_irrefl _ (owns.allocated _ member), owns.distinct⟩
  allocated buffer member := by
    rcases List.mem_cons.mp member with new | old
    · exact new ▸ Nat.lt_succ_self _
    · exact Nat.lt_succ_of_lt (owns.allocated buffer old)
  usable buffer member := by
    rcases List.mem_cons.mp member with new | old
    · subst new
      simpa [WorkPool.setBuffer, ushort] using extbufferInit_usable
    · have other : buffer ≠ pool.allocated := Nat.ne_of_lt (owns.allocated buffer old)
      simpa [WorkPool.setBuffer, Function.update_of_ne other] using owns.usable buffer old

end Owns

/-- The buffers in circulation: those in the two queues and those the threads hold. -/
def circulating (pool : WorkPool) (feeder : FeedPoint) (server : ServerPoint) : List Nat :=
  pool.queues 0 ++ pool.queues 1 ++ feeder.held.toList ++ server.held.toList

/-- The bytes queued for the server. -/
def WorkPool.backlog (pool : WorkPool) : List UInt8 :=
  ((pool.queues 1).map (fun buffer => (pool.heap buffer).payload)).flatten

/-- The bytes of the feed call that holds a buffer. -/
def FeedPoint.pending : FeedPoint → List UInt8
  | .prepare call _ | .copy call _ | .pass call _ _ => call.payload
  | _ => []

/-- The bytes of the served buffer that `send` has not accepted. -/
def ServerPoint.remaining (pool : WorkPool) : ServerPoint → List UInt8
  | .serving pos =>
      match pos with
      | .measure buffer => (pool.heap buffer).payload
      | .sendLoop sending | .testSelect sending | .select sending | .storeSelectFailed sending
      | .testSend sending _ | .send sending | .testSendFailed sending _ => sending.offered pool
      | _ => []
  | _ => []

/-- What `sdrtcp_feed` knows of the buffer it holds. -/
def FeedPoint.Prepared (pool : WorkPool) : FeedPoint → Prop
  | .testServing call | .lock call | .testLocked call | .get call _ | .prepare call _ =>
      call.Valid
  | .copy call buffer =>
      call.Valid
      ∧ (pool.heap buffer).sizeValidElements = call.len
      ∧ (0 < call.len
        → ∃ block,
            (pool.heap buffer).ushortbuffer = some block
            ∧ 2 * call.len ≤ block.length)
  | .pass call buffer pos =>
      (pool.heap buffer).payload = call.payload ∧ (pos = .checkValid ∨ pos = .add 1)
  | _ => True

/-- What `serveClient` knows of where it is in the pool's functions: as the last stage it
never allocates, and passes its buffer on to the first queue.
-/
def ServeClientPoint.LastStage : ServeClientPoint → Prop
  | .get pos => pos.held = none ∧ pos ≠ .allocate
  | .pass _ pos => pos = .checkValid ∨ pos = .reset ∨ pos = .add 0
  | _ => True

/-- The send loop has counted no failed `send`. -/
def ServeClientPoint.Counted : ServeClientPoint → Prop
  | .sendLoop sending | .testSelect sending | .select sending | .storeSelectFailed sending
  | .testSend sending _ | .send sending => 0 ≤ sending.index ∧ 0 ≤ sending.bytesleft
  | .testSendFailed sending bytessent =>
      0 ≤ sending.index ∧ 0 ≤ sending.bytesleft ∧ bytessent ≠ -1
  | .storeSendFailed _ => False
  | _ => True

/-- What a session's pool keeps from its initialisation on; once freed it stays empty. -/
structure WorkPool.TwoStages (pool : WorkPool) : Prop where
  ids : pool.valid = true → pool.maxIds = 2
  ushort : pool.extbufferType = .ushort
  drained : pool.valid = false → ∀ id, pool.queues id = []

/-- The bytes read from a buffer are those of its contents. -/
theorem ServerPoint.remaining_congr {pool after : WorkPool} {server : ServerPoint}
    (same : ∀ buffer ∈ server.held, after.heap buffer = pool.heap buffer)
    : server.remaining after = server.remaining pool := by
  cases server with
  | serving pos =>
      cases pos <;> try rfl
      all_goals
        simp only [ServerPoint.held, ServeClientPoint.held, Option.mem_some_iff,
          forall_eq'] at same
        simp only [ServerPoint.remaining, Sending.offered, same]
  | _ => rfl

/-- The queued bytes are those of the queued buffers' contents. -/
theorem WorkPool.backlog_congr {pool after : WorkPool}
    (queue : after.queues 1 = pool.queues 1)
    (same : ∀ buffer ∈ pool.queues 1, after.heap buffer = pool.heap buffer)
    : after.backlog = pool.backlog := by
  unfold WorkPool.backlog
  rw [queue]
  congr 1
  refine List.map_congr_left ?_
  intro buffer member
  rw [same buffer member]

/-- The buffer a thread holds after a step of `pool_get_wait_lock`. -/
def takenBuffer : Progress GetPoint (Option Nat) → Option Nat
  | .point next => next.held
  | .returned result => result

section Taking

variable {id : Nat} {pool after : WorkPool} {pos : GetPoint}
  {progress : Progress GetPoint (Option Nat)}

/-- Taking a buffer changes no contents but those of a newly allocated one. -/
theorem GetOutcome.heap (outcome : GetOutcome id pool pos after progress) {buffer : Nat}
    (old : buffer < pool.allocated)
    : after.heap buffer = pool.heap buffer := by
  cases outcome with
  | fresh => exact Function.update_of_ne (Nat.ne_of_lt old) ..
  | _ => rfl

/-- Taking a buffer keeps the buffers in circulation distinct and usable, by cases on where
the taken buffer comes from.
-/
theorem GetOutcome.owns {others : List Nat} (outcome : GetOutcome id pool pos after progress)
    (queue : id = 0 ∨ id = 1) (ushort : pool.extbufferType = .ushort)
    (owns : pool.Owns (pool.queues 0 ++ pool.queues 1 ++ pos.held.toList ++ others))
    : after.Owns
        (after.queues 0 ++ after.queues 1 ++ (takenBuffer progress).toList ++ others) := by
  cases outcome with
  | waits same => rwa [takenBuffer, same]
  | empty free => rwa [takenBuffer, ← free]
  | @popped buffer rest free head =>
      rw [free] at owns
      have moved : pool.Owns
          (Function.update pool.queues id rest 0 ++ Function.update pool.queues id rest 1
            ++ [buffer] ++ others) := by
        refine owns.of_subperm (List.Perm.subperm ?_)
        rcases queue with rfl | rfl <;>
          simp only [head, Function.update_self, ne_eq, zero_ne_one, one_ne_zero,
            not_false_eq_true, Function.update_of_ne, Option.toList_none, List.append_nil]
        · simp only [List.append_assoc, List.cons_append, List.nil_append]
          rw [← List.append_assoc, ← List.append_assoc]
          exact List.perm_middle
        · simp only [List.append_assoc, List.cons_append, List.nil_append]
          exact List.Perm.append_left _ List.perm_middle
      exact ⟨moved.distinct, moved.allocated, moved.usable⟩
  | fresh position =>
      have grown := (owns.fresh ushort)
      rw [position] at grown
      refine grown.of_subperm (List.Perm.subperm ?_)
      simp only [takenBuffer, GetPoint.held, WorkPool.setBuffer, Option.toList_some,
        Option.toList_none, List.append_nil, List.append_assoc, List.cons_append,
        List.nil_append]
      rw [← List.append_assoc, ← List.append_assoc]
      exact List.perm_middle
  | obtained holding =>
      rw [holding] at owns
      exact ⟨owns.distinct, owns.allocated, owns.usable⟩

/-- Taking a buffer keeps what a session's pool keeps. -/
theorem GetOutcome.stages (outcome : GetOutcome id pool pos after progress)
    (stages : pool.TwoStages)
    : after.TwoStages := by
  cases outcome with
  | popped free head =>
      refine ⟨stages.ids, stages.ushort, fun invalid => ?_⟩
      rw [stages.drained invalid id] at head
      cases head
  | _ => exact ⟨stages.ids, stages.ushort, stages.drained⟩

/-- A last stage that waits holds nothing and is not about to allocate. -/
theorem GetOutcome.waiting {next : GetPoint}
    (outcome : GetOutcome 1 pool pos after (.point next))
    (last : pos.held = none ∧ pos ≠ .allocate)
    : next.held = none ∧ next ≠ .allocate := by
  cases outcome with
  | waits same first => exact ⟨same.trans last.1, fun allocates => by cases first allocates⟩
  | fresh position => exact absurd position last.2

/-- A first stage leaves the queue of the second alone. -/
theorem GetOutcome.queue (outcome : GetOutcome 0 pool pos after progress)
    : after.queues 1 = pool.queues 1 := by
  cases outcome <;> rfl

end Taking

section Feeding

variable {shared after : Shared} {reply : Reply} {pos next : FeedPoint} {server : ServerPoint}

/-- What one step of `sdrtcp_feed` does to the stream: it hands over the payload of a call
that obtains a buffer, and moves it to the queue of a valid pool.
-/
structure FeedEffect (server : ServerPoint) (pos next : FeedPoint) (shared after : Shared)
    : Prop where
  owns : after.workpool.Owns (circulating after.workpool next server)
  prepared : next.Prepared after.workpool
  stages : after.workpool.TwoStages
  valid : after.workpool.valid = shared.workpool.valid
  sent : after.traffic.sent = shared.traffic.sent
  remaining : server.remaining after.workpool = server.remaining shared.workpool
  handed
    : ∃ more,
        after.traffic.fed.flatten = shared.traffic.fed.flatten ++ more
        ∧ (shared.workpool.valid = true
          → after.workpool.backlog ++ next.pending
            = shared.workpool.backlog ++ pos.pending ++ more)

/-- A buffer that `sdrtcp_feed` holds is neither queued nor served. -/
theorem WorkPool.Owns.fed_elsewhere {pool : WorkPool} {buffer : Nat}
    (owns : pool.Owns (circulating pool pos server)) (held : pos.held = some buffer)
    : buffer ∉ pool.queues 1 ∧ buffer ∉ server.held := by
  have distinct := owns.distinct
  simp only [circulating, held, Option.toList_some] at distinct
  obtain ⟨before, -, apart⟩ := List.nodup_append.mp distinct
  obtain ⟨-, -, queued⟩ := List.nodup_append.mp before
  refine ⟨?_, ?_⟩
  · intro member
    exact queued buffer (List.mem_append_right _ member) buffer (by simp) rfl
  · intro member
    exact apart buffer (by simp) buffer (by simpa using member) rfl

/-- The buffers in circulation stay those when a thread keeps or drops the one it holds. -/
theorem circulating_kept {pool : WorkPool}
    (held : next.held = pos.held ∨ next.held = none)
    : (circulating pool next server).Subperm (circulating pool pos server) := by
  unfold circulating
  refine List.Sublist.subperm ?_
  refine List.Sublist.append (List.Sublist.append (List.Sublist.refl _) ?_) (List.Sublist.refl _)
  rcases held with same | dropped
  · rw [same]
  · simp [dropped]

/-- A step of `sdrtcp_feed` that leaves pool and stream alone, and may drop a buffer that an
invalid pool has no queue for.
-/
theorem FeedEffect.of_same (owns : shared.workpool.Owns (circulating shared.workpool pos server))
    (stages : shared.workpool.TwoStages) (pool : after.workpool = shared.workpool)
    (fed : after.traffic.fed = shared.traffic.fed)
    (sent : after.traffic.sent = shared.traffic.sent)
    (held : next.held = pos.held ∨ next.held = none)
    (prepared : next.Prepared shared.workpool)
    (pending : shared.workpool.valid = true → next.pending = pos.pending)
    : FeedEffect server pos next shared after := by
  refine ⟨?_, pool ▸ prepared, pool ▸ stages, by rw [pool], sent, by rw [pool], ?_⟩
  · rw [pool]
    exact owns.of_subperm (circulating_kept held)
  · refine ⟨[], by rw [fed, List.append_nil], fun valid => ?_⟩
    rw [pool, pending valid, List.append_nil]

/-- A step of `sdrtcp_feed` that writes to the buffer it holds. -/
theorem FeedEffect.of_setBuffer {buffer : Nat} {contents : ExtBuffer}
    (owns : shared.workpool.Owns (circulating shared.workpool pos server))
    (stages : shared.workpool.TwoStages) (usable : contents.Usable)
    (pool : after.workpool = shared.workpool.setBuffer buffer contents)
    (traffic : after.traffic = shared.traffic)
    (holding : pos.held = some buffer) (held : next.held = some buffer)
    (prepared : next.Prepared after.workpool) (pending : next.pending = pos.pending)
    : FeedEffect server pos next shared after := by
  obtain ⟨unqueued, unserved⟩ := owns.fed_elsewhere holding
  have elsewhere (other : Nat) (distinct : other ≠ buffer)
      : after.workpool.heap other = shared.workpool.heap other := by
    rw [pool]
    exact Function.update_of_ne distinct ..
  have same : circulating after.workpool next server
      = circulating shared.workpool pos server := by
    rw [pool]
    simp only [circulating, WorkPool.setBuffer, held, holding]
  refine ⟨?_, prepared, ?_, ?_, by rw [traffic], ?_, ⟨[], ?_, ?_⟩⟩
  · rw [same, pool]
    exact owns.setBuffer usable
  · rw [pool]
    exact ⟨stages.ids, stages.ushort, stages.drained⟩
  · rw [pool]
    rfl
  · refine ServerPoint.remaining_congr fun other member => elsewhere other ?_
    intro same
    subst same
    exact unserved member
  · rw [traffic, List.append_nil]
  · intro _
    have queue : after.workpool.queues 1 = shared.workpool.queues 1 := by rw [pool]; rfl
    have backlog : after.workpool.backlog = shared.workpool.backlog := by
      refine WorkPool.backlog_congr queue fun other member => elsewhere other ?_
      intro same
      subst same
      exact unqueued member
    rw [backlog, pending, List.append_nil]

/-- A step of `sdrtcp_feed` inside `pool_get_wait_lock`. -/
theorem FeedEffect.of_get {call : FeedCall} {inner : GetPoint}
    (owns : shared.workpool.Owns (circulating shared.workpool (.get call inner) server))
    (stages : shared.workpool.TwoStages) (enough : call.Valid)
    (moved : sdrtcpFeed shared reply (.get call inner) = some (after, next))
    : FeedEffect server (.get call inner) next shared after := by
  have outcome := poolGetWaitLock_outcome 0 true shared.workpool inner
  have following := outcome.owns (.inl rfl) stages.ushort owns
  have constants := outcome.constants
  have heap (buffer : Nat)
      (member : buffer ∈ circulating shared.workpool (.get call inner) server) :=
    outcome.heap (owns.allocated buffer member)
  have queue : (poolGetWaitLock 0 true shared.workpool inner).1.queues 1
      = shared.workpool.queues 1 :=
    outcome.queue
  have backlog : (poolGetWaitLock 0 true shared.workpool inner).1.backlog
      = shared.workpool.backlog :=
    WorkPool.backlog_congr queue fun buffer member => heap buffer (by simp [circulating, member])
  have remaining : server.remaining (poolGetWaitLock 0 true shared.workpool inner).1
      = server.remaining shared.workpool :=
    ServerPoint.remaining_congr fun buffer member => heap buffer (by
      simp only [circulating, List.mem_append]
      exact .inr (by simpa using member))
  have kept := outcome.stages stages
  simp only [sdrtcpFeed] at moved
  split at moved <;> rename_i step <;>
    rw [step] at following backlog remaining kept constants <;> cases moved
  · exact ⟨following, enough, kept, constants.1, rfl, remaining,
      ⟨[], (List.append_nil _).symm, fun _ => by simp [backlog, FeedPoint.pending]⟩⟩
  · exact ⟨following, trivial, kept, constants.1, rfl, remaining,
      ⟨[], (List.append_nil _).symm, fun _ => by simp [backlog, FeedPoint.pending]⟩⟩
  · exact ⟨following, enough, kept, constants.1, rfl, remaining,
      ⟨call.payload, by simp, fun _ => by simp [backlog, FeedPoint.pending]⟩⟩

/-- The copy into a prepared buffer succeeds and leaves the payload of the call in it. -/
theorem ExtBuffer.Usable.copied {container : ExtBuffer} {call : FeedCall}
    (usable : container.Usable) (enough : call.Valid)
    (size : container.sizeValidElements = call.len)
    (roomy : 0 < call.len
      → ∃ block, container.ushortbuffer = some block ∧ 2 * call.len ≤ block.length)
    : ∃ copied,
        memcpyBlock container.ushortbuffer call.buf (2 * call.len) = some copied
        ∧ ({ container with ushortbuffer := copied } : ExtBuffer).Usable
        ∧ ({ container with ushortbuffer := copied } : ExtBuffer).payload = call.payload := by
  rcases Nat.eq_zero_or_pos call.len with none_ | positive
  · refine ⟨container.ushortbuffer, by simp [memcpyBlock, none_], usable, ?_⟩
    simp [ExtBuffer.payload, FeedCall.payload, size, none_]
  · obtain ⟨block, pointer, fits⟩ := roomy positive
    obtain ⟨copied, copy, length, payload⟩ := memcpyBlock_of_fits enough.1 fits
    refine ⟨some copied, by rw [pointer, copy], usable.overwritten pointer length, ?_⟩
    simp only [ExtBuffer.payload, FeedCall.payload, size, Option.getD_some, Int.toNat_natCast]
    exact payload

/-- A step of `sdrtcp_feed` inside `pool_get_unlock`: the buffer joins the queue to the
server, or is lost with an invalid pool.
-/
theorem FeedEffect.of_pass {call : FeedCall} {buffer : Nat} {inner : UnlockPoint}
    (owns : shared.workpool.Owns (circulating shared.workpool (.pass call buffer inner) server))
    (stages : shared.workpool.TwoStages)
    (prepared : (FeedPoint.pass call buffer inner).Prepared shared.workpool)
    (moved : sdrtcpFeed shared reply (.pass call buffer inner) = some (after, next))
    : FeedEffect server (.pass call buffer inner) next shared after := by
  obtain ⟨payload, position⟩ := prepared
  cases valid : shared.workpool.valid with
  | false =>
      have dropped : shared.workpool.valid = true → FeedPoint.pending next
          = (FeedPoint.pass call buffer inner).pending := by simp [valid]
      rcases position with rfl | rfl <;> simp only [sdrtcpFeed, poolGetUnlock, valid] at moved <;>
        cases moved <;>
        exact .of_same owns stages rfl rfl rfl (.inr rfl) trivial dropped
  | true =>
      rcases position with rfl | rfl
      · have ids := stages.ids valid
        simp only [sdrtcpFeed, poolGetUnlock, valid, ids] at moved
        cases moved
        exact .of_same owns stages rfl rfl rfl (.inl rfl) ⟨payload, .inr rfl⟩ (fun _ => rfl)
      · simp only [sdrtcpFeed, poolGetUnlock, valid, if_true] at moved
        cases moved
        have queued : ({ shared with
              workpool := shared.workpool.queueAdd 1 buffer } : Shared).workpool.Owns
            (circulating (shared.workpool.queueAdd 1 buffer) (.unlock 1) server) := by
          have kept := @WorkPool.Owns.of_subperm _ _
            (circulating (shared.workpool.queueAdd 1 buffer) (.unlock 1) server) owns (by
              simp [circulating, WorkPool.queueAdd, FeedPoint.held, List.Subperm.refl])
          exact ⟨kept.distinct, kept.allocated, kept.usable⟩
        refine ⟨queued, trivial, ⟨stages.ids, stages.ushort, by simp [WorkPool.queueAdd, valid]⟩,
          rfl, rfl, ?_, ⟨[], (List.append_nil _).symm, fun _ => ?_⟩⟩
        · exact ServerPoint.remaining_congr fun _ _ => rfl
        · simp [WorkPool.backlog, WorkPool.queueAdd, FeedPoint.pending, payload]

/-- Every step of `sdrtcp_feed` has this effect, by cases on its position. -/
theorem sdrtcpFeed_effect
    (owns : shared.workpool.Owns (circulating shared.workpool pos server))
    (stages : shared.workpool.TwoStages) (prepared : pos.Prepared shared.workpool)
    (moved : sdrtcpFeed shared reply pos = some (after, next))
    : FeedEffect server pos next shared after := by
  cases pos with
  | returned result => cases moved
  | lock call =>
      obtain ⟨-, result⟩ := Shared.locked_eq_some.mp moved
      cases result
      exact .of_same owns stages rfl rfl rfl (.inl rfl) prepared (fun _ => rfl)
  | get call inner => exact .of_get owns stages prepared moved
  | prepare call buffer =>
      cases reply with
      | bytes junk =>
          obtain ⟨ready, equal, result⟩ := Option.bind_eq_some_iff.mp moved
          cases result
          have usable := owns.usable buffer (by simp [circulating, FeedPoint.held])
          obtain ⟨_, found, usable, size, roomy⟩ := usable.prepared call.len junk
          cases equal.symm.trans found
          refine .of_setBuffer owns stages usable rfl rfl rfl rfl ?_ rfl
          simpa [FeedPoint.Prepared, WorkPool.setBuffer] using ⟨prepared, size, roomy⟩
      | _ => cases moved
  | copy call buffer =>
      obtain ⟨copied, equal, result⟩ := Option.bind_eq_some_iff.mp moved
      cases result
      obtain ⟨enough, size, roomy⟩ := prepared
      have usable := owns.usable buffer (by simp [circulating, FeedPoint.held])
      obtain ⟨_, found, usable, payload⟩ := usable.copied enough size roomy
      cases equal.symm.trans found
      refine .of_setBuffer owns stages usable rfl rfl rfl rfl ?_ rfl
      simpa [FeedPoint.Prepared, WorkPool.setBuffer] using payload
  | pass call buffer inner => exact .of_pass owns stages prepared moved
  | testWaiting waiting holdsLock =>
      cases waiting with
      | nil =>
          cases moved
          cases holdsLock <;>
            exact .of_same owns stages rfl rfl rfl (.inl rfl) trivial (fun _ => rfl)
      | cons stage rest =>
          simp only [sdrtcpFeed] at moved
          split at moved <;> cases moved <;> cases holdsLock <;>
            exact .of_same owns stages rfl rfl rfl (.inl rfl) trivial (fun _ => rfl)
  | unlock result =>
      cases moved
      exact .of_same owns stages rfl rfl rfl (.inl rfl) trivial (fun _ => rfl)
  | _ =>
      simp only [sdrtcpFeed] at moved
      split at moved <;> cases moved <;>
        first
        | exact .of_same owns stages rfl rfl rfl (.inl rfl) prepared (fun _ => rfl)
        | exact .of_same owns stages rfl rfl rfl (.inl rfl) trivial (fun _ => rfl)

end Feeding

/-- What `sdrtcp_feed` knows of its buffer is read from its contents. -/
theorem FeedPoint.Prepared.congr {pool after : WorkPool} {feeder : FeedPoint}
    (prepared : feeder.Prepared pool)
    (same : ∀ buffer ∈ feeder.held, after.heap buffer = pool.heap buffer)
    : feeder.Prepared after := by
  cases feeder with
  | copy call buffer | pass call buffer inner =>
      have equal := same buffer rfl
      simpa only [FeedPoint.Prepared, equal] using prepared
  | _ => exact prepared

section Serving

variable {shared after : Shared} {reply : Reply} {pos : ServeClientPoint}
  {progress : Progress ServeClientPoint Unit} {feeder : FeedPoint}

/-- What one step of `serveClient` keeps: the buffers and their contents, its place as the
last stage, and everything of the traffic but what it sends.
-/
structure ServeFrame (feeder : FeedPoint) (progress : Progress ServeClientPoint Unit)
    (shared after : Shared) : Prop where
  owns : after.workpool.Owns (circulating after.workpool feeder (.ofServing progress))
  last : ∀ next, progress = .point next → next.LastStage
  prepared : feeder.Prepared after.workpool
  stages : after.workpool.TwoStages
  valid : after.workpool.valid = shared.workpool.valid
  fed : after.traffic.fed = shared.traffic.fed

/-- A buffer that `serveClient` holds is neither queued nor being fed. -/
theorem WorkPool.Owns.served_elsewhere {pool : WorkPool} {buffer : Nat} {server : ServerPoint}
    (owns : pool.Owns (circulating pool feeder server)) (held : server.held = some buffer)
    : buffer ∉ pool.queues 1 ∧ buffer ∉ feeder.held := by
  have distinct := owns.distinct
  simp only [circulating, held, Option.toList_some] at distinct
  obtain ⟨-, -, apart⟩ := List.nodup_append.mp distinct
  refine ⟨?_, ?_⟩
  · intro member
    exact apart buffer (by simp [member]) buffer (by simp) rfl
  · intro member
    exact apart buffer (List.mem_append_right _ (by simpa using member)) buffer (by simp) rfl

/-- A step of `serveClient` that leaves the pool alone. -/
theorem ServeFrame.of_same
    (owns : shared.workpool.Owns (circulating shared.workpool feeder (.serving pos)))
    (stages : shared.workpool.TwoStages) (prepared : feeder.Prepared shared.workpool)
    (pool : after.workpool = shared.workpool)
    (fed : after.traffic.fed = shared.traffic.fed)
    (held
      : (ServerPoint.ofServing progress).held = pos.held
        ∨ (ServerPoint.ofServing progress).held = none)
    (last : ∀ next, progress = .point next → next.LastStage)
    : ServeFrame feeder progress shared after := by
  refine ⟨?_, last, pool ▸ prepared, pool ▸ stages, by rw [pool], fed⟩
  rw [pool]
  refine owns.of_subperm (List.Sublist.subperm ?_)
  refine List.Sublist.append (List.Sublist.refl _) ?_
  rcases held with same | dropped
  · rw [same]
    exact List.Sublist.refl _
  · simp [dropped]

/-- The places of the two threads can be listed in either order. -/
theorem circulating_swap {pool : WorkPool} {server : ServerPoint}
    : (circulating pool feeder server).Perm
        (pool.queues 0 ++ pool.queues 1 ++ server.held.toList ++ feeder.held.toList) := by
  unfold circulating
  rw [List.append_assoc, List.append_assoc (pool.queues 0 ++ pool.queues 1)]
  exact List.Perm.append_left _ List.perm_append_comm

/-- A step of `serveClient` inside `pool_get_wait_lock`, where it never allocates. -/
theorem ServeFrame.of_get {inner : GetPoint}
    (owns : shared.workpool.Owns (circulating shared.workpool feeder (.serving (.get inner))))
    (stages : shared.workpool.TwoStages) (prepared : feeder.Prepared shared.workpool)
    (last : (ServeClientPoint.get inner).LastStage)
    (moved : serveClient shared reply (.get inner) = some (after, progress))
    : ServeFrame feeder progress shared after := by
  have outcome := poolGetWaitLock_outcome 1 true shared.workpool inner
  have swapped := owns.of_subperm circulating_swap.symm.subperm
  have following := outcome.owns (.inr rfl) stages.ushort swapped
  have valid := outcome.constants.1
  have kept := outcome.stages stages
  have ready : feeder.Prepared (poolGetWaitLock 1 true shared.workpool inner).1 := by
    refine prepared.congr fun buffer member => outcome.heap (owns.allocated buffer ?_)
    simp only [circulating, List.mem_append]
    exact .inl (.inr (by simpa using member))
  have waits (next : GetPoint)
      (point : (poolGetWaitLock 1 true shared.workpool inner).2 = .point next)
      : (ServeClientPoint.get next).LastStage := by
    rw [point] at outcome
    exact outcome.waiting last
  simp only [serveClient] at moved
  split at moved <;> rename_i step <;> rw [step] at following kept ready valid <;> cases moved
  · refine ⟨following.of_subperm circulating_swap.subperm, ?_, ready, kept, valid, rfl⟩
    intro _ same
    cases same
    exact waits _ (by rw [step])
  · refine ⟨following.of_subperm circulating_swap.subperm, ?_, ready, kept, valid, rfl⟩
    intro _ same
    cases same
    trivial
  · refine ⟨following.of_subperm circulating_swap.subperm, ?_, ready, kept, valid, rfl⟩
    intro _ same
    cases same
    trivial

/-- Emptying the held buffer for the first stage changes no other contents. -/
theorem ServeFrame.of_reset {buffer : Nat}
    (owns
      : shared.workpool.Owns
          (circulating shared.workpool feeder (.serving (.pass buffer .reset))))
    (stages : shared.workpool.TwoStages) (prepared : feeder.Prepared shared.workpool)
    (moved : serveClient shared reply (.pass buffer .reset) = some (after, progress))
    : ServeFrame feeder progress shared after := by
  obtain ⟨-, unfed⟩ := @WorkPool.Owns.served_elsewhere _ _ buffer _ owns rfl
  have usable :=
    owns.usable buffer (by simp [circulating, ServerPoint.held, ServeClientPoint.held])
  cases moved
  refine ⟨?_, ?_, ?_, ⟨stages.ids, stages.ushort, stages.drained⟩, rfl, rfl⟩
  · refine owns.setBuffer ?_
    rw [extbufferPreparetohandle_zero, Option.getD_some]
    exact ⟨usable.ushort, usable.backed, Int.le_refl 0⟩
  · intro _ same
    cases same
    exact .inr (.inr rfl)
  · refine prepared.congr fun other member => Function.update_of_ne ?_ ..
    intro same
    subst same
    exact unfed member

/-- Every step of `serveClient` keeps the frame, by cases on its position. -/
theorem serveClient_keeps
    (owns : shared.workpool.Owns (circulating shared.workpool feeder (.serving pos)))
    (stages : shared.workpool.TwoStages) (prepared : feeder.Prepared shared.workpool)
    (last : pos.LastStage) (moved : serveClient shared reply pos = some (after, progress))
    : ServeFrame feeder progress shared after := by
  cases pos with
  | get inner => exact .of_get owns stages prepared last moved
  | select sending =>
      cases reply with
      | value r =>
          simp only [serveClient] at moved
          split at moved <;> cases moved <;>
            exact .of_same owns stages prepared rfl rfl (.inl rfl) (by rintro _ ⟨⟩; trivial)
      | _ => cases moved
  | send sending =>
      cases reply with
      | value bytessent =>
          simp only [serveClient] at moved
          split at moved <;> cases moved
          exact .of_same owns stages prepared rfl rfl (.inl rfl) (by rintro _ ⟨⟩; trivial)
      | _ => cases moved
  | pass buffer inner =>
      rcases last with rfl | rfl | rfl
      · cases valid : shared.workpool.valid with
        | false =>
            simp only [serveClient, poolGetUnlock, valid] at moved
            cases moved
            exact .of_same owns stages prepared rfl rfl (.inr rfl) (by rintro _ ⟨⟩; trivial)
        | true =>
            simp only [serveClient, poolGetUnlock, valid, stages.ids valid] at moved
            cases moved
            refine .of_same owns stages prepared rfl rfl (.inl rfl) ?_
            intro _ same
            cases same
            exact .inr (.inl rfl)
      · exact .of_reset owns stages prepared moved
      · cases valid : shared.workpool.valid with
        | false =>
            simp only [serveClient, poolGetUnlock, valid] at moved
            cases moved
            exact .of_same owns stages prepared rfl rfl (.inr rfl) (by rintro _ ⟨⟩; trivial)
        | true =>
            simp only [serveClient, poolGetUnlock, valid, if_true] at moved
            cases moved
            refine ⟨?_, by intro _ same; cases same; trivial, prepared.congr fun _ _ => rfl,
              ⟨stages.ids, stages.ushort, by simp [WorkPool.queueAdd, valid]⟩, rfl, rfl⟩
            have kept := @WorkPool.Owns.of_subperm _ _
              (circulating (shared.workpool.queueAdd 0 buffer) feeder (.serving .loop)) owns (by
                refine List.Perm.subperm ?_
                simp only [circulating, WorkPool.queueAdd, ServerPoint.held,
                  ServeClientPoint.held, Function.update_self, ne_eq, one_ne_zero,
                  not_false_eq_true, Function.update_of_ne, Option.toList_none,
                  Option.toList_some, List.append_nil, List.append_assoc]
                refine List.Perm.append_left _ ?_
                rw [← List.append_assoc (shared.workpool.queues 1)]
                exact List.perm_append_comm)
            exact ⟨kept.distinct, kept.allocated, kept.usable⟩
  | _ =>
      simp only [serveClient] at moved
      try split at moved
      all_goals
        cases moved
        first
        | exact .of_same owns stages prepared rfl rfl (.inl rfl)
            (by intro _ same; cases same; trivial)
        | exact .of_same owns stages prepared rfl rfl (.inl rfl)
            (by intro _ same; cases same; exact .inl rfl)
        | exact .of_same owns stages prepared rfl rfl (.inl rfl) (by rintro _ ⟨⟩)

end Serving

end RtlTcpAndro.SdrTcp
