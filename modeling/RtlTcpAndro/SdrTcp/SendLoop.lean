import RtlTcpAndro.SdrTcp.Resources
import RtlTcpAndro.SdrTcp.SampleStream
import RtlTcpAndro.SdrTcp.SuccessiveSessions

/-! The sending side of the stream: each step of `serveClient` moves bytes from the queue to
the client without loss, until it has made its last `send`.
-/

namespace RtlTcpAndro.SdrTcp

open RtlTcpAndro.Interleaving RtlTcpAndro.ByteStreams

/-- The server thread has stored that its client is served, and is not about to send. -/
def ServerPoint.silent : ServerPoint → Bool
  | .serving (.send _) => false
  | .serving _ | .join | .testFinal | .cleanup | .closedcb | .exited => true
  | _ => false

/-- The server thread sends no more: its session is no longer served, or `send` failed. -/
inductive ServerPoint.Finishing (server : ServerPoint) (state : Stage) : Prop
  | unserved (silent : server.silent = true) (ended : state ≠ .clientServing)
  | testing {sending} (position : server = .serving (.testSendFailed sending (-1)))
  | storing {sending} (position : server = .serving (.storeSendFailed sending))

/-- What `send` accepts is the beginning of what it is offered, and the rest is offered to
the next `send`. Witness: both are parts of one block from `index` on.
-/
theorem Sending.offered_split {sending : Sending} {pool : WorkPool} {bytessent : Int}
    (index : 0 ≤ sending.index) (positive : 0 ≤ bytessent)
    (fits : bytessent ≤ sending.bytesleft)
    : (sending.offered pool).take bytessent.toNat
        ++ ({ sending with
              bytesleft := sending.bytesleft - bytessent
              index := sending.index + bytessent } : Sending).offered pool
      = sending.offered pool := by
  obtain ⟨count, rfl⟩ := Int.eq_ofNat_of_zero_le positive
  have left : sending.bytesleft.toNat = count + (sending.bytesleft - count).toNat := by omega
  have start : (sending.index + count).toNat = sending.index.toNat + count := by omega
  simp only [Sending.offered, Int.toNat_natCast]
  rw [left, start, List.take_take, ← List.drop_drop, Nat.min_eq_left (Nat.le_add_right _ _),
    ← List.take_add]

section Serving

variable {shared after : Shared} {reply : Reply} {pos : ServeClientPoint}
  {progress : Progress ServeClientPoint Unit} {feeder : FeedPoint}

/-- The payload of the buffer a get has returned. -/
def returnedPayload (pool : WorkPool) : Progress GetPoint (Option Nat) → List UInt8
  | .returned (some buffer) => (pool.heap buffer).payload
  | _ => []

/-- A last stage takes its buffer from the front of its queue. -/
theorem GetOutcome.backlog {pool next : WorkPool} {inner : GetPoint}
    {taken : Progress GetPoint (Option Nat)} (outcome : GetOutcome 1 pool inner next taken)
    (last : inner.held = none ∧ inner ≠ .allocate)
    : returnedPayload next taken ++ next.backlog = pool.backlog := by
  cases outcome with
  | waits => rfl
  | empty => rfl
  | popped free queue => simp [returnedPayload, WorkPool.backlog, queue]
  | fresh position => exact absurd position last.2
  | obtained holding => rw [last.1] at holding; cases holding

/-- A last stage gets nothing from an empty queue. -/
theorem GetOutcome.starved {pool next : WorkPool} {inner : GetPoint}
    {taken : Progress GetPoint (Option Nat)} (outcome : GetOutcome 1 pool inner next taken)
    (empty : pool.queues 1 = []) (last : inner.held = none ∧ inner ≠ .allocate)
    : takenBuffer taken = none := by
  cases outcome with
  | waits same => exact same.trans last.1
  | empty => rfl
  | popped free queue => rw [empty] at queue; cases queue
  | fresh position => exact absurd position last.2
  | obtained holding => rw [last.1] at holding; cases holding

/-- A step of `serveClient` with a valid pool moves the stream on, or is its last. -/
theorem serveClient_sends
    (owns : shared.workpool.Owns (circulating shared.workpool feeder (.serving pos)))
    (stages : shared.workpool.TwoStages) (last : pos.LastStage)
    (valid : shared.workpool.valid = true) (counted : pos.Counted)
    (moved : serveClient shared reply pos = some (after, progress))
    : (∀ next, progress = .point next → next.Counted)
        ∧ after.traffic.sent
            ++ (ServerPoint.ofServing progress).remaining after.workpool
            ++ after.workpool.backlog
          = shared.traffic.sent
            ++ (ServerPoint.serving pos).remaining shared.workpool
            ++ shared.workpool.backlog
      ∨ after.traffic.sent = shared.traffic.sent
        ∧ (ServerPoint.ofServing progress).Finishing after.control.state := by
  cases pos with
  | get inner =>
      have backlog := (poolGetWaitLock_outcome 1 true shared.workpool inner).backlog last
      simp only [serveClient] at moved
      split at moved <;> rename_i step <;> rw [step] at backlog <;> cases moved <;>
        refine .inl ⟨by rintro _ ⟨⟩; trivial, ?_⟩ <;>
        simpa [ServerPoint.ofServing, ServerPoint.remaining, returnedPayload] using backlog
  | measure buffer =>
      have usable :=
        owns.usable buffer (by simp [circulating, ServerPoint.held, ServeClientPoint.held])
      have nonneg := usable.nonneg
      cases moved
      refine .inl ⟨?_, ?_⟩
      · intro _ same
        cases same
        exact ⟨Int.le_refl 0, by dsimp only; omega⟩
      · have size : (2 * (shared.workpool.heap buffer).sizeValidElements).toNat
            = 2 * (shared.workpool.heap buffer).sizeValidElements.toNat := by omega
        simp [ServerPoint.ofServing, ServerPoint.remaining, Sending.offered, ExtBuffer.payload,
          size]
  | sendLoop sending =>
      simp only [serveClient] at moved
      split at moved <;> cases moved
      · exact .inl ⟨by rintro _ ⟨⟩; exact counted, rfl⟩
      · rename_i ended
        by_cases done : sending.bytesleft = 0
        · refine .inl ⟨by rintro _ ⟨⟩; trivial, ?_⟩
          simp [ServerPoint.ofServing, ServerPoint.remaining, Sending.offered, done]
        · refine .inr ⟨rfl, .unserved rfl fun serving => ended ⟨?_, serving⟩⟩
          have := counted.2
          omega
  | select sending =>
      cases reply with
      | value r =>
          simp only [serveClient] at moved
          split at moved <;> cases moved <;> exact .inl ⟨by rintro _ ⟨⟩; exact counted, rfl⟩
      | _ => cases moved
  | send sending =>
      cases reply with
      | value bytessent =>
          simp only [serveClient] at moved
          split at moved <;> cases moved
          rename_i admitted
          rcases admitted with rfl | ⟨positive, fits⟩
          · exact .inr ⟨List.append_nil _, .testing rfl⟩
          · refine .inl ⟨?_, ?_⟩
            · intro _ same
              cases same
              obtain ⟨index, left⟩ := counted
              exact ⟨by dsimp only; omega, by dsimp only; omega, by omega⟩
            · have whole := @Sending.offered_split sending shared.workpool _ counted.1 positive fits
              simp only [ServerPoint.ofServing, ServerPoint.remaining]
              rw [List.append_assoc shared.traffic.sent, whole]
      | _ => cases moved
  | testSendFailed sending bytessent =>
      obtain ⟨index, left, succeeded⟩ := counted
      simp only [serveClient, succeeded, false_and, if_false] at moved
      cases moved
      exact .inl ⟨by rintro _ ⟨⟩; exact ⟨index, left⟩, rfl⟩
  | storeSendFailed sending => exact counted.elim
  | pass buffer inner =>
      rcases last with rfl | rfl | rfl
      · simp only [serveClient, poolGetUnlock, valid, stages.ids valid] at moved
        cases moved
        exact .inl ⟨by rintro _ ⟨⟩; trivial, rfl⟩
      · obtain ⟨unqueued, -⟩ := @WorkPool.Owns.served_elsewhere _ _ buffer _ owns rfl
        cases moved
        refine .inl ⟨by rintro _ ⟨⟩; trivial, ?_⟩
        have backlog := @WorkPool.backlog_congr shared.workpool
          (shared.workpool.setBuffer buffer
            ((extbufferPreparetohandle (shared.workpool.heap buffer) 0 none).getD
              (shared.workpool.heap buffer))) rfl (fun other member => Function.update_of_ne
                (by intro same; exact unqueued (same ▸ member)) ..)
        rw [← backlog]
        rfl
      · simp only [serveClient, poolGetUnlock, valid, if_true] at moved
        cases moved
        exact .inl ⟨by rintro _ ⟨⟩; trivial, rfl⟩
  | _ =>
      simp only [serveClient] at moved
      try split at moved
      all_goals
        cases moved
        first
        | exact .inl ⟨by intro _ same; cases same; trivial, rfl⟩
        | exact .inl ⟨by rintro _ ⟨⟩, rfl⟩

/-- A `serveClient` that sends no more stays so. -/
theorem serveClient_finishing
    (finishing : (ServerPoint.serving pos).Finishing shared.control.state)
    (moved : serveClient shared reply pos = some (after, progress))
    : after.traffic.sent = shared.traffic.sent
      ∧ (ServerPoint.ofServing progress).Finishing after.control.state := by
  cases finishing with
  | testing position =>
      cases position
      simp only [serveClient] at moved
      split at moved <;> cases moved
      · exact ⟨rfl, .storing rfl⟩
      · rename_i ended
        exact ⟨rfl, .unserved rfl fun serving => ended ⟨trivial, serving⟩⟩
  | storing position =>
      cases position
      cases moved
      exact ⟨rfl, .unserved rfl (by simp [Shared.setState])⟩
  | unserved silent ended =>
      cases pos with
      | send sending => cases silent
      | get inner =>
          simp only [serveClient] at moved
          split at moved <;> cases moved <;> exact ⟨rfl, .unserved rfl ended⟩
      | select sending =>
          cases reply with
          | value r =>
              simp only [serveClient] at moved
              split at moved <;> cases moved <;> exact ⟨rfl, .unserved rfl ended⟩
          | _ => cases moved
      | testSend sending r =>
          simp only [serveClient, ended, and_false, if_false] at moved
          cases moved
          exact ⟨rfl, .unserved rfl ended⟩
      | storeSelectFailed sending | storeSendFailed sending =>
          cases moved
          exact ⟨rfl, .unserved rfl (by simp [Shared.setState])⟩
      | pass buffer inner =>
          simp only [serveClient] at moved
          split at moved <;> cases moved <;> exact ⟨rfl, .unserved rfl ended⟩
      | _ =>
          simp only [serveClient] at moved
          try split at moved
          all_goals
            cases moved
            exact ⟨rfl, .unserved rfl ended⟩

/-- From a pool that was freed `serveClient` obtains no buffer. -/
theorem serveClient_starved (stages : shared.workpool.TwoStages)
    (invalid : shared.workpool.valid = false) (last : pos.LastStage) (free : pos.held = none)
    (moved : serveClient shared reply pos = some (after, progress))
    : after.traffic.sent = shared.traffic.sent
      ∧ (ServerPoint.ofServing progress).held = none := by
  cases pos with
  | get inner =>
      have starved := (poolGetWaitLock_outcome 1 true shared.workpool inner).starved
        (stages.drained invalid 1) last
      simp only [serveClient] at moved
      split at moved <;> rename_i step <;> rw [step] at starved <;> cases moved
      all_goals exact ⟨rfl, starved⟩
  | loop | testServing =>
      simp only [serveClient] at moved
      split at moved <;> cases moved <;> exact ⟨rfl, rfl⟩
  | _ => cases free

end Serving

/-- A server thread past `serveClient` is done sending. -/
theorem tcpServer_silent {shared after : Shared} {reply : Reply} {joined : Bool}
    {pos next : ServerPoint} (moved : tcpServer shared reply joined pos = some (after, next))
    (silent : pos.silent = true) (outside : ∀ inner, pos ≠ .serving inner)
    : next.silent = true := by
  cases pos with
  | serving inner => exact absurd rfl (outside inner)
  | join =>
      simp only [tcpServer] at moved
      split at moved <;> cases moved
      rfl
  | testFinal =>
      obtain ⟨-, result⟩ := Shared.locked_eq_some.mp moved
      cases result
      split <;> rfl
  | cleanup =>
      obtain ⟨-, result⟩ := Shared.locked_eq_some.mp moved
      cases result
      rfl
  | closedcb =>
      cases moved
      rfl
  | exited => cases moved
  | _ => cases silent

/-- Only a server thread that has created its listener stores that a client is served. -/
theorem World.stores_serving {world : World} {event : Event}
    (stored : world.stores event = some .clientServing)
    : ∃ index reply, event = .server index reply ∧ world.server index = .storeServing := by
  cases event with
  | server index reply => exact ⟨index, reply, rfl, ServerPoint.stores_serving stored⟩
  | _ => exact absurd rfl (World.stores_unclient stored (by rintro _ _ ⟨⟩)).2

section Finishing

variable {world next : World} {event : Event}

/-- Once its server thread is past the store, a session that is no longer served is never
served again.
-/
theorem World.Fires.unserved (fires : world.Fires event next) (successive : world.Successive)
    (silent : world.current.silent = true)
    (ended : world.shared.control.state ≠ .clientServing)
    : next.shared.control.state ≠ .clientServing := by
  rw [fires.state]
  unfold Stage.after
  split
  · simp
  · cases stored : world.stores event with
    | none => exact ended
    | some stage =>
        intro served
        have served : stage = .clientServing := served
        rw [served] at stored
        obtain ⟨index, reply, -, position⟩ := World.stores_serving stored
        have latest := @World.Successive.latest _ successive index (by simp [position])
          (by rw [position]; rfl)
        have same : world.current = .storeServing := by
          rw [World.current, ← latest, Nat.add_sub_cancel, position]
        rw [same] at silent
        cases silent

/-- The latest server thread stays done sending while it is past `serveClient`. -/
theorem World.Fires.silent (fires : world.Fires event next)
    (same : next.servers = world.servers) (silent : world.current.silent = true)
    (outside : ∀ inner, world.current ≠ .serving inner)
    : next.current.silent = true := by
  cases fires with
  | created => simp at same
  | @server index reply shared pos moved =>
      unfold World.current
      dsimp only
      by_cases latest : world.servers - 1 = index
      · subst latest
        rw [Function.update_self]
        exact tcpServer_silent moved silent outside
      · rw [Function.update_of_ne latest]
        exact silent
  | _ => exact silent

/-- A step aside from the stream leaves a finishing session finishing. -/
theorem World.Fires.finishing (fires : world.Fires event next) (successive : world.Successive)
    (unrenewed : world.owner.renewed = false)
    (serving
      : ∀ session,
          next.server session = world.server session
          ∨ (world.servers ≤ session ∨ ∀ pos, world.server session ≠ .serving pos)
            ∧ ∀ pos, next.server session = .serving pos → pos = .loop)
    (finishing : world.current.Finishing world.shared.control.state)
    : next.current.Finishing next.shared.control.state := by
  have same : next.servers = world.servers := by
    rcases fires.servers with same | ⟨renewed, -⟩
    · exact same
    · rw [unrenewed] at renewed
      cases renewed
  rcases serving (world.servers - 1) with unmoved | ⟨outside, -⟩
  · have unmoved : next.current = world.current := by rw [World.current, same, unmoved]; rfl
    rw [unmoved]
    cases finishing with
    | unserved silent ended => exact .unserved silent (fires.unserved successive silent ended)
    | testing position => exact .testing position
    | storing position => exact .storing position
  · have outside : ∀ inner, world.current ≠ .serving inner := by
      rcases outside with absent | outside
      · intro inner position
        rw [World.current, successive.absent _ absent] at position
        cases position
      · exact outside
    cases finishing with
    | unserved silent ended =>
        exact .unserved (fires.silent same silent outside)
          (fires.unserved successive silent ended)
    | testing position => exact absurd position (outside _)
    | storing position => exact absurd position (outside _)

end Finishing

end RtlTcpAndro.SdrTcp
