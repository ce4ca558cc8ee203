import RtlTcpAndro.RtlSdrDevice.SessionOrder
import RtlTcpAndro.SdrTcp.OneSession

/-! Whether the end of a session stops the reading of samples.
`tcpClosedCallback` cancels a device that is running, and `rtlsdr_read_async` makes it running
in another thread: a cancellation that comes first has no effect.
-/

namespace RtlTcpAndro.RtlSdrDevice

open RtlTcpAndro.Interleaving RtlTcpAndro.SdrTcp

/-- The store of `RTLSDR_RUNNING` is still ahead. -/
def OpenAsyncPoint.unstarted : OpenAsyncPoint → Bool
  | .open2 | .configure | .openSocket | .opening | .storeDevice | .serveClientAsync
  | .serving | .announceOnOpen => true
  | .readAsync _ pos _ => pos.unstarted
  | _ => false

/-- The program point of `rtlsdr_read_async`. -/
def OpenAsyncPoint.reading : OpenAsyncPoint → Option ReadPoint
  | .readAsync _ pos _ => some pos
  | _ => none

/-- `rtlsdr_read_async` is past that store and has not returned. -/
def OpenAsyncPoint.streams : OpenAsyncPoint → Bool
  | .readAsync _ pos _ => !pos.unstarted
  | _ => false

/-- A cancellation by `tcpClosedCallback` tests `async_status` after that store. -/
def Native.cancelsStarted (native : Native) : NativeEvent → Prop
  | .closedcb thread =>
      native.closed thread = .cancel .testRunning → native.caller.unstarted = false
  | _ => True

instance (native : Native) (event : NativeEvent) : Decidable (native.cancelsStarted event) := by
  unfold Native.cancelsStarted
  cases event <;> infer_instance

/-- A device runs only inside `rtlsdr_read_async`. -/
structure Native.Streams (native : Native) : Prop where
  leaves : ∀ pos ∈ native.caller.reading, pos.nextStatus ≠ .running
  stopped : native.caller.streams = false → native.device.asyncStatus ≠ .running

/-- Cancellations that have got past their test found `rtlsdr_read_async` started, and what
they stop does not start again.
-/
structure Native.Cancels (native : Native) : Prop where
  active
    : ∀ thread pos,
        native.closed thread = .cancel pos
        → pos ≠ .testRunning
        → native.caller.unstarted = false
  storing
    : ∀ thread,
        native.closed thread = .cancel .storeCancel → native.device.asyncStatus ≠ .running
  returned
    : native.closedReturned = true
      → native.caller.unstarted = false ∧ native.device.asyncStatus ≠ .running

namespace OpenAsyncPoint

variable {owner : OwnerPoint} {caller following : OpenAsyncPoint} {inner : Event}

/-- No step within `openAsync` alone starts or ends the stream. -/
theorem Advances.streams (step : caller.Advances owner following)
    : following.streams = caller.streams := by
  cases step <;> rfl

/-- No step of the server starts or ends the stream. -/
theorem Drives.streams (step : caller.Drives inner following)
    : following.streams = caller.streams := by
  cases step <;> rfl

/-- `openAsync` never goes back to the time before the stream. -/
theorem Advances.unstarted (step : caller.Advances owner following)
    (started : caller.unstarted = false)
    : following.unstarted = false := by
  cases step with
  | transfer => exact started
  | stopped => rfl
  | _ => cases started

/-- The server's steps are on one side of the stream's start. -/
theorem Drives.unstarted (step : caller.Drives inner following)
    : following.unstarted = caller.unstarted := by
  cases step <;> rfl

/-- A step into `rtlsdr_read_async` enters it at its beginning. -/
theorem Advances.reading (step : caller.Advances owner following)
    : following.reading = caller.reading
      ∨ following.reading = some .testInactive := by
  cases step with
  | announced => exact .inr rfl
  | _ => exact .inl rfl

/-- The server's steps leave `rtlsdr_read_async` where it is. -/
theorem Drives.reading (step : caller.Drives inner following)
    : following.reading = caller.reading := by
  cases step <;> rfl

end OpenAsyncPoint

section Step

variable {native next : Native} {event : NativeEvent}

/-- Every step leaves `next_status` other than `RTLSDR_RUNNING`, and a device that runs to the
stream.
-/
theorem Native.Fires.streams (fires : native.Fires event next) (streams : native.Streams)
    : next.Streams := by
  obtain ⟨leaves, stopped⟩ := streams
  cases fires with
  | @advances _ caller step =>
      refine ⟨?_, fun idle => stopped (step.streams ▸ idle)⟩
      intro pos inside
      have inside : pos ∈ caller.reading := inside
      rcases step.reading with same | entered
      · exact leaves pos (same ▸ inside)
      · rw [entered] at inside
        cases inside
        exact nofun
  | drives step moved =>
      exact ⟨fun pos inside => leaves pos (step.reading ▸ inside),
        fun idle => stopped (step.streams ▸ idle)⟩
  | stored position | cleared position =>
      exact ⟨nofun, fun _ => stopped (by rw [position]; rfl)⟩
  | @reads _ _ succesful pos device following position moved =>
      rw [position] at leaves stopped
      have kept := leaves pos rfl
      have point := rtlsdrReadAsync_point moved kept
      refine ⟨fun _ inside => by cases inside; exact point.1, ?_⟩
      intro idle
      have beginning : following.unstarted = true := by simpa [OpenAsyncPoint.streams] using idle
      have unstarted := point.2 beginning
      refine rtlsdrReadAsync_status moved (stopped ?_) kept ?_
      · simp [OpenAsyncPoint.streams, unstarted]
      · intro starts
        subst starts
        cases moved
        cases beginning
  | @read _ _ succesful pos device r position moved =>
      rw [position] at leaves stopped
      refine ⟨nofun, fun _ => rtlsdrReadAsync_returned moved (leaves pos rfl) ?_⟩
      intro unstarted
      exact stopped (by simp [OpenAsyncPoint.streams, unstarted])
  | lost position =>
      rw [position] at leaves stopped
      exact ⟨leaves, stopped⟩
  | cancels position =>
      rw [position] at leaves stopped
      exact ⟨leaves, fun idle => rtlsdrCancelAsync_status (stopped idle)⟩
  | closes position following | closesFailed position following =>
      have idle := stopped (by rw [position]; rfl)
      rcases following with ⟨_, rfl⟩ | rfl <;> exact ⟨nofun, fun _ => rtlsdrClose_status idle⟩
  | cancelling | cancelled =>
      exact ⟨leaves, fun idle => rtlsdrCancelAsync_status (stopped idle)⟩
  | loads | ignored | commands | commanded | thread => exact ⟨leaves, stopped⟩

/-- `openAsync` never goes back to the time before the stream. -/
theorem Native.Fires.unstarted (fires : native.Fires event next) (streams : native.Streams)
    (started : native.caller.unstarted = false)
    : next.caller.unstarted = false := by
  cases fires with
  | advances step => exact step.unstarted started
  | drives step moved => exact step.unstarted.trans started
  | stored position =>
      rw [position] at started
      cases started
  | @reads _ _ _ pos _ following position moved =>
      rw [position] at started
      have point := rtlsdrReadAsync_point moved (streams.leaves pos (by rw [position]; rfl))
      have inside : pos.unstarted = false := started
      cases beginning : following.unstarted with
      | false => exact beginning
      | true => simp [point.2 beginning] at inside
  | lost position | cancels position =>
      rw [position] at started
      exact started
  | cleared | read => rfl
  | closes _ following | closesFailed _ following =>
      rcases following with ⟨_, rfl⟩ | rfl <;> rfl
  | _ => exact started

/-- Once the stream has started, no step makes a stopped device run. -/
theorem Native.Fires.status (fires : native.Fires event next) (streams : native.Streams)
    (started : native.caller.unstarted = false)
    (stopped : native.device.asyncStatus ≠ .running)
    : next.device.asyncStatus ≠ .running := by
  cases fires with
  | reads position moved | read position moved =>
      rw [position] at started
      refine rtlsdrReadAsync_status moved stopped
        (streams.leaves _ (by rw [position]; rfl)) ?_
      intro starts
      rw [starts] at started
      cases started
  | cancels | cancelling | cancelled => exact rtlsdrCancelAsync_status stopped
  | closes | closesFailed => exact rtlsdrClose_status stopped
  | _ => exact stopped

/-- Outside the callback's own steps, what it has stopped stays stopped. -/
theorem Native.Fires.cancels_of_closed (fires : native.Fires event next)
    (streams : native.Streams) (cancels : native.Cancels)
    (closed : next.closed = native.closed)
    (returned : next.closedReturned = native.closedReturned)
    : next.Cancels := by
  refine ⟨?_, ?_, ?_⟩
  · intro thread pos inside past
    rw [closed] at inside
    exact fires.unstarted streams (cancels.active thread pos inside past)
  · intro thread inside
    rw [closed] at inside
    exact fires.status streams (cancels.active thread _ inside nofun)
      (cancels.storing thread inside)
  · intro ended
    rw [returned] at ended
    obtain ⟨started, stopped⟩ := cancels.returned ended
    exact ⟨fires.unstarted streams started, fires.status streams started stopped⟩

/-- A callback that moves away from its stores keeps what the others have stopped. -/
theorem Native.Cancels.closedMoved {device : Device} (cancels : native.Cancels)
    (thread : Option Nat) (following : ClosedPoint)
    (status : native.device.asyncStatus ≠ .running → device.asyncStatus ≠ .running)
    (active
      : ∀ pos, following = .cancel pos → pos ≠ .testRunning → native.caller.unstarted = false)
    (storing : following = .cancel .storeCancel → device.asyncStatus ≠ .running)
    : (∀ other pos,
          Function.update native.closed thread following other = .cancel pos
          → pos ≠ .testRunning
          → native.caller.unstarted = false)
      ∧ ∀ other,
          Function.update native.closed thread following other = .cancel .storeCancel
          → device.asyncStatus ≠ .running := by
  constructor
  · intro other pos inside past
    by_cases same : other = thread
    · subst same
      rw [Function.update_self] at inside
      exact active pos inside past
    · rw [Function.update_of_ne same] at inside
      exact cancels.active other pos inside past
  · intro other inside
    by_cases same : other = thread
    · subst same
      rw [Function.update_self] at inside
      exact storing inside
    · rw [Function.update_of_ne same] at inside
      exact status (cancels.storing other inside)

/-- A callback that finds NULL runs after the stream. -/
theorem Native.Ordered.ended (ordered : native.Ordered) (streams : native.Streams)
    (exists_ : native.world.OneSession) {thread : Option Nat}
    (calls : native.callsClosed thread = true) (cleared : native.rtlDev = false)
    : native.caller.unstarted = false ∧ native.device.asyncStatus ≠ .running := by
  have launched : native.caller.launched = true := by
    cases thread with
    | none =>
        have inside := of_decide_eq_true calls
        rw [ordered.governs.serving _ inside]
        rfl
    | some session =>
        have position : native.world.server session = .closedcb := of_decide_eq_true calls
        obtain ⟨-, one, -⟩ := exists_.serving (.inl (by rw [position]; exact nofun))
        exact ordered.governs.launched (by omega)
  have released : native.caller.holds = false := ordered.held.symm.trans cleared
  have ended : native.caller.unstarted = false ∧ native.caller.streams = false := by
    generalize native.caller = caller at launched released
    cases caller <;> first | (cases launched; done) | (cases released; done) | exact ⟨rfl, rfl⟩
  exact ⟨ended.1, streams.stopped ended.2⟩

/-- Where a callback's cancellation has got past its test, the stream has started: it tested
after the start, or was past the test before.
-/
theorem Native.Cancels.past (cancels : native.Cancels) {thread : Option Nat} {pos : CancelPoint}
    (orderly : native.cancelsStarted (.closedcb thread))
    (position : native.closed thread = .cancel pos)
    : native.caller.unstarted = false := by
  cases pos with
  | testRunning => exact orderly position
  | _ => exact cancels.active thread _ position nofun

/-- A callback that cancels after the start of the stream keeps what is stopped, and its own
return leaves the device stopped.
-/
theorem Native.Fires.keepsCancels (fires : native.Fires event next) (ordered : native.Ordered)
    (session : native.world.OneSession) (streams : native.Streams)
    (orderly : native.cancelsStarted event) (cancels : native.Cancels)
    : next.Cancels := by
  have kept := fires.cancels_of_closed streams cancels
  cases fires with
  | @loads thread following calls held step =>
      have fresh (pos) (inside : following = .cancel pos) : pos = .testRunning := by
        rcases step with rfl | rfl <;> cases inside
        rfl
      obtain ⟨active, storing⟩ :=
        cancels.closedMoved thread following (fun stopped => stopped)
          (fun pos inside past => absurd (fresh pos inside) past)
          (fun inside => absurd (fresh _ inside) nofun)
      exact ⟨active, storing, cancels.returned⟩
  | @cancelling thread pos following calls position moved =>
      have started := cancels.past orderly position
      have halts (stores : ClosedPoint.cancel following = .cancel .storeCancel)
          : (rtlsdrCancelAsync native.device pos).1.asyncStatus ≠ .running := by
        cases pos with
        | storeCanceling => exact nofun
        | testRunning =>
            simp only [rtlsdrCancelAsync] at moved
            split at moved <;> cases moved
            cases stores
        | storeCancel => cases moved
      obtain ⟨active, storing⟩ :=
        cancels.closedMoved thread _ rtlsdrCancelAsync_status (fun _ _ _ => started) halts
      refine ⟨active, storing, ?_⟩
      intro ended
      exact ⟨started, rtlsdrCancelAsync_status (cancels.returned ended).2⟩
  | @ignored thread world calls cleared =>
      obtain ⟨active, storing⟩ :=
        cancels.closedMoved thread .testDevice (fun stopped => stopped) nofun nofun
      exact ⟨active, storing, fun _ => ordered.ended streams session calls cleared⟩
  | @cancelled thread pos r world calls position ended =>
      have started := cancels.past orderly position
      have halted : (rtlsdrCancelAsync native.device pos).1.asyncStatus ≠ .running := by
        cases pos with
        | testRunning =>
            simp only [rtlsdrCancelAsync] at ended
            split at ended
            · cases ended
            · assumption
        | storeCanceling => cases ended
        | storeCancel => exact cancels.storing thread position
      obtain ⟨active, storing⟩ :=
        cancels.closedMoved thread .testDevice rtlsdrCancelAsync_status nofun nofun
      exact ⟨active, storing, fun _ => ⟨started, halted⟩⟩
  | _ => exact kept rfl rfl

end Step

/-- A device runs only inside `rtlsdr_read_async`. -/
theorem streams_of_reachable {native : Native} (reachable : openAsync.Reachable native)
    : native.Streams := by
  refine reachable.invariant Native.Streams ?_ ?_
  · intro start initial
    obtain ⟨workpool, rfl⟩ := initial
    exact ⟨nofun, fun _ => nofun⟩
  · intro current choice next _ known fired
    exact (Native.step_cases fired).streams known

/-- Closing the session cancels the stream on every run in which the cancellations come after
the start of the stream.
-/
theorem closing_cancels_stream {native : Native}
    (reachable : (openAsync.restrict Native.cancelsStarted).Reachable native)
    (returned : native.closedReturned = true)
    : native.device.asyncStatus ≠ .running := by
  have cancels : native.Cancels := by
    refine reachable.invariant Native.Cancels ?_ ?_
    · intro start initial
      obtain ⟨workpool, rfl⟩ := initial
      exact ⟨nofun, nofun, nofun⟩
    · intro current choice next before known fired
      obtain ⟨orderly, fired⟩ := System.restrict_step_iff.mp fired
      have before := before.of_restrict
      have ordered := ordered_of_reachable before
      have session := oneSession_of_reachable (world_of_reachable before) ordered.governs.once
      exact (Native.step_cases fired).keepsCancels ordered session (streams_of_reachable before)
        orderly known
  exact (cancels.returned returned).2

/-- A session that is closed once the device runs leaves it canceling. -/
theorem closing_cancels_running_device
    : ∃ native,
        (openAsync.restrict Native.cancelsStarted).Reachable native
        ∧ native.closedReturned = true
        ∧ native.device.asyncStatus ≠ .running := by
  have replayed
      : ((openAsync.restrict Native.cancelsStarted).run (Native.initial .zeroed)
            (launchSchedule ++ [.caller (.value 0), .caller .none, .caller .none]
              ++ closingSchedule ++ List.replicate 5 (.closedcb (some 0)))).map
          (fun native => native.closedReturned)
        = some true := by
    decide +kernel
  obtain ⟨native, reachable, returned⟩ :=
    System.exists_reachable_of_run replayed ⟨.zeroed, rfl⟩
  exact ⟨native, reachable, returned, closing_cancels_stream reachable returned⟩

/-- A session that is closed while `announceOnOpen` runs leaves a device that starts to run
afterwards.
-/
theorem stream_survives_early_close
    : ¬ ∀ native,
        openAsync.Reachable native
        → native.closedReturned = true
        → native.device.asyncStatus ≠ .running := by
  intro claim
  have replayed
      : (openAsync.run (Native.initial .zeroed)
            (launchSchedule ++ closingSchedule ++ List.replicate 3 (.closedcb (some 0))
              ++ [.caller (.value 0), .caller .none, .caller .none])).map
          (fun native => (native.closedReturned, native.device.asyncStatus))
        = some (true, .running) := by
    decide +kernel
  obtain ⟨native, reachable, seen⟩ := System.exists_reachable_of_run replayed ⟨.zeroed, rfl⟩
  simp only [Prod.mk.injEq] at seen
  exact claim native reachable seen.1 seen.2

end RtlTcpAndro.RtlSdrDevice
