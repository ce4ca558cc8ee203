import RtlTcpAndro.RtlSdrDevice.SessionOrder
import RtlTcpAndro.SdrTcp.SessionEnd

/-! What `openAsync` leaves behind when it closes the device.
It stores NULL in `dev->rtl_dev` first, which keeps every callback off the device but those
that have read it already; the end of the session's threads is requested and not awaited.
-/

namespace RtlTcpAndro.RtlSdrDevice

open RtlTcpAndro.Interleaving RtlTcpAndro.SdrTcp

/-- `openAsync` executes `rtlsdr_close` or is past it. -/
def OpenAsyncPoint.closing : OpenAsyncPoint → Bool
  | .close _ _ | .stopServing _ | .stopping _ | .closeFailed _ | .returned _ => true
  | _ => false

/-- `tcpClosedCallback` is between its check of `dev->rtl_dev` and its return. -/
def ClosedPoint.busy : ClosedPoint → Bool
  | .testDevice => false
  | _ => true

/-- `tcpClosedCallback` has read the device for its call of `rtlsdr_cancel_async`. -/
def ClosedPoint.calls : ClosedPoint → Bool
  | .cancel _ => true
  | _ => false

/-- `tcpCommandCallback` is between its check of `dev->rtl_dev` and the end of a call. -/
def CommandPoint.busy : CommandPoint → Bool
  | .loadDevice | .issueCall | .insideCall => true
  | _ => false

/-- `tcpCommandCallback` has read the device for a call of librtlsdr. -/
def CommandPoint.calls : CommandPoint → Bool
  | .issueCall | .insideCall => true
  | _ => false

/-- No callback is between its check of `dev->rtl_dev` and the end of the call it makes. -/
def Native.unused (native : Native) : Prop :=
  (∀ thread, (native.closed thread).busy = false)
  ∧ ∀ session, (native.command session).busy = false

/-- Both threads of the session have finished, and its listening socket is closed. -/
def Native.finished (native : Native) : Prop :=
  native.world.server 0 = .exited
  ∧ (native.world.listener 0 = .notStarted ∨ native.world.listener 0 = .exited)
  ∧ native.world.shared.control.listenSocket = -1

section Step

variable {native next : Native} {event : NativeEvent}

/-- `openAsync` does not go back before its `rtlsdr_close`. -/
theorem Native.Fires.closing (fires : native.Fires event next)
    (closing : native.caller.closing = true)
    : next.caller.closing = true := by
  cases fires with
  | advances step =>
      generalize native.caller = caller at step closing
      cases step <;> first | rfl | cases closing
  | drives step =>
      generalize native.caller = caller at step closing
      cases step <;> first | rfl | cases closing
  | stored position | reads position | read position | lost position | cancels position =>
      rw [position] at closing
      cases closing
  | cleared => rfl
  | closes _ following | closesFailed _ following =>
      rcases following with ⟨_, rfl⟩ | rfl <;> rfl
  | _ => exact closing

/-- A `tcpClosedCallback` that has not read the device finds NULL. -/
theorem Native.Fires.closed_calls (fires : native.Fires event next)
    (cleared : native.rtlDev = false) {thread : Option Nat}
    (outside : (native.closed thread).calls = false)
    : (next.closed thread).calls = false := by
  cases fires with
  | loads _ held =>
      rw [cleared] at held
      cases held
  | @cancelling index pos following _ position =>
      have other : thread ≠ index := by
        intro same
        rw [same, position] at outside
        cases outside
      dsimp only
      rwa [Function.update_of_ne other]
  | @ignored index | @cancelled index =>
      by_cases same : thread = index
      · dsimp only
        rw [same, Function.update_self]
        rfl
      · dsimp only
        rwa [Function.update_of_ne same]
  | _ => exact outside

/-- A `tcpCommandCallback` that has not read the device finds NULL. -/
theorem Native.Fires.command_calls (fires : native.Fires event next)
    (cleared : native.rtlDev = false) {session : Nat}
    (outside : (native.command session).calls = false)
    : (next.command session).calls = false := by
  cases fires with
  | @commands _ index following step =>
      by_cases same : session = index
      · subst same
        generalize native.command session = pos at step outside
        cases step with
        | checked held | loaded held =>
            rw [cleared] at held
            cases held
        | issued => cases outside
      · dsimp only
        rwa [Function.update_of_ne same]
  | @commanded _ index following _ _ step =>
      by_cases same : session = index
      · dsimp only
        rw [same, Function.update_self]
        rcases step with rfl | rfl <;> rfl
      · dsimp only
        rwa [Function.update_of_ne same]
  | _ => exact outside

end Step

/-- From `rtlsdr_close` on `dev->rtl_dev` is NULL. -/
theorem cleared_of_closing {native : Native} (reachable : openAsync.Reachable native)
    (closing : native.caller.closing = true)
    : native.rtlDev = false := by
  rw [(ordered_of_reachable reachable).held]
  generalize native.caller = caller at closing
  cases caller <;> first | rfl | cases closing

/-- What holds in a closing state and survives its steps holds from there on, by induction on
the rest of the run.
-/
theorem kept_while_closing {native later : Native} (reachable : openAsync.Reachable native)
    (run : openAsync.Leads native later) (closing : native.caller.closing = true)
    (holds : Native → Prop) (first : holds native)
    (step
      : ∀ current event next,
          current.Fires event next → current.rtlDev = false → holds current → holds next)
    : holds later := by
  have kept : later.caller.closing = true ∧ holds later := by
    induction run with
    | refl => exact ⟨closing, first⟩
    | step before fired ih =>
        have fires := Native.step_cases fired
        have cleared := cleared_of_closing (reachable.leads before) ih.1
        exact ⟨fires.closing ih.1, step _ _ _ fires cleared ih.2⟩
  exact kept.2

/-- From `rtlsdr_close` on, a callback that has not read the device makes no call with it; and
a session whose server thread has called `closedcb` has no running listener and no open
listening socket.
-/
theorem teardown_keeps_callbacks_off {native : Native}
    (reachable : openAsync.Reachable native)
    : (native.caller.closing = true
        → native.rtlDev = false
          ∧ ∀ later,
              openAsync.Leads native later
              → (∀ thread,
                  (native.closed thread).calls = false → (later.closed thread).calls = false)
                ∧ ∀ session,
                    (native.command session).calls = false
                    → (later.command session).calls = false)
      ∧ ((native.world.server 0).finished = true
        → (native.world.listener 0 = .notStarted ∨ native.world.listener 0 = .exited)
          ∧ native.world.shared.control.listenSocket = -1
          ∧ ∀ descriptor ∈ native.world.shared.control.descriptors.sockets,
              descriptor ∈ native.world.shared.control.descriptors.closed) := by
  refine ⟨fun closing => ⟨cleared_of_closing reachable closing, ?_⟩, ?_⟩
  · intro later run
    refine ⟨?_, ?_⟩
    · intro thread outside
      exact kept_while_closing reachable run closing
        (fun native => (native.closed thread).calls = false) outside
        (fun _ _ _ fires cleared outside => fires.closed_calls cleared outside)
    · intro session outside
      exact kept_while_closing reachable run closing
        (fun native => (native.command session).calls = false) outside
        (fun _ _ _ fires cleared outside => fires.command_calls cleared outside)
  · exact session_ended (world_of_reachable reachable)
      (ordered_of_reachable reachable).governs.once

/-- The choices of `openAsync` from `announceOnOpen` into `rtlsdr_read_async`, which submits its
transfers with the result `r`.
-/
def readingSchedule (r : Int) : List NativeEvent :=
  [.caller (.value 0), .caller .none, .caller .none, .caller .none, .caller (.value r),
    .caller .none]

/-- `LIBUSB_ERROR_NOT_FOUND`, what cancelling a transfer that is not in flight gives. -/
def libusbErrorNotFound : Int := -5

/-- The choices of `openAsync` in a round of `rtlsdr_read_async` that finds it canceling:
`libusb_cancel_transfer` gives the results, one for each transfer that is not cancelled yet.
-/
def cancelingRound (results : List Int) : List NativeEvent :=
  [.caller (.value 0), .caller .none]
  ++ results.map (fun result => .caller (.value result))
  ++ [.caller .none]

/-- The choices of `openAsync` from the last handling of events in `rtlsdr_read_async` up to
`rtlsdr_close`.
-/
def leavingSchedule : List NativeEvent :=
  List.replicate 3 (.caller .none)

/-- A session that is closed while the device runs is over when the device is closed. Witness:
the run in which a first round cancels the fifteen transfers and a second has none left.
-/
theorem teardown_after_closed_session
    : ∃ native,
        openAsync.Reachable native
        ∧ native.caller = .close true .testLost
        ∧ native.rtlDev = false
        ∧ native.world.shared.control.listenSocket = -1 := by
  have replayed
      : (openAsync.run (Native.initial .zeroed)
            (launchSchedule ++ readingSchedule 0 ++ closingSchedule
              ++ List.replicate 5 (.closedcb (some 0)) ++ cancelingRound (List.replicate 15 0)
              ++ .caller .none :: cancelingRound [] ++ leavingSchedule)).map
          (fun native => (native.caller, native.world.server 0))
        = some (.close true .testLost, .exited) := by
    decide +kernel
  obtain ⟨native, reachable, seen⟩ := System.exists_reachable_of_run replayed ⟨.zeroed, rfl⟩
  simp only [Prod.mk.injEq] at seen
  have teardown := teardown_keeps_callbacks_off reachable
  exact ⟨native, reachable, seen.1, (teardown.1 (by rw [seen.1]; rfl)).1,
    (teardown.2 (by rw [seen.2]; rfl)).2.1⟩

/-- A callback that has read the device is inside `rtlsdr_cancel_async` when the lost device is
closed, and `openAsync` returns from a failed submission with the server thread waiting.
Witness: two runs in which none of the fifteen transfers is in flight when it is cancelled.
-/
theorem teardown_leaves_threads
    : (¬ ∀ native,
          openAsync.Reachable native → native.caller.closing = true → native.unused)
      ∧ ¬ ∀ native succesful,
          openAsync.Reachable native
          → native.caller = .returned succesful
          → native.world.servers = 1
          → native.finished := by
  constructor
  · intro claim
    have replayed
        : (openAsync.run (Native.initial .zeroed)
              (launchSchedule ++ readingSchedule 0 ++ closingSchedule
                ++ List.replicate 2 (.closedcb (some 0))
                ++ .lost :: List.replicate 3 (.caller .none)
                ++ cancelingRound (List.replicate 15 libusbErrorNotFound)
                ++ leavingSchedule)).map
            (fun native => (native.caller, native.closed (some 0)))
          = some (.close false .testLost, .cancel .testRunning) := by
      decide +kernel
    obtain ⟨native, reachable, seen⟩ :=
      System.exists_reachable_of_run replayed ⟨.zeroed, rfl⟩
    simp only [Prod.mk.injEq] at seen
    have idle := (claim native reachable (by rw [seen.1]; rfl)).1 (some 0)
    rw [seen.2] at idle
    cases idle
  · intro claim
    have replayed
        : (openAsync.run (Native.initial .zeroed)
              (launchSchedule ++ readingSchedule (-1)
                ++ .caller .none :: cancelingRound (List.replicate 15 libusbErrorNotFound)
                ++ leavingSchedule ++ List.replicate 8 (.caller .none))).map
            (fun native =>
              (native.caller, native.world.servers, native.world.server 0))
          = some (.returned false, 1, .waiting .testStartedAsync) := by
      decide +kernel
    obtain ⟨native, reachable, seen⟩ :=
      System.exists_reachable_of_run replayed ⟨.zeroed, rfl⟩
    simp only [Prod.mk.injEq] at seen
    have exited := (claim native false reachable seen.1 seen.2.1).1
    rw [seen.2.2] at exited
    cases exited

end RtlTcpAndro.RtlSdrDevice
