import RtlTcpAndro.SdrTcp.OneSession

/-! The command listener of a served client.
`tcp_server` creates the listener before it stores `STAGE_CLIENT_SERVING`, and the listener
leaves its loop at the first test that finds another stage.
-/

namespace RtlTcpAndro.SdrTcp

open RtlTcpAndro.Interleaving

/-- A listener does not make its first test while the stage is still the one in which
`tcp_server` created it.
-/
def World.listenerWaits (world : World) (event : Event) : Prop :=
  match event with
  | .listener session _ =>
      world.listener session = .loop .initial → world.shared.control.state ≠ .clientOpen
  | _ => True

instance (world : World) (event : Event) : Decidable (world.listenerWaits event) := by
  unfold World.listenerWaits
  cases event <;> infer_instance

/-- No stop request that found a session, and no failed `recv`, has occurred. -/
def History.calm (history : History) : Prop :=
  history.stopObserved = false ∧ history.recvFailed = false

/-- Why the listener of a calm session stays: nobody ends the session between the creation
of the listener and the store of `STAGE_CLIENT_SERVING`, and the listener waits for it.
-/
structure World.ListenerKept (world : World) : Prop where
  quiet : ∀ caller, world.stopper caller = .idle ∨ world.stopper caller = .testUninitialized
  opening
    : world.server 0 = .createListener ∨ world.server 0 = .storeServing
      → world.shared.control.state = .clientOpen
  waiting : world.server 0 = .storeServing → world.listener 0 = .loop .initial
  serving : world.shared.control.state = .clientServing → world.listener 0 ≠ .exited

/-- A calm history was calm before. -/
theorem World.Fires.calm {world next : World} {event : Event}
    (fires : world.Fires event next) (calm : next.shared.control.history.calm)
    : world.shared.control.history.calm := by
  cases fires with
  | openSocket | serveClientAsync | feed | stop => exact calm
  | opening _ moved | opened _ moved => exact (sdrtcpOpenSocket_state moved).2 ▸ calm
  | serving _ moved | refused _ moved | created _ moved =>
      exact (sdrtcpServeClientAsync_state moved).2 ▸ calm
  | feeder moved => exact sdrtcpFeed_control moved ▸ calm
  | server moved => exact (tcpServer_state moved).2 ▸ calm
  | listener moved =>
      rcases commandListener_control moved with effect | ⟨-, rfl⟩
      · rw [effect] at calm
        exact calm
      · cases calm.2
  | @stopper caller shared pos moved =>
      cases position : world.stopper caller with
      | testUninitialized =>
          simp only [position, sdrtcpStopServingClient] at moved
          split at moved <;> cases moved
          · exact calm
          · cases calm.1
      | cleanup =>
          rw [position] at moved
          obtain ⟨-, result⟩ := Shared.locked_eq_some.mp moved
          cases result
          simpa [History.calm, History.stopped] using calm
      | _ =>
          simp only [position, sdrtcpStopServingClient] at moved
          try split at moved
          all_goals cases moved <;> exact calm

/-- A server thread is about to create its listener, or has just done so, only after it found
or left the client open.
-/
theorem tcpServer_opening {shared after : Shared} {reply : Reply} {joined : Bool}
    {pos next : ServerPoint} (moved : tcpServer shared reply joined pos = some (after, next))
    : (next = .createListener → after.control.state = .clientOpen)
      ∧ (next = .storeServing → pos = .createListener ∧ after = shared) := by
  cases pos with
  | waiting pos =>
      obtain ⟨⟨middle, progress⟩, inner, rest⟩ := Option.bind_eq_some_iff.mp moved
      cases progress <;> cases rest <;> simp
  | serving pos =>
      obtain ⟨⟨middle, progress⟩, inner, rest⟩ := Option.bind_eq_some_iff.mp moved
      cases progress <;> cases rest <;> simp
  | storeServing | cleanup =>
      obtain ⟨-, result⟩ := Shared.locked_eq_some.mp moved
      cases result
      simp
  | testFinal =>
      obtain ⟨-, result⟩ := Shared.locked_eq_some.mp moved
      cases result
      split <;> simp
  | _ =>
      simp only [tcpServer] at moved
      try split at moved
      all_goals cases moved <;> simp_all

/-- A listener leaves its loop only at a test that finds another stage. -/
theorem commandListener_exited {shared after : Shared} {reply : Reply}
    {pos : ListenerPoint} (moved : commandListener shared reply pos = some (after, .exited))
    : after = shared ∧ shared.control.state ≠ .clientServing := by
  cases pos with
  | select receiving =>
      cases reply with
      | value r => cases moved
      | _ => cases moved
  | receive receiving =>
      cases reply with
      | none => cases moved
      | _ =>
          simp only [commandListener] at moved
          split at moved <;> cases moved
  | _ =>
      simp only [commandListener] at moved
      try split at moved
      all_goals cases moved
      all_goals exact ⟨rfl, by assumption⟩

/-- The stage after a step is `STAGE_CLIENT_SERVING` only if it was, or was stored. -/
theorem Stage.after_serving {stage : Stage} {stored : Option Stage} {cleaned : Bool}
    (serving : stage.after stored cleaned = .clientServing)
    : stored = some .clientServing ∨ stage = .clientServing := by
  unfold Stage.after at serving
  cases cleaned with
  | true => cases serving
  | false =>
      cases stored with
      | none => exact .inr serving
      | some following => exact .inl (congrArg some serving)

/-- A step of a calm session that lets its listener wait keeps the listener. -/
theorem World.Fires.listenerKept {world next : World} {event : Event}
    (fires : world.Fires event next) (session : world.OneSession)
    (calm : next.shared.control.history.calm) (waits : world.listenerWaits event)
    (kept : world.ListenerKept) (once : next.opens ≤ 1)
    : next.ListenerKept := by
  cases fires with
  | openSocket => exact ⟨kept.quiet, kept.opening, kept.waiting, kept.serving⟩
  | serveClientAsync opened => exact ⟨kept.quiet, kept.opening, kept.waiting, kept.serving⟩
  | feed outside valid => exact ⟨kept.quiet, kept.opening, kept.waiting, kept.serving⟩
  | @stop caller outside =>
      refine ⟨?_, kept.opening, kept.waiting, kept.serving⟩
      intro other
      by_cases same : other = caller
      · exact .inr (same ▸ Function.update_self ..)
      · simpa [Function.update_of_ne same] using kept.quiet other
  | opening inside moved | opened inside moved | serving inside moved | refused inside moved =>
      have absent := session.absent 0 (by simp [session.unserved (by simp [inside])])
      exact ⟨kept.quiet, by simp [absent.1], by simp [absent.1], by simp [absent.2]⟩
  | created inside moved =>
      have unserved := session.unserved (by simp [inside])
      have absent := session.absent 0 (by omega)
      exact ⟨kept.quiet, by simp [unserved], by simp [unserved], by simp [absent.2]⟩
  | feeder moved =>
      have control := sdrtcpFeed_control moved
      exact ⟨kept.quiet, by rw [control]; exact kept.opening, kept.waiting,
        by rw [control]; exact kept.serving⟩
  | @server index reply shared pos moved =>
      have running : world.server index ≠ .notStarted := by
        intro absent
        rw [absent] at moved
        cases moved
      obtain ⟨rfl, -⟩ := session.serving (.inl running)
      obtain ⟨created, stored⟩ := tcpServer_opening moved
      refine ⟨kept.quiet, ?_, ?_, ?_⟩ <;> dsimp only
      · rw [Function.update_self]
        rintro (creating | storing)
        · exact created creating
        · obtain ⟨before, same⟩ := stored storing
          rw [same]
          exact kept.opening (.inl before)
      · rw [Function.update_self]
        intro storing
        rw [if_pos (stored storing).1, Function.update_self]
      · intro serving
        by_cases creating : world.server 0 = .createListener
        · simp [creating]
        · rw [if_neg creating]
          rw [(tcpServer_state moved).1] at serving
          rcases Stage.after_serving serving with stores | before
          · rw [kept.waiting (ServerPoint.stores_serving stores)]
            simp
          · exact kept.serving before
  | @listener index reply shared pos moved =>
      have running : world.listener index ≠ .notStarted := by
        intro absent
        rw [absent] at moved
        cases moved
      obtain ⟨rfl, -⟩ := session.serving (.inr running)
      have created : world.server 0 ≠ .createListener := by
        intro creating
        exact running (session.listenerless (by rw [creating]; rfl))
      have stored : world.server 0 ≠ .storeServing := by
        intro storing
        exact waits (kept.waiting storing) (kept.opening (.inr storing))
      refine ⟨kept.quiet, by simp [created, stored], by simp [stored], ?_⟩
      intro serving exited
      dsimp only at serving exited
      rw [Function.update_self] at exited
      subst exited
      obtain ⟨rfl, ended⟩ := commandListener_exited moved
      exact ended serving
  | @stopper caller shared pos moved =>
      rcases kept.quiet caller with idle | testing
      · rw [idle] at moved
        cases moved
      · simp only [testing, sdrtcpStopServingClient] at moved
        split at moved <;> cases moved
        · refine ⟨?_, kept.opening, kept.waiting, kept.serving⟩
          intro other
          by_cases same : other = caller
          · exact .inl (same ▸ Function.update_self ..)
          · simpa [Function.update_of_ne same] using kept.quiet other
        · cases calm.1

/-- A served client has a listener that has not left its loop, in every run in which the
listener's first test waits for the server to serve, until a stop request or a failed `recv`.
-/
theorem served_client_has_listener {world : World}
    (reachable : (server.restrict World.listenerWaits).Reachable world)
    (once : world.opens ≤ 1)
    (serving : world.shared.control.state = .clientServing)
    (unstopped : world.shared.control.history.stopObserved = false)
    (received : world.shared.control.history.recvFailed = false)
    : world.listener 0 ≠ .notStarted ∧ world.listener 0 ≠ .exited := by
  have kept : world.opens ≤ 1 → world.shared.control.history.calm → world.ListenerKept := by
    refine reachable.invariant
      (fun world =>
        world.opens ≤ 1 → world.shared.control.history.calm → world.ListenerKept) ?_ ?_
    · rintro _ ⟨workpool, rfl⟩ - -
      exact ⟨fun _ => .inl rfl, nofun, nofun, nofun⟩
    · intro current choice next before known fired once calm
      obtain ⟨waits, fired⟩ := System.restrict_step_iff.mp fired
      have fires := World.step_cases fired
      have earlier := Nat.le_trans fires.opens_le once
      exact fires.listenerKept (oneSession_of_reachable before.of_restrict earlier) calm waits
        (known earlier (fires.calm calm)) once
  refine ⟨?_, (kept once ⟨unstopped, received⟩).serving serving⟩
  have session := oneSession_of_reachable reachable.of_restrict once
  obtain ⟨inner, position⟩ := session.serving_position serving
  exact session.accompanied (by rw [position]; rfl) (by rw [position]; rfl)

/-- A server thread's choices from the check of the accepted descriptor to the creation of
its listener.
-/
def listeningSchedule : List Event :=
  [.server 0 .none, .server 0 .none, .server 0 .none, .server 0 .none]

/-- A listener that makes its first test after the store serves its client. -/
theorem served_client_has_listener_in_order
    : ∃ world,
        (server.restrict World.listenerWaits).Reachable world
        ∧ world.shared.control.state = .clientServing
        ∧ world.listener 0 ≠ .notStarted
        ∧ world.listener 0 ≠ .exited := by
  have replayed
      : ((server.restrict World.listenerWaits).run (World.initial .zeroed)
            (servingSchedule ++ acceptingSchedule ++ listeningSchedule
            ++ [.server 0 .none, .listener 0 .none])).map
          (fun world =>
            (decide (world.opens ≤ 1), world.shared.control.state,
              world.shared.control.history))
        = some (true, .clientServing, ⟨false, false, false⟩) := by
    decide +kernel
  obtain ⟨world, reachable, seen⟩ :=
    System.exists_reachable_of_run replayed ⟨.zeroed, rfl⟩
  simp only [Prod.mk.injEq, decide_eq_true_eq] at seen
  obtain ⟨once, serving, history⟩ := seen
  exact ⟨world, reachable, serving,
    served_client_has_listener reachable once serving (by rw [history]) (by rw [history])⟩

/-- A listener that tests the stage before it is stored is gone when the client is served. -/
theorem listener_lost_before_serving
    : ¬ ∀ world,
        server.Reachable world
        → world.opens ≤ 1
        → world.shared.control.state = .clientServing
        → world.shared.control.history.stopObserved = false
        → world.shared.control.history.recvFailed = false
        → world.listener 0 ≠ .notStarted ∧ world.listener 0 ≠ .exited := by
  intro claim
  have replayed
      : (server.run (World.initial .zeroed)
            (servingSchedule ++ acceptingSchedule ++ listeningSchedule
            ++ [.listener 0 .none, .server 0 .none])).map
          (fun world =>
            (decide (world.opens ≤ 1), world.shared.control.state,
              world.shared.control.history, world.listener 0))
        = some (true, .clientServing, ⟨false, false, false⟩, .exited) := by
    decide +kernel
  obtain ⟨world, reachable, seen⟩ :=
    System.exists_reachable_of_run replayed ⟨.zeroed, rfl⟩
  simp only [Prod.mk.injEq, decide_eq_true_eq] at seen
  obtain ⟨once, serving, history, exited⟩ := seen
  exact (claim world reachable once serving (by rw [history]) (by rw [history])).2 exited

end RtlTcpAndro.SdrTcp
