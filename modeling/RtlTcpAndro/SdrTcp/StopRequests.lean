import RtlTcpAndro.SdrTcp.StateWord

/-! Stop requests against the stores that advance a session.
Each such store follows a test of `obj->state` in the same thread, with no lock across the
two, and a request that returns in between is overwritten.
-/

namespace RtlTcpAndro.SdrTcp

open RtlTcpAndro.Interleaving

/-- The stage found by the test that guards the store of a session's next stage. -/
def Stage.tested : Stage → Option Stage
  | .socketOpen => some .initialized
  | .clientOpenStartedAsync => some .socketOpen
  | .clientOpen => some .clientOpenStartedAsync
  | .clientServing => some .clientOpen
  | _ => none

/-- After a stop request has returned, a choice that advances the session does so from the
stage its guarding test found.
-/
def World.heedsStop (world : World) (event : Event) : Prop :=
  world.shared.control.history.stopReturned = true
  → ∀ stage ∈ world.stores event,
      stage = .needsStopping ∨ stage.tested = some world.shared.control.state

instance (world : World) (event : Event) : Decidable (world.heedsStop event) :=
  inferInstanceAs (Decidable (_ → _))

/-- A returned stop request leaves no stage of a session that goes on. -/
def World.stopHolds (world : World) : Prop :=
  world.shared.control.history.stopReturned = true
  → world.shared.control.state = .uninitialized ∨ world.shared.control.state = .needsStopping

/-- Only a beginning `sdrtcp_open_socket` forgets a returned stop request, and only the last
access of a request records it.
-/
theorem World.Fires.stopReturned {world next : World} {event : Event}
    (fires : world.Fires event next)
    (returned : next.shared.control.history.stopReturned = true)
    : world.shared.control.history.stopReturned = true
      ∨ next.shared.control.state = .uninitialized
      ∨ next.shared.control.state = .needsStopping := by
  cases fires with
  | openSocket => cases returned
  | serveClientAsync | feed | stop => exact .inl returned
  | opening _ moved | opened _ moved =>
      exact .inl ((sdrtcpOpenSocket_state moved).2 ▸ returned)
  | serving _ moved | refused _ moved | created _ moved =>
      exact .inl ((sdrtcpServeClientAsync_state moved).2 ▸ returned)
  | feeder moved => exact .inl (sdrtcpFeed_control moved ▸ returned)
  | server moved => exact .inl ((tcpServer_state moved).2 ▸ returned)
  | listener moved =>
      rcases commandListener_control moved with effect | ⟨-, rfl⟩
      · exact .inl (by rw [effect] at returned; exact returned)
      · exact .inl returned
  | @stopper caller shared pos moved =>
      cases position : world.stopper caller with
      | cleanup =>
          rw [position] at moved
          obtain ⟨-, result⟩ := Shared.locked_eq_some.mp moved
          cases result
          exact .inr (.inl (cleanupSection_state _))
      | storeNeedsStopping =>
          rw [position] at moved
          cases moved
          exact .inr (.inr rfl)
      | _ =>
          simp only [position, sdrtcpStopServingClient] at moved
          try split at moved
          all_goals cases moved <;> exact .inl returned

/-- A step that heeds returned requests keeps them in force: the stage it finds is neither
one that a guarding test accepts, nor does the cleanup store one.
-/
theorem World.Fires.stopHolds {world next : World} {event : Event}
    (fires : world.Fires event next) (heeds : world.heedsStop event)
    (holds : world.stopHolds)
    : next.stopHolds := by
  intro returned
  rcases fires.stopReturned returned with before | stopped
  · have stage := holds before
    rw [fires.state, Stage.after]
    cases cleaned : world.cleansUp event with
    | true => exact .inl rfl
    | false =>
        cases stored : world.stores event with
        | none => exact stage
        | some following =>
            rcases heeds before following stored with needs | tested
            · exact .inr needs
            · rcases stage with stage | stage <;> rw [stage] at tested <;>
                cases following <;> cases tested
  · exact stopped

/-- A stop request is never lost in a run whose steps all heed the returned requests. -/
theorem stop_not_lost {world : World}
    (reachable : (server.restrict World.heedsStop).Reachable world)
    (returned : world.shared.control.history.stopReturned = true)
    : world.shared.control.state ≠ .clientOpen
      ∧ world.shared.control.state ≠ .clientServing := by
  have holds : world.stopHolds := by
    refine reachable.invariant World.stopHolds ?_ ?_
    · intro start initial returned
      obtain ⟨workpool, rfl⟩ := initial
      cases returned
    · intro current choice next _ known fired
      obtain ⟨heeds, fired⟩ := System.restrict_step_iff.mp fired
      exact (World.step_cases fired).stopHolds heeds known
  rcases holds returned with stage | stage <;> simp [stage]

/-- The choices of one stop request that finds the server waiting for its client. -/
def stopSchedule : List Event := [.stop 0, .stopper 0, .stopper 0, .stopper 0]

/-- A stop request that returns while the server waits is in force in the state it leaves. -/
theorem stop_not_lost_while_waiting
    : ∃ world,
        (server.restrict World.heedsStop).Reachable world
        ∧ world.shared.control.history.stopReturned = true
        ∧ world.shared.control.state ≠ .clientOpen
        ∧ world.shared.control.state ≠ .clientServing := by
  have replayed
      : ((server.restrict World.heedsStop).run (World.initial .zeroed)
            (servingSchedule ++ stopSchedule)).map
          (fun world => world.shared.control.history.stopReturned)
        = some true := by
    decide +kernel
  obtain ⟨world, reachable, returned⟩ :=
    System.exists_reachable_of_run replayed ⟨.zeroed, rfl⟩
  exact ⟨world, reachable, returned, stop_not_lost reachable returned⟩

/-- A request that returns between an `accept` and the store after it is lost. -/
theorem stop_lost_after_accept
    : ¬ ∀ world,
        server.Reachable world
        → world.shared.control.history.stopReturned = true
        → world.shared.control.state ≠ .clientOpen
          ∧ world.shared.control.state ≠ .clientServing := by
  intro claim
  have replayed
      : (server.run (World.initial .zeroed)
            (servingSchedule ++ acceptingSchedule ++ stopSchedule ++ [.server 0 .none])).map
          (fun world =>
            (world.shared.control.history.stopReturned, world.shared.control.state))
        = some (true, .clientOpen) := by
    decide +kernel
  obtain ⟨world, reachable, seen⟩ :=
    System.exists_reachable_of_run replayed ⟨.zeroed, rfl⟩
  simp only [Prod.mk.injEq] at seen
  exact (claim world reachable seen.1).1 seen.2

end RtlTcpAndro.SdrTcp
