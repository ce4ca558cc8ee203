import RtlTcpAndro.SdrTcp.DescriptorLedger
import RtlTcpAndro.SdrTcp.OneSession
import RtlTcpAndro.SdrTcp.SuccessiveSessions

/-! The end of a session as its server thread leaves it: the thread waits for its listener,
cleans up, and then calls `closedcb`.
-/

namespace RtlTcpAndro.SdrTcp

open RtlTcpAndro.Interleaving

/-- Only a thread at its last two points has still to finish, and it does so with the object
uninitialized.
-/
theorem tcpServer_finishes {shared after : Shared} {reply : Reply} {joined : Bool}
    {pos next : ServerPoint} (moved : tcpServer shared reply joined pos = some (after, next))
    (running : pos.finished = false) (finished : next.finished = true)
    : after.control.state = .uninitialized := by
  cases pos with
  | waiting pos | serving pos =>
      obtain ⟨⟨middle, progress⟩, inner, rest⟩ := Option.bind_eq_some_iff.mp moved
      cases progress <;> cases rest <;> cases finished
  | testFinal =>
      obtain ⟨-, result⟩ := Shared.locked_eq_some.mp moved
      cases result
      by_cases fresh : shared.control.state = .uninitialized
      · exact fresh
      · simp [fresh, ServerPoint.finished] at finished
  | cleanup =>
      obtain ⟨-, result⟩ := Shared.locked_eq_some.mp moved
      cases result
      exact cleanupSection_state _
  | storeServing =>
      obtain ⟨-, result⟩ := Shared.locked_eq_some.mp moved
      cases result
      cases finished
  | closedcb | exited => cases running
  | _ =>
      simp only [tcpServer] at moved
      try split at moved
      all_goals cases moved <;> cases finished

/-- A session that its server thread has finished with stays without a listening socket. -/
theorem World.Fires.unlistening {world next : World} {event : Event}
    (fires : world.Fires event next) (session : world.OneSession)
    (balanced : Balanced next.shared.control next.owner)
    (released
      : (world.server 0).finished = true → world.shared.control.listenSocket = -1)
    (finished : (next.server 0).finished = true)
    : next.shared.control.listenSocket = -1 := by
  cases before : (world.server 0).finished with
  | true =>
      have started : world.server 0 ≠ .notStarted := by
        intro absent
        rw [absent] at before
        cases before
      obtain ⟨-, -, idle, -⟩ := session.serving (.inl started)
      have settles := fires.writes.settles (by simp [idle])
      rcases settles.listen with cleared | ⟨same, -⟩
      · exact cleared
      · exact same.trans (released before)
  | false =>
      cases fires with
      | @server index reply shared pos moved =>
          by_cases same : index = 0
          · subst same
            have finished : pos.finished = true := by
              simpa only [Function.update_self] using finished
            have started : world.server 0 ≠ .notStarted := by
              intro absent
              rw [absent] at moved
              cases moved
            obtain ⟨-, -, idle, -⟩ := session.serving (.inl started)
            exact balanced.dropped (tcpServer_finishes moved before finished)
              (by rw [idle]; rfl)
          · dsimp only at finished
            rw [Function.update_of_ne (Ne.symm same), before] at finished
            cases finished
      | @created reply pos shared inside moved =>
          have unserved := session.unserved (by rw [inside]; exact nofun)
          dsimp only at finished
          rw [unserved, Function.update_self] at finished
          cases finished
      | _ =>
          have finished : (world.server 0).finished = true := finished
          rw [before] at finished
          cases finished

/-- Once a server thread has called `closedcb`, its listener has ended, and every listening
socket of the session is closed.
-/
theorem session_ended {world : World} (reachable : server.Reachable world)
    (once : world.opens ≤ 1) (finished : (world.server 0).finished = true)
    : (world.listener 0 = .notStarted ∨ world.listener 0 = .exited)
      ∧ world.shared.control.listenSocket = -1
      ∧ ∀ descriptor ∈ world.shared.control.descriptors.sockets,
          descriptor ∈ world.shared.control.descriptors.closed := by
  have session := oneSession_of_reachable reachable once
  have unlistening : world.shared.control.listenSocket = -1 := by
    refine reachable.invariant
      (fun world =>
        world.opens ≤ 1
        → (world.server 0).finished = true
        → world.shared.control.listenSocket = -1) ?_ ?_ once finished
    · intro start initial _ finished
      obtain ⟨workpool, rfl⟩ := initial
      cases finished
    · intro current choice next before known fired once finished
      have fires := World.step_cases fired
      have earlier := Nat.le_trans fires.opens_le once
      have balanced := balanced_of_reachable (before.leads (.step .refl fired))
      exact fires.unlistening (oneSession_of_reachable before earlier) balanced
        (known earlier) finished
  have joined : (world.server 0).joined = true := by
    generalize world.server 0 = pos at finished
    cases pos <;> first | rfl | cases finished
  refine ⟨session.joined joined, unlistening, ?_⟩
  intro descriptor obtained
  have ledger := (balanced_of_reachable reachable).ledger
  rw [Control.pledged, if_pos unlistening] at ledger
  exact ledger.mem_iff.mpr obtained

end RtlTcpAndro.SdrTcp
