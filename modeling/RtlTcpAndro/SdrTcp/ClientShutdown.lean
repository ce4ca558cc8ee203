import RtlTcpAndro.Interleaving.Executions
import RtlTcpAndro.SdrTcp.CommandFraming
import RtlTcpAndro.SdrTcp.ListenerLife

/-! The command listener of a client that has closed its sending side.
`select` reports the socket readable from then on and `recv` returns 0, which `commandListener`
takes for the receipt of no bytes.
-/

namespace RtlTcpAndro.SdrTcp

open RtlTcpAndro.Interleaving

/-- The choice is a step of the listener. -/
def ListeningEvent.IsListener : ListeningEvent → Prop
  | .listener _ => True
  | .elsewhere _ => False

/-- The listener of a served session whose client sends any bytes, in any segments, and closes
its sending side at some time. The listener is scheduled again and again; the other threads
interleave with it and do not serve a session anew.
-/
structure Shutdown extends Execution listening where
  served : (state 0).shared.control.state = .clientServing
  closing : Nat
  receives
    : ∀ n receiving,
        (state n).pos = .receive receiving → choice n ≠ .listener (.value (-1))
  sameSession
    : ∀ n shared,
        choice n = .elsewhere shared
        → shared.control.state = .clientServing
        → (state n).shared.control.state = .clientServing
  readable
    : ∀ n receiving r,
        closing ≤ n
        → (state n).pos = .select receiving
        → choice n = .listener (.value r)
        → r ≠ 0
  ended
    : ∀ n receiving contents,
        closing ≤ n
        → (state n).pos = .receive receiving
        → choice n = .listener (.bytes contents)
        → contents = []
  scheduled : ∀ n, ∃ m, n ≤ m ∧ ((choice m).IsListener ∨ (state m).pos = .exited)

namespace Shutdown

variable (run : Shutdown)

/-- The stage before a step. -/
def stage (n : Nat) : Stage := (run.state n).shared.control.state

/-- The step is a call of `recv`. -/
def Receives (n : Nat) : Prop :=
  (∃ receiving, (run.state n).pos = .receive receiving) ∧ (run.choice n).IsListener

/-- `recv` is called finitely often. -/
def ReceivesFinitely : Prop := ∃ bound, ∀ n, bound ≤ n → ¬ run.Receives n

/-- The session leaves `STAGE_CLIENT_SERVING` and the loop ends. -/
def Ends : Prop :=
  ∃ bound, ∀ n, bound ≤ n → run.stage n ≠ .clientServing ∧ (run.state n).pos = .exited

/-- Some other thread stores another stage. -/
def EndedElsewhere : Prop :=
  ∃ n shared, run.choice n = .elsewhere shared ∧ shared.control.state ≠ .clientServing

end Shutdown

-----------------------------------------------------------------------------------------
-- One step
-----------------------------------------------------------------------------------------

/-- A step of a listening session, by the thread that makes it. -/
theorem listening_step_cases {current next : Listening} {event : ListeningEvent}
    (fired : listening.step current event = some next)
    : (∃ reply,
        event = .listener reply
        ∧ commandListener current.shared reply current.pos = some (next.shared, next.pos))
      ∨ ∃ shared, event = .elsewhere shared ∧ next.shared = shared ∧ next.pos = current.pos := by
  cases event with
  | listener reply =>
      obtain ⟨⟨shared, pos⟩, moved, rest⟩ := Option.bind_eq_some_iff.mp fired
      cases rest
      exact .inl ⟨reply, rfl, moved⟩
  | elsewhere shared =>
      simp only [listening, Listening.step] at fired
      split at fired <;> cases fired
      exact .inr ⟨shared, rfl, rfl, rfl⟩

/-- A listener whose `recv` does not fail stores no stage. -/
theorem commandListener_stores_none {shared after : Shared} {reply : Reply}
    {pos next : ListenerPoint}
    (moved : commandListener shared reply pos = some (after, next))
    (unfailed : pos.stores = none)
    (receives : ∀ receiving, pos = .receive receiving → reply ≠ .value (-1))
    : after.control.state = shared.control.state ∧ next.stores = none := by
  have kept : after.control.state = shared.control.state := by
    rcases commandListener_control moved with effect | ⟨⟨receiving, rfl⟩, rfl⟩
    · rw [effect, unfailed]
      rfl
    · rfl
  refine ⟨kept, ?_⟩
  cases pos with
  | select receiving =>
      cases reply <;> cases moved
      rfl
  | receive receiving =>
      have delivered := receives receiving rfl
      cases reply with
      | none => cases moved
      | value result =>
          simp only [commandListener] at moved
          split at moved <;> cases moved
          simp_all
      | bytes contents =>
          simp only [commandListener] at moved
          split at moved <;> cases moved
          rfl
  | _ =>
      simp only [commandListener] at moved
      try split at moved
      all_goals cases moved <;> rfl

/-- The steps from a position of a served session to the next call of `recv`, when `select`
reports the socket readable.
-/
def ListenerPoint.toReceive : ListenerPoint → Nat
  | .receive _ => 0
  | .testReceive _ r => if r ≠ 0 then 1 else 9
  | .select _ => 2
  | .testSelect _ => 3
  | .receiveLoop receiving => if 0 < receiving.left then 4 else 8
  | .loop _ => 5
  | .commandcb _ => 6
  | .testComplete _ => 7
  | .storeReceiveFailed _ | .notStarted | .exited => 0

/-- Every step of a served session comes nearer to the next `recv`, by cases on the
position.
-/
theorem commandListener_toReceive {shared after : Shared} {reply : Reply}
    {pos next : ListenerPoint}
    (moved : commandListener shared reply pos = some (after, next))
    (served : shared.control.state = .clientServing) (unfailed : pos.stores = none)
    (elsewhere : ∀ receiving, pos ≠ .receive receiving)
    (readable : ∀ receiving r, pos = .select receiving → reply = .value r → r ≠ 0)
    : next.toReceive < pos.toReceive := by
  cases pos with
  | notStarted => cases moved
  | exited => cases moved
  | receive receiving => exact absurd rfl (elsewhere receiving)
  | storeReceiveFailed receiving => cases unfailed
  | loop receiving =>
      simp only [commandListener, served, if_true] at moved
      cases moved
      simp [ListenerPoint.toReceive, commandSize]
  | receiveLoop receiving =>
      simp only [commandListener, served, and_true] at moved
      split at moved <;> cases moved
      · rename_i lacking
        simp [ListenerPoint.toReceive, lacking]
      · rename_i full
        simp [ListenerPoint.toReceive, full]
  | testSelect receiving =>
      simp only [commandListener, served, if_true] at moved
      cases moved
      simp [ListenerPoint.toReceive]
  | select receiving =>
      cases reply with
      | value r =>
          have nonzero := readable receiving r rfl rfl
          cases moved
          simp [ListenerPoint.toReceive, nonzero]
      | _ => cases moved
  | testReceive receiving r =>
      simp only [commandListener, served, true_and] at moved
      split at moved <;> cases moved
      · rename_i nonzero
        simp [ListenerPoint.toReceive, nonzero]
      · rename_i zero
        simp only [ListenerPoint.toReceive, if_neg zero]
        split <;> decide
  | testComplete receiving =>
      simp only [commandListener] at moved
      split at moved <;> cases moved <;> simp [ListenerPoint.toReceive]
  | commandcb receiving =>
      cases moved
      simp [ListenerPoint.toReceive]

/-- The steps from a position to the end of the thread in another stage. -/
def ListenerPoint.toExit : ListenerPoint → Nat
  | .exited | .notStarted => 0
  | .loop _ => 1
  | .testComplete _ | .commandcb _ => 2
  | .receiveLoop _ | .storeReceiveFailed _ => 3
  | .testReceive _ _ | .receive _ => 4
  | .testSelect _ | .select _ => 5

/-- Every step in another stage comes nearer to the end, by cases on the position. -/
theorem commandListener_toExit {shared after : Shared} {reply : Reply}
    {pos next : ListenerPoint}
    (moved : commandListener shared reply pos = some (after, next))
    (left : shared.control.state ≠ .clientServing)
    : next.toExit < pos.toExit := by
  cases pos with
  | select receiving =>
      cases reply <;> cases moved
      simp [ListenerPoint.toExit]
  | receive receiving =>
      cases reply with
      | none => cases moved
      | _ =>
          simp only [commandListener] at moved
          split at moved <;> cases moved
          simp [ListenerPoint.toExit]
  | testSelect receiving =>
      simp only [commandListener, left, if_false] at moved
      cases moved
      simp [ListenerPoint.toExit]
  | _ =>
      simp only [commandListener, left, and_false, false_and, if_false] at moved
      all_goals cases moved <;> simp [ListenerPoint.toExit]

-----------------------------------------------------------------------------------------
-- Whole runs
-----------------------------------------------------------------------------------------

namespace Shutdown

variable (run : Shutdown)

/-- One step: the listener's leaves the stage alone, another thread's the position. -/
theorem step_cases {n : Nat} (unfailed : (run.state n).pos.stores = none)
    : (∃ reply,
        run.choice n = .listener reply
        ∧ commandListener (run.state n).shared reply (run.state n).pos
          = some ((run.state (n + 1)).shared, (run.state (n + 1)).pos)
        ∧ run.stage (n + 1) = run.stage n
        ∧ (run.state (n + 1)).pos.stores = none)
      ∨ ∃ shared,
        run.choice n = .elsewhere shared
        ∧ run.stage (n + 1) = shared.control.state
        ∧ (run.state (n + 1)).pos = (run.state n).pos := by
  obtain ⟨reply, chosen, moved⟩ | ⟨shared, chosen, after, pos⟩ :=
    listening_step_cases (run.fired n)
  · have delivered (receiving : Receiving) (found : (run.state n).pos = .receive receiving)
        : reply ≠ .value (-1) := by
      rintro rfl
      exact run.receives n receiving found chosen
    have kept := commandListener_stores_none moved unfailed delivered
    exact .inl ⟨reply, chosen, moved, kept⟩
  · exact .inr ⟨shared, chosen, by rw [stage, after], pos⟩

/-- `recv` never fails in these runs, so the listener never stores a stage. -/
theorem stores_none (n : Nat) : (run.state n).pos.stores = none := by
  refine run.kept (fun state => state.pos.stores = none) ?_ ?_ n (Nat.zero_le n)
  · rw [run.initial.1]
    rfl
  · intro n _ unfailed
    obtain ⟨_, _, _, _, none_⟩ | ⟨_, _, _, same⟩ := run.step_cases unfailed
    · exact none_
    · rw [same]
      exact unfailed

/-- Unless another thread ends the session, it is served throughout. -/
theorem served_of_not_endedElsewhere (alone : ¬ run.EndedElsewhere) (n : Nat)
    : run.stage n = .clientServing := by
  induction n with
  | zero => exact run.served
  | succ n ih =>
      obtain ⟨_, _, _, same, _⟩ | ⟨shared, chosen, stored, _⟩ :=
        run.step_cases (run.stores_none n)
      · exact same.trans ih
      · rw [stored]
        exact Classical.byContradiction fun other => alone ⟨n, shared, chosen, other⟩

/-- A session that has ended stays ended. -/
theorem ended_of_endedElsewhere (elsewhere : run.EndedElsewhere)
    : ∃ bound, ∀ n, bound ≤ n → run.stage n ≠ .clientServing := by
  obtain ⟨bound, shared, chosen, other⟩ := elsewhere
  refine ⟨bound + 1, fun n later => ?_⟩
  induction n, later using Nat.le_induction with
  | base =>
      obtain ⟨_, also, _⟩ | ⟨stored, also, result, _⟩ := run.step_cases (run.stores_none bound)
      · cases chosen.symm.trans also
      · cases chosen.symm.trans also
        rwa [result]
  | succ n later ih =>
      obtain ⟨_, _, _, same, _⟩ | ⟨stored, also, result, _⟩ := run.step_cases (run.stores_none n)
      · rwa [same]
      · rw [result]
        exact fun served => ih (run.sameSession n stored also served)

/-- While the session is served, the listener receives again after any time. -/
theorem receives_again (served : ∀ n, run.stage n = .clientServing) (bound : Nat)
    : ∃ n, bound ≤ n ∧ run.Receives n := by
  have running (n : Nat) : (run.state n).pos ≠ .exited := by
    refine run.kept (fun state => state.pos ≠ .exited) ?_ ?_ n (Nat.zero_le n)
    · rw [run.initial.1]
      exact nofun
    · intro n _ inside
      obtain ⟨reply, _, moved, _⟩ | ⟨_, _, _, same⟩ := run.step_cases (run.stores_none n)
      · intro exited
        rw [exited] at moved
        exact (commandListener_exited moved).2 (served n)
      · rwa [same]
  obtain ⟨n, later, received⟩ :=
    Execution.reaches run.Receives (fun n => (run.choice n).IsListener)
      (fun n => (run.state n).pos.toReceive) (max bound run.closing)
      (by
        intro n
        obtain ⟨m, later, moves | exited⟩ := run.scheduled n
        · exact ⟨m, later, .inl moves⟩
        · exact absurd exited (running m))
      (by
        intro n later before moves
        obtain ⟨reply, chosen, moved, _⟩ | ⟨_, chosen, _⟩ := run.step_cases (run.stores_none n)
        · refine commandListener_toReceive moved (served n) (run.stores_none n) ?_ ?_
          · exact fun receiving found => before ⟨⟨receiving, found⟩, moves⟩
          · rintro receiving r found rfl
            exact run.readable n receiving r (by omega) found chosen
        · rw [chosen] at moves
          exact moves.elim)
      (by
        intro n _ _ stays
        obtain ⟨_, chosen, _⟩ | ⟨_, _, _, same⟩ := run.step_cases (run.stores_none n)
        · rw [chosen] at stays
          exact absurd trivial stays
        · rw [same])
  exact ⟨n, by omega, received⟩

/-- Once the session has ended, the listener runs to its end and stays there. -/
theorem ends_of_ended {bound : Nat}
    (ended : ∀ n, bound ≤ n → run.stage n ≠ .clientServing)
    : run.Ends := by
  obtain ⟨last, later, exited⟩ :=
    Execution.reaches (fun n => (run.state n).pos = .exited)
      (fun n => (run.choice n).IsListener) (fun n => (run.state n).pos.toExit) bound
      run.scheduled
      (by
        intro n later _ moves
        obtain ⟨_, _, moved, _⟩ | ⟨_, chosen, _⟩ := run.step_cases (run.stores_none n)
        · exact commandListener_toExit moved (ended n later)
        · rw [chosen] at moves
          exact moves.elim)
      (by
        intro n _ _ stays
        obtain ⟨_, chosen, _⟩ | ⟨_, _, _, same⟩ := run.step_cases (run.stores_none n)
        · rw [chosen] at stays
          exact absurd trivial stays
        · rw [same])
  refine ⟨last, fun n after => ⟨ended n (by omega), ?_⟩⟩
  refine run.kept (fun state => state.pos = .exited) exited ?_ n after
  intro n _ gone
  obtain ⟨_, _, moved, _⟩ | ⟨_, _, _, same⟩ := run.step_cases (run.stores_none n)
  · rw [gone] at moved
    cases moved
  · rwa [same]

end Shutdown

/-- After the client has closed its sending side, the listener stops calling `recv`, and leaves
its loop, exactly when another thread ends the session.
-/
theorem shutdown_ends_iff (run : Shutdown)
    : (run.ReceivesFinitely ↔ run.EndedElsewhere)
      ∧ (run.Ends ↔ run.EndedElsewhere) := by
  have ends (elsewhere : run.EndedElsewhere) : run.Ends := by
    obtain ⟨bound, ended⟩ := run.ended_of_endedElsewhere elsewhere
    exact run.ends_of_ended ended
  refine ⟨⟨?_, fun elsewhere => ?_⟩, ⟨?_, ends⟩⟩
  · rintro ⟨bound, none_⟩
    refine Classical.byContradiction fun alone => ?_
    obtain ⟨n, later, received⟩ :=
      run.receives_again (run.served_of_not_endedElsewhere alone) bound
    exact none_ n later received
  · obtain ⟨bound, gone⟩ := ends elsewhere
    refine ⟨bound, ?_⟩
    rintro n later ⟨⟨receiving, found⟩, -⟩
    cases found.symm.trans (gone n later).2
  · rintro ⟨bound, gone⟩
    refine Classical.byContradiction fun alone => ?_
    exact (gone bound (Nat.le_refl bound)).1 (run.served_of_not_endedElsewhere alone bound)

-----------------------------------------------------------------------------------------
-- A client that sends nothing
-----------------------------------------------------------------------------------------

/-- What the threads share when a session is served. -/
def servedShared : Shared := (World.initial .zeroed).shared.setState .clientServing

/-- `cmd` and `left` of a listener that waits for its first command. -/
def awaiting : Receiving := { Receiving.initial with left := commandSize }

/-- The positions of a listener whose `recv` returns 0 again and again. -/
def idlePos : Nat → ListenerPoint
  | 0 => .loop .initial
  | n + 1 =>
      match n % 5 with
      | 0 => .receiveLoop awaiting
      | 1 => .testSelect awaiting
      | 2 => .select awaiting
      | 3 => .testReceive awaiting 1
      | _ => .receive awaiting

/-- The answers of the system calls at a socket whose other side is closed. -/
def closedReply : ListenerPoint → Reply
  | .select _ => .value 1
  | .receive _ => .bytes []
  | _ => .none

/-- A `recv` of nothing leads back to `select` and to the next `recv`, by cases on the position in
the cycle.
-/
theorem idle_step (n : Nat)
    : commandListener servedShared (closedReply (idlePos n)) (idlePos n)
      = some (servedShared, idlePos (n + 1)) := by
  cases n with
  | zero => rfl
  | succ n =>
      have cycle : n % 5 = 0 ∨ n % 5 = 1 ∨ n % 5 = 2 ∨ n % 5 = 3 ∨ n % 5 = 4 := by
        omega
      rcases cycle with now | now | now | now | now
      · have next : (n + 1) % 5 = 1 := by omega
        simp only [idlePos, now, next]
        rfl
      · have next : (n + 1) % 5 = 2 := by omega
        simp only [idlePos, now, next]
        rfl
      · have next : (n + 1) % 5 = 3 := by omega
        simp only [idlePos, now, next]
        rfl
      · have next : (n + 1) % 5 = 4 := by omega
        simp only [idlePos, now, next]
        rfl
      · have next : (n + 1) % 5 = 0 := by omega
        simp only [idlePos, now, next]
        rfl

/-- The client closes its sending side at once and no other thread moves. -/
def silentShutdown : Shutdown where
  state n := ⟨servedShared, idlePos n, []⟩
  choice n := .listener (closedReply (idlePos n))
  initial := ⟨rfl, rfl, rfl⟩
  fired n := by
    have delivered : (idlePos n).delivered (closedReply (idlePos n)) = [] := by
      cases idlePos n <;> rfl
    simp only [listening, Listening.step, idle_step, delivered]
    rfl
  served := rfl
  closing := 0
  receives n receiving found := by
    rw [show idlePos n = _ from found]
    exact nofun
  sameSession n shared chosen := by
    cases chosen
  readable n receiving r _ found chosen := by
    rw [show idlePos n = _ from found] at chosen
    cases chosen
    decide
  ended n receiving contents _ found chosen := by
    rw [show idlePos n = _ from found] at chosen
    cases chosen
    rfl
  scheduled n := ⟨n, Nat.le_refl n, .inl trivial⟩

/-- What the threads share once a stop has been requested. -/
def stoppedShared : Shared := servedShared.setState .needsStopping

/-- The positions of a listener that a stop reaches after its first `recv`. -/
def stoppedPos : Nat → ListenerPoint
  | 0 => .loop .initial
  | 1 => .receiveLoop awaiting
  | 2 => .testSelect awaiting
  | 3 => .select awaiting
  | 4 => .testReceive awaiting 1
  | 5 => .receive awaiting
  | 6 | 7 => .receiveLoop awaiting
  | 8 => .testComplete awaiting
  | 9 => .loop awaiting
  | _ => .exited

/-- The client closes its sending side at once, and the session is stopped after one `recv`. -/
def stoppedShutdown : Shutdown where
  state n := ⟨if n < 7 then servedShared else stoppedShared, stoppedPos n, []⟩
  choice n :=
    if n = 6 ∨ 10 ≤ n then .elsewhere stoppedShared else .listener (closedReply (stoppedPos n))
  initial := ⟨rfl, rfl, rfl⟩
  fired
    | 0 | 1 | 2 | 3 | 4 | 5 | 6 | 7 | 8 | 9 => rfl
    | n + 10 => by
        have late : ¬ n + 10 < 7 := by omega
        have later : ¬ n + 10 + 1 < 7 := by omega
        have idle : n + 10 = 6 ∨ 10 ≤ n + 10 := by omega
        simp only [if_neg late, if_neg later, if_pos idle]
        rfl
  served := rfl
  closing := 0
  receives n receiving found := by
    rw [show stoppedPos n = _ from found]
    split <;> exact nofun
  sameSession n shared chosen served := by
    split at chosen <;> cases chosen
    cases served
  readable n receiving r _ found chosen := by
    rw [show stoppedPos n = _ from found] at chosen
    split at chosen <;> cases chosen
    decide
  ended n receiving contents _ found chosen := by
    rw [show stoppedPos n = _ from found] at chosen
    split at chosen <;> cases chosen
    rfl
  scheduled n := ⟨n + 10, Nat.le_add_right n 10, .inr rfl⟩

/-- A stop ends the session of a silent client. Witness: the stop is the store of another stage
that the loop needs.
-/
theorem shutdown_ends_stopped : stoppedShutdown.ReceivesFinitely ∧ stoppedShutdown.Ends := by
  have stopped : stoppedShutdown.EndedElsewhere := ⟨6, stoppedShared, rfl, by decide⟩
  have ends := shutdown_ends_iff stoppedShutdown
  exact ⟨ends.1.mpr stopped, ends.2.mpr stopped⟩

/-- The listener of a client that connects and closes its sending side receives for ever. -/
theorem shutdown_unnoticed : ¬ ∀ run : Shutdown, run.ReceivesFinitely ∧ run.Ends := by
  intro claim
  obtain ⟨bound, gone⟩ := (claim silentShutdown).2
  exact (gone bound (Nat.le_refl bound)).1 rfl

end RtlTcpAndro.SdrTcp
