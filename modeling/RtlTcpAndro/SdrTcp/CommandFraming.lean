import RtlTcpAndro.ByteStreams.Framing
import RtlTcpAndro.SdrTcp.Programs

/-! The commands of a client as frames of its byte stream, whatever chunks `recv` delivers and
whatever the other threads do while the session is served.
-/

namespace RtlTcpAndro.SdrTcp

open RtlTcpAndro.Interleaving RtlTcpAndro.ByteStreams

/-- The command and parameter that a frame of the client's stream stands for. -/
def decodeCommand : List UInt8 → UInt8 × UInt32
  | [command, first, second, third, fourth] =>
      (command, ofBigEndian first second third fourth)
  | _ => (0, 0)

/-- The commands of a client's stream; a trailing fragment is none. -/
def commandsOf (stream : List UInt8) : List (UInt8 × UInt32) :=
  (frames commandSize stream).map decodeCommand

/-- A command listener and what it shares with the other threads; `received` is the part of
the client's stream that `recv` has delivered.
-/
structure Listening where
  shared : Shared
  pos : ListenerPoint
  received : List UInt8

/-- The listener makes its next step, or other threads leave `shared` behind. -/
inductive ListeningEvent
  | listener (reply : Reply)
  | elsewhere (shared : Shared)

/-- The bytes that a step at `pos` takes from the client's stream. -/
def ListenerPoint.delivered : ListenerPoint → Reply → List UInt8
  | .receive _, .bytes contents => contents
  | _, _ => []

/-- One step; only the listener hands commands over. -/
def Listening.step (listening : Listening) : ListeningEvent → Option Listening
  | .listener reply => do
      let (shared, next) ← commandListener listening.shared reply listening.pos
      some ⟨shared, next, listening.received ++ listening.pos.delivered reply⟩
  | .elsewhere shared =>
      if shared.traffic.commands = listening.shared.traffic.commands then
        some { listening with shared := shared }
      else none

/-- A new command listener among any other threads. -/
def listening : System Listening ListeningEvent where
  initial start :=
    start.pos = .loop .initial ∧ start.received = [] ∧ start.shared.traffic.commands = []
  step := Listening.step

/-- The session is served when the step is made. -/
def Listening.served (listening : Listening) (_ : ListeningEvent) : Prop :=
  listening.shared.control.state = .clientServing

instance (listening : Listening) (event : ListeningEvent)
    : Decidable (listening.served event) :=
  inferInstanceAs (Decidable (_ = _))

/-- `cmd` holds the begun frame `rest` and `left` is what it lacks. -/
structure Receiving.Holds (receiving : Receiving) (rest : List UInt8) : Prop where
  size : receiving.cmd.length = commandSize
  nonneg : 0 ≤ receiving.left
  lacks : rest.length + receiving.left.toNat = commandSize
  begun : receiving.cmd.take rest.length = rest

/-- What a listener at `pos` knows of the begun frame `rest`. -/
def ListenerPoint.Holds (stage : Stage) (rest : List UInt8) : ListenerPoint → Prop
  | .loop receiving | .commandcb receiving =>
      rest = [] ∧ receiving.cmd.length = commandSize
  | .receiveLoop receiving => receiving.Holds rest
  | .testSelect receiving | .select receiving | .testReceive receiving _
  | .receive receiving => receiving.Holds rest ∧ 0 < receiving.left
  | .testComplete receiving =>
      receiving.Holds rest ∧ receiving.left = 0
      ∨ rest.length < commandSize ∧ 0 < receiving.left ∧ stage ≠ .clientServing
  | .storeReceiveFailed receiving => rest.length < commandSize ∧ 0 < receiving.left
  | .notStarted | .exited => False

/-- `recv` stores its bytes right after those of the begun frame. -/
theorem Receiving.Holds.store {receiving : Receiving} {rest received : List UInt8}
    (holds : receiving.Holds rest) (fits : (received.length : Int) ≤ receiving.left)
    : (receiving.store received).Holds (rest ++ received) := by
  obtain ⟨size, nonneg, lacks, begun⟩ := holds
  have start : commandSize - receiving.left.toNat = rest.length := by omega
  refine ⟨?_, ?_, ?_, ?_⟩ <;> simp only [Receiving.store, start, begun]
  · simp only [List.length_append, List.length_drop]
    omega
  · omega
  · simp only [List.length_append]
    omega
  · rw [List.take_left]

/-- A filled `cmd` is the command that its frame stands for. -/
theorem Receiving.Holds.command {receiving : Receiving} {rest : List UInt8}
    (holds : receiving.Holds rest) (full : receiving.left = 0)
    : rest.length = commandSize ∧ receiving.command = decodeCommand rest := by
  obtain ⟨size, nonneg, lacks, begun⟩ := holds
  have length : rest.length = commandSize := by
    rw [full] at lacks
    exact lacks
  refine ⟨length, ?_⟩
  rw [length, ← size, List.take_length] at begun
  subst begun
  unfold Receiving.command decodeCommand
  generalize receiving.cmd = cmd
  split
  next => rw [htonl, byteSwap_ofLittleEndian]
  next => simp

/-- One step of a listener whose session is served keeps the division of the stream, by cases
on its position.
-/
theorem commandListener_framed {shared after : Shared} {reply : Reply}
    {pos next : ListenerPoint} {received rest : List UInt8}
    (moved : commandListener shared reply pos = some (after, next))
    (served : shared.control.state = .clientServing)
    (holds : pos.Holds shared.control.state rest)
    (framed : Framed commandSize decodeCommand received shared.traffic.commands rest)
    : ∃ following,
        next.Holds after.control.state following
        ∧ Framed commandSize decodeCommand (received ++ pos.delivered reply)
            after.traffic.commands following := by
  have same (none_ : pos.delivered reply = [])
      : Framed commandSize decodeCommand (received ++ pos.delivered reply) shared.traffic.commands
          rest := by
    rw [none_, List.append_nil]
    exact framed
  cases pos with
  | notStarted => cases moved
  | exited => cases moved
  | loop receiving =>
      obtain ⟨rfl, size⟩ := holds
      simp only [commandListener, served, if_true] at moved
      cases moved
      exact ⟨[], ⟨size, Int.natCast_nonneg _, rfl, rfl⟩, same rfl⟩
  | receiveLoop receiving =>
      simp only [commandListener, served, and_true] at moved
      split at moved <;> cases moved
      · rename_i lacking
        exact ⟨rest, ⟨holds, lacking⟩, same rfl⟩
      · rename_i full
        have nonneg := holds.nonneg
        exact ⟨rest, .inl ⟨holds, by omega⟩, same rfl⟩
  | testSelect receiving =>
      simp only [commandListener, served, if_true] at moved
      cases moved
      exact ⟨rest, holds, same rfl⟩
  | select receiving =>
      cases reply with
      | value r =>
          cases moved
          exact ⟨rest, holds, same rfl⟩
      | _ => cases moved
  | testReceive receiving r =>
      simp only [commandListener, served, true_and] at moved
      split at moved <;> cases moved
      · exact ⟨rest, holds, same rfl⟩
      · exact ⟨rest, holds.1, same rfl⟩
  | receive receiving =>
      obtain ⟨holds, lacking⟩ := holds
      cases reply with
      | none => cases moved
      | bytes contents =>
          simp only [commandListener] at moved
          split at moved <;> cases moved
          rename_i fits
          exact ⟨rest ++ contents, holds.store fits, framed.grow contents⟩
      | value result =>
          simp only [commandListener] at moved
          split at moved <;> cases moved
          have lacks := holds.lacks
          exact ⟨rest, ⟨by omega, by dsimp only; omega⟩, same rfl⟩
  | storeReceiveFailed receiving =>
      cases moved
      exact ⟨rest, .inr ⟨holds.1, holds.2, by simp [Shared.setState]⟩,
        same rfl⟩
  | testComplete receiving =>
      rcases holds with ⟨holds, full⟩ | ⟨-, -, ended⟩
      · simp only [commandListener, served, full, true_and, if_true] at moved
        cases moved
        obtain ⟨length, command⟩ := holds.command full
        refine ⟨[], ⟨rfl, holds.size⟩, ?_⟩
        have complete := (same rfl).complete length
        rw [← command] at complete
        exact complete
      · exact absurd served ended
  | commandcb receiving =>
      obtain ⟨rfl, size⟩ := holds
      cases moved
      exact ⟨[], ⟨rfl, rfl⟩, same rfl⟩

/-- Between the last byte of a frame and its callback: the command about to be handed over. -/
def ListenerPoint.completed : ListenerPoint → List (UInt8 × UInt32)
  | .receiveLoop receiving | .testComplete receiving =>
      if receiving.left = 0 then [receiving.command] else []
  | _ => []

/-- What a listener of a served session knows does not depend on the stage. -/
theorem ListenerPoint.Holds.restage {pos : ListenerPoint} {stage other : Stage}
    {rest : List UInt8} (holds : pos.Holds stage rest) (served : stage = .clientServing)
    : pos.Holds other rest := by
  cases pos with
  | testComplete receiving => exact .inl (holds.resolve_right fun failed => failed.2.2 served)
  | _ => exact holds

/-- The commands handed over and the one about to be are those of the bytes received. -/
theorem ListenerPoint.Holds.handed {pos : ListenerPoint} {stage : Stage}
    {received rest : List UInt8} {commands : List (UInt8 × UInt32)}
    (holds : pos.Holds stage rest)
    (framed : Framed commandSize decodeCommand received commands rest)
    : commands ++ pos.completed = commandsOf received := by
  have incomplete (none_ : pos.completed = []) (short : rest.length < commandSize)
      : commands ++ pos.completed = commandsOf received := by
    rw [none_, List.append_nil]
    exact framed.values_eq short
  have filling (receiving : Receiving) (filled : receiving.Holds rest)
      (found : pos.completed = if receiving.left = 0 then [receiving.command] else [])
      : commands ++ pos.completed = commandsOf received := by
    have lacks := filled.lacks
    by_cases full : receiving.left = 0
    · obtain ⟨length, command⟩ := filled.command full
      rw [found, if_pos full, command]
      exact (framed.complete length).values_eq (by decide)
    · have nonneg := filled.nonneg
      exact incomplete (by rw [found, if_neg full]) (by omega)
  cases pos with
  | loop receiving | commandcb receiving =>
      obtain ⟨rfl, -⟩ := holds
      exact incomplete rfl (by decide)
  | receiveLoop receiving => exact filling receiving holds rfl
  | testSelect receiving | select receiving | testReceive receiving r | receive receiving =>
      obtain ⟨filled, lacking⟩ := holds
      have lacks := filled.lacks
      exact incomplete rfl (by omega)
  | testComplete receiving =>
      rcases holds with ⟨filled, -⟩ | ⟨short, lacking, -⟩
      · exact filling receiving filled rfl
      · exact incomplete (if_neg (by omega)) short
  | storeReceiveFailed receiving => exact incomplete rfl holds.1
  | notStarted => exact holds.elim
  | exited => exact holds.elim

/-- In every state of every served run the commands handed to the callback, and the one about
to be, are those of the stream received, however `recv` has split it.
-/
theorem commands_of_received {state : Listening}
    (reachable : (listening.restrict Listening.served).Reachable state)
    : state.shared.traffic.commands ++ state.pos.completed = commandsOf state.received := by
  obtain ⟨rest, holds, framed⟩ :=
    reachable.invariant
      (fun state =>
        ∃ rest,
          state.pos.Holds state.shared.control.state rest
          ∧ Framed commandSize decodeCommand state.received state.shared.traffic.commands rest)
      (by
        intro start initial
        obtain ⟨pos, received, commands⟩ := initial
        exact ⟨[], by rw [pos]; exact ⟨rfl, rfl⟩, by rw [received, commands]; exact .start⟩)
      (by
        intro current choice next _ known fired
        obtain ⟨served, fired⟩ := System.restrict_step_iff.mp fired
        obtain ⟨rest, holds, framed⟩ := known
        cases choice with
        | listener reply =>
            obtain ⟨⟨after, pos⟩, moved, rest⟩ := Option.bind_eq_some_iff.mp fired
            cases rest
            exact commandListener_framed moved served holds framed
        | elsewhere shared =>
            simp only [listening, Listening.step] at fired
            split at fired <;> cases fired
            rename_i same
            exact ⟨rest, holds.restage served, by rw [same]; exact framed⟩)
  exact holds.handed framed

end RtlTcpAndro.SdrTcp
