import RtlTcpAndro.SdrTcp.CommandFraming
import RtlTcpAndro.SdrTcp.Sessions

/-! The command thread of the HackRF server, `HardwareCommand.run` in `HackRfTcp.java`, reads
the same frames as the command listener of the rtl_tcp server.
-/

namespace RtlTcpAndro.HackRf

open RtlTcpAndro.Interleaving RtlTcpAndro.ByteStreams RtlTcpAndro.SdrTcp

/-- The constants of `TcpCommand.java`. -/
inductive TcpCommand
  | setFreq
  | setSampleRate
  | setGainMode
  | setGain
  | setFreqCorrection
  | setIfTunerGain
  | setTestMode
  | setAgcMode
  | setDirectSampling
  | setOffsetTuning
  | setRtlXtal
  | setTunerXtal
  | setTunerGainById
  | androidExit
  | androidGainByPercentage
  | androidEnable16BitSigned
  | rspSetAntenna
  | rspSetLnaState
  | rspSetIfGainR
  | rspSetAgc
  | rspSetAgcSetpoint
  | rspSetNotch
  | rspSetBiasT
  deriving DecidableEq, Repr

/-- `TcpCommand.values` -/
def TcpCommand.values : List TcpCommand :=
  [.setFreq, .setSampleRate, .setGainMode, .setGain, .setFreqCorrection, .setIfTunerGain,
    .setTestMode, .setAgcMode, .setDirectSampling, .setOffsetTuning, .setRtlXtal,
    .setTunerXtal, .setTunerGainById, .androidExit, .androidGainByPercentage,
    .androidEnable16BitSigned, .rspSetAntenna, .rspSetLnaState, .rspSetIfGainR, .rspSetAgc,
    .rspSetAgcSetpoint, .rspSetNotch, .rspSetBiasT]

/-- `TcpCommand.getCode` -/
def TcpCommand.getCode : TcpCommand → Int32
  | .setFreq => 0x01
  | .setSampleRate => 0x02
  | .setGainMode => 0x03
  | .setGain => 0x04
  | .setFreqCorrection => 0x05
  | .setIfTunerGain => 0x06
  | .setTestMode => 0x07
  | .setAgcMode => 0x08
  | .setDirectSampling => 0x09
  | .setOffsetTuning => 0x0a
  | .setRtlXtal => 0x0b
  | .setTunerXtal => 0x0c
  | .setTunerGainById => 0x0d
  | .androidExit => 0x7e
  | .androidGainByPercentage => 0x7f
  | .androidEnable16BitSigned => 0x80
  | .rspSetAntenna => 0x1f
  | .rspSetLnaState => 0x20
  | .rspSetIfGainR => 0x21
  | .rspSetAgc => 0x22
  | .rspSetAgcSetpoint => 0x23
  | .rspSetNotch => 0x24
  | .rspSetBiasT => 0x25

/-- `TcpCommand.fromCode`: the map's entry for `code`, or null. -/
def TcpCommand.fromCode (code : Int32) : Option TcpCommand :=
  TcpCommand.values.find? (fun command => command.getCode == code)

/-- Every command is found under its own code, so no two codes collide. -/
theorem TcpCommand.fromCode_getCode (command : TcpCommand)
    : TcpCommand.fromCode command.getCode = some command := by
  cases command <;> decide

/-- `inputStream.readByte() & 0xFF` once `read` has returned `ch`. -/
def maskedByte (ch : UInt8) : Int32 := ch.toInt8.toInt32 &&& 0xFF

/-- `DataInputStream.readInt` once `read` has returned its four bytes. -/
def readInt (ch1 ch2 ch3 ch4 : UInt8) : Int32 :=
  (ch1.toUInt32.toInt32 <<< 24) + (ch2.toUInt32.toInt32 <<< 16)
  + (ch3.toUInt32.toInt32 <<< 8)
  + ch4.toUInt32.toInt32

/-- `… & 0xFFFFFFFFL` -/
def maskedInt (result : Int32) : Int64 := result.toInt64 &&& 0xFFFFFFFF

/-- A masked byte is the byte. -/
theorem toInt_maskedByte (ch : UInt8) : (maskedByte ch).toInt = ch.toNat := by
  have same : (maskedByte ch).toBitVec = ch.toBitVec.setWidth 32 :=
    signExtend_and_mask ch.toBitVec
  rw [Int32.toInt, same, toInt_setWidth_of_wider _ (by decide)]
  rfl

/-- A masked int is the big-endian word of its bytes. Witness: the four shifted bytes do not
overlap, and the sum does not overflow 32 bits.
-/
theorem toInt_maskedInt_readInt (ch1 ch2 ch3 ch4 : UInt8)
    : (maskedInt (readInt ch1 ch2 ch3 ch4)).toInt
      = (ofBigEndian ch1 ch2 ch3 ch4).toNat := by
  have h₁ := ch1.toNat_lt
  have h₂ := ch2.toNat_lt
  have h₃ := ch3.toNat_lt
  have h₄ := ch4.toNat_lt
  have shift₁ : ((24 : Int32).toBitVec.smod 32).toNat = 24 := by decide
  have shift₂ : ((16 : Int32).toBitVec.smod 32).toNat = 16 := by decide
  have shift₃ : ((8 : Int32).toBitVec.smod 32).toNat = 8 := by decide
  have same (result : Int32)
      : (maskedInt result).toBitVec = result.toBitVec.setWidth 64 :=
    signExtend_and_mask result.toBitVec
  rw [Int64.toInt, same, toInt_setWidth_of_wider _ (by decide), ofBigEndian,
    toNat_ofLittleEndian]
  simp only [readInt, Int32.toBitVec_add, Int32.toBitVec_shiftLeft, UInt32.toBitVec_toInt32,
    UInt8.toBitVec_toUInt32, BitVec.toNat_add, BitVec.shiftLeft_eq', BitVec.toNat_shiftLeft,
    BitVec.toNat_setWidth, UInt8.toNat_toBitVec, Nat.shiftLeft_eq, shift₁, shift₂, shift₃]
  omega

/-- Program points of `HardwareCommand.run`; `readInt` keeps the bytes it has read. -/
inductive RunPoint
  | testInterrupted
  | readByte
  | readInt (code : Int32) (read : List UInt8)
  | fromCode (code : Int32) (argument : Int64)
  | executeCommand (command : TcpCommand) (argument : Int64)
  | closed
  deriving DecidableEq, Repr

/-- The command thread: `received` is what it has read of the client's stream, `pairs` the
codes and arguments read, `executed` the commands passed to `executeCommand`.
-/
structure HardwareCommand where
  pos : RunPoint
  interrupted : Bool
  received : List UInt8
  pairs : List (Int32 × Int64)
  executed : List (TcpCommand × Int64)
  deriving DecidableEq, Repr

/-- What happens next: the thread steps on, a blocking `read` returns a byte or throws (end of
stream included), `executeCommand` throws, or another thread interrupts this one.
-/
inductive RunEvent
  | step
  | read (ch : UInt8)
  | throws
  | interrupt
  deriving DecidableEq, Repr

/-- `HardwareCommand.run`; of `executeCommand` the effect on the thread itself. -/
def HardwareCommand.next (thread : HardwareCommand) (event : RunEvent)
    : Option HardwareCommand :=
  match event, thread.pos with
  | .interrupt, _ => some { thread with interrupted := true }
  | .step, .testInterrupted =>
      some { thread with pos := if thread.interrupted then .closed else .readByte }
  | .read ch, .readByte =>
      some
        { thread with
          pos := .readInt (maskedByte ch) []
          received := thread.received ++ [ch] }
  | .read ch, .readInt code read =>
      let thread := { thread with received := thread.received ++ [ch] }
      match read with
      | [ch1, ch2, ch3] =>
          let argument := maskedInt (HackRf.readInt ch1 ch2 ch3 ch)
          some
            { thread with
              pos := .fromCode code argument
              pairs := thread.pairs ++ [(code, argument)] }
      | read => some { thread with pos := .readInt code (read ++ [ch]) }
  | .step, .fromCode code argument =>
      match TcpCommand.fromCode code with
      | some command => some { thread with pos := .executeCommand command argument }
      | none => some { thread with pos := .testInterrupted }
  | .step, .executeCommand command argument =>
      some
        { thread with
          pos := .testInterrupted
          interrupted := thread.interrupted || decide (command = .androidExit)
          executed := thread.executed ++ [(command, argument)] }
  | .throws, .readByte | .throws, .readInt _ _ => some { thread with pos := .closed }
  | .throws, .executeCommand command argument =>
      some
        { thread with
          pos := .closed
          executed := thread.executed ++ [(command, argument)] }
  | _, _ => none

/-- The command thread of an accepted client. -/
def hardwareCommand : System HardwareCommand RunEvent where
  initial thread := thread = ⟨.testInterrupted, false, [], [], []⟩
  step := HardwareCommand.next

/-- A code and argument as the numbers that Java's ints and longs stand for. -/
def pairValue (pair : Int32 × Int64) : Int × Int := (pair.1.toInt, pair.2.toInt)

/-- A command and parameter as the numbers that C's unsigned integers stand for. -/
def commandValue (command : UInt8 × UInt32) : Int × Int :=
  (command.1.toNat, command.2.toNat)

/-- The numbers that a frame of the client's stream stands for. -/
def frameValue (frame : List UInt8) : Int × Int := commandValue (decodeCommand frame)

/-- What the thread at a point has read of the begun frame `rest`. -/
def RunPoint.Holds (rest : List UInt8) : RunPoint → Prop
  | .readInt code read =>
      ∃ ch, code = maskedByte ch ∧ rest = ch :: read ∧ read.length < 4
  | .closed => rest.length < commandSize
  | _ => rest = []

/-- The thread may close between two frames. -/
theorem RunPoint.holds_closed {rest : List UInt8} (empty : rest = [])
    : RunPoint.Holds rest .closed := by
  rw [empty]
  exact Nat.succ_pos 4

/-- The pair read from a frame has the numbers of the frame. -/
theorem pairValue_read (ch ch1 ch2 ch3 ch4 : UInt8)
    : pairValue (maskedByte ch, maskedInt (readInt ch1 ch2 ch3 ch4))
      = frameValue [ch, ch1, ch2, ch3, ch4] := by
  simp only [pairValue, frameValue, commandValue, decodeCommand, toInt_maskedByte,
    toInt_maskedInt_readInt]

/-- The command passed to `executeCommand` for a pair, if its code is known. -/
def recognised (pair : Int32 × Int64) : Option (TcpCommand × Int64) :=
  (TcpCommand.fromCode pair.1).map (fun command => (command, pair.2))

/-- The command of a pair that was read but not yet passed to `executeCommand`. -/
def RunPoint.awaiting : RunPoint → List (TcpCommand × Int64)
  | .fromCode code argument => (recognised (code, argument)).toList
  | .executeCommand command argument => [(command, argument)]
  | _ => []

/-- What the command thread keeps of the stream it reads. -/
structure HardwareCommand.Reads (thread : HardwareCommand) (rest : List UInt8) : Prop where
  holds : thread.pos.Holds rest
  framed : Framed commandSize frameValue thread.received (thread.pairs.map pairValue) rest
  passed : thread.executed ++ thread.pos.awaiting = thread.pairs.filterMap recognised

/-- A begun frame is shorter than a frame. -/
theorem HardwareCommand.Reads.short {thread : HardwareCommand} {rest : List UInt8}
    (reads : thread.Reads rest)
    : rest.length < commandSize := by
  have holds := reads.holds
  cases position : thread.pos with
  | readInt code read =>
      rw [position] at holds
      obtain ⟨ch, -, rfl, short⟩ := holds
      exact Nat.succ_lt_succ short
  | closed =>
      rw [position] at holds
      exact holds
  | _ =>
      rw [position] at holds
      exact RunPoint.holds_closed holds

/-- Every step of the command thread keeps the division of its stream, by cases on its
position.
-/
theorem HardwareCommand.Reads.next {thread after : HardwareCommand} {event : RunEvent}
    {rest : List UInt8} (reads : thread.Reads rest)
    (moved : thread.next event = some after)
    : ∃ following, after.Reads following := by
  obtain ⟨pos, interrupted, received, pairs, executed⟩ := thread
  obtain ⟨holds, framed, passed⟩ := reads
  dsimp only at holds framed passed
  cases event with
  | interrupt =>
      cases moved
      exact ⟨rest, holds, framed, passed⟩
  | step =>
      cases pos with
      | testInterrupted =>
          cases moved
          cases interrupted
          · exact ⟨rest, holds, framed, passed⟩
          · exact ⟨rest, RunPoint.holds_closed holds, framed, passed⟩
      | fromCode code argument =>
          dsimp only [HardwareCommand.next] at moved
          split at moved <;> rename_i found <;> cases moved
          · exact ⟨rest, holds, framed,
              by simpa [RunPoint.awaiting, recognised, found] using passed⟩
          · exact ⟨rest, holds, framed,
              by simpa [RunPoint.awaiting, recognised, found] using passed⟩
      | executeCommand command argument =>
          cases moved
          exact ⟨rest, holds, framed, (List.append_nil _).trans passed⟩
      | _ => cases moved
  | read ch =>
      cases pos with
      | readByte =>
          cases moved
          have empty : rest = [] := holds
          subst empty
          exact ⟨[ch], ⟨ch, rfl, rfl, by decide⟩, framed.grow [ch], passed⟩
      | readInt code read =>
          obtain ⟨first, rfl, rfl, short⟩ := holds
          have grown := framed.grow [ch]
          -- `read` holds fewer than four bytes: the fourth one completes the int
          rcases read with _ | ⟨ch1, _ | ⟨ch2, _ | ⟨ch3, _ | ⟨ch4, more⟩⟩⟩⟩
          · cases moved
            exact ⟨[first, ch], ⟨first, rfl, rfl, by simp⟩, grown, passed⟩
          · cases moved
            exact ⟨[first, ch1, ch], ⟨first, rfl, rfl, by simp⟩, grown, passed⟩
          · cases moved
            exact ⟨[first, ch1, ch2, ch], ⟨first, rfl, rfl, by simp⟩, grown, passed⟩
          · cases moved
            have complete := grown.complete rfl
            have executedAll : executed = pairs.filterMap recognised := by
              simpa [RunPoint.awaiting] using passed
            refine ⟨[], rfl, ?_, ?_⟩
            · have read := pairValue_read first ch1 ch2 ch3 ch
              simp only [List.map_append, List.map_cons, List.map_nil, read]
              exact complete
            · rw [List.filterMap_append, executedAll]
              simp only [RunPoint.awaiting, List.filterMap_cons, List.filterMap_nil]
              cases recognised _ <;> rfl
          · simp at short
            omega
      | _ => cases moved
  | throws =>
      cases pos with
      | readByte =>
          cases moved
          exact ⟨rest, RunPoint.holds_closed holds, framed, passed⟩
      | readInt code read =>
          obtain ⟨first, rfl, rfl, short⟩ := holds
          cases moved
          refine ⟨first :: read, ?_, framed, passed⟩
          simp only [RunPoint.Holds, List.length_cons, commandSize]
          omega
      | executeCommand command argument =>
          cases moved
          exact ⟨rest, RunPoint.holds_closed holds, framed,
            (List.append_nil _).trans passed⟩
      | _ => cases moved

/-- In every state of every run the pairs read are the frames of the stream read so far, and
exactly those with a known code are passed to `executeCommand`.
-/
theorem pairs_of_received {thread : HardwareCommand}
    (reachable : hardwareCommand.Reachable thread)
    : thread.pairs.map pairValue = (commandsOf thread.received).map commandValue
      ∧ thread.executed ++ thread.pos.awaiting = thread.pairs.filterMap recognised := by
  obtain ⟨rest, reads⟩ :=
    reachable.invariant (fun thread => ∃ rest, thread.Reads rest)
      (by
        intro start initial
        cases initial
        exact ⟨[], rfl, .start, rfl⟩)
      (by
        intro current event after _ known moved
        obtain ⟨rest, reads⟩ := known
        exact reads.next moved)
  refine ⟨?_, reads.passed⟩
  rw [commandsOf, List.map_map]
  exact reads.framed.values_eq reads.short

/-- Whatever chunks `recv` delivers while the session is served, and however the bytes reach
the HackRF server's command thread, both divide the client's stream into the same commands.
-/
theorem command_framings_agree {state : Listening} {thread : HardwareCommand}
    (served : (listening.restrict Listening.served).Reachable state)
    (read : hardwareCommand.Reachable thread) (same : thread.received = state.received)
    : state.shared.traffic.commands ++ state.pos.completed = commandsOf state.received
      ∧ thread.pairs.map pairValue
        = (state.shared.traffic.commands ++ state.pos.completed).map commandValue
      ∧ thread.executed ++ thread.pos.awaiting = thread.pairs.filterMap recognised := by
  have commands := commands_of_received served
  obtain ⟨pairs, executed⟩ := pairs_of_received read
  exact ⟨commands, by rw [pairs, same, commands], executed⟩

/-- A listener that receives a frame in two chunks with a timeout between them, and then the
first byte of the next.
-/
def chunkedSchedule : List ListeningEvent :=
  [.listener .none, .listener .none, .listener .none, .listener (.value 1), .listener .none,
    .listener (.bytes [1, 0]), .listener .none, .listener .none, .listener (.value 0),
    .listener .none, .listener .none, .listener .none, .listener (.value 1),
    .listener .none, .listener (.bytes [0, 4, 210]), .listener .none, .listener .none,
    .listener .none, .listener .none, .listener .none, .listener .none,
    .listener (.value 1), .listener .none, .listener (.bytes [9])]

/-- A command thread that reads the same bytes. -/
def readSchedule : List RunEvent :=
  [.step, .read 1, .read 0, .read 0, .read 4, .read 210, .step, .step, .step, .read 9]

/-- Both servers read the command to tune to 1234 Hz and wait for the rest of the next one. -/
theorem command_framings_agree_on_tuning
    : ∃ (state : Listening) (thread : HardwareCommand),
        state.received = [1, 0, 0, 4, 210, 9]
        ∧ thread.executed = [(.setFreq, 1234)]
        ∧ thread.pairs.map pairValue
          = (state.shared.traffic.commands ++ state.pos.completed).map commandValue := by
  have chunked
      : ((listening.restrict Listening.served).run
            ⟨(World.initial .zeroed).shared.setState .clientServing, .loop .initial, []⟩
            chunkedSchedule).map Listening.received
        = some [1, 0, 0, 4, 210, 9] := by
    decide +kernel
  have replayed
      : (hardwareCommand.run ⟨.testInterrupted, false, [], [], []⟩ readSchedule).map
          (fun thread => (thread.received, thread.executed))
        = some ([1, 0, 0, 4, 210, 9], [(.setFreq, 1234)]) := by
    decide +kernel
  obtain ⟨state, served, received⟩ :=
    System.exists_reachable_of_run chunked ⟨rfl, rfl, rfl⟩
  obtain ⟨thread, read, seen⟩ := System.exists_reachable_of_run replayed rfl
  simp only [Prod.mk.injEq] at seen
  have same : thread.received = state.received := by rw [seen.1, received]
  exact ⟨state, thread, received, seen.2, (command_framings_agree served read same).2.1⟩

end RtlTcpAndro.HackRf
