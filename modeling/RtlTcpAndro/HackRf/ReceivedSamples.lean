import RtlTcpAndro.HackRf.ReceiverBuffers
import Mathlib.Data.List.Infix

/-! The client of a HackRF session gets the header and then the packets that the queue
accepted, in the order of their arrival and with their samples made unsigned.
-/

namespace RtlTcpAndro.HackRf

open RtlTcpAndro.Interleaving

-----------------------------------------------------------------------------------------
-- What is sent and what is still to send
-----------------------------------------------------------------------------------------

/-- A sample goes from two's complement to excess 128. Witness: sign extension does not change
the sum modulo 256.
-/
theorem toUnsigned_eq (b : UInt8) : toUnsigned b = UInt8.ofNat ((b.toNat + 128) % 256) := by
  have all (v : BitVec 8) : toUnsigned ⟨v⟩ = UInt8.ofNat ((v.toNat + 128) % 256) := by
    revert v
    decide +kernel
  exact all b.toBitVec

/-- The bytes that the TCP thread is to send where it is. -/
def TcpPoint.remaining (heap : Nat → List UInt8) : TcpPoint → List UInt8
  | .accept | .clearQueue | .setTransceiverMode | .startUsbThread => dongleInfo
  | .sendDongleInfo rest => rest
  | .convert buff i => (heap buff).take i ++ ((heap buff).drop i).map toUnsigned
  | .write buff off => (heap buff).drop off
  | _ => []

namespace Receiver

/-- The bytes that queued arrays are to be sent as. -/
def backlog (heap : Nat → List UInt8) (queue : List Nat) : List UInt8 :=
  queue.flatMap (fun array => (heap array).map toUnsigned)

/-- The header and the accepted packets as the client is to get them. -/
def expected (accepted : List (List UInt8)) : List UInt8 :=
  dongleInfo ++ accepted.flatMap (fun packet => packet.map toUnsigned)

/-- The bytes of the session are sent, being sent or queued; once the TCP thread has left,
those sent are the first of them.
-/
structure Streamed (receiver : Receiver) : Prop where
  arrived : ∀ i buffer, receiver.usb = .offer i buffer → receiver.heap buffer = receiver.packet
  flow
    : receiver.tcp ≠ .returned
      → expected receiver.accepted
        = receiver.sent
          ++ receiver.tcp.remaining receiver.heap
          ++ backlog receiver.heap receiver.queue
  first : receiver.sent <+: expected receiver.accepted

section Congruence

variable {heap other : Nat → List UInt8}

/-- What is left to send of an array depends on its contents only. -/
theorem remaining_congr {point : TcpPoint} (same : ∀ array ∈ point.held, other array = heap array)
    : point.remaining other = point.remaining heap := by
  cases point with
  | convert buff i =>
      simp only [TcpPoint.remaining]
      rw [same buff (List.mem_singleton_self buff)]
  | write buff off =>
      simp only [TcpPoint.remaining]
      rw [same buff (List.mem_singleton_self buff)]
  | _ => rfl

/-- What is queued depends on the contents of the queued arrays only. -/
theorem backlog_congr {queue : List Nat} (same : ∀ array ∈ queue, other array = heap array)
    : backlog other queue = backlog heap queue := by
  unfold backlog
  simp only [List.flatMap]
  congr 1
  exact List.map_congr_left fun array queued => by rw [same array queued]

/-- An array that is queued adds its converted contents at the end. -/
theorem backlog_append (heap : Nat → List UInt8) (queue : List Nat) (array : Nat)
    : backlog heap (queue ++ [array]) = backlog heap queue ++ (heap array).map toUnsigned := by
  simp [backlog]

/-- An accepted packet adds its converted bytes at the end of what is expected. -/
theorem expected_append (accepted : List (List UInt8)) (packet : List UInt8)
    : expected (accepted ++ [packet]) = expected accepted ++ packet.map toUnsigned := by
  simp [expected]

/-- Converting one byte in place leaves what is to be sent. -/
theorem convert_modify (bytes : List UInt8) {i : Nat} (inside : i < bytes.length)
    : (bytes.modify i toUnsigned).take (i + 1)
        ++ ((bytes.modify i toUnsigned).drop (i + 1)).map toUnsigned
      = bytes.take i ++ (bytes.drop i).map toUnsigned := by
  have split
      : bytes.modify i toUnsigned
        = (bytes.take i ++ [toUnsigned bytes[i]]) ++ bytes.drop (i + 1) := by
    rw [List.modify_eq_take_cons_drop inside, List.append_assoc, List.singleton_append]
  have head : (bytes.take i ++ [toUnsigned bytes[i]]).length = i + 1 := by
    rw [List.length_append, List.length_take_of_le (Nat.le_of_lt inside), List.length_singleton]
  rw [split, List.take_left' head, List.drop_left' head, List.drop_eq_getElem_cons inside,
    List.map_cons, List.append_assoc, List.singleton_append]

end Congruence

-----------------------------------------------------------------------------------------
-- Steps
-----------------------------------------------------------------------------------------

section Steps

variable {receiver next : Receiver}

/-- While the TCP thread serves, what it has sent comes first. -/
theorem first_of_flow {accepted : List (List UInt8)} {sent remaining queued : List UInt8}
    (flow : expected accepted = sent ++ remaining ++ queued)
    : sent <+: expected accepted := by
  rw [flow, List.append_assoc]
  exact List.prefix_append ..

/-- A step that keeps what the TCP thread sees keeps the stream. -/
theorem Streamed.frame (streamed : receiver.Streamed) (tcp : next.tcp = receiver.tcp)
    (sent : next.sent = receiver.sent) (queue : next.queue = receiver.queue)
    (accepted : next.accepted = receiver.accepted)
    (heap
      : ∀ array, array ∈ receiver.queue ∨ array ∈ receiver.tcp.held
          → next.heap array = receiver.heap array)
    (arrived : ∀ i buffer, next.usb = .offer i buffer → next.heap buffer = next.packet)
    : next.Streamed := by
  refine ⟨arrived, fun serving => ?_, ?_⟩
  · rw [tcp] at serving
    rw [accepted, sent, tcp, queue, remaining_congr fun array held => heap array (.inr held),
      backlog_congr fun array queued => heap array (.inl queued)]
    exact streamed.flow serving
  · rw [sent, accepted]
    exact streamed.first

/-- A step of the USB thread keeps the stream: it offers the packet of its array, or leaves
queue and sending alone.
-/
theorem UsbMoves.streamed (moves : receiver.UsbMoves next) (streamed : receiver.Streamed)
    : next.Streamed := by
  obtain ⟨started, tcp, sent, offers, heap, arrived⟩ := moves
  obtain ⟨queue, accepted⟩ | ⟨i, buffer, point, queue, accepted, same⟩ := offers
  · exact streamed.frame tcp sent queue accepted heap arrived
  · refine ⟨arrived, fun serving => ?_, ?_⟩
    · rw [tcp] at serving
      rw [accepted, sent, tcp, queue, same, expected_append, backlog_append,
        streamed.arrived i buffer point, streamed.flow serving, List.append_assoc]
    · rw [sent, accepted, expected_append]
      exact streamed.first.trans (List.prefix_append ..)

/-- A step of the TCP thread that passes bytes on in order keeps the stream. -/
theorem Streamed.passes (streamed : receiver.Streamed) (serving : receiver.tcp ≠ .returned)
    (accepted : next.accepted = receiver.accepted)
    (passed
      : next.sent ++ next.tcp.remaining next.heap ++ backlog next.heap next.queue
        = receiver.sent
          ++ receiver.tcp.remaining receiver.heap
          ++ backlog receiver.heap receiver.queue)
    (arrived : ∀ i buffer, next.usb = .offer i buffer → next.heap buffer = next.packet)
    : next.Streamed := by
  have flow
      : expected next.accepted
        = next.sent ++ next.tcp.remaining next.heap ++ backlog next.heap next.queue := by
    rw [accepted, passed]
    exact streamed.flow serving
  exact ⟨arrived, fun _ => flow, first_of_flow flow⟩

/-- The array that the USB thread offers is not with the TCP thread. -/
theorem Owned.offered_apart (owned : receiver.Owned) {i buffer : Nat}
    (offers : receiver.usb = .offer i buffer)
    : buffer ∉ receiver.tcp.held := by
  intro there
  have here : buffer ∈ receiver.holders 2 := by
    change buffer ∈ receiver.usb.held
    rw [offers]
    exact List.mem_singleton_self buffer
  exact absurd (HeldOnce.unique owned 2 3 (by decide) (by decide) here there) (by decide)

/-- The array that the TCP thread has is not in the queue. -/
theorem Owned.held_apart (owned : receiver.Owned) {array : Nat} (held : array ∈ receiver.tcp.held)
    : array ∉ receiver.queue := fun queued =>
  absurd
    (HeldOnce.unique owned 0 3 (by decide) (by decide) queued held)
    (by decide)

/-- A step of the TCP thread keeps the stream. Witness: its points one by one; what it takes
from the queue is what it has left to send.
-/
theorem tcpStep_streamed (orderly : receiver.Orderly) (streamed : receiver.Streamed)
    (fired : receiver.tcpStep = some next)
    : next.Streamed := by
  have arrived := streamed.arrived
  have serving : receiver.tcp ≠ .returned := by
    intro gone
    rw [tcpStep, gone] at fired
    cases fired
  have moves {mode : TransceiverMode} {point : TcpPoint}
      (same : point.remaining receiver.heap = receiver.tcp.remaining receiver.heap)
      : ({ receiver with transceiverMode := mode }.tcpAt point).Streamed := by
    refine streamed.passes serving rfl ?_ arrived
    change receiver.sent ++ point.remaining receiver.heap ++ _ = _
    rw [same]
    rfl
  unfold tcpStep at fired
  cases point : receiver.tcp <;> rw [point] at fired moves <;> simp only [] at fired
  case accept =>
    cases fired
    exact moves rfl
  case clearQueue =>
    have empty := (orderly.early (by rw [point]; rfl)).2
    cases fired
    refine streamed.passes serving rfl ?_ arrived
    rw [point, empty]
    rfl
  case setTransceiverMode =>
    cases fired
    exact moves rfl
  case startUsbThread =>
    cases fired
    refine streamed.passes serving rfl ?_ nofun
    rw [point]
    rfl
  case sendDongleInfo rest =>
    split at fired <;> cases fired
    rename_i done
    exact moves done.symm
  case testCanceled =>
    cases fired
    exact moves rfl
  case poll =>
    split at fired <;> cases fired
    · rename_i buff rest queue
      refine streamed.passes serving rfl ?_ arrived
      rw [point, queue]
      simp [TcpPoint.remaining, backlog, tcpAt]
    · exact moves rfl
  case convert buff i =>
    split at fired <;> cases fired
    · rename_i inside
      have held : buff ∈ receiver.tcp.held := by
        rw [point]
        exact List.mem_singleton_self buff
      have apart {array : Nat} (other : array ≠ buff) (contents : List UInt8)
          : Function.update receiver.heap buff contents array = receiver.heap array :=
        Function.update_of_ne other _ _
      refine streamed.passes serving rfl ?_ fun i buffer offers => ?_
      · change
          receiver.sent
            ++ TcpPoint.remaining (Function.update receiver.heap buff _) (.convert buff (i + 1))
            ++ backlog (Function.update receiver.heap buff _) receiver.queue
          = _
        rw [backlog_congr fun array queued => apart ?_ _, point]
        · simp only [TcpPoint.remaining, Function.update_self]
          rw [convert_modify _ inside]
        · rintro rfl
          exact orderly.owned.held_apart held queued
      · refine (apart ?_ _).trans (arrived i buffer offers)
        rintro rfl
        exact orderly.owned.offered_apart offers held
    · rename_i done
      refine moves ?_
      simp [TcpPoint.remaining, List.drop_eq_nil_of_le (Nat.le_of_not_lt done),
        List.take_of_length_le (Nat.le_of_not_lt done)]
  case write buff off =>
    split at fired <;> cases fired
    rename_i done
    exact moves (List.drop_eq_nil_of_le done).symm
  case returnBuffer buff =>
    cases fired
    unfold returnBufferToBufferPool
    split
    · split
      · refine streamed.passes serving rfl ?_ arrived
        rw [point]
        rfl
      · exact moves rfl
    · exact moves rfl
  case returned => cases fired

/-- Bytes that the stream takes go from what is left to what was sent. -/
theorem streamTakes_streamed (streamed : receiver.Streamed) {count : Nat}
    (fired : receiver.streamTakes count = some next)
    : next.Streamed := by
  have taken (bytes : List UInt8)
      : receiver.sent ++ bytes.take count ++ bytes.drop count = receiver.sent ++ bytes := by
    rw [List.append_assoc, List.take_append_drop]
  unfold streamTakes at fired
  split at fired <;> cases fired
  · rename_i rest point
    refine streamed.passes (by simp [point]) rfl ?_ streamed.arrived
    rw [point]
    exact congrArg (· ++ backlog receiver.heap receiver.queue) (taken rest)
  · rename_i buff off point
    refine streamed.passes (by simp [point]) rfl ?_ streamed.arrived
    have pending := taken ((receiver.heap buff).drop off)
    rw [List.drop_drop] at pending
    rw [point]
    exact congrArg (· ++ backlog receiver.heap receiver.queue) pending

/-- A thread that leaves its loop keeps the stream: nothing more is asserted of what is left.
-/
theorem tcpLeaves_streamed (streamed : receiver.Streamed)
    (fired : receiver.tcpLeaves = some next)
    : next.Streamed := by
  unfold tcpLeaves at fired
  split at fired <;> cases fired
  all_goals exact ⟨streamed.arrived, fun serving => absurd rfl serving, streamed.first⟩

/-- Every step keeps the stream. -/
theorem step_streamed (orderly : receiver.Orderly) (streamed : receiver.Streamed)
    {event : ReceiverEvent} (fired : receiver.step event = some next)
    : next.Streamed := by
  cases event with
  | usbGoesOn success => exact (usbMoves_usbStep orderly.owned fired).streamed streamed
  | noRequest =>
      obtain ⟨waits, moved⟩ := Option.ite_none_right_eq_some.mp fired
      cases moved
      exact streamed.frame rfl rfl rfl rfl (fun _ _ => rfl) nofun
  | otherEndpoint =>
      obtain ⟨waits, moved⟩ := Option.ite_none_right_eq_some.mp fired
      cases moved
      exact streamed.frame rfl rfl rfl rfl (fun _ _ => rfl) nofun
  | completed i packet =>
      exact (usbMoves_complete orderly.owned orderly.wired fired).streamed streamed
  | usbWrites i contents =>
      obtain ⟨array, pending, rfl⟩ := Option.map_eq_some_iff.mp fired
      obtain ⟨unqueued, unoffered, unheld⟩ := orderly.owned.pending_apart orderly.wired pending
      refine streamed.frame rfl rfl rfl rfl (fun other held => ?_) fun j buffer offers => ?_
      · refine Function.update_of_ne ?_ _ _
        rintro rfl
        exact held.elim unqueued unheld
      · refine (Function.update_of_ne ?_ _ _).trans (streamed.arrived j buffer offers)
        rintro rfl
        rw [show receiver.usb = _ from offers] at unoffered
        exact unoffered (List.mem_singleton_self _)
  | tcpGoesOn => exact tcpStep_streamed orderly streamed fired
  | streamTakes count => exact streamTakes_streamed streamed fired
  | tcpLeaves => exact tcpLeaves_streamed streamed fired
  | modeSet mode =>
      cases fired
      exact streamed.frame rfl rfl rfl rfl (fun _ _ => rfl) streamed.arrived

end Steps

-----------------------------------------------------------------------------------------
-- Conversion
-----------------------------------------------------------------------------------------

section Conversion

variable {receiver : Receiver} {buff : Nat}

/-- The array of a conversion after `i` bytes. -/
def converted (bytes : List UInt8) (i : Nat) : List UInt8 :=
  (bytes.take i).map toUnsigned ++ bytes.drop i

/-- Converting in place changes no length. -/
theorem length_converted (bytes : List UInt8) (i : Nat)
    : (converted bytes i).length = bytes.length := by
  rw [converted, List.length_append, List.length_map, ← List.length_append,
    List.take_append_drop]

/-- The next byte that is converted makes the converted part one longer. Witness: the array is
split at the byte.
-/
theorem converted_modify {bytes : List UInt8} {i : Nat} (inside : i < bytes.length)
    : (converted bytes i).modify i toUnsigned = converted bytes (i + 1) := by
  have head : ((bytes.take i).map toUnsigned).length = i := by
    rw [List.length_map, List.length_take_of_le (Nat.le_of_lt inside)]
  have split : converted bytes i
      = (bytes.take i).map toUnsigned ++ bytes[i] :: bytes.drop (i + 1) := by
    rw [converted, List.drop_eq_getElem_cons inside]
  have after : converted bytes (i + 1)
      = (bytes.take i).map toUnsigned ++ toUnsigned bytes[i] :: bytes.drop (i + 1) := by
    rw [converted, List.take_succ_eq_append_getElem inside, List.map_append, List.append_assoc]
    rfl
  rw [split, after, List.modify_eq_take_drop, List.take_left' head, List.drop_left' head]
  rfl

/-- The conversion loop reaches its end, by induction on the bytes converted so far. -/
theorem leads_converted (queueSize : Nat) (point : receiver.tcp = .convert buff 0) {i : Nat}
    (within : i ≤ (receiver.heap buff).length)
    : (hackrfSession queueSize).Leads receiver
        ((receiver.store buff (converted (receiver.heap buff) i)).tcpAt (.convert buff i)) := by
  induction i with
  | zero =>
      have same
          : (receiver.store buff (converted (receiver.heap buff) 0)).tcpAt (.convert buff 0)
            = receiver := by
        rw [← point]
        simp [store, converted, tcpAt]
      rw [same]
      exact .refl
  | succ i ih =>
      refine .step (ih (by omega)) (?_ : (hackrfSession queueSize).step _ .tcpGoesOn = _)
      have inside : i < (converted (receiver.heap buff) i).length := by
        rw [length_converted]
        omega
      have modified := converted_modify (show i < (receiver.heap buff).length by omega)
      simp only [hackrfSession, step, tcpStep, store, tcpAt, Function.update_self]
      rw [if_pos inside, modified, Function.update_idem]

end Conversion

-----------------------------------------------------------------------------------------
-- Every run
-----------------------------------------------------------------------------------------

section Runs

variable {queueSize : Nat} {receiver : Receiver}

/-- Every reachable state is orderly and keeps the stream, by invariance under each step. -/
theorem orderly_of_reachable (reachable : (hackrfSession queueSize).Reachable receiver)
    : receiver.Orderly ∧ receiver.Streamed := by
  refine reachable.invariant (fun receiver => receiver.Orderly ∧ receiver.Streamed) ?_ ?_
  · rintro _ rfl
    exact ⟨initial_orderly queueSize, nofun, fun _ => rfl, List.nil_prefix⟩
  · intro current event next _ known fired
    exact ⟨step_orderly known.1 fired, step_streamed known.1 known.2 fired⟩

/-- What the client of a HackRF session gets, and whose the arrays are. -/
structure Intact (receiver : Receiver) : Prop where
  sent
    : receiver.sent
      <+: [0x68, 0x78, 0x72, 0x66]
        ++ List.replicate 8 0
        ++ (receiver.accepted.map
            (List.map (fun b => UInt8.ofNat ((b.toNat + 128) % 256)))).flatten
  apart
    : ∀ array, array ∈ receiver.queue ∨ array ∈ receiver.tcp.held
        → array ∉ receiver.bufferPool
          ∧ ∀ i, (receiver.usbRequests i).pending ≠ some array

/-- HackRF stream integrity, for every queue size. -/
theorem hackrf_stream_integrity (reachable : (hackrfSession queueSize).Reachable receiver)
    : receiver.Intact := by
  obtain ⟨orderly, streamed⟩ := orderly_of_reachable reachable
  refine ⟨?_, fun array held => ⟨fun pooled => ?_, fun i pending => ?_⟩⟩
  · have first := streamed.first
    simp only [expected, List.flatMap, funext toUnsigned_eq] at first
    exact first
  · rcases held with queued | held
    · exact absurd
        (HeldOnce.unique orderly.owned 0 1 (by decide) (by decide) queued
          pooled)
        (by decide)
    · exact absurd
        (HeldOnce.unique orderly.owned 3 1 (by decide) (by decide) held
          pooled)
        (by decide)
  · obtain ⟨unqueued, -, unheld⟩ := orderly.owned.pending_apart orderly.wired pending
    exact held.elim unqueued unheld

/-- One packet is received, converted and partly sent. -/
theorem hackrf_stream_integrity_while_sending
    : ∃ receiver,
        (hackrfSession packetSize).Reachable receiver
        ∧ receiver.sent = dongleInfo ++ [129, 129]
        ∧ receiver.Intact := by
  let session := hackrfSession packetSize
  let schedule : List ReceiverEvent :=
    List.replicate 4 .tcpGoesOn ++ [.streamTakes 12, .tcpGoesOn, .tcpGoesOn]
      ++ List.replicate 10 (.usbGoesOn true)
  obtain ⟨packet, all, first⟩
      : ∃ packet : List UInt8, packet.length = packetSize ∧ packet.take 2 = [1, 1] :=
    ⟨List.replicate packetSize 1, List.length_replicate, List.take_replicate⟩
  have replayed
      : (session.run (initial packetSize) schedule).map
          (fun receiver => (receiver.usb, receiver.usbRequests 0, receiver.queue,
            receiver.capacity, receiver.tcp, receiver.sent))
        = some (.requestWait, ⟨some 0, some 0⟩, [], 1, .poll, dongleInfo) := by
    rfl
  obtain ⟨waiting, reached, seen⟩ := System.exists_reachable_of_run replayed rfl
  simp only [Prod.mk.injEq] at seen
  obtain ⟨usb, request, queue, capacity, tcp, sent⟩ := seen
  let offering :=
    ((waiting.arrive 0 packet).setRequest 0 { waiting.usbRequests 0 with pending := none }).usbAt
      (.offer 0 0)
  have completes : session.step waiting (.completed 0 packet) = some offering := by
    simp only [session, hackrfSession, step, complete, usb, request]
    rw [if_pos ⟨by decide, all⟩]
    simp only [offering, request]
  let queued :=
    { offering with queue := [0], accepted := waiting.accepted ++ [packet] }.usbAt (.refill 0)
  have offers : session.step offering (.usbGoesOn true) = some queued := by
    have room : offering.queue.length < offering.capacity := by
      rw [show offering.queue = [] from queue, show offering.capacity = 1 from capacity]
      decide
    change some ((offering.queueOffer 0).usbAt (.refill 0)) = some queued
    rw [queueOffer, if_pos room, show offering.queue = [] from queue]
    rfl
  let polled := { queued with queue := [] }.tcpAt (.convert 0 0)
  have polls : session.step queued .tcpGoesOn = some polled := by
    simp only [session, hackrfSession, step, tcpStep, show queued.tcp = .poll from tcp,
      show queued.queue = [0] from rfl, polled]
  have filled : polled.heap 0 = packet := by
    change Function.update waiting.heap 0 packet 0 = packet
    exact Function.update_self ..
  let written := (polled.store 0 (converted packet packetSize)).tcpAt (.convert 0 packetSize)
  have converts : session.Leads polled written := by
    have within : packetSize ≤ (polled.heap 0).length := by
      rw [filled, all]
    have leads := leads_converted packetSize (show polled.tcp = .convert 0 0 from rfl) within
    rwa [filled] at leads
  have contents : written.heap 0 = packet.map toUnsigned := by
    change Function.update polled.heap 0 (converted packet packetSize) 0 = _
    rw [Function.update_self, converted, ← all, List.take_length, List.drop_length,
      List.append_nil]
  have ends : session.step written .tcpGoesOn = some (written.tcpAt (.write 0 0)) := by
    have converted : written.tcp = .convert 0 packetSize := rfl
    simp only [session, hackrfSession, step, tcpStep, converted, contents]
    rw [if_neg (by rw [List.length_map, all]; exact Nat.lt_irrefl _)]
  have takes
      : session.step (written.tcpAt (.write 0 0)) (.streamTakes 2)
        = some
            { written.tcpAt (.write 0 2) with
              sent := waiting.sent ++ ((written.heap 0).drop 0).take 2 } :=
    rfl
  have polled_ := ((System.Leads.refl.step completes).step offers).step polls
  have reachable := reached.leads (((polled_.trans converts).step ends).step takes)
  refine ⟨_, reachable, ?_, hackrf_stream_integrity reachable⟩
  simp only [sent, contents, List.drop_zero, ← List.map_take, first]
  rfl

end Runs

end Receiver

end RtlTcpAndro.HackRf
