import RtlTcpAndro.HackRf.Receiver
import RtlTcpAndro.Interleaving.Places

/-! Each byte array of a HackRF session is in one place: the queue, the buffer pool, a pending
USB request or the hands of one of the two threads.
-/

namespace RtlTcpAndro.HackRf

open RtlTcpAndro.Interleaving

-----------------------------------------------------------------------------------------
-- Where the arrays are
-----------------------------------------------------------------------------------------

/-- The array that the USB thread has. -/
def UsbPoint.held : UsbPoint → List Nat
  | .queueFirst _ buffer => [buffer]
  | .offer _ buffer => [buffer]
  | .queueAgain _ buffer => [buffer]
  | _ => []

/-- The array that the TCP thread has. -/
def TcpPoint.held : TcpPoint → List Nat
  | .convert buff _ => [buff]
  | .write buff _ => [buff]
  | .returnBuffer buff => [buff]
  | _ => []

/-- What holds of the requests where the USB thread is: those it has not reached are not
pending, and the one it works on is one of its array, is not pending, and has the buffer that
it is about to be queued with as its client data.
-/
def UsbPoint.Fits (usbRequests : Nat → UsbRequest) : UsbPoint → Prop
  | .unstarted => ∀ j, (usbRequests j).pending = none
  | .initializeRequest i => ∀ j, i ≤ j → (usbRequests j).pending = none
  | .queueFirst i buffer =>
      i < numUsbRequests
      ∧ (usbRequests i).clientData = some buffer
      ∧ ∀ j, i ≤ j → (usbRequests j).pending = none
  | .offer i _ => i < numUsbRequests ∧ (usbRequests i).pending = none
  | .refill i => i < numUsbRequests ∧ (usbRequests i).pending = none
  | .queueAgain i buffer =>
      i < numUsbRequests
      ∧ (usbRequests i).clientData = some buffer
      ∧ (usbRequests i).pending = none
  | _ => True

/-- The USB thread is not started yet. -/
def TcpPoint.early : TcpPoint → Bool
  | .accept | .clearQueue | .setTransceiverMode | .startUsbThread => true
  | _ => false

namespace Receiver

/-- What is held at the queue, the pool, the two threads and the requests. -/
def holders (receiver : Receiver) : Nat → List Nat
  | 0 => receiver.queue
  | 1 => receiver.bufferPool
  | 2 => receiver.usb.held
  | 3 => receiver.tcp.held
  | i + 4 => (receiver.usbRequests i).pending.toList

/-- No array is in two places. -/
def Owned (receiver : Receiver) : Prop :=
  HeldOnce (numUsbRequests + 4) receiver.holders receiver.allocated

/-- The requests fit where the USB thread is, and a pending one is of its array and has its
buffer as its client data.
-/
structure Wired (receiver : Receiver) : Prop where
  fits : receiver.usb.Fits receiver.usbRequests
  pending
    : ∀ i array,
        (receiver.usbRequests i).pending = some array
        → i < numUsbRequests ∧ (receiver.usbRequests i).clientData = some array

/-- What holds of the arrays and the threads together. -/
structure Orderly (receiver : Receiver) : Prop where
  owned : receiver.Owned
  wired : receiver.Wired
  early : receiver.tcp.early = true → receiver.usb = .unstarted ∧ receiver.queue = []

section Holders

variable (receiver : Receiver)

/-- Storing the contents of an array moves no array. -/
@[simp] theorem holders_store (array : Nat) (contents : List UInt8)
    : (receiver.store array contents).holders = receiver.holders :=
  rfl

/-- The arrival of a packet moves no array. -/
@[simp] theorem holders_arrive (array : Nat) (packet : List UInt8)
    : (receiver.arrive array packet).holders = receiver.holders :=
  rfl

/-- Where the USB thread moves on, only the array that it has changes, by cases on the places.
-/
theorem holders_usbAt (point : UsbPoint)
    : (receiver.usbAt point).holders = Function.update receiver.holders 2 point.held := by
  funext place
  match place with
  | 0 | 1 | 2 | 3 | _ + 4 => rfl

/-- Where the TCP thread moves on, only the array that it has changes, by cases on the places.
-/
theorem holders_tcpAt (point : TcpPoint)
    : (receiver.tcpAt point).holders = Function.update receiver.holders 3 point.held := by
  funext place
  match place with
  | 0 | 1 | 2 | 3 | _ + 4 => rfl

/-- Where a request is set, only the array it is pending with changes, by cases on the places.
-/
theorem holders_setRequest (i : Nat) (request : UsbRequest)
    : (receiver.setRequest i request).holders
      = Function.update receiver.holders (i + 4) request.pending.toList := by
  funext place
  match place with
  | 0 | 1 | 2 | 3 => rfl
  | other + 4 =>
      by_cases same : other = i
      · subst same
        simp [holders, setRequest]
      · simp [holders, setRequest, same]

/-- Where the queue is set, only its arrays change, by cases on the places. -/
theorem holders_queue (queue : List Nat)
    : holders { receiver with queue := queue } = Function.update receiver.holders 0 queue := by
  funext place
  match place with
  | 0 | 1 | 2 | 3 | _ + 4 => rfl

/-- Where the pool is set, only its arrays change, by cases on the places. -/
theorem holders_bufferPool (bufferPool : List Nat)
    : holders { receiver with bufferPool := bufferPool }
      = Function.update receiver.holders 1 bufferPool := by
  funext place
  match place with
  | 0 | 1 | 2 | 3 | _ + 4 => rfl

/-- The client data of a request is not what it is pending with, so setting it moves no array.
-/
theorem holders_setClientData (i : Nat) (clientData : Option Nat)
    : (receiver.setRequest i { receiver.usbRequests i with clientData := clientData }).holders
      = receiver.holders := by
  rw [holders_setRequest]
  exact Function.update_eq_self (i + 4) receiver.holders

end Holders

-----------------------------------------------------------------------------------------
-- The USB thread
-----------------------------------------------------------------------------------------

section UsbSteps

variable {receiver : Receiver}

/-- The USB thread may drop its array: no place has more arrays than before. -/
theorem Owned.usbAt (owned : receiver.Owned) {point : UsbPoint} (empty : point.held = [])
    : (receiver.usbAt point).Owned := by
  rw [Owned, holders_usbAt, empty]
  exact HeldOnce.shrink owned (by decide) (fun _ => Nat.zero_le _)

/-- A thread with no array gets one from the pool or a new one. Witness: an array of the pool
is transferred, and a new one is in no place yet.
-/
theorem Owned.wrapBuffer (owned : receiver.Owned) (free : receiver.usb.held = []) (i : Nat)
    {next : Nat → UsbPoint} (holds : ∀ buffer, (next buffer).held = [buffer])
    : (receiver.wrapBuffer i next).Owned := by
  unfold Receiver.wrapBuffer getBufferFromBufferPool
  cases pool : receiver.bufferPool with
  | nil =>
      simp only []
      rw [Owned, holders_usbAt, holders_setClientData, holds]
      exact HeldOnce.create owned (by decide) free
  | cons buffer rest =>
      simp only []
      rw [Owned, holders_usbAt, holders_setClientData, holders_bufferPool, holds]
      refine HeldOnce.transfer owned (by decide) (by decide) (by decide) fun thing => ?_
      rw [show receiver.holders 1 = buffer :: rest from pool]
      simp only [List.count_cons, List.count_nil]
      omega

/-- A request that is queued takes the array of the USB thread; one that is not leaves it
dropped. Witness: the array is transferred from the thread to the request.
-/
theorem Owned.queueRequest (owned : receiver.Owned) {i buffer : Nat} (inside : i < numUsbRequests)
    (held : receiver.usb.held = [buffer]) {success : Bool} {queued failed : UsbPoint}
    (handed : queued.held = []) (dropped : failed.held = [])
    : (receiver.queueRequest i buffer success queued failed).Owned := by
  cases success with
  | false => exact owned.usbAt dropped
  | true =>
      rw [Receiver.queueRequest, if_pos rfl, Owned, holders_usbAt, holders_setRequest, handed]
      have within : i + 4 < numUsbRequests + 4 := by
        omega
      refine HeldOnce.transfer owned within (by decide) (by omega) fun thing => ?_
      rw [show receiver.holders 2 = [buffer] from held]
      exact Nat.le_add_left ..

/-- The queue takes the array of the USB thread where it has room; elsewhere the array is
dropped. Witness: the array is transferred from the thread to the queue.
-/
theorem Owned.queueOffer (owned : receiver.Owned) {buffer : Nat}
    (held : receiver.usb.held = [buffer]) {point : UsbPoint} (empty : point.held = [])
    : ((receiver.queueOffer buffer).usbAt point).Owned := by
  unfold Receiver.queueOffer
  split
  · rw [Owned, holders_usbAt, empty]
    change HeldOnce _
      (Function.update (holders { receiver with queue := receiver.queue ++ [buffer] }) 2 []) _
    rw [holders_queue]
    refine HeldOnce.transfer owned (by decide) (by decide) (by decide) fun thing => ?_
    rw [show receiver.holders 2 = [buffer] from held, List.count_append]
    exact Nat.le_refl _
  · exact owned.usbAt empty

/-- The client data of one request changes while it is not pending. Witness: no request is
pending with another array than before, and the others keep their data.
-/
theorem Wired.setClientData (wired : receiver.Wired) {i : Nat} (buffer : Nat)
    (idle : (receiver.usbRequests i).pending = none) {usbRequests : Nat → UsbRequest}
    (set
      : usbRequests
        = Function.update receiver.usbRequests i
            { receiver.usbRequests i with clientData := some buffer })
    : (∀ j, (usbRequests j).pending = (receiver.usbRequests j).pending)
      ∧ ∀ j array, (usbRequests j).pending = some array
        → j < numUsbRequests ∧ (usbRequests j).clientData = some array := by
  have same (j : Nat) : (usbRequests j).pending = (receiver.usbRequests j).pending := by
    rw [set]
    by_cases own : j = i
    · rw [own, Function.update_self]
    · rw [Function.update_of_ne own]
  refine ⟨same, fun j array pending => ?_⟩
  rw [same] at pending
  have other : j ≠ i := by
    rintro rfl
    rw [idle] at pending
    cases pending
  rw [set, Function.update_of_ne other]
  exact wired.pending j array pending

/-- A request that is not pending may be given an array. Witness: the data of the others stay,
with an array of the pool as with a new one.
-/
theorem Wired.wrapBuffer (wired : receiver.Wired) {i : Nat}
    (idle : (receiver.usbRequests i).pending = none) {next : Nat → UsbPoint}
    (fits
      : ∀ buffer usbRequests,
          (usbRequests i).clientData = some buffer
          → (∀ j, (usbRequests j).pending = (receiver.usbRequests j).pending)
          → (next buffer).Fits usbRequests)
    : (receiver.wrapBuffer i next).Wired := by
  have set (buffer : Nat) := wired.setClientData buffer idle rfl
  unfold Receiver.wrapBuffer getBufferFromBufferPool
  cases receiver.bufferPool with
  | nil =>
      obtain ⟨same, pending⟩ := set receiver.allocated
      exact ⟨fits _ _ (by simp [Receiver.usbAt, setRequest]) same, pending⟩
  | cons buffer rest =>
      obtain ⟨same, pending⟩ := set buffer
      exact ⟨fits _ _ (by simp [Receiver.usbAt, setRequest]) same, pending⟩

/-- A request that is queued is pending with its client data; one that is not changes none.
Witness: the request itself, and the others.
-/
theorem Wired.queueRequest (wired : receiver.Wired) {i buffer : Nat} (inside : i < numUsbRequests)
    (clientData : (receiver.usbRequests i).clientData = some buffer) {success : Bool}
    {queued failed : UsbPoint}
    (handed
      : ∀ usbRequests,
          (∀ j, j ≠ i → usbRequests j = receiver.usbRequests j) → queued.Fits usbRequests)
    (dropped : failed.Fits receiver.usbRequests)
    : (receiver.queueRequest i buffer success queued failed).Wired := by
  cases success with
  | false => exact ⟨dropped, wired.pending⟩
  | true =>
      rw [Receiver.queueRequest, if_pos rfl]
      refine ⟨handed _ fun j other => Function.update_of_ne other _ _, fun j array pending => ?_⟩
      change (Function.update receiver.usbRequests i _ j).pending = some array at pending
      change j < numUsbRequests
        ∧ (Function.update receiver.usbRequests i _ j).clientData = some array
      by_cases own : j = i
      · rw [own, Function.update_self] at pending ⊢
        cases pending
        exact ⟨inside, clientData⟩
      · rw [Function.update_of_ne own] at pending ⊢
        exact wired.pending j array pending

/-- An array that goes into the queue, or is dropped, changes no request. -/
theorem Wired.queueOffer (wired : receiver.Wired) (buffer : Nat) {point : UsbPoint}
    (fits : point.Fits receiver.usbRequests)
    : ((receiver.queueOffer buffer).usbAt point).Wired := by
  unfold Receiver.queueOffer
  split
  · exact ⟨fits, wired.pending⟩
  · exact ⟨fits, wired.pending⟩

/-- What the USB thread's steps keep: every array is in one place, and requests are pending
with their client data. Witness: the points of the thread one by one.
-/
theorem usbStep_settled (owned : receiver.Owned) (wired : receiver.Wired) {success : Bool}
    {next : Receiver} (fired : receiver.usbStep success = some next)
    : next.Owned ∧ next.Wired := by
  have fits := wired.fits
  have moves {mode : TransceiverMode} {point : UsbPoint} (empty : point.held = [])
      (free : point.Fits receiver.usbRequests)
      : ({ receiver with transceiverMode := mode }.usbAt point).Owned
        ∧ ({ receiver with transceiverMode := mode }.usbAt point).Wired :=
    ⟨owned.usbAt empty, free, wired.pending⟩
  unfold usbStep at fired
  cases point : receiver.usb <;> rw [point] at fired fits <;> simp only [] at fired
  case unstarted => cases fired
  case initializeRequest i =>
    have free : receiver.usb.held = [] := by
      rw [point]
      rfl
    split at fired <;> cases fired
    · rename_i inside
      refine ⟨owned.wrapBuffer free i fun _ => rfl, wired.wrapBuffer (fits i (Nat.le_refl i)) ?_⟩
      intro buffer usbRequests clientData same
      exact ⟨inside, clientData, fun j later => (same j).trans (fits j later)⟩
    · exact moves rfl trivial
  case queueFirst i buffer =>
    obtain ⟨inside, clientData, idle⟩ := fits
    have held : receiver.usb.held = [buffer] := by
      rw [point]
      rfl
    cases fired
    refine ⟨owned.queueRequest inside held rfl rfl,
      wired.queueRequest inside clientData (fun usbRequests others j later => ?_) trivial⟩
    rw [others j (by omega)]
    exact idle j (by omega)
  case stopUnqueued =>
    cases fired
    cases success
    · exact moves rfl trivial
    · exact moves rfl trivial
  case testMode =>
    cases fired
    split
    · exact moves rfl trivial
    · exact moves rfl trivial
  case requestWait => cases fired
  case offer i buffer =>
    have held : receiver.usb.held = [buffer] := by
      rw [point]
      rfl
    cases fired
    exact ⟨owned.queueOffer held rfl, wired.queueOffer buffer fits⟩
  case refill i =>
    obtain ⟨inside, idle⟩ := fits
    have free : receiver.usb.held = [] := by
      rw [point]
      rfl
    cases fired
    refine ⟨owned.wrapBuffer free i fun _ => rfl, wired.wrapBuffer idle ?_⟩
    intro buffer usbRequests clientData same
    exact ⟨inside, clientData, (same i).trans idle⟩
  case queueAgain i buffer =>
    obtain ⟨inside, clientData, idle⟩ := fits
    have held : receiver.usb.held = [buffer] := by
      rw [point]
      rfl
    cases fired
    exact ⟨owned.queueRequest inside held rfl rfl,
      wired.queueRequest inside clientData (fun _ _ => trivial) trivial⟩
  case cancel =>
    cases fired
    exact moves rfl trivial
  case testStillReceiving =>
    cases fired
    split
    · exact moves rfl trivial
    · exact moves rfl trivial
  case stopReceiving =>
    cases fired
    exact moves rfl trivial
  case returned => cases fired

/-- A completed request gives its array to the USB thread. Witness: it is pending with its
client data, and the array is transferred.
-/
theorem complete_settled (owned : receiver.Owned) (wired : receiver.Wired) {i : Nat}
    {packet : List UInt8} {next : Receiver} (fired : receiver.complete i packet = some next)
    : next.Owned ∧ next.Wired := by
  unfold complete at fired
  split at fired
  · rename_i filled buffer point pending clientData
    obtain ⟨inside, same⟩ := wired.pending i filled pending
    have own : filled = buffer := Option.some.inj (same.symm.trans clientData)
    subst own
    split at fired <;> cases fired
    have within : i + 4 < numUsbRequests + 4 := by
      omega
    refine ⟨?_, ⟨inside, ?_⟩, fun j array still => ?_⟩
    · rw [Owned, holders_usbAt, holders_setRequest, holders_arrive]
      refine HeldOnce.transfer owned within (by decide) (by omega) fun thing => ?_
      rw [show receiver.holders (i + 4) = [filled] from congrArg Option.toList pending]
      simp [UsbPoint.held]
    · simp [Receiver.usbAt, setRequest]
    · change (Function.update receiver.usbRequests i _ j).pending = some array at still
      change j < numUsbRequests
        ∧ (Function.update receiver.usbRequests i _ j).clientData = some array
      by_cases same : j = i
      · rw [same, Function.update_self] at still
        cases still
      · rw [Function.update_of_ne same] at still ⊢
        exact wired.pending j array still
  · cases fired

/-- What the USB thread's steps do to what the TCP thread sees. Only an array that neither the
queue nor the TCP thread has gets other contents.
-/
structure UsbMoves (receiver next : Receiver) : Prop where
  started : receiver.usb ≠ .unstarted
  tcp : next.tcp = receiver.tcp
  sent : next.sent = receiver.sent
  queue
    : next.queue = receiver.queue ∧ next.accepted = receiver.accepted
      ∨ ∃ i buffer,
          receiver.usb = .offer i buffer
          ∧ next.queue = receiver.queue ++ [buffer]
          ∧ next.accepted = receiver.accepted ++ [receiver.packet]
          ∧ next.heap = receiver.heap
  heap
    : ∀ array, array ∈ receiver.queue ∨ array ∈ receiver.tcp.held
        → next.heap array = receiver.heap array
  arrived : ∀ i buffer, next.usb = .offer i buffer → next.heap buffer = next.packet

/-- The USB thread moves on without touching anything else, by reflexivity. -/
theorem usbMoves_usbAt (started : receiver.usb ≠ .unstarted) {mode : TransceiverMode}
    {point : UsbPoint} (offers : ∀ i buffer, point ≠ .offer i buffer)
    : receiver.UsbMoves ({ receiver with transceiverMode := mode }.usbAt point) :=
  ⟨started, rfl, rfl, .inl ⟨rfl, rfl⟩, fun _ _ => rfl,
    fun i buffer at_ => absurd at_ (offers i buffer)⟩

/-- A new array is in no place yet, since those in a place were allocated before. -/
theorem Owned.fresh (owned : receiver.Owned) {array : Nat}
    (held : array ∈ receiver.queue ∨ array ∈ receiver.tcp.held)
    : array ≠ receiver.allocated := by
  rcases held with queued | held
  · exact Nat.ne_of_lt (HeldOnce.lt_allocated owned 0 (by decide) queued)
  · exact Nat.ne_of_lt (HeldOnce.lt_allocated owned 3 (by decide) held)

/-- An array of a pending request is not in the queue or with a thread, since every array is
in one place.
-/
theorem Owned.pending_apart (owned : receiver.Owned) (wired : receiver.Wired) {i array : Nat}
    (pending : (receiver.usbRequests i).pending = some array)
    : array ∉ receiver.queue ∧ array ∉ receiver.usb.held ∧ array ∉ receiver.tcp.held := by
  have inside := (wired.pending i array pending).1
  have within : i + 4 < numUsbRequests + 4 := by
    omega
  have here : array ∈ receiver.holders (i + 4) := by
    change array ∈ (receiver.usbRequests i).pending.toList
    rw [pending]
    exact List.mem_singleton_self array
  refine ⟨fun there => ?_, fun there => ?_, fun there => ?_⟩
  · have := HeldOnce.unique owned (i + 4) 0 within (by decide) here there
    omega
  · have := HeldOnce.unique owned (i + 4) 2 within (by decide) here there
    omega
  · have := HeldOnce.unique owned (i + 4) 3 within (by decide) here there
    omega

/-- Getting an array moves the USB thread only. Witness: a new array is none of the queue's,
and one of the pool is not written to.
-/
theorem usbMoves_wrapBuffer (owned : receiver.Owned) (started : receiver.usb ≠ .unstarted)
    (i : Nat) {next : Nat → UsbPoint} (offers : ∀ buffer j other, next buffer ≠ .offer j other)
    : receiver.UsbMoves (receiver.wrapBuffer i next) := by
  unfold Receiver.wrapBuffer getBufferFromBufferPool
  cases receiver.bufferPool with
  | nil =>
      exact ⟨started, rfl, rfl, .inl ⟨rfl, rfl⟩,
        fun array held => Function.update_of_ne (owned.fresh held) _ _,
        fun j buffer at_ => absurd at_ (offers _ j buffer)⟩
  | cons buffer rest =>
      exact ⟨started, rfl, rfl, .inl ⟨rfl, rfl⟩, fun _ _ => rfl,
        fun j other at_ => absurd at_ (offers _ j other)⟩

/-- Queueing a request moves the USB thread only, whether it succeeds or not. -/
theorem usbMoves_queueRequest (started : receiver.usb ≠ .unstarted) {i buffer : Nat}
    {success : Bool} {queued failed : UsbPoint}
    (handed : ∀ j other, queued ≠ .offer j other) (dropped : ∀ j other, failed ≠ .offer j other)
    : receiver.UsbMoves (receiver.queueRequest i buffer success queued failed) := by
  cases success with
  | false => exact usbMoves_usbAt started dropped
  | true =>
      exact ⟨started, rfl, rfl, .inl ⟨rfl, rfl⟩, fun _ _ => rfl,
        fun j other at_ => absurd at_ (handed j other)⟩

/-- Every step of the USB thread moves it, and offers at most the array it has. Witness: the
points of the thread one by one.
-/
theorem usbMoves_usbStep (owned : receiver.Owned) {success : Bool} {next : Receiver}
    (fired : receiver.usbStep success = some next)
    : receiver.UsbMoves next := by
  unfold usbStep at fired
  cases point : receiver.usb <;> rw [point] at fired <;> simp only [] at fired
  case unstarted => cases fired
  all_goals have started : receiver.usb ≠ .unstarted := by simp [point]
  case initializeRequest i =>
    split at fired <;> cases fired
    · exact usbMoves_wrapBuffer owned started i nofun
    · exact usbMoves_usbAt started nofun
  case queueFirst i buffer =>
    cases fired
    exact usbMoves_queueRequest started nofun nofun
  case stopUnqueued =>
    cases fired
    cases success
    · exact usbMoves_usbAt started nofun
    · exact usbMoves_usbAt started nofun
  case testMode =>
    cases fired
    split
    · exact usbMoves_usbAt started nofun
    · exact usbMoves_usbAt started nofun
  case requestWait => cases fired
  case offer i buffer =>
    cases fired
    unfold queueOffer
    split
    · exact ⟨started, rfl, rfl, .inr ⟨i, buffer, point, rfl, rfl, rfl⟩, fun _ _ => rfl, nofun⟩
    · exact usbMoves_usbAt started nofun
  case refill i =>
    cases fired
    exact usbMoves_wrapBuffer owned started i nofun
  case queueAgain i buffer =>
    cases fired
    exact usbMoves_queueRequest started nofun nofun
  case cancel =>
    cases fired
    exact usbMoves_usbAt started nofun
  case testStillReceiving =>
    cases fired
    split
    · exact usbMoves_usbAt started nofun
    · exact usbMoves_usbAt started nofun
  case stopReceiving =>
    cases fired
    exact usbMoves_usbAt started nofun
  case returned => cases fired

/-- The completion of a request moves the USB thread, and fills an array that is neither in
the queue nor with the other thread.
-/
theorem usbMoves_complete (owned : receiver.Owned) (wired : receiver.Wired) {i : Nat}
    {packet : List UInt8} {next : Receiver} (fired : receiver.complete i packet = some next)
    : receiver.UsbMoves next := by
  unfold complete at fired
  split at fired
  · rename_i filled buffer point pending clientData
    have own : filled = buffer :=
      Option.some.inj ((wired.pending i filled pending).2.symm.trans clientData)
    subst own
    obtain ⟨unqueued, -, unheld⟩ := owned.pending_apart wired pending
    split at fired <;> cases fired
    refine ⟨by simp [point], rfl, rfl, .inl ⟨rfl, rfl⟩, fun array held => ?_, ?_⟩
    · refine Function.update_of_ne ?_ _ _
      rintro rfl
      exact held.elim unqueued unheld
    · intro j other at_
      cases at_
      exact Function.update_self _ _ _
  · cases fired

end UsbSteps

-----------------------------------------------------------------------------------------
-- The TCP thread
-----------------------------------------------------------------------------------------

section TcpSteps

variable {receiver : Receiver}

/-- The TCP thread may keep its array or drop it: no place has more arrays than before. -/
theorem Owned.tcpAt (owned : receiver.Owned) {point : TcpPoint}
    (kept : point.held = [] ∨ point.held = receiver.tcp.held)
    : (receiver.tcpAt point).Owned := by
  rw [Owned, holders_tcpAt]
  refine HeldOnce.shrink owned (by decide) fun thing => ?_
  rcases kept with empty | same
  · rw [empty]
    exact Nat.zero_le _
  · rw [same]
    exact Nat.le_refl _

/-- The pool takes the TCP thread's array, or the array is gone. Witness: the array is
transferred where the pool has room.
-/
theorem Owned.returnBuffer (owned : receiver.Owned) {buff : Nat}
    (held : receiver.tcp.held = [buff]) {point : TcpPoint} (empty : point.held = [])
    : ((receiver.returnBufferToBufferPool buff).tcpAt point).Owned := by
  unfold returnBufferToBufferPool
  split
  · split
    · rw [Owned, holders_tcpAt, holders_bufferPool, empty]
      refine HeldOnce.transfer owned (by decide) (by decide) (by decide) fun thing => ?_
      rw [show receiver.holders 3 = [buff] from held, List.count_append]
      exact Nat.le_refl _
    · exact owned.tcpAt (.inl empty)
  · exact owned.tcpAt (.inl empty)

/-- The queue may be cleared: its arrays are dropped. -/
theorem Owned.clearQueue (owned : receiver.Owned)
    : Owned { receiver with queue := [] } := by
  rw [Owned, holders_queue]
  exact HeldOnce.shrink owned (by decide) (fun _ => Nat.zero_le _)

/-- The TCP thread takes the first array of the queue. Witness: the array is transferred from
the queue to the thread.
-/
theorem Owned.poll (owned : receiver.Owned) {buff : Nat} {rest : List Nat}
    (queue : receiver.queue = buff :: rest) {point : TcpPoint} (takes : point.held = [buff])
    : ({ receiver with queue := rest }.tcpAt point).Owned := by
  rw [Owned, holders_tcpAt, holders_queue, takes]
  refine HeldOnce.transfer owned (by decide) (by decide) (by decide) fun thing => ?_
  rw [show receiver.holders 0 = buff :: rest from queue]
  simp only [List.count_cons, List.count_nil]
  omega

/-- What the TCP thread's steps keep: all that is orderly. Witness: the points of the thread
one by one.
-/
theorem tcpStep_orderly (orderly : receiver.Orderly) {next : Receiver}
    (fired : receiver.tcpStep = some next)
    : next.Orderly := by
  obtain ⟨owned, wired, early⟩ := orderly
  have wires {usb : UsbPoint} (same : usb = receiver.usb) : usb.Fits receiver.usbRequests := by
    rw [same]
    exact wired.fits
  have late {point : TcpPoint} (started : point.early = false)
      (kept : point.held = [] ∨ point.held = receiver.tcp.held)
      : (receiver.tcpAt point).Orderly :=
    ⟨owned.tcpAt kept, ⟨wired.fits, wired.pending⟩,
      fun still => absurd (started.symm.trans still) nofun⟩
  unfold tcpStep at fired
  cases point : receiver.tcp <;> rw [point] at fired early <;> simp only [] at fired
  case accept =>
    cases fired
    exact ⟨owned.tcpAt (.inl rfl), ⟨wired.fits, wired.pending⟩, fun _ => early rfl⟩
  case clearQueue =>
    cases fired
    exact ⟨owned.clearQueue.tcpAt (.inl rfl), ⟨wired.fits, wired.pending⟩,
      fun _ => ⟨(early rfl).1, rfl⟩⟩
  case setTransceiverMode =>
    cases fired
    exact ⟨owned.tcpAt (.inl rfl), ⟨wired.fits, wired.pending⟩, fun _ => early rfl⟩
  case startUsbThread =>
    have idle := wired.fits
    rw [(early rfl).1] at idle
    cases fired
    exact ⟨(owned.usbAt rfl).tcpAt (.inl rfl), ⟨fun j _ => idle j, wired.pending⟩, nofun⟩
  case sendDongleInfo rest =>
    split at fired <;> cases fired
    exact late rfl (.inl rfl)
  case testCanceled =>
    cases fired
    exact late rfl (.inl rfl)
  case poll =>
    split at fired <;> cases fired
    · rename_i queue
      exact ⟨owned.poll queue rfl, ⟨wired.fits, wired.pending⟩, nofun⟩
    · exact late rfl (.inl rfl)
  case convert buff i =>
    have held := (congrArg TcpPoint.held point).symm
    split at fired <;> cases fired
    · exact ⟨owned.tcpAt (.inr held), ⟨wired.fits, wired.pending⟩, nofun⟩
    · exact late rfl (.inr held)
  case write buff off =>
    split at fired <;> cases fired
    exact late rfl (.inr (congrArg TcpPoint.held point).symm)
  case returnBuffer buff =>
    cases fired
    refine ⟨owned.returnBuffer (congrArg TcpPoint.held point) rfl, ?_, nofun⟩
    unfold returnBufferToBufferPool
    split
    · split
      · exact ⟨wired.fits, wired.pending⟩
      · exact ⟨wired.fits, wired.pending⟩
    · exact ⟨wired.fits, wired.pending⟩
  case returned => cases fired

/-- A stream that takes bytes keeps all that is orderly; the thread keeps its array until all
were taken.
-/
theorem streamTakes_orderly (orderly : receiver.Orderly) {count : Nat} {next : Receiver}
    (fired : receiver.streamTakes count = some next)
    : next.Orderly := by
  obtain ⟨owned, wired, early⟩ := orderly
  unfold streamTakes at fired
  split at fired <;> cases fired
  · exact ⟨owned.tcpAt (.inl rfl), ⟨wired.fits, wired.pending⟩, nofun⟩
  · rename_i point
    exact ⟨owned.tcpAt (.inr (congrArg TcpPoint.held point).symm), ⟨wired.fits, wired.pending⟩,
      nofun⟩

/-- A thread that leaves its loop keeps all that is orderly; its array is dropped. -/
theorem tcpLeaves_orderly (orderly : receiver.Orderly) {next : Receiver}
    (fired : receiver.tcpLeaves = some next)
    : next.Orderly := by
  obtain ⟨owned, wired, early⟩ := orderly
  unfold tcpLeaves at fired
  split at fired <;> cases fired
  all_goals exact ⟨owned.tcpAt (.inl rfl), ⟨wired.fits, wired.pending⟩, nofun⟩

end TcpSteps

-----------------------------------------------------------------------------------------
-- Every step
-----------------------------------------------------------------------------------------

section Steps

variable {receiver next : Receiver}

/-- At the beginning all is orderly: no array is anywhere and no request is pending. -/
theorem initial_orderly (queueSize : Nat) : (initial queueSize).Orderly := by
  refine ⟨fun array => ?_, ⟨fun _ => rfl, nofun⟩, fun _ => ⟨rfl, rfl⟩⟩
  have empty : (initial queueSize).holders = fun _ => [] := by
    funext place
    match place with
    | 0 | 1 | 2 | 3 | _ + 4 => rfl
  rw [empty, occurrences_nil]
  exact Nat.zero_le _

/-- A step of the USB thread that keeps the arrays apart keeps all, since the TCP thread is
where it was.
-/
theorem UsbMoves.orderly (moves : receiver.UsbMoves next) (orderly : receiver.Orderly)
    (settled : next.Owned ∧ next.Wired)
    : next.Orderly := by
  refine ⟨settled.1, settled.2, fun early => ?_⟩
  rw [moves.tcp] at early
  exact absurd (orderly.early early).1 moves.started

/-- Every step keeps the arrays apart. Witness: the steps of both threads, the requests and
the stream, by cases on the event.
-/
theorem step_orderly (orderly : receiver.Orderly) {event : ReceiverEvent}
    (fired : receiver.step event = some next)
    : next.Orderly := by
  obtain ⟨owned, wired, early⟩ := orderly
  cases event with
  | usbGoesOn success =>
      exact (usbMoves_usbStep owned fired).orderly ⟨owned, wired, early⟩
        (usbStep_settled owned wired fired)
  | noRequest =>
      obtain ⟨waits, moved⟩ := Option.ite_none_right_eq_some.mp fired
      cases moved
      have moves : receiver.UsbMoves (receiver.usbAt .cancel) :=
        usbMoves_usbAt (by simp [waits]) nofun
      exact moves.orderly ⟨owned, wired, early⟩ ⟨owned.usbAt rfl, trivial, wired.pending⟩
  | otherEndpoint =>
      obtain ⟨waits, moved⟩ := Option.ite_none_right_eq_some.mp fired
      cases moved
      have moves : receiver.UsbMoves (receiver.usbAt .testMode) :=
        usbMoves_usbAt (by simp [waits]) nofun
      exact moves.orderly ⟨owned, wired, early⟩ ⟨owned.usbAt rfl, trivial, wired.pending⟩
  | completed i packet =>
      exact (usbMoves_complete owned wired fired).orderly ⟨owned, wired, early⟩
        (complete_settled owned wired fired)
  | usbWrites i contents =>
      obtain ⟨array, pending, rfl⟩ := Option.map_eq_some_iff.mp fired
      exact ⟨owned, ⟨wired.fits, wired.pending⟩, early⟩
  | tcpGoesOn => exact tcpStep_orderly ⟨owned, wired, early⟩ fired
  | streamTakes count => exact streamTakes_orderly ⟨owned, wired, early⟩ fired
  | tcpLeaves => exact tcpLeaves_orderly ⟨owned, wired, early⟩ fired
  | modeSet mode =>
      cases fired
      exact ⟨owned, ⟨wired.fits, wired.pending⟩, early⟩

end Steps

end Receiver

end RtlTcpAndro.HackRf
