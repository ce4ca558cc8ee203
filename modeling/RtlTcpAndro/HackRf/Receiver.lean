import RtlTcpAndro.Interleaving.Schedule
import Mathlib.Logic.Function.Basic

/-! The path of the samples through a HackRF session: `Hackrf.receiveLoop` runs on the USB
thread, and `HackRfTcp.serveAndBlock` starts it with `Hackrf.startRX` and sends what it queues.
Byte arrays are numbered in the order of their allocation.
-/

namespace RtlTcpAndro.HackRf

open RtlTcpAndro.Interleaving

-----------------------------------------------------------------------------------------
-- State
-----------------------------------------------------------------------------------------

/-- The `HACKRF_TRANSCEIVER_MODE_…` constants. -/
inductive TransceiverMode
  | off
  | receive
  | transmit
  deriving DecidableEq, Repr

/-- `numUsbRequests` -/
def numUsbRequests : Nat := 4

/-- `packetSize`, which `getPacketSize` returns. -/
def packetSize : Nat := 1024 * 16

/-- A `UsbRequest`: the array behind its client data, and that of the buffer it is pending
with.
-/
structure UsbRequest where
  clientData : Option Nat
  pending : Option Nat
  deriving DecidableEq, Repr

/-- A thread inside `receiveLoop`. -/
inductive UsbPoint
  | unstarted
  | initializeRequest (i : Nat)
  | queueFirst (i buffer : Nat)
  | stopUnqueued
  | testMode
  | requestWait
  | offer (i buffer : Nat)
  | refill (i : Nat)
  | queueAgain (i buffer : Nat)
  | cancel
  | testStillReceiving
  | stopReceiving
  | returned
  deriving DecidableEq, Repr

/-- A thread inside `serveAndBlock`. -/
inductive TcpPoint
  | accept
  | clearQueue
  | setTransceiverMode
  | startUsbThread
  | sendDongleInfo (rest : List UInt8)
  | testCanceled
  | poll
  | convert (buff i : Nat)
  | write (buff off : Nat)
  | returnBuffer (buff : Nat)
  | returned
  deriving DecidableEq, Repr

/-- The fields of a `Hackrf` that the two threads share, the byte arrays, where the threads
are, and what has passed so far: the packet that arrived last, the packets the queue accepted
and the bytes written to the client.
-/
structure Receiver where
  heap : Nat → List UInt8
  allocated : Nat
  transceiverMode : TransceiverMode
  queue : List Nat
  bufferPool : List Nat
  capacity : Nat
  usbRequests : Nat → UsbRequest
  usb : UsbPoint
  tcp : TcpPoint
  packet : List UInt8
  accepted : List (List UInt8)
  sent : List UInt8

/-- What the threads and their environment do next: the USB thread goes on, with the outcome
of the call it makes; `requestWait` returns null, a request for another endpoint or a request
with its packet; the device writes to the buffer of a pending request; the TCP thread goes on;
its output stream takes bytes; it leaves `serveAndBlock` for an exception, an interrupt or a
cancel; another thread sets the transceiver mode.
-/
inductive ReceiverEvent
  | usbGoesOn (success : Bool)
  | noRequest
  | otherEndpoint
  | completed (i : Nat) (packet : List UInt8)
  | usbWrites (i : Nat) (contents : List UInt8)
  | tcpGoesOn
  | streamTakes (count : Nat)
  | tcpLeaves
  | modeSet (mode : TransceiverMode)
  deriving DecidableEq, Repr

-----------------------------------------------------------------------------------------
-- The calls
-----------------------------------------------------------------------------------------

namespace Receiver

/-- An array gets other contents. -/
def store (receiver : Receiver) (array : Nat) (contents : List UInt8) : Receiver :=
  { receiver with heap := Function.update receiver.heap array contents }

/-- A packet fills an array. -/
def arrive (receiver : Receiver) (array : Nat) (packet : List UInt8) : Receiver :=
  { receiver.store array packet with packet := packet }

/-- The USB thread moves on. -/
def usbAt (receiver : Receiver) (point : UsbPoint) : Receiver := { receiver with usb := point }

/-- The TCP thread moves on. -/
def tcpAt (receiver : Receiver) (point : TcpPoint) : Receiver := { receiver with tcp := point }

/-- A request gets another state. -/
def setRequest (receiver : Receiver) (i : Nat) (request : UsbRequest) : Receiver :=
  { receiver with usbRequests := Function.update receiver.usbRequests i request }

/-- `getBufferFromBufferPool`: an array of the pool, or a new one. -/
def getBufferFromBufferPool (receiver : Receiver) : Receiver × Nat :=
  match receiver.bufferPool with
  | buffer :: rest => ({ receiver with bufferPool := rest }, buffer)
  | [] =>
      ({ receiver.store receiver.allocated (List.replicate packetSize 0) with
          allocated := receiver.allocated + 1 },
        receiver.allocated)

/-- `returnBufferToBufferPool` -/
def returnBufferToBufferPool (receiver : Receiver) (buffer : Nat) : Receiver :=
  if (receiver.heap buffer).length = packetSize then
    if receiver.bufferPool.length < receiver.capacity then
      { receiver with bufferPool := receiver.bufferPool ++ [buffer] }
    else receiver
  else receiver

/-- `queue.offer`, which refuses an array when the queue is full. -/
def queueOffer (receiver : Receiver) (buffer : Nat) : Receiver :=
  if receiver.queue.length < receiver.capacity then
    { receiver with
      queue := receiver.queue ++ [buffer]
      accepted := receiver.accepted ++ [receiver.packet] }
  else receiver

end Receiver

/-- `int b = buff[i]; … (byte) (b + 128)` -/
def toUnsigned (b : UInt8) : UInt8 := (b.toInt8.toInt32 + 128).toInt8.toUInt8

/-- The bytes of `sendDongleInfo`: the magic, then two ints. -/
def dongleInfo : List UInt8 :=
  [0x68, 0x78, 0x72, 0x66] ++ List.replicate 4 0 ++ List.replicate 4 0

-----------------------------------------------------------------------------------------
-- The threads
-----------------------------------------------------------------------------------------

namespace Receiver

/-- The USB thread gets a buffer for a request and sets it as the request's client data. -/
def wrapBuffer (receiver : Receiver) (i : Nat) (next : Nat → UsbPoint) : Receiver :=
  let (receiver, buffer) := receiver.getBufferFromBufferPool
  (receiver.setRequest i { receiver.usbRequests i with clientData := some buffer }).usbAt
    (next buffer)

/-- `usbRequests[i].queue(buffer, getPacketSize())`, and where the USB thread goes when it
succeeds and when it fails.
-/
def queueRequest (receiver : Receiver) (i buffer : Nat) (success : Bool)
    (queued failed : UsbPoint) : Receiver :=
  if success then
    (receiver.setRequest i { receiver.usbRequests i with pending := some buffer }).usbAt queued
  else receiver.usbAt failed

/-- The next step of `receiveLoop`. A failing `stop` throws a `HackrfUsbException`. -/
def usbStep (receiver : Receiver) (success : Bool) : Option Receiver :=
  match receiver.usb with
  | .unstarted => none
  | .initializeRequest i =>
      if i < numUsbRequests then some (receiver.wrapBuffer i (.queueFirst i))
      else some (receiver.usbAt .testMode)
  | .queueFirst i buffer =>
      some (receiver.queueRequest i buffer success (.initializeRequest (i + 1)) .stopUnqueued)
  | .stopUnqueued =>
      some
        ({ receiver with transceiverMode := .off }.usbAt (if success then .testMode else .cancel))
  | .testMode =>
      some
        (receiver.usbAt (if receiver.transceiverMode = .receive then .requestWait else .cancel))
  | .requestWait => none
  | .offer i buffer => some ((receiver.queueOffer buffer).usbAt (.refill i))
  | .refill i => some (receiver.wrapBuffer i (.queueAgain i))
  | .queueAgain i buffer => some (receiver.queueRequest i buffer success .testMode .cancel)
  -- a cancelled request keeps its buffer: nothing waits for it any more
  | .cancel => some (receiver.usbAt .testStillReceiving)
  | .testStillReceiving =>
      some
        (receiver.usbAt
          (if receiver.transceiverMode = .receive then .stopReceiving else .returned))
  | .stopReceiving => some ({ receiver with transceiverMode := .off }.usbAt .returned)
  | .returned => none

/-- `requestWait` returns request `i`, whose buffer `packet` fills; then the USB thread
extracts the array of its client data.
-/
def complete (receiver : Receiver) (i : Nat) (packet : List UInt8) : Option Receiver :=
  match receiver.usb, (receiver.usbRequests i).pending, (receiver.usbRequests i).clientData with
  | .requestWait, some filled, some buffer =>
      if i < numUsbRequests ∧ packet.length = packetSize then
        some
          (((receiver.arrive filled packet).setRequest i
              { receiver.usbRequests i with pending := none }).usbAt (.offer i buffer))
      else none
  | _, _, _ => none

/-- The next step of `serveAndBlock` that waits for nothing. -/
def tcpStep (receiver : Receiver) : Option Receiver :=
  match receiver.tcp with
  | .accept => some (receiver.tcpAt .clearQueue)
  | .clearQueue => some ({ receiver with queue := [] }.tcpAt .setTransceiverMode)
  | .setTransceiverMode =>
      some ({ receiver with transceiverMode := .receive }.tcpAt .startUsbThread)
  | .startUsbThread =>
      some ((receiver.usbAt (.initializeRequest 0)).tcpAt (.sendDongleInfo dongleInfo))
  | .sendDongleInfo rest => if rest = [] then some (receiver.tcpAt .testCanceled) else none
  | .testCanceled => some (receiver.tcpAt .poll)
  | .poll =>
      match receiver.queue with
      | buff :: rest => some ({ receiver with queue := rest }.tcpAt (.convert buff 0))
      | [] => some (receiver.tcpAt .testCanceled)
  | .convert buff i =>
      if i < (receiver.heap buff).length then
        some
          ((receiver.store buff ((receiver.heap buff).modify i toUnsigned)).tcpAt
            (.convert buff (i + 1)))
      else some (receiver.tcpAt (.write buff 0))
  | .write buff off =>
      if (receiver.heap buff).length ≤ off then some (receiver.tcpAt (.returnBuffer buff))
      else none
  | .returnBuffer buff =>
      some ((receiver.returnBufferToBufferPool buff).tcpAt .testCanceled)
  | .returned => none

/-- The output stream takes the next bytes of a write. -/
def streamTakes (receiver : Receiver) (count : Nat) : Option Receiver :=
  match receiver.tcp with
  | .sendDongleInfo rest =>
      some
        { receiver.tcpAt (.sendDongleInfo (rest.drop count)) with
          sent := receiver.sent ++ rest.take count }
  | .write buff off =>
      some
        { receiver.tcpAt (.write buff (off + count)) with
          sent := receiver.sent ++ ((receiver.heap buff).drop off).take count }
  | _ => none

/-- The TCP thread leaves: `accept`, the first USB request, a write or the wait for a packet
throws, or the loop's condition fails.
-/
def tcpLeaves (receiver : Receiver) : Option Receiver :=
  match receiver.tcp with
  | .accept | .sendDongleInfo _ | .testCanceled | .poll | .write .. =>
      some (receiver.tcpAt .returned)
  | .setTransceiverMode => some ({ receiver with transceiverMode := .receive }.tcpAt .returned)
  | _ => none

/-- One step of a thread or of its environment. -/
def step (receiver : Receiver) : ReceiverEvent → Option Receiver
  | .usbGoesOn success => receiver.usbStep success
  | .noRequest => if receiver.usb = .requestWait then some (receiver.usbAt .cancel) else none
  | .otherEndpoint => if receiver.usb = .requestWait then some (receiver.usbAt .testMode) else none
  | .completed i packet => receiver.complete i packet
  | .usbWrites i contents =>
      (receiver.usbRequests i).pending.map (fun array => receiver.store array contents)
  | .tcpGoesOn => receiver.tcpStep
  | .streamTakes count => receiver.streamTakes count
  | .tcpLeaves => receiver.tcpLeaves
  | .modeSet mode => some { receiver with transceiverMode := mode }

/-- A new `Hackrf`, whose queue and buffer pool have room for `queueSize` bytes. -/
def initial (queueSize : Nat) : Receiver where
  heap := fun _ => []
  allocated := 0
  transceiverMode := .off
  queue := []
  bufferPool := []
  capacity := queueSize / packetSize
  usbRequests := fun _ => ⟨none, none⟩
  usb := .unstarted
  tcp := .accept
  packet := []
  accepted := []
  sent := []

end Receiver

/-- A HackRF session from the creation of its `Hackrf` on. -/
def hackrfSession (queueSize : Nat) : System Receiver ReceiverEvent where
  initial receiver := receiver = .initial queueSize
  step := Receiver.step

end RtlTcpAndro.HackRf
