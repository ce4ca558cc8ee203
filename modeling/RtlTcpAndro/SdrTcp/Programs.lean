import RtlTcpAndro.SdrTcp.SharedState

/-! The functions of `sdrtcp.c` as programs: one program point before each access to what
the threads share and before each system call. A system call's answer is chosen by the
environment.
-/

namespace RtlTcpAndro.SdrTcp

open RtlTcpAndro.ByteStreams
open RtlTcpAndro.Interleaving

/-- What the environment supplies to a step: the integer a system call returns, the bytes
`recv` delivers, or what the allocator left in fresh memory.
-/
inductive Reply
  | none
  | value (result : Int)
  | bytes (contents : List UInt8)
  deriving DecidableEq, Repr

-----------------------------------------------------------------------------------------
-- sdrtcp_stop_serving_client
-----------------------------------------------------------------------------------------

/-- Program points of `sdrtcp_stop_serving_client`; `idle` is outside a call. -/
inductive StopPoint
  | idle
  | testUninitialized
  | testStage
  | cleanup
  | storeNeedsStopping
  deriving DecidableEq, Repr

/-- A stop that saw a live session returns. -/
def History.stopped (history : History) : History := { history with stopReturned := true }

/-- `sdrtcp_stop_serving_client` -/
def sdrtcpStopServingClient (shared : Shared) : StopPoint → Option (Shared × StopPoint)
  | .idle => none
  | .testUninitialized =>
      if shared.control.state = .uninitialized then some (shared, .idle)
      else
        some
          (shared.note (fun history => { history with stopObserved := true }), .testStage)
  | .testStage =>
      if shared.control.state.code < Stage.clientOpenStartedAsync.code then
        some (shared, .cleanup)
      else some (shared, .storeNeedsStopping)
  | .cleanup => shared.locked ((sdrtcpCleanup shared).note History.stopped, .idle)
  | .storeNeedsStopping =>
      some ((shared.setState .needsStopping).note History.stopped, .idle)

-----------------------------------------------------------------------------------------
-- sdrtcp_open_socket and sdrtcp_serve_client_async
-----------------------------------------------------------------------------------------

/-- Program points of `sdrtcp_open_socket`. -/
inductive OpenPoint
  | testUninitialized
  | clearListenSocket
  | initialise
  | testInitialized
  | createSocket
  | publishSocket
  | testSocketOpen
  | bindAndListen
  | testSuccess (success : Bool)
  | fail
  deriving DecidableEq, Repr

/-- `sdrtcp_open_socket`; it returns whether the socket is open. -/
def sdrtcpOpenSocket (arguments : OpenArguments) (shared : Shared) (reply : Reply)
    : OpenPoint → Option (Shared × Progress OpenPoint Bool)
  | .testUninitialized =>
      if shared.control.state ≠ .uninitialized then some (shared, .point .fail)
      else some (shared, .point .clearListenSocket)
  | .clearListenSocket => some (shared.setListenSocket (-1), .point .initialise)
  | .initialise =>
      match reply with
      | .bytes junk => do
          let ready ← initialise shared arguments junk
          shared.locked (ready, .point .testInitialized)
      | _ => none
  | .testInitialized =>
      if shared.control.state = .initialized then some (shared, .point .createSocket)
      else some (shared, .point .publishSocket)
  | .createSocket =>
      match reply with
      | .value result =>
          if shared.control.descriptors.Admits result then
            let control :=
              { shared.control with
                listenSocket := result
                descriptors := shared.control.descriptors.socket result }
            some ({ shared with control := control }, .point .publishSocket)
          else none
      | _ => none
  | .publishSocket =>
      shared.locked
        (if shared.control.listenSocket ≠ -1 then shared.setState .socketOpen else shared,
          .point .testSocketOpen)
  | .testSocketOpen =>
      if shared.control.state = .socketOpen then some (shared, .point .bindAndListen)
      else some (shared, .point (.testSuccess false))
  | .bindAndListen =>
      -- `setsockopt`, `bind`, `fcntl` and `listen` act on the kernel's socket only
      match reply with
      | .value result => some (shared, .point (.testSuccess (result = 0)))
      | _ => none
  | .testSuccess success =>
      if shared.control.state = .socketOpen ∧ success then some (shared, .returned true)
      else some (shared, .point .fail)
  | .fail => shared.locked (sdrtcpCleanup shared, .returned false)

/-- Program points of `sdrtcp_serve_client_async`. -/
inductive ServePoint
  | testSocketOpen
  | closedcb
  | cleanup
  | storeStartedAsync
  | createThread
  deriving DecidableEq, Repr

/-- `sdrtcp_serve_client_async`; it returns whether it created the server thread. The three
callback fields are set between `storeStartedAsync` and `createThread`, and read by the
created threads only.
-/
def sdrtcpServeClientAsync (shared : Shared)
    : ServePoint → Option (Shared × Progress ServePoint Bool)
  | .testSocketOpen =>
      if shared.control.state ≠ .socketOpen then some (shared, .point .closedcb)
      else some (shared, .point .storeStartedAsync)
  | .closedcb => some (shared, .point .cleanup)
  | .cleanup => shared.locked (sdrtcpCleanup shared, .returned false)
  | .storeStartedAsync =>
      some (shared.setState .clientOpenStartedAsync, .point .createThread)
  | .createThread => some (shared, .returned true)

-----------------------------------------------------------------------------------------
-- sdrtcp_feed
-----------------------------------------------------------------------------------------

/-- The arguments of one `sdrtcp_feed` call: the caller's memory from `buf` on, and `len`. -/
structure FeedCall where
  buf : List UInt8
  len : Nat
  deriving DecidableEq, Repr

/-- The caller's buffer holds the `len` 16-bit elements it announces, and their number is
below 2^30, so that it survives the conversion to `int`.
-/
def FeedCall.Valid (call : FeedCall) : Prop :=
  2 * call.len ≤ call.buf.length ∧ call.len < 2 ^ 30

instance (call : FeedCall) : Decidable call.Valid := inferInstanceAs (Decidable (_ ∧ _))

/-- The bytes a feed call hands over. -/
def FeedCall.payload (call : FeedCall) : List UInt8 := call.buf.take (2 * call.len)

/-- Program points of `sdrtcp_feed`; `returned` is outside a call and keeps the result. -/
inductive FeedPoint
  | returned (result : Nat)
  | testServing (call : FeedCall)
  | lock (call : FeedCall)
  | testLocked (call : FeedCall)
  | get (call : FeedCall) (pos : GetPoint)
  | prepare (call : FeedCall) (buffer : Nat)
  | copy (call : FeedCall) (buffer : Nat)
  | pass (call : FeedCall) (buffer : Nat) (pos : UnlockPoint)
  | testWaiting (stages : List Stage) (holdsLock : Bool)
  | unlock (result : Nat)
  deriving DecidableEq, Repr

/-- The stages in which `sdrtcp_feed` sleeps and reports that no client is there yet. -/
def waitingStages : List Stage := [.socketOpen, .clientOpen, .clientOpenStartedAsync]

/-- `sdrtcp_feed` -/
def sdrtcpFeed (shared : Shared) (reply : Reply) : FeedPoint → Option (Shared × FeedPoint)
  | .returned _ => none
  | .testServing call =>
      if shared.control.state = .clientServing then some (shared, .lock call)
      else some (shared, .testWaiting waitingStages false)
  | .lock call => shared.locked ({ shared with stateLocker := true }, .testLocked call)
  | .testLocked call =>
      if shared.control.state = .clientServing then some (shared, .get call .checkValid)
      else some (shared, .testWaiting waitingStages true)
  | .get call pos =>
      match poolGetWaitLock 0 true shared.workpool pos with
      | (pool, .point next) => some ({ shared with workpool := pool }, .get call next)
      | (pool, .returned none) => some ({ shared with workpool := pool }, .unlock 1)
      | (pool, .returned (some buffer)) =>
          let traffic := { shared.traffic with fed := shared.traffic.fed ++ [call.payload] }
          some ({ shared with workpool := pool, traffic := traffic }, .prepare call buffer)
  | .prepare call buffer =>
      match reply with
      | .bytes junk => do
          let ready ←
            extbufferPreparetohandle (shared.workpool.heap buffer) call.len (some junk)
          some
            ({ shared with workpool := shared.workpool.setBuffer buffer ready },
              .copy call buffer)
      | _ => none
  | .copy call buffer => do
      let old := shared.workpool.heap buffer
      let copied ← memcpyBlock old.ushortbuffer call.buf (2 * call.len)
      let filled := { old with ushortbuffer := copied }
      some
        ({ shared with workpool := shared.workpool.setBuffer buffer filled },
          .pass call buffer .checkValid)
  | .pass call buffer pos =>
      match poolGetUnlock 0 buffer shared.workpool pos with
      | (pool, .point next) => some ({ shared with workpool := pool }, .pass call buffer next)
      | (pool, .returned _) => some ({ shared with workpool := pool }, .unlock 1)
  | .testWaiting [] holdsLock =>
      some (shared, if holdsLock then .unlock 0 else .returned 0)
  | .testWaiting (stage :: stages) holdsLock =>
      if shared.control.state = stage then
        some (shared, if holdsLock then .unlock 2 else .returned 2)
      else some (shared, .testWaiting stages holdsLock)
  | .unlock result => some ({ shared with stateLocker := false }, .returned result)

-----------------------------------------------------------------------------------------
-- The server thread
-----------------------------------------------------------------------------------------

/-- Program points of `sdrtcp_wait_for_client`. -/
inductive WaitPoint
  | testStartedAsync
  | clearClientSocket
  | loop
  | testSelect
  | select
  | testAccept (r : Int)
  | accept
  | testClientSocket
  | storeClientOpen
  deriving DecidableEq, Repr

/-- `sdrtcp_wait_for_client` -/
def sdrtcpWaitForClient (shared : Shared) (reply : Reply)
    : WaitPoint → Option (Shared × Progress WaitPoint Unit)
  | .testStartedAsync =>
      if shared.control.state ≠ .clientOpenStartedAsync then some (shared, .returned ())
      else some (shared, .point .clearClientSocket)
  | .clearClientSocket => some (shared.setClientSocket (-1), .point .loop)
  | .loop =>
      if shared.control.state = .clientOpenStartedAsync then some (shared, .point .testSelect)
      else some (shared, .returned ())
  | .testSelect =>
      if shared.control.state = .clientOpenStartedAsync then some (shared, .point .select)
      else some (shared, .point (.testAccept 0))
  | .select =>
      match reply with
      | .value r => some (shared, .point (.testAccept r))
      | _ => none
  | .testAccept r =>
      if r ≠ 0 ∧ shared.control.state = .clientOpenStartedAsync then
        some (shared, .point .accept)
      else some (shared, .point .loop)
  | .accept =>
      match reply with
      | .value result =>
          if shared.control.descriptors.Admits result then
            let control :=
              { shared.control with
                clientSocket := result
                descriptors := shared.control.descriptors.accept result }
            some ({ shared with control := control }, .point .testClientSocket)
          else none
      | _ => none
  | .testClientSocket =>
      if shared.control.clientSocket ≠ -1 then some (shared, .point .storeClientOpen)
      else some (shared, .returned ())
  | .storeClientOpen => some (shared.setState .clientOpen, .point .loop)

/-- The locals of `serveClient`'s sending loop. -/
structure Sending where
  buffer : Nat
  index : Int
  bytesleft : Int
  deriving DecidableEq, Repr

/-- Program points of `serveClient`. -/
inductive ServeClientPoint
  | loop
  | testServing
  | get (pos : GetPoint)
  | measure (buffer : Nat)
  | sendLoop (sending : Sending)
  | testSelect (sending : Sending)
  | select (sending : Sending)
  | storeSelectFailed (sending : Sending)
  | testSend (sending : Sending) (r : Int)
  | send (sending : Sending)
  | testSendFailed (sending : Sending) (bytessent : Int)
  | storeSendFailed (sending : Sending)
  | pass (buffer : Nat) (pos : UnlockPoint)
  deriving DecidableEq, Repr

/-- The bytes `send` is offered: `bytesleft` bytes from `data_to_send + index` on. -/
def Sending.offered (sending : Sending) (pool : WorkPool) : List UInt8 :=
  (((pool.heap sending.buffer).ushortbuffer.getD []).drop sending.index.toNat).take
    sending.bytesleft.toNat

/-- `serveClient` -/
def serveClient (shared : Shared) (reply : Reply)
    : ServeClientPoint → Option (Shared × Progress ServeClientPoint Unit)
  | .loop =>
      if shared.control.state = .clientServing then some (shared, .point .testServing)
      else some (shared, .returned ())
  | .testServing =>
      if shared.control.state = .clientServing then
        some (shared, .point (.get .checkValid))
      else some (shared, .returned ())
  | .get pos =>
      match poolGetWaitLock 1 true shared.workpool pos with
      | (pool, .point next) => some ({ shared with workpool := pool }, .point (.get next))
      | (pool, .returned none) => some ({ shared with workpool := pool }, .point .loop)
      | (pool, .returned (some buffer)) =>
          some ({ shared with workpool := pool }, .point (.measure buffer))
  | .measure buffer =>
      some
        (shared,
          .point
            (.sendLoop ⟨buffer, 0, 2 * (shared.workpool.heap buffer).sizeValidElements⟩))
  | .sendLoop sending =>
      if 0 < sending.bytesleft ∧ shared.control.state = .clientServing then
        some (shared, .point (.testSelect sending))
      else some (shared, .point (.pass sending.buffer .checkValid))
  | .testSelect sending =>
      if shared.control.state = .clientServing then some (shared, .point (.select sending))
      else some (shared, .point (.sendLoop sending))
  | .select sending =>
      match reply with
      | .value r =>
          if r = -1 then some (shared, .point (.storeSelectFailed sending))
          else some (shared, .point (.testSend sending r))
      | _ => none
  | .storeSelectFailed sending =>
      some (shared.setState .needsStopping, .point (.testSend sending (-1)))
  | .testSend sending r =>
      if r ≠ 0 ∧ shared.control.state = .clientServing then
        some (shared, .point (.send sending))
      else some (shared, .point (.sendLoop sending))
  | .send sending =>
      match reply with
      | .value bytessent =>
          if bytessent = -1 ∨ 0 ≤ bytessent ∧ bytessent ≤ sending.bytesleft then
            let accepted := (sending.offered shared.workpool).take bytessent.toNat
            let traffic := { shared.traffic with sent := shared.traffic.sent ++ accepted }
            let next :=
              { sending with
                bytesleft := sending.bytesleft - bytessent
                index := sending.index + bytessent }
            some ({ shared with traffic := traffic }, .point (.testSendFailed next bytessent))
          else none
      | _ => none
  | .testSendFailed sending bytessent =>
      if bytessent = -1 ∧ shared.control.state = .clientServing then
        some (shared, .point (.storeSendFailed sending))
      else some (shared, .point (.sendLoop sending))
  | .storeSendFailed sending =>
      some (shared.setState .needsStopping, .point (.sendLoop sending))
  | .pass buffer pos =>
      match poolGetUnlock 1 buffer shared.workpool pos with
      | (pool, .point next) =>
          some ({ shared with workpool := pool }, .point (.pass buffer next))
      | (pool, .returned _) => some ({ shared with workpool := pool }, .point .loop)

/-- Program points of `tcp_server`; its calls are at the points of the called function. -/
inductive ServerPoint
  | notStarted
  | waiting (pos : WaitPoint)
  | testClientOpen
  | createListener
  | storeServing
  | serving (pos : ServeClientPoint)
  | join
  | testFinal
  | cleanup
  | closedcb
  | exited
  deriving DecidableEq, Repr

/-- `tcp_server`; the creation of the command listener and the wait for its end are steps
that the interleaving adds, told here by `joined`.
-/
def tcpServer (shared : Shared) (reply : Reply) (joined : Bool)
    : ServerPoint → Option (Shared × ServerPoint)
  | .notStarted => none
  | .waiting pos => do
      match ← sdrtcpWaitForClient shared reply pos with
      | (shared, .point next) => some (shared, .waiting next)
      | (shared, .returned _) => some (shared, .testClientOpen)
  | .testClientOpen =>
      if shared.control.state = .clientOpen then some (shared, .createListener)
      else some (shared, .testFinal)
  | .createListener => some (shared, .storeServing)
  | .storeServing => shared.locked (shared.setState .clientServing, .serving .loop)
  | .serving pos => do
      match ← serveClient shared reply pos with
      | (shared, .point next) => some (shared, .serving next)
      | (shared, .returned _) => some (shared, .join)
  | .join => if joined then some (shared, .testFinal) else none
  | .testFinal =>
      shared.locked
        (shared,
          if shared.control.state ≠ .uninitialized then .cleanup else .closedcb)
  | .cleanup => shared.locked (sdrtcpCleanup shared, .closedcb)
  | .closedcb => some (shared, .exited)
  | .exited => none

-----------------------------------------------------------------------------------------
-- The command listener thread
-----------------------------------------------------------------------------------------

/-- The locals of `commandListener`: the bytes of the packed `sdr_tcp_command_t cmd`, and
`left`.
-/
structure Receiving where
  cmd : List UInt8
  left : Int
  deriving DecidableEq, Repr

/-- `sizeof(sdr_tcp_command_t)`: a packed `uint8_t` and `uint32_t`. -/
def commandSize : Nat := 5

/-- Program points of `commandListener`. -/
inductive ListenerPoint
  | notStarted
  | loop (receiving : Receiving)
  | receiveLoop (receiving : Receiving)
  | testSelect (receiving : Receiving)
  | select (receiving : Receiving)
  | testReceive (receiving : Receiving) (r : Int)
  | receive (receiving : Receiving)
  | storeReceiveFailed (receiving : Receiving)
  | testComplete (receiving : Receiving)
  | commandcb (receiving : Receiving)
  | exited
  deriving DecidableEq, Repr

/-- `cmd` and `left` before the first command. -/
def Receiving.initial : Receiving := ⟨List.replicate commandSize 0, 0⟩

/-- `recv` stores its bytes at `(char *) &cmd + (sizeof(cmd) - left)`. -/
def Receiving.store (receiving : Receiving) (received : List UInt8) : Receiving where
  cmd :=
    receiving.cmd.take (commandSize - receiving.left.toNat)
    ++ received
    ++ receiving.cmd.drop (commandSize - receiving.left.toNat + received.length)
  left := receiving.left - received.length

/-- The command and parameter that a filled `cmd` holds once `ntohl` was applied. -/
def Receiving.command (receiving : Receiving) : UInt8 × UInt32 :=
  match receiving.cmd with
  | [command, first, second, third, fourth] =>
      (command, htonl (ofLittleEndian first second third fourth))
  | _ => (0, 0)

/-- `cmd` after the callback: its parameter in host order, its command 0xff. -/
def Receiving.reset (receiving : Receiving) : Receiving :=
  { receiving with cmd := 0xff :: littleEndian receiving.command.2 }

/-- `commandListener`. A received chunk is never longer than the `left` bytes asked for. -/
def commandListener (shared : Shared) (reply : Reply)
    : ListenerPoint → Option (Shared × ListenerPoint)
  | .notStarted => none
  | .loop receiving =>
      if shared.control.state = .clientServing then
        some (shared, .receiveLoop { receiving with left := commandSize })
      else some (shared, .exited)
  | .receiveLoop receiving =>
      if 0 < receiving.left ∧ shared.control.state = .clientServing then
        some (shared, .testSelect receiving)
      else some (shared, .testComplete receiving)
  | .testSelect receiving =>
      if shared.control.state = .clientServing then some (shared, .select receiving)
      else some (shared, .testReceive receiving 0)
  | .select receiving =>
      match reply with
      | .value r => some (shared, .testReceive receiving r)
      | _ => none
  | .testReceive receiving r =>
      if shared.control.state = .clientServing ∧ r ≠ 0 then
        some (shared, .receive receiving)
      else some (shared, .receiveLoop receiving)
  | .receive receiving =>
      match reply with
      | .bytes received =>
          if (received.length : Int) ≤ receiving.left then
            some (shared, .receiveLoop (receiving.store received))
          else none
      | .value result =>
          if result = -1 then
            some
              (shared.note (fun history => { history with recvFailed := true }),
                .storeReceiveFailed { receiving with left := receiving.left + 1 })
          else none
      | .none => none
  | .storeReceiveFailed receiving =>
      some (shared.setState .needsStopping, .testComplete receiving)
  | .testComplete receiving =>
      if shared.control.state = .clientServing ∧ receiving.left = 0 then
        let commands := shared.traffic.commands ++ [receiving.command]
        some
          ({ shared with traffic := { shared.traffic with commands := commands } },
            .commandcb receiving)
      else some (shared, .loop receiving)
  | .commandcb receiving => some (shared, .loop receiving.reset)
  | .exited => none

end RtlTcpAndro.SdrTcp
