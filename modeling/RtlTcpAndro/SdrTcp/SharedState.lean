import RtlTcpAndro.ByteStreams.WordOrder
import RtlTcpAndro.SdrTcp.WorkPool

/-! What the threads of an rtl_tcp server share: the `sdrtcp_t` object, and what the kernel
and the callers can observe of it.
-/

namespace RtlTcpAndro.SdrTcp

open RtlTcpAndro.ByteStreams

-----------------------------------------------------------------------------------------
-- The state word
-----------------------------------------------------------------------------------------

/-- The values stored in `obj->state`, `STAGE_UNINITIALIZED` to `STAGE_NEEDS_STOPPING`. -/
inductive Stage
  | uninitialized
  | initialized
  | socketOpen
  | clientOpen
  | clientOpenStartedAsync
  | clientServing
  | needsStopping
  deriving DecidableEq, Repr

/-- The number behind a stage. The source compares stages by it, and numbers
`STAGE_CLIENT_OPEN` below the `STAGE_CLIENT_OPEN_STARTED_ASYNC` it follows.
-/
def Stage.code : Stage → Nat
  | .uninitialized => 0
  | .initialized => 1
  | .socketOpen => 2
  | .clientOpen => 3
  | .clientOpenStartedAsync => 4
  | .clientServing => 5
  | .needsStopping => 6

-----------------------------------------------------------------------------------------
-- Descriptors and requests
-----------------------------------------------------------------------------------------

/-- The kernel's record of descriptors: what `socket` and `accept` returned, what is open
now, and the calls of `close`.
-/
structure Descriptors where
  sockets : List Int
  accepted : List Int
  opened : List Int
  closed : List Int
  deriving DecidableEq, Repr

/-- `socket` and `accept` fail with -1 or return a descriptor that is not open. -/
def Descriptors.Admits (descriptors : Descriptors) (result : Int) : Prop :=
  result = -1 ∨ 0 ≤ result ∧ result ∉ descriptors.opened

instance (descriptors : Descriptors) (result : Int) : Decidable (descriptors.Admits result) :=
  inferInstanceAs (Decidable (_ ∨ _))

/-- Record the result of `socket`. -/
def Descriptors.socket (descriptors : Descriptors) (result : Int) : Descriptors :=
  if result = -1 then descriptors
  else
    { descriptors with
      sockets := result :: descriptors.sockets
      opened := result :: descriptors.opened }

/-- Record the result of `accept`. -/
def Descriptors.accept (descriptors : Descriptors) (result : Int) : Descriptors :=
  if result = -1 then descriptors
  else
    { descriptors with
      accepted := result :: descriptors.accepted
      opened := result :: descriptors.opened }

/-- Record a call of `close`. -/
def Descriptors.close (descriptors : Descriptors) (descriptor : Int) : Descriptors :=
  { descriptors with
    opened := descriptors.opened.erase descriptor
    closed := descriptor :: descriptors.closed }

/-- Every descriptor the kernel handed out so far. -/
def Descriptors.obtained (descriptors : Descriptors) : List Int :=
  descriptors.sockets ++ descriptors.accepted

/-- History a run is judged by; no thread reads it. `stopObserved`: some
`sdrtcp_stop_serving_client` found a state other than `STAGE_UNINITIALIZED`.
`stopReturned`: such a call has returned since `sdrtcp_open_socket` was last entered.
`recvFailed`: some `recv` of a command listener returned -1.
-/
structure History where
  stopObserved : Bool
  stopReturned : Bool
  recvFailed : Bool
  deriving DecidableEq, Repr

/-- The part of the shared state that decides how a session proceeds. -/
structure Control where
  state : Stage
  clientSocket : Int
  listenSocket : Int
  descriptors : Descriptors
  history : History
  deriving DecidableEq, Repr

-----------------------------------------------------------------------------------------
-- The sample stream
-----------------------------------------------------------------------------------------

/-- The arguments of `sdrtcp_open_socket` that reach a client. -/
structure OpenArguments where
  dongleMagic : UInt8 × UInt8 × UInt8 × UInt8
  dongleType : UInt32
  gainsCount : UInt32
  deriving DecidableEq, Repr

/-- What passes between the callers and the client: the arguments of the `sdrtcp_open_socket`
call that queued the session's header and, since then, the payload of each `sdrtcp_feed`
call that obtained a pool buffer and the bytes `send` accepted; also the commands handed to
the command callback. No thread reads it.
-/
structure Traffic where
  opened : Option OpenArguments
  fed : List (List UInt8)
  sent : List UInt8
  commands : List (UInt8 × UInt32)
  deriving DecidableEq, Repr

/-- Everything the threads share. `stateLocker` tells whether `sdrtcp_feed` is inside its
critical section of `state_locker`; every other section of that lock is one atomic step,
enabled while the lock is free.
-/
structure Shared where
  control : Control
  stateLocker : Bool
  workpool : WorkPool
  traffic : Traffic

/-- `obj->state = stage` -/
def Shared.setState (shared : Shared) (stage : Stage) : Shared :=
  { shared with control := { shared.control with state := stage } }

/-- `obj->client_socket = descriptor` -/
def Shared.setClientSocket (shared : Shared) (descriptor : Int) : Shared :=
  { shared with control := { shared.control with clientSocket := descriptor } }

/-- `obj->listen_socket = descriptor` -/
def Shared.setListenSocket (shared : Shared) (descriptor : Int) : Shared :=
  { shared with control := { shared.control with listenSocket := descriptor } }

/-- An update of the run's history. -/
def Shared.note (shared : Shared) (update : History → History) : Shared :=
  { shared with control := { shared.control with history := update shared.control.history } }

/-- A critical section of `state_locker` taken as one step. -/
def Shared.locked {α : Type} (shared : Shared) (result : α) : Option α :=
  if shared.stateLocker then none else some result

-----------------------------------------------------------------------------------------
-- Cleanup
-----------------------------------------------------------------------------------------

/-- The critical section of `sdrtcp_cleanup`. The inner test of the state follows its own
store, so it never fails; `client_socket` is dropped without a `close`.
-/
def cleanupSection (control : Control) : Control :=
  if control.state ≠ .uninitialized then
    let control := { control with state := .uninitialized }
    let control :=
      if control.state ≠ .initialized ∧ control.listenSocket ≠ -1 then
        { control with descriptors := control.descriptors.close control.listenSocket }
      else control
    { control with clientSocket := -1, listenSocket := -1 }
  else control

/-- `sdrtcp_cleanup` -/
def sdrtcpCleanup (shared : Shared) : Shared :=
  { shared with
    control := cleanupSection shared.control
    workpool :=
      if shared.control.state ≠ .uninitialized then poolFree shared.workpool
      else shared.workpool }

-----------------------------------------------------------------------------------------
-- The header every client receives first
-----------------------------------------------------------------------------------------

/-- `htonl` and `ntohl` on the little-endian hosts the driver runs on. -/
def htonl (word : UInt32) : UInt32 := byteSwap word

/-- The bytes of the four magic characters. -/
def OpenArguments.magic (arguments : OpenArguments) : List UInt8 :=
  let (first, second, third, fourth) := arguments.dongleMagic
  [first, second, third, fourth]

/-- The bytes of a filled-in `dongle_info_t`. -/
def dongleInfo (arguments : OpenArguments) : List UInt8 :=
  arguments.magic
  ++ littleEndian (htonl arguments.dongleType)
  ++ littleEndian (htonl arguments.gainsCount)

/-- `POOL_MAX_ELEMENTS` -/
def poolMaxElements : Int := 5

/-- Fill a pool buffer with the header and pass it on, as `sdrtcp_open_socket` does while
it holds the lock and no other thread uses the pool.
-/
def queueHeader (pool : WorkPool) (info : List UInt8) (junk : List UInt8)
    : Option WorkPool := do
  let (pool, buffer) ← Interleaving.runToReturn (poolGetWaitLock 0 true) 8 pool .checkValid
  match buffer with
  | none => some pool
  | some buffer =>
      let ready ← extbufferPreparetohandle (pool.heap buffer) (info.length / 2) (some junk)
      let copied ← memcpyBlock ready.ushortbuffer info info.length
      let filled := { ready with ushortbuffer := copied }
      let (pool, _) ←
        Interleaving.runToReturn (poolGetUnlock 0 buffer) 8 (pool.setBuffer buffer filled)
          .checkValid
      some pool

/-- The first critical section of `sdrtcp_open_socket`. -/
def initialise (shared : Shared) (arguments : OpenArguments) (junk : List UInt8)
    : Option Shared := do
  let pool := poolSetThreads (poolInit shared.workpool poolMaxElements .ushort) 2
  let pool ← queueHeader pool (dongleInfo arguments) junk
  some
    { (shared.setState .initialized) with
      workpool := pool
      traffic := { shared.traffic with opened := some arguments, fed := [], sent := [] } }

end RtlTcpAndro.SdrTcp
