import Mathlib.Logic.Function.Basic
import RtlTcpAndro.Interleaving.Schedule
import RtlTcpAndro.SdrTcp.ExtBuffer

/-! The buffer pool of `workpool.c`, one atomic step for each access a thread can be
interrupted before. A queue is the list of its payloads in FIFO order; the mutex and
condition of a queue are the atomicity of its operations.
-/

namespace RtlTcpAndro.SdrTcp

open RtlTcpAndro.Interleaving

-----------------------------------------------------------------------------------------
-- The pool
-----------------------------------------------------------------------------------------

/-- `workpool_t`, with the `extbuffer_t`s it allocated: `heap` holds them by address and
`allocated` is the next fresh address.
-/
structure WorkPool where
  queues : Nat → List Nat
  maxElements : Int
  maxIds : Int
  elements : Int
  extbufferType : ExtBufferType
  valid : Bool
  heap : Nat → ExtBuffer
  allocated : Nat

/-- `queue_pop` on queue `id` -/
def WorkPool.queuePop (pool : WorkPool) (id : Nat) : Option Nat × WorkPool :=
  match pool.queues id with
  | [] => (none, pool)
  | buffer :: rest =>
      (some buffer, { pool with queues := Function.update pool.queues id rest })

/-- From an empty queue nothing is taken, and the pool stays as it is. -/
theorem WorkPool.queuePop_nil {pool : WorkPool} {id : Nat} (queue : pool.queues id = [])
    : pool.queuePop id = (none, pool) := by
  simp [queuePop, queue]

/-- From a queue the first buffer is taken, and the rest stays queued. -/
theorem WorkPool.queuePop_cons {pool : WorkPool} {id buffer : Nat} {rest : List Nat}
    (queue : pool.queues id = buffer :: rest)
    : pool.queuePop id
      = (some buffer, { pool with queues := Function.update pool.queues id rest }) := by
  simp [queuePop, queue]

/-- `queue_add` on queue `id` -/
def WorkPool.queueAdd (pool : WorkPool) (id buffer : Nat) : WorkPool :=
  { pool with queues := Function.update pool.queues id (pool.queues id ++ [buffer]) }

/-- A store through the pointer `buffer`. -/
def WorkPool.setBuffer (pool : WorkPool) (buffer : Nat) (contents : ExtBuffer) : WorkPool :=
  { pool with heap := Function.update pool.heap buffer contents }

/-- `pool_init` -/
def poolInit (pool : WorkPool) (maxElements : Int) (extbufferType : ExtBufferType)
    : WorkPool :=
  { pool with
    queues := fun _ => []
    maxElements := maxElements
    maxIds := 0
    elements := 0
    extbufferType := extbufferType
    valid := false }

/-- `pool_free`: every queued buffer is freed; a buffer some thread holds is not. -/
def poolFree (pool : WorkPool) : WorkPool :=
  if 0 < pool.maxIds then
    let queued := (List.range pool.maxIds.toNat).flatMap pool.queues
    { pool with
      heap := fun buffer =>
        if buffer ∈ queued then extbufferFree (pool.heap buffer) else pool.heap buffer
      queues := fun _ => []
      maxIds := 0
      elements := 0
      valid := false }
  else { pool with valid := false }

/-- `pool_set_threads` -/
def poolSetThreads (pool : WorkPool) (numberOfIds : Int) : WorkPool :=
  if numberOfIds ≤ 0 then pool
  else { poolFree pool with maxIds := numberOfIds, queues := fun _ => [], valid := true }

-----------------------------------------------------------------------------------------
-- Taking a buffer
-----------------------------------------------------------------------------------------

/-- Program points of `pool_get_wait_lock`, those of `pop` included. -/
inductive GetPoint
  | checkValid
  | tryPop
  | testCapacity
  | allocate
  | loadElements (result : Nat)
  | storeElements (result : Nat) (elements : Int)
  | waitPop
  | timedPop
  deriving DecidableEq, Repr

/-- `pool_get_wait_lock`. `timedPop` is the pop after `pthread_cond_timedwait`, whether it
was signalled or timed out.
-/
def poolGetWaitLock (id : Nat) (block : Bool) (pool : WorkPool)
    : GetPoint → WorkPool × Progress GetPoint (Option Nat)
  | .checkValid =>
      if pool.valid then (pool, .point .tryPop) else (pool, .returned none)
  | .tryPop =>
      if pool.valid then
        match pool.queuePop id with
        | (some buffer, popped) => (popped, .returned (some buffer))
        | (none, popped) => (popped, .point .testCapacity)
      else (pool, .point .testCapacity)
  | .testCapacity =>
      if id = 0 ∧ pool.elements < pool.maxElements then (pool, .point .allocate)
      else if block then (pool, .point .waitPop)
      else (pool, .returned none)
  | .allocate =>
      let result := pool.allocated
      ({ pool.setBuffer result (extbufferInit pool.extbufferType) with
          allocated := result + 1 },
        .point (.loadElements result))
  | .loadElements result => (pool, .point (.storeElements result (pool.elements + 1)))
  | .storeElements result elements =>
      ({ pool with elements := elements }, .returned (some result))
  | .waitPop =>
      if pool.valid then
        match pool.queuePop id with
        | (some buffer, popped) => (popped, .returned (some buffer))
        | (none, popped) => (popped, .point .timedPop)
      else (pool, .returned none)
  | .timedPop =>
      let (result, popped) := pool.queuePop id
      (popped, .returned result)

-----------------------------------------------------------------------------------------
-- Passing a buffer on
-----------------------------------------------------------------------------------------

/-- Program points of `pool_get_unlock`. -/
inductive UnlockPoint
  | checkValid
  | reset
  | add (target : Nat)
  deriving DecidableEq, Repr

/-- `pool_get_unlock` on `buffer`: the last stage empties it for queue 0, any other passes
it to the next queue.
-/
def poolGetUnlock (id buffer : Nat) (pool : WorkPool)
    : UnlockPoint → WorkPool × Progress UnlockPoint Unit
  | .checkValid =>
      if pool.valid then
        (pool, .point (if (id : Int) = pool.maxIds - 1 then .reset else .add (id + 1)))
      else (pool, .returned ())
  | .reset =>
      -- `extbuffer_preparetohandle(buffer, 0)` allocates nothing and cannot fault
      let emptied := (extbufferPreparetohandle (pool.heap buffer) 0 none).getD (pool.heap buffer)
      (pool.setBuffer buffer emptied, .point (.add 0))
  | .add target =>
      (if pool.valid then pool.queueAdd target buffer else pool, .returned ())

end RtlTcpAndro.SdrTcp
