import RtlTcpAndro.Interleaving.Places
import RtlTcpAndro.SdrTcp.WorkPool

/-! Threads in a ring over one pool: thread `id` takes a buffer with `pool_get_wait_lock` and
passes it on with `pool_get_unlock`, over and over, and every thread is in any place of its
round while the others move.
-/

namespace RtlTcpAndro.SdrTcp

open RtlTcpAndro.Interleaving

-----------------------------------------------------------------------------------------
-- The threads
-----------------------------------------------------------------------------------------

/-- Where a thread is in its round. -/
inductive StagePoint
  | outside
  | getting (block : Bool) (pos : GetPoint)
  | holding (buffer : Nat)
  | passing (buffer : Nat) (pos : UnlockPoint)
  deriving DecidableEq, Repr

/-- The buffer a thread has. -/
def StagePoint.held : StagePoint → List Nat
  | .outside => []
  | .getting .. => []
  | .holding buffer => [buffer]
  | .passing buffer _ => [buffer]

/-- A pool with its threads, the first address it can allocate, and what has passed so far, in
order and by thread: the buffers popped from its queue, those `pool_get_wait_lock` returned,
and those `pool_get_unlock` added to the next queue.
-/
structure Stages where
  pool : WorkPool
  base : Nat
  threads : Nat → StagePoint
  taken : Nat → List Nat
  received : Nat → List Nat
  released : Nat → List Nat

/-- What a thread does next: a call, the next step of the call, or a write to the buffer it
has.
-/
inductive StageEvent
  | get (id : Nat) (block : Bool)
  | getStep (id : Nat)
  | fill (id : Nat) (contents : ExtBuffer)
  | unlock (id : Nat)
  | unlockStep (id : Nat)
  deriving DecidableEq, Repr

/-- The thread of an event. -/
def StageEvent.id : StageEvent → Nat
  | .get id _ => id
  | .getStep id => id
  | .fill id _ => id
  | .unlock id => id
  | .unlockStep id => id

namespace Stages

/-- A thread moves on. -/
def moved (stages : Stages) (id : Nat) (next : StagePoint) : Stages :=
  { stages with threads := Function.update stages.threads id next }

/-- `pool_get_wait_lock` returns to a thread. -/
def returned (stages : Stages) (id : Nat) : Option Nat → Stages
  | none => stages.moved id .outside
  | some buffer =>
      { stages.moved id (.holding buffer) with
        received := Function.update stages.received id (stages.received id ++ [buffer]) }

/-- A thread pops a buffer from its queue. -/
def popped (stages : Stages) (id : Nat) : Option Nat → Stages
  | none => stages
  | some buffer =>
      { stages with taken := Function.update stages.taken id (stages.taken id ++ [buffer]) }

/-- The next step of `pool_get_wait_lock`. The new buffer and `elements` are thread 0's own
until the call returns, so the steps from the allocation to the return are one.
-/
def getStep (stages : Stages) (id : Nat) (block : Bool) (pos : GetPoint) : Option Stages :=
  match poolGetWaitLock id block stages.pool pos with
  | (pool, .point .allocate) => do
      let (pool, result) ← runToReturn (poolGetWaitLock id block) 3 pool .allocate
      some ({ stages with pool := pool }.returned id result)
  | (pool, .point next) =>
      some ({ stages with pool := pool }.moved id (.getting block next))
  | (pool, .returned result) =>
      some (({ stages with pool := pool }.popped id result).returned id result)

/-- The next step of `pool_get_unlock`. -/
def unlockStep (stages : Stages) (id buffer : Nat) (pos : UnlockPoint) : Stages :=
  match poolGetUnlock id buffer stages.pool pos with
  | (pool, .point next) => { stages with pool := pool }.moved id (.passing buffer next)
  | (pool, .returned _) =>
      { stages.moved id .outside with
        pool := pool
        released := Function.update stages.released id (stages.released id ++ [buffer]) }

/-- One step of a thread. -/
def step (stages : Stages) (event : StageEvent) : Option Stages :=
  if (event.id : Int) < stages.pool.maxIds then
    match event, stages.threads event.id with
    | .get id block, .outside => some (stages.moved id (.getting block .checkValid))
    | .getStep id, .getting block pos => stages.getStep id block pos
    | .fill _ contents, .holding buffer =>
        some { stages with pool := stages.pool.setBuffer buffer contents }
    | .unlock id, .holding buffer => some (stages.moved id (.passing buffer .checkValid))
    | .unlockStep id, .passing buffer pos => some (stages.unlockStep id buffer pos)
    | _, _ => none
  else none

/-- A pool made by `pool_init` and `pool_set_threads`, with no thread inside a call. -/
def initial (memory : WorkPool) (maxElements : Int) (extbufferType : ExtBufferType) (k : Int)
    : Stages where
  pool := poolSetThreads (poolInit memory maxElements extbufferType) k
  base := memory.allocated
  threads := fun _ => .outside
  taken := fun _ => []
  received := fun _ => []
  released := fun _ => []

end Stages

/-- `k` threads over one pool of `maxElements` buffers. -/
def poolStages (maxElements : Int) (extbufferType : ExtBufferType) (k : Nat)
    : System Stages StageEvent where
  initial stages := ∃ memory, stages = Stages.initial memory maxElements extbufferType k
  step := Stages.step

-----------------------------------------------------------------------------------------
-- What a step does
-----------------------------------------------------------------------------------------

/-- The queue that a thread passes its buffer on to. -/
def nextQueue (k id : Nat) : Nat := if id + 1 = k then 0 else id + 1

/-- The queue that `add` is about to append a buffer to. -/
def StagePoint.target : StagePoint → Option Nat
  | .passing _ (.add target) => some target
  | _ => none

/-- What thread `id` among `k` can be about to do: an allocation is never left half done, only
the last thread empties its buffer, and every thread has one queue to pass buffers on to.
-/
def StagePoint.Fits (k id : Nat) : StagePoint → Prop
  | .getting _ .allocate => False
  | .getting _ (.loadElements _) => False
  | .getting _ (.storeElements ..) => False
  | .passing _ .reset => id + 1 = k
  | .passing _ (.add target) => target = nextQueue k id
  | _ => True

/-- What a step of thread `id` among `k` does. -/
inductive Stages.Fires (k : Nat) (stages : Stages) : Stages → Prop
  | moved {id : Nat} {next : StagePoint} (inside : id < k)
    (same : next.held = (stages.threads id).held) (fits : next.Fits k id)
    (elsewhere : next.target ≠ some 0)
    : Fires k stages (stages.moved id next)
  | popped {id buffer : Nat} {rest : List Nat} (inside : id < k)
    (free : (stages.threads id).held = [])
    (queue : stages.pool.queues id = buffer :: rest)
    : Fires k stages
        { stages.moved id (.holding buffer) with
          pool :=
            { stages.pool with queues := Function.update stages.pool.queues id rest }
          taken := Function.update stages.taken id (stages.taken id ++ [buffer])
          received := Function.update stages.received id (stages.received id ++ [buffer]) }
  | allocated (inside : 0 < k) (free : (stages.threads 0).held = [])
    (room : stages.pool.elements < stages.pool.maxElements)
    : Fires k stages
        { stages.moved 0 (.holding stages.pool.allocated) with
          pool :=
            { stages.pool.setBuffer stages.pool.allocated
                (extbufferInit stages.pool.extbufferType) with
              allocated := stages.pool.allocated + 1
              elements := stages.pool.elements + 1 }
          received :=
            Function.update stages.received 0 (stages.received 0 ++ [stages.pool.allocated]) }
  | filled {id buffer : Nat} {contents : ExtBuffer} (inside : id < k)
    (held : stages.threads id = .holding buffer)
    : Fires k stages { stages with pool := stages.pool.setBuffer buffer contents }
  | emptied {id buffer : Nat} (last : id + 1 = k) (held : buffer ∈ (stages.threads id).held)
    : Fires k stages
        { stages.moved id (.passing buffer (.add 0)) with
          pool :=
            stages.pool.setBuffer buffer
              { stages.pool.heap buffer with sizeValidElements := 0 } }
  | released {id buffer target : Nat} (inside : id < k)
    (held : stages.threads id = .passing buffer (.add target))
    : Fires k stages
        { stages.moved id .outside with
          pool := stages.pool.queueAdd target buffer
          released := Function.update stages.released id (stages.released id ++ [buffer]) }

/-- A pool in use by `k` threads. -/
structure WorkPool.InUse (pool : WorkPool) (k : Nat) (maxElements : Int) : Prop where
  valid : pool.valid = true
  maxIds : pool.maxIds = k
  maxElements : pool.maxElements = maxElements

section Steps

variable {k : Nat} {maxElements : Int} {stages next : Stages}

/-- A step of getting a buffer is one of those that are told apart: waiting, taking,
allocating or coming away with nothing. Witness: the points of the call one by one.
-/
theorem Stages.fires_of_getStep (used : stages.pool.InUse k maxElements) {id : Nat}
    {block : Bool} {pos : GetPoint} (inside : id < k)
    (point : stages.threads id = .getting block pos) (fits : (stages.threads id).Fits k id)
    (fired : stages.getStep id block pos = some next)
    : stages.Fires k next := by
  have free : (stages.threads id).held = [] := by
    rw [point]
    rfl
  have waits {next : GetPoint} (fits : (StagePoint.getting block next).Fits k id)
      : stages.Fires k (stages.moved id (.getting block next)) :=
    .moved inside free.symm fits nofun
  have gives_up : stages.Fires k (stages.moved id .outside) :=
    .moved inside free.symm trivial nofun
  rw [point] at fits
  unfold getStep at fired
  cases pos with
  | checkValid =>
      rw [poolGetWaitLock, if_pos used.valid] at fired
      cases fired
      exact waits trivial
  | tryPop =>
      rw [poolGetWaitLock, if_pos used.valid] at fired
      cases queue : stages.pool.queues id with
      | nil =>
          rw [WorkPool.queuePop_nil queue] at fired
          cases fired
          exact waits trivial
      | cons buffer rest =>
          rw [WorkPool.queuePop_cons queue] at fired
          cases fired
          exact .popped inside free queue
  | testCapacity =>
      rw [poolGetWaitLock] at fired
      by_cases room : id = 0 ∧ stages.pool.elements < stages.pool.maxElements
      · rw [if_pos room] at fired
        obtain ⟨rfl, room⟩ := room
        cases fired
        exact .allocated inside free room
      · rw [if_neg room] at fired
        cases block <;> cases fired
        · exact gives_up
        · exact waits trivial
  | waitPop =>
      rw [poolGetWaitLock, if_pos used.valid] at fired
      cases queue : stages.pool.queues id with
      | nil =>
          rw [WorkPool.queuePop_nil queue] at fired
          cases fired
          exact waits trivial
      | cons buffer rest =>
          rw [WorkPool.queuePop_cons queue] at fired
          cases fired
          exact .popped inside free queue
  | timedPop =>
      rw [poolGetWaitLock] at fired
      cases queue : stages.pool.queues id with
      | nil =>
          rw [WorkPool.queuePop_nil queue] at fired
          cases fired
          exact gives_up
      | cons buffer rest =>
          rw [WorkPool.queuePop_cons queue] at fired
          cases fired
          exact .popped inside free queue
  | allocate => exact fits.elim
  | loadElements => exact fits.elim
  | storeElements => exact fits.elim

/-- A step of passing a buffer on is one of those that are told apart: going on, or adding it
to the next queue. Witness: the points of the call one by one.
-/
theorem Stages.fires_of_unlockStep (used : stages.pool.InUse k maxElements) {id buffer : Nat}
    {pos : UnlockPoint} (inside : id < k) (point : stages.threads id = .passing buffer pos)
    (fits : (stages.threads id).Fits k id)
    : stages.Fires k (stages.unlockStep id buffer pos) := by
  have held : (stages.threads id).held = [buffer] := by
    rw [point]
    rfl
  unfold unlockStep
  cases pos with
  | checkValid =>
      rw [poolGetUnlock, if_pos used.valid]
      by_cases last : (id : Int) = stages.pool.maxIds - 1
      · rw [if_pos last]
        rw [used.maxIds] at last
        exact .moved inside held.symm (show id + 1 = k by omega) nofun
      · rw [if_neg last]
        rw [used.maxIds] at last
        exact .moved inside held.symm (if_neg (by omega)).symm nofun
  | reset =>
      rw [poolGetUnlock, extbufferPreparetohandle_zero]
      rw [point] at fits
      exact .emptied fits (by simp [held])
  | add target =>
      rw [poolGetUnlock, if_pos used.valid]
      exact .released inside point

/-- Every step of the threads is one of these. -/
theorem Stages.step_cases (used : stages.pool.InUse k maxElements)
    (fits : ∀ id < k, (stages.threads id).Fits k id) {event : StageEvent}
    (fired : stages.step event = some next)
    : stages.Fires k next := by
  have inside : event.id < k := by
    unfold step at fired
    split at fired
    · rename_i within
      rw [used.maxIds] at within
      exact Int.ofNat_lt.mp within
    · cases fired
  have within : (event.id : Int) < stages.pool.maxIds := by
    rw [used.maxIds]
    exact Int.ofNat_lt.mpr inside
  unfold step at fired
  rw [if_pos within] at fired
  cases event with
  | get id block =>
      cases point : stages.threads id <;> simp only [StageEvent.id, point] at fired <;>
        cases fired
      exact .moved inside (congrArg StagePoint.held point).symm trivial nofun
  | getStep id =>
      cases point : stages.threads id <;> simp only [StageEvent.id, point] at fired <;>
        try cases fired
      exact fires_of_getStep used inside point (fits id inside) fired
  | fill id contents =>
      cases point : stages.threads id <;> simp only [StageEvent.id, point] at fired <;>
        cases fired
      exact .filled inside point
  | unlock id =>
      cases point : stages.threads id <;> simp only [StageEvent.id, point] at fired <;>
        cases fired
      exact .moved inside (congrArg StagePoint.held point).symm trivial nofun
  | unlockStep id =>
      cases point : stages.threads id <;> simp only [StageEvent.id, point] at fired <;>
        cases fired
      exact fires_of_unlockStep used inside point (fits id inside)

end Steps

-----------------------------------------------------------------------------------------
-- Invariants
-----------------------------------------------------------------------------------------

/-- The buffers that the threads have. -/
def Stages.held (stages : Stages) (id : Nat) : List Nat := (stages.threads id).held

/-- A pool in use by threads that are where they can be. -/
structure Stages.Settled (stages : Stages) (k : Nat) (maxElements : Int) : Prop where
  used : stages.pool.InUse k maxElements
  fits : ∀ id < k, (stages.threads id).Fits k id

/-- Every allocated buffer, and nothing else, is in one place; they are counted and bounded. -/
structure Stages.Placed (stages : Stages) (k : Nat) : Prop where
  once
    : ∀ buffer,
        occurrences k stages.pool.queues buffer + occurrences k stages.held buffer
        = if stages.base ≤ buffer ∧ buffer < stages.pool.allocated then 1 else 0
  counted : (stages.pool.allocated : Int) = stages.base + stages.pool.elements
  least : stages.base ≤ stages.pool.allocated
  bounded : stages.pool.elements ≤ max 0 stages.pool.maxElements

/-- What a thread received it has released, but for the buffer it has; what it released the
next one has taken, but for the buffers in its queue.
-/
structure Stages.InLine (stages : Stages) (k : Nat) : Prop where
  received : ∀ id < k, stages.received id = stages.released id ++ stages.held id
  taken : ∀ id < k, id ≠ 0 → stages.taken id = stages.received id
  fed
    : ∀ id < k,
        stages.released id
        = stages.taken (nextQueue k id) ++ stages.pool.queues (nextQueue k id)

/-- The buffers of queue 0, and the one about to be added to it, have no valid elements. -/
structure Stages.Emptied (stages : Stages) (k : Nat) : Prop where
  queued : ∀ buffer ∈ stages.pool.queues 0, (stages.pool.heap buffer).sizeValidElements = 0
  aimed
    : ∀ id < k, ∀ buffer,
        stages.threads id = .passing buffer (.add 0)
        → (stages.pool.heap buffer).sizeValidElements = 0

/-- A thread that has a buffer has no other, so it has the same while it passes it on. -/
theorem StagePoint.held_eq_of_mem {point : StagePoint} {buffer : Nat} {pos : UnlockPoint}
    (held : buffer ∈ point.held)
    : StagePoint.held (.passing buffer pos) = point.held := by
  cases point <;> simp_all [StagePoint.held]

section Moves

variable {stages : Stages} {k id : Nat} {next : StagePoint}

/-- Where a thread moves, only its own point changes. -/
@[simp] theorem Stages.threads_moved
    : (stages.moved id next).threads = Function.update stages.threads id next := rfl

/-- A thread that moves takes nothing from a queue. -/
@[simp] theorem Stages.taken_moved : (stages.moved id next).taken = stages.taken := rfl

/-- Where a thread moves, only what it has itself changes. Witness: the thread, and the
others.
-/
@[simp] theorem Stages.held_moved
    : (stages.moved id next).held = Function.update stages.held id next.held := by
  funext other
  by_cases same : other = id
  · subst same
    simp [held, moved]
  · simp [held, moved, same]

/-- A thread that moves with what it had leaves all that is held as it was. -/
theorem Stages.held_moved_of_eq (same : next.held = (stages.threads id).held)
    : (stages.moved id next).held = stages.held := by
  rw [held_moved, same]
  exact Function.update_eq_self id stages.held

/-- A buffer is passed on to a queue of one of the threads. -/
theorem nextQueue_lt (inside : id < k) : nextQueue k id < k := by
  unfold nextQueue
  split <;> omega

/-- No two threads pass their buffers to the same queue. -/
theorem nextQueue_injective {other : Nat} (same : nextQueue k id = nextQueue k other)
    : id = other := by
  unfold nextQueue at same
  split at same <;> split at same <;> omega

end Moves

section Preserved

variable {k : Nat} {maxElements : Int} {stages next : Stages}

/-- Every step leaves the pool in use with the same limits, and every thread at a point that
fits it.
-/
theorem Stages.Fires.settled (fires : stages.Fires k next)
    (settled : stages.Settled k maxElements)
    : next.Settled k maxElements := by
  have elsewhere {id : Nat} {point : StagePoint} (fits : point.Fits k id)
      : ∀ other < k, ((stages.moved id point).threads other).Fits k other := by
    intro other among
    by_cases same : other = id
    · subst same
      simpa [Stages.moved] using fits
    · simpa [Stages.moved, same] using settled.fits other among
  cases fires with
  | moved inside same fits unaimed => exact ⟨settled.used, elsewhere fits⟩
  | popped inside free queue =>
      exact ⟨⟨settled.used.valid, settled.used.maxIds, settled.used.maxElements⟩,
        elsewhere trivial⟩
  | allocated inside free room =>
      exact ⟨⟨settled.used.valid, settled.used.maxIds, settled.used.maxElements⟩,
        elsewhere trivial⟩
  | filled inside held =>
      exact ⟨⟨settled.used.valid, settled.used.maxIds, settled.used.maxElements⟩,
        settled.fits⟩
  | emptied last held =>
      exact ⟨⟨settled.used.valid, settled.used.maxIds, settled.used.maxElements⟩,
        elsewhere (if_pos last).symm⟩
  | released inside held =>
      exact ⟨⟨settled.used.valid, settled.used.maxIds, settled.used.maxElements⟩,
        elsewhere trivial⟩

/-- Every step keeps each buffer in one place and their number right. Witness: what the steps
do to queues and threads, one by one.
-/
theorem Stages.Fires.placed (fires : stages.Fires k next) (settled : stages.Settled k maxElements)
    (placed : stages.Placed k)
    : next.Placed k := by
  cases fires with
  | moved inside same fits unaimed =>
      refine ⟨fun buffer => ?_, placed.counted, placed.least, placed.bounded⟩
      rw [held_moved_of_eq same]
      exact placed.once buffer
  | @popped id taken rest inside free queue =>
      refine ⟨fun buffer => ?_, placed.counted, placed.least, placed.bounded⟩
      have before := placed.once buffer
      have queues := occurrences_update inside stages.pool.queues rest buffer
      have hands := occurrences_update inside stages.held [taken] buffer
      rw [queue, List.count_cons] at queues
      rw [Stages.held, free, List.count_nil, List.count_singleton] at hands
      change
        occurrences k (Function.update stages.pool.queues id rest) buffer
            + occurrences k (stages.moved id (.holding taken)).held buffer
          = if stages.base ≤ buffer ∧ buffer < stages.pool.allocated then 1 else 0
      rw [Stages.held_moved, StagePoint.held]
      omega
  | allocated inside free room =>
      have counted := placed.counted
      have least := placed.least
      have bounded := placed.bounded
      refine ⟨fun buffer => ?_, ?_, Nat.le_succ_of_le least, ?_⟩
      · have before := placed.once buffer
        have hands := occurrences_update inside stages.held [stages.pool.allocated] buffer
        rw [Stages.held, free, List.count_nil, List.count_singleton'] at hands
        change
          occurrences k stages.pool.queues buffer
              + occurrences k (stages.moved 0 (.holding stages.pool.allocated)).held buffer
            = if stages.base ≤ buffer ∧ buffer < stages.pool.allocated + 1 then 1 else 0
        rw [Stages.held_moved, StagePoint.held]
        split at before <;> split at hands <;> split <;> omega
      · change ((stages.pool.allocated + 1 : Nat) : Int) = stages.base + (stages.pool.elements + 1)
        omega
      · change stages.pool.elements + 1 ≤ max 0 stages.pool.maxElements
        omega
  | filled inside held => exact ⟨placed.once, placed.counted, placed.least, placed.bounded⟩
  | @emptied id buffer last held =>
      have same : StagePoint.held (.passing buffer (.add 0)) = (stages.threads id).held :=
        StagePoint.held_eq_of_mem held
      refine ⟨fun buffer => ?_, placed.counted, placed.least, placed.bounded⟩
      have before := placed.once buffer
      rw [← Stages.held_moved_of_eq same] at before
      exact before
  | @released id passed target inside held =>
      refine ⟨fun buffer => ?_, placed.counted, placed.least, placed.bounded⟩
      have aimed : target = nextQueue k id := by
        have fits := settled.fits id inside
        rwa [held] at fits
      have before := placed.once buffer
      have queues := occurrences_update (aimed ▸ nextQueue_lt inside) stages.pool.queues
        (stages.pool.queues target ++ [passed]) buffer
      have hands := occurrences_update inside stages.held [] buffer
      rw [List.count_append] at queues
      rw [Stages.held, held, StagePoint.held, List.count_nil] at hands
      change
        occurrences k
              (Function.update stages.pool.queues target (stages.pool.queues target ++ [passed]))
              buffer
            + occurrences k (stages.moved id .outside).held buffer
          = if stages.base ≤ buffer ∧ buffer < stages.pool.allocated then 1 else 0
      rw [Stages.held_moved, StagePoint.held]
      omega

/-- What a thread without a buffer receives is what it then has. -/
theorem Stages.InLine.receives (inLine : stages.InLine k) {id buffer : Nat}
    (free : stages.held id = [])
    : ∀ other < k,
        Function.update stages.received id (stages.received id ++ [buffer]) other
        = stages.released other ++ (stages.moved id (.holding buffer)).held other := by
  intro other among
  have before := inLine.received other among
  rw [Stages.held_moved, StagePoint.held]
  by_cases same : other = id
  · subst same
    rw [Function.update_self, Function.update_self, before, free, List.append_nil]
  · rw [Function.update_of_ne same, Function.update_of_ne same, before]

/-- What a thread releases is what it had. -/
theorem Stages.InLine.releases (inLine : stages.InLine k) {id buffer : Nat}
    (held : stages.held id = [buffer])
    : ∀ other < k,
        stages.received other
        = Function.update stages.released id (stages.released id ++ [buffer]) other
          ++ (stages.moved id .outside).held other := by
  intro other among
  have before := inLine.received other among
  rw [Stages.held_moved, StagePoint.held]
  by_cases same : other = id
  · subst same
    rw [Function.update_self, Function.update_self, before, held, List.append_nil]
  · rw [Function.update_of_ne same, Function.update_of_ne same, before]

/-- Every step keeps what was received, released and taken in line. Witness: a buffer that is
received is held, one that is released is queued, and one that is taken was queued first.
-/
theorem Stages.Fires.inLine (fires : stages.Fires k next) (settled : stages.Settled k maxElements)
    (inLine : stages.InLine k)
    : next.InLine k := by
  have kept {id : Nat} {point : StagePoint} (same : point.held = (stages.threads id).held)
      : ∀ other < k, stages.received other
        = stages.released other ++ (stages.moved id point).held other := by
    intro other among
    rw [Stages.held_moved_of_eq same]
    exact inLine.received other among
  cases fires with
  | moved inside same fits unaimed => exact ⟨kept same, inLine.taken, inLine.fed⟩
  | filled inside held => exact ⟨inLine.received, inLine.taken, inLine.fed⟩
  | @emptied id buffer last held =>
      have same : StagePoint.held (.passing buffer (.add 0)) = (stages.threads id).held :=
        StagePoint.held_eq_of_mem held
      exact ⟨kept same, inLine.taken, inLine.fed⟩
  | @popped id taken rest inside free queue =>
      refine ⟨inLine.receives free, fun other among nonzero => ?_, fun other among => ?_⟩
      · have before := inLine.taken other among nonzero
        by_cases same : other = id
        · subst same
          simp [before]
        · simp [same, before]
      · refine (inLine.fed other among).trans ?_
        by_cases same : nextQueue k other = id
        · simp [same, queue]
        · simp [Function.update_of_ne same]
  | allocated inside free room =>
      refine ⟨inLine.receives free, fun other among nonzero => ?_, inLine.fed⟩
      exact (inLine.taken other among nonzero).trans (Function.update_of_ne nonzero _ _).symm
  | @released id passed target inside held =>
      have aimed : target = nextQueue k id := by
        have fits := settled.fits id inside
        rwa [held] at fits
      refine ⟨inLine.releases (congrArg StagePoint.held held), inLine.taken, fun other among => ?_⟩
      have before := inLine.fed other among
      by_cases same : other = id
      · subst same
        simp [WorkPool.queueAdd, aimed, before]
      · have apart : nextQueue k other ≠ target := by
          rw [aimed]
          exact fun equal => same (nextQueue_injective equal)
        simp [WorkPool.queueAdd, same, apart, before]

/-- A buffer that a thread has is in no queue, and no other thread has it. -/
theorem Stages.Placed.apart (placed : stages.Placed k) {id buffer : Nat} (inside : id < k)
    (held : buffer ∈ stages.held id)
    : (∀ queue < k, buffer ∉ stages.pool.queues queue)
      ∧ ∀ other < k, buffer ∈ stages.held other → other = id := by
  have once := placed.once buffer
  have here := occurrences_pos inside held
  refine ⟨fun queue among queued => ?_, fun other among also => ?_⟩
  · have there := occurrences_pos among queued
    split at once <;> omega
  · refine place_unique ?_ among inside also held
    split at once <;> omega

/-- Every step keeps the buffers empty that come back to thread 0. Witness: they are emptied
before they are added to its queue, and no one else has them.
-/
theorem Stages.Fires.emptiedKept (fires : stages.Fires k next)
    (placed : stages.Placed k) (emptied : stages.Emptied k)
    : next.Emptied k := by
  have elsewhere {id : Nat} {point : StagePoint} (unaimed : point.target ≠ some 0)
      : ∀ other < k, ∀ buffer, (stages.moved id point).threads other = .passing buffer (.add 0)
        → (stages.pool.heap buffer).sizeValidElements = 0 := by
    intro other among buffer aims
    rw [Stages.threads_moved] at aims
    by_cases same : other = id
    · subst same
      rw [Function.update_self] at aims
      exact absurd (congrArg StagePoint.target aims) unaimed
    · rw [Function.update_of_ne same] at aims
      exact emptied.aimed other among buffer aims
  -- a store elsewhere, or one that leaves no valid elements, changes nothing that counts
  have stored {buffer written : Nat} {contents : ExtBuffer}
      (before : (stages.pool.heap buffer).sizeValidElements = 0)
      (harmless : written = buffer → contents.sizeValidElements = 0)
      : (Function.update stages.pool.heap written contents buffer).sizeValidElements = 0 := by
    by_cases same : written = buffer
    · rw [same, Function.update_self]
      exact harmless same
    · rw [Function.update_of_ne (Ne.symm same)]
      exact before
  cases fires with
  | moved inside same fits unaimed => exact ⟨emptied.queued, elsewhere unaimed⟩
  | @popped id taken rest inside free queue =>
      refine ⟨fun buffer queued => emptied.queued buffer ?_, elsewhere nofun⟩
      by_cases same : id = 0
      · subst same
        rw [queue]
        exact List.mem_cons_of_mem _ (by simpa using queued)
      · simpa [Ne.symm same] using queued
  | allocated inside free room =>
      have others := @elsewhere 0 (.holding stages.pool.allocated) nofun
      exact ⟨fun buffer queued => stored (emptied.queued buffer queued) (fun _ => rfl),
        fun other among buffer aims => stored (others other among buffer aims) (fun _ => rfl)⟩
  | @filled id filled contents inside held =>
      have own : filled ∈ stages.held id := by
        simp [Stages.held, held, StagePoint.held]
      obtain ⟨unqueued, alone⟩ := placed.apart inside own
      refine ⟨fun buffer queued => stored (emptied.queued buffer queued) ?_,
        fun other among buffer aims => stored (emptied.aimed other among buffer aims) ?_⟩
      · rintro rfl
        exact absurd queued (unqueued 0 (Nat.zero_lt_of_lt inside))
      · rintro rfl
        have also : filled ∈ stages.held other := by
          rw [Stages.held, show stages.threads other = _ from aims]
          exact List.mem_singleton_self _
        have point : stages.threads other = .passing filled (.add 0) := aims
        rw [alone other among also, held] at point
        cases point
  | @emptied id passed last held =>
      refine ⟨fun buffer queued => stored (emptied.queued buffer queued) (fun _ => rfl),
        fun other among buffer aims => ?_⟩
      have point : Function.update stages.threads id (.passing passed (.add 0)) other
          = .passing buffer (.add 0) := aims
      by_cases same : other = id
      · subst same
        rw [Function.update_self] at point
        cases point
        change (Function.update stages.pool.heap passed _ passed).sizeValidElements = 0
        rw [Function.update_self]
      · rw [Function.update_of_ne same] at point
        exact stored (emptied.aimed other among buffer point) (fun _ => rfl)
  | @released id passed target inside held =>
      refine ⟨fun buffer queued => ?_, elsewhere nofun⟩
      have added : buffer
          ∈ Function.update stages.pool.queues target (stages.pool.queues target ++ [passed]) 0 :=
        queued
      by_cases same : target = 0
      · subst same
        rw [Function.update_self, List.mem_append, List.mem_singleton] at added
        obtain before | rfl := added
        · exact emptied.queued buffer before
        · exact emptied.aimed id inside buffer held
      · rw [Function.update_of_ne (Ne.symm same)] at added
        exact emptied.queued buffer added

end Preserved

-----------------------------------------------------------------------------------------
-- Every run
-----------------------------------------------------------------------------------------

/-- What holds of the threads and the pool together. -/
structure Stages.Orderly (stages : Stages) (k : Nat) (maxElements : Int) : Prop where
  settled : stages.Settled k maxElements
  placed : stages.Placed k
  inLine : stages.InLine k
  emptied : stages.Emptied k

section Runs

variable {k : Nat} {maxElements : Int} {extbufferType : ExtBufferType} {stages : Stages}

/-- Setting the threads of a new pool makes it valid for them, without touching its queues. -/
theorem poolSetThreads_eq (memory : WorkPool) (positive : 1 ≤ k)
    : poolSetThreads (poolInit memory maxElements extbufferType) k
      = { poolInit memory maxElements extbufferType with maxIds := k, valid := true } := by
  have several : ¬ (k : Int) ≤ 0 := by
    omega
  rw [poolSetThreads, if_neg several]
  rfl

/-- Every reachable state of the pool is orderly. Witness: it is at the beginning, and every
step keeps it so.
-/
theorem orderly_of_reachable (positive : 1 ≤ k)
    (reachable : (poolStages maxElements extbufferType k).Reachable stages)
    : stages.Orderly k maxElements := by
  refine reachable.invariant (fun stages => stages.Orderly k maxElements) ?_ ?_
  · rintro _ ⟨memory, rfl⟩
    rw [Stages.initial, poolSetThreads_eq memory positive]
    refine ⟨⟨⟨rfl, rfl, rfl⟩, fun _ _ => trivial⟩, ⟨fun buffer => ?_, ?_, Nat.le_refl _, ?_⟩,
      ⟨fun _ _ => rfl, fun _ _ _ => rfl, fun _ _ => rfl⟩, ⟨nofun, nofun⟩⟩
    · rw [if_neg (fun among => Nat.lt_irrefl _ (Nat.lt_of_le_of_lt among.1 among.2))]
      exact congrArg₂ (· + ·) occurrences_nil occurrences_nil
    · exact (Int.add_zero _).symm
    · exact Int.le_max_left ..
  · intro current event next _ orderly fired
    have fires := Stages.step_cases orderly.settled.used orderly.settled.fits fired
    exact ⟨fires.settled orderly.settled, fires.placed orderly.settled orderly.placed,
      fires.inLine orderly.settled orderly.inLine,
      fires.emptiedKept orderly.placed orderly.emptied⟩

/-- What a thread took from its queue came in the order of thread 0's releases, by induction
on the thread.
-/
theorem Stages.InLine.taken_prefix (inLine : stages.InLine k) {id : Nat} (inside : id + 1 < k)
    : stages.taken (id + 1) <+: stages.released 0 := by
  have fed (id : Nat) (inside : id + 1 < k) : stages.taken (id + 1) <+: stages.released id := by
    rw [inLine.fed id (by omega), nextQueue, if_neg (by omega)]
    exact List.prefix_append ..
  induction id with
  | zero => exact fed 0 inside
  | succ id ih =>
      have passed : stages.released (id + 1) <+: stages.taken (id + 1) := by
        rw [inLine.taken (id + 1) (by omega) (by omega), inLine.received (id + 1) (by omega)]
        exact List.prefix_append ..
      exact (fed (id + 1) inside).trans (passed.trans (ih (by omega)))

/-- Thread 0 takes buffers again in the order in which it released them. -/
theorem Stages.InLine.recycled_prefix (inLine : stages.InLine k) (positive : 1 ≤ k)
    : stages.taken 0 <+: stages.released 0 := by
  have last : stages.taken 0 <+: stages.released (k - 1) := by
    rw [inLine.fed (k - 1) (by omega), nextQueue, if_pos (by omega)]
    exact List.prefix_append ..
  obtain one | more : k = 1 ∨ ∃ id, k = id + 2 := by
    obtain _ | _ | id := k
    · omega
    · exact .inl rfl
    · exact .inr ⟨id, rfl⟩
  · subst one
    exact last
  · obtain ⟨id, rfl⟩ := more
    have passed : stages.released (id + 1) <+: stages.taken (id + 1) := by
      rw [inLine.taken (id + 1) (by omega) (by omega), inLine.received (id + 1) (by omega)]
      exact List.prefix_append ..
    exact last.trans (passed.trans (inLine.taken_prefix (by omega)))

/-- Every allocated buffer is once in one queue or with one thread, and no other buffer is
anywhere; as many are allocated as `elements` says, within the capacity; the buffers of queue 0
have no valid elements; and every thread gets buffers from its queue in the order in which
thread 0 released them.
-/
structure Stages.Conserved (stages : Stages) (k : Nat) (maxElements : Int) : Prop where
  once
    : ∀ buffer,
        occurrences k stages.pool.queues buffer + occurrences k stages.held buffer
        = if stages.base ≤ buffer ∧ buffer < stages.pool.allocated then 1 else 0
  counted : ((stages.pool.allocated - stages.base : Nat) : Int) = stages.pool.elements
  bounded : stages.pool.elements ≤ max 0 maxElements
  emptied : ∀ buffer ∈ stages.pool.queues 0, (stages.pool.heap buffer).sizeValidElements = 0
  inOrder : ∀ id < k, 0 < id → stages.received id <+: stages.released 0
  recycled : stages.taken 0 <+: stages.released 0

/-- Work-pool conservation and order, for every number of threads and every capacity. -/
theorem pool_conserved (positive : 1 ≤ k)
    (reachable : (poolStages maxElements extbufferType k).Reachable stages)
    : stages.Conserved k maxElements := by
  have orderly := orderly_of_reachable positive reachable
  have counted := orderly.placed.counted
  have least := orderly.placed.least
  have bounded := orderly.placed.bounded
  rw [orderly.settled.used.maxElements] at bounded
  refine ⟨orderly.placed.once, by omega, bounded, orderly.emptied.queued,
    fun id inside nonzero => ?_, orderly.inLine.recycled_prefix positive⟩
  obtain ⟨id, rfl⟩ := Nat.exists_eq_succ_of_ne_zero (Nat.ne_of_gt nonzero)
  rw [← orderly.inLine.taken (id + 1) inside (by omega)]
  exact orderly.inLine.taken_prefix inside

/-- Thread 0 allocates, fills and releases a buffer, and thread 1 takes it. -/
theorem pool_conserved_while_passing
    : ∃ stages,
        (poolStages 1 .ushort 2).Reachable stages
        ∧ stages.received 1 = [0]
        ∧ stages.Conserved 2 1 := by
  let memory : WorkPool := ⟨fun _ => [], 0, 0, 0, .ushort, false, fun _ => extbufferInit .ushort, 0⟩
  let schedule : List StageEvent :=
    [.get 0 false, .getStep 0, .getStep 0, .getStep 0,
      .fill 0 { extbufferInit .ushort with sizeValidElements := 1 }, .unlock 0, .unlockStep 0,
      .unlockStep 0, .get 1 true, .getStep 1, .getStep 1]
  have replayed
      : ((poolStages 1 .ushort 2).run (Stages.initial memory 1 .ushort 2) schedule).map
          (fun stages => stages.received 1)
        = some [0] := by
    rfl
  obtain ⟨stages, reachable, seen⟩ := System.exists_reachable_of_run replayed ⟨memory, rfl⟩
  exact ⟨stages, reachable, seen, pool_conserved (by decide) reachable⟩

end Runs

end RtlTcpAndro.SdrTcp
