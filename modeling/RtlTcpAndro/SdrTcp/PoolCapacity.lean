import RtlTcpAndro.Interleaving.Places
import RtlTcpAndro.SdrTcp.WorkPool

/-! Any number of threads over one pool, all of which take buffers from its first queue and pass
buffers on. A thread that finds the queue empty tests the capacity of the pool, allocates a buffer
and counts it, and other threads move in between.
-/

namespace RtlTcpAndro.SdrTcp

open RtlTcpAndro.Interleaving

-----------------------------------------------------------------------------------------
-- The threads
-----------------------------------------------------------------------------------------

/-- Where a thread is, outside of the methods of the pool or in one of them. -/
inductive PoolThread
  | outside
  | getting (block : Bool) (pos : GetPoint)
  | passing (id buffer : Nat) (pos : UnlockPoint)
  deriving DecidableEq, Repr

/-- A pool with its threads, and the first address it can allocate. -/
structure PoolUse where
  pool : WorkPool
  base : Nat
  threads : Nat → PoolThread

/-- What a thread does next: a call of a method, or the next step of the call. -/
inductive PoolEvent
  | get (thread : Nat) (block : Bool)
  | unlock (thread id buffer : Nat)
  | step (thread : Nat)
  deriving DecidableEq, Repr

/-- The thread of an event. -/
def PoolEvent.thread : PoolEvent → Nat
  | .get thread _ => thread
  | .unlock thread _ _ => thread
  | .step thread => thread

namespace PoolUse

/-- A thread moves on, with the pool. -/
def moved (use : PoolUse) (pool : WorkPool) (thread : Nat) (next : PoolThread) : PoolUse :=
  { use with pool := pool, threads := Function.update use.threads thread next }

/-- The next step of `pool_get_wait_lock` on the first queue. -/
def getStep (use : PoolUse) (thread : Nat) (block : Bool) (pos : GetPoint) : PoolUse :=
  match poolGetWaitLock 0 block use.pool pos with
  | (pool, .point next) => use.moved pool thread (.getting block next)
  | (pool, .returned _) => use.moved pool thread .outside

/-- The next step of `pool_get_unlock`. -/
def unlockStep (use : PoolUse) (thread id buffer : Nat) (pos : UnlockPoint) : PoolUse :=
  match poolGetUnlock id buffer use.pool pos with
  | (pool, .point next) => use.moved pool thread (.passing id buffer next)
  | (pool, .returned _) => use.moved pool thread .outside

/-- One step of one of `k` threads. -/
def step (k : Nat) (use : PoolUse) (event : PoolEvent) : Option PoolUse :=
  if event.thread < k then
    match event, use.threads event.thread with
    | .get thread block, .outside =>
        some (use.moved use.pool thread (.getting block .checkValid))
    | .unlock thread id buffer, .outside =>
        some (use.moved use.pool thread (.passing id buffer .checkValid))
    | .step thread, .getting block pos => some (use.getStep thread block pos)
    | .step thread, .passing id buffer pos => some (use.unlockStep thread id buffer pos)
    | _, _ => none
  else none

/-- A pool made by `pool_init` and `pool_set_threads`, with no thread inside a method. -/
def initial (memory : WorkPool) (maxElements : Int) (extbufferType : ExtBufferType)
    (numberOfIds : Int)
    : PoolUse where
  pool := poolSetThreads (poolInit memory maxElements extbufferType) numberOfIds
  base := memory.allocated
  threads := fun _ => .outside

/-- The number of buffers that the pool has allocated. -/
def allocated (use : PoolUse) : Int := use.pool.allocated - use.base

end PoolUse

/-- `k` threads over one valid pool with a capacity. -/
def poolUses (k : Nat) : System PoolUse PoolEvent where
  initial use :=
    ∃ memory maxElements extbufferType numberOfIds,
      0 ≤ maxElements
      ∧ 0 < numberOfIds
      ∧ use = PoolUse.initial memory maxElements extbufferType numberOfIds
  step := PoolUse.step k

-----------------------------------------------------------------------------------------
-- Buffers on the way
-----------------------------------------------------------------------------------------

/-- What a thread that allocates a buffer has on the way: the room that the test found for it, the
buffer that is not counted yet, and the count that is to be stored.
-/
inductive PoolToken
  | room
  | uncounted
  | storing
  deriving DecidableEq, Repr

def PoolThread.tokens : PoolThread → List PoolToken
  | .getting _ .allocate => [.room]
  | .getting _ (.loadElements _) => [.room, .uncounted]
  | .getting _ (.storeElements _ _) => [.room, .uncounted, .storing]
  | _ => []

/-- How many of `k` threads have something on the way. -/
def PoolUse.count (k : Nat) (use : PoolUse) (token : PoolToken) : Nat :=
  occurrences k (fun thread => (use.threads thread).tokens) token

/-- The buffers that the pool has allocated are those that it counts and those on the way to be
counted, and no more than its capacity.
-/
structure PoolUse.CapacityKept (k : Nat) (use : PoolUse) : Prop where
  counted : use.allocated = use.pool.elements + use.count k .uncounted
  bounded : use.allocated ≤ use.pool.maxElements

/-- A step takes the room of no other thread, and the count of none: the test passes only if there
is room beside what other threads are to allocate, and the count is loaded only if no other thread
is to store it.
-/
def PoolUse.orderly (k : Nat) (use : PoolUse) : PoolEvent → Prop
  | .step thread =>
      match use.threads thread with
      | .getting _ .testCapacity =>
          use.pool.elements < use.pool.maxElements
          → use.pool.elements + use.count k .room < use.pool.maxElements
      | .getting _ (.loadElements _) => use.count k .storing = 0
      | _ => True
  | _ => True

instance PoolUse.decidableOrderly (k : Nat) (use : PoolUse) (event : PoolEvent)
    : Decidable (use.orderly k event) := by
  unfold PoolUse.orderly
  cases event with
  | step thread => dsimp only; split <;> infer_instance
  | _ => infer_instance

-----------------------------------------------------------------------------------------
-- What a step does
-----------------------------------------------------------------------------------------

/-- Two pools have counted and allocated the same. -/
structure SameAccount (pool pool' : WorkPool) : Prop where
  elements : pool'.elements = pool.elements
  maxElements : pool'.maxElements = pool.maxElements
  allocated : pool'.allocated = pool.allocated

/-- Popping a queue changes nothing the capacity's account speaks of. Witness: a queue with an
element, or without.
-/
theorem WorkPool.queuePop_account (pool : WorkPool) (id : Nat)
    : SameAccount pool (pool.queuePop id).2 := by
  unfold queuePop
  split <;> exact ⟨rfl, rfl, rfl⟩

/-- A step of the return of a buffer changes nothing the account speaks of. Witness: one case
per program point.
-/
theorem poolGetUnlock_account (id buffer : Nat) (pool : WorkPool) (pos : UnlockPoint)
    : SameAccount pool (poolGetUnlock id buffer pool pos).1 := by
  cases pos with
  | checkValid =>
      unfold poolGetUnlock
      cases pool.valid <;> exact ⟨rfl, rfl, rfl⟩
  | reset => exact ⟨rfl, rfl, rfl⟩
  | add target =>
      unfold poolGetUnlock
      cases pool.valid <;> exact ⟨rfl, rfl, rfl⟩

/-- The steps of threads that have nothing on the way, and those that allocate a buffer. -/
inductive PoolUse.Moves (k : Nat) (use : PoolUse) : PoolEvent → PoolUse → Prop
  | quiet {event : PoolEvent} {pool : WorkPool} {after : PoolThread}
    (inside : event.thread < k) (account : SameAccount use.pool pool)
    (before : (use.threads event.thread).tokens = []) (idle : after.tokens = [])
    : use.Moves k event (use.moved pool event.thread after)
  | tests {thread : Nat} {block : Bool} (inside : thread < k)
    (position : use.threads thread = .getting block .testCapacity)
    (found : use.pool.elements < use.pool.maxElements)
    : use.Moves k (.step thread) (use.moved use.pool thread (.getting block .allocate))
  | allocates {thread : Nat} {block : Bool} {pool : WorkPool} (inside : thread < k)
    (position : use.threads thread = .getting block .allocate)
    (elements : pool.elements = use.pool.elements)
    (maxElements : pool.maxElements = use.pool.maxElements)
    (allocated : pool.allocated = use.pool.allocated + 1)
    : use.Moves k (.step thread)
        (use.moved pool thread (.getting block (.loadElements use.pool.allocated)))
  | loads {thread result : Nat} {block : Bool} (inside : thread < k)
    (position : use.threads thread = .getting block (.loadElements result))
    : use.Moves k (.step thread)
        (use.moved use.pool thread
          (.getting block (.storeElements result (use.pool.elements + 1))))
  | stores {thread result : Nat} {block : Bool} {elements : Int} (inside : thread < k)
    (position : use.threads thread = .getting block (.storeElements result elements))
    : use.Moves k (.step thread)
        (use.moved { use.pool with elements := elements } thread .outside)

variable {k : Nat} {use next : PoolUse}

/-- A step of `pool_get_wait_lock` that neither starts from nor leads to an allocation. -/
theorem PoolUse.getStep_quiet {thread : Nat} {block : Bool} {pos : GetPoint}
    (inside : thread < k) (position : use.threads thread = .getting block pos)
    (before : (PoolThread.getting block pos).tokens = [])
    (account : SameAccount use.pool (poolGetWaitLock 0 block use.pool pos).1)
    (idle
      : ∀ following,
          (poolGetWaitLock 0 block use.pool pos).2 = .point following
          → (PoolThread.getting block following).tokens = [])
    : use.Moves k (.step thread) (use.getStep thread block pos) := by
  rw [← position] at before
  unfold getStep
  split
  next pool following stepped =>
    rw [stepped] at account idle
    exact .quiet inside account before (idle following rfl)
  next pool result stepped =>
    rw [stepped] at account
    exact .quiet inside account before rfl

/-- A step of `pool_get_wait_lock`, case by case of its program points. -/
theorem PoolUse.getStep_moves {thread : Nat} {block : Bool} {pos : GetPoint}
    (inside : thread < k) (position : use.threads thread = .getting block pos)
    : use.Moves k (.step thread) (use.getStep thread block pos) := by
  have popped := use.pool.queuePop_account 0
  cases pos with
  | checkValid =>
      refine getStep_quiet inside position rfl ?_ ?_ <;> unfold poolGetWaitLock <;> dsimp only
      · split <;> exact ⟨rfl, rfl, rfl⟩
      · split <;> rintro following ⟨⟩
        rfl
  | tryPop =>
      refine getStep_quiet inside position rfl ?_ ?_ <;> unfold poolGetWaitLock <;> dsimp only
      · split
        next =>
          split
          next found => rwa [found] at popped
          next found => rwa [found] at popped
        next => exact ⟨rfl, rfl, rfl⟩
      · split
        next => split <;> rintro following ⟨⟩; rfl
        next => rintro following ⟨⟩; rfl
  | testCapacity =>
      by_cases found : use.pool.elements < use.pool.maxElements
      · have tested : use.getStep thread block .testCapacity
            = use.moved use.pool thread (.getting block .allocate) := by
          rw [getStep, poolGetWaitLock, if_pos ⟨rfl, found⟩]
        rw [tested]
        exact .tests inside position found
      · have full : ¬ (0 = 0 ∧ use.pool.elements < use.pool.maxElements) := fun room => found room.2
        refine getStep_quiet inside position rfl ?_ ?_ <;> unfold poolGetWaitLock <;> dsimp only
          <;> rw [if_neg full]
        · split <;> exact ⟨rfl, rfl, rfl⟩
        · split <;> rintro following ⟨⟩
          rfl
  | allocate => exact .allocates inside position rfl rfl rfl
  | loadElements result => exact .loads inside position
  | storeElements result elements => exact .stores inside position
  | waitPop =>
      refine getStep_quiet inside position rfl ?_ ?_ <;> unfold poolGetWaitLock <;> dsimp only
      · split
        next =>
          split
          next found => rwa [found] at popped
          next found => rwa [found] at popped
        next => exact ⟨rfl, rfl, rfl⟩
      · split
        next => split <;> rintro following ⟨⟩; rfl
        next => rintro following ⟨⟩
  | timedPop =>
      refine getStep_quiet inside position rfl popped ?_
      rintro following ⟨⟩

/-- A step that fires moves one thread as `Moves` says. Witness: the thread inside a call, or
at its start.
-/
theorem PoolUse.step_moves {event : PoolEvent} (fired : use.step k event = some next)
    : use.Moves k event next := by
  unfold step at fired
  split at fired
  next inside =>
    split at fired
    next thread block position =>
      cases fired
      refine .quiet inside ⟨rfl, rfl, rfl⟩ ?_ rfl
      rw [position]
      rfl
    next thread id buffer position =>
      cases fired
      refine .quiet inside ⟨rfl, rfl, rfl⟩ ?_ rfl
      rw [position]
      rfl
    next thread block pos position =>
      cases fired
      exact getStep_moves inside position
    next thread id buffer pos position =>
      cases fired
      have account := poolGetUnlock_account id buffer use.pool pos
      have before : (use.threads thread).tokens = [] := by
        rw [show use.threads thread = _ from position]
        rfl
      unfold unlockStep
      split
      next pool following stepped =>
        rw [stepped] at account
        exact .quiet inside account before rfl
      next pool result stepped =>
        rw [stepped] at account
        exact .quiet inside account before rfl
    next => cases fired
  next => cases fired

-----------------------------------------------------------------------------------------
-- The capacity
-----------------------------------------------------------------------------------------

/-- The thread that moved is where it moved to. Witness: the updated entry. -/
theorem PoolUse.moved_self (pool : WorkPool) (thread : Nat) (after : PoolThread)
    : (use.moved pool thread after).threads thread = after :=
  Function.update_self ..

/-- The other threads are where they were. Witness: the entries not updated. -/
theorem PoolUse.moved_other {other thread : Nat} (pool : WorkPool) (after : PoolThread)
    (apart : other ≠ thread)
    : (use.moved pool thread after).threads other = use.threads other :=
  Function.update_of_ne apart ..

/-- One thread moves on. -/
theorem PoolUse.count_moved {thread : Nat} {before : PoolThread} (inside : thread < k)
    (position : use.threads thread = before) (pool : WorkPool) (after : PoolThread)
    (token : PoolToken)
    : (use.moved pool thread after).count k token + before.tokens.count token
      = use.count k token + after.tokens.count token := by
  have changed
      : (fun other => ((use.moved pool thread after).threads other).tokens)
        = Function.update (fun other => (use.threads other).tokens) thread after.tokens :=
    Function.comp_update PoolThread.tokens use.threads thread after
  rw [← position, count, changed]
  exact occurrences_update inside _ _ _

/-- What is counted, allocated and on the way fits the capacity, and at most one thread is to store
the count, which is the next one.
-/
structure PoolUse.Accounted (k : Nat) (use : PoolUse) : Prop where
  counted : use.allocated = use.pool.elements + use.count k .uncounted
  room : use.pool.elements + use.count k .room ≤ use.pool.maxElements
  single : use.count k .storing ≤ 1
  stored
    : ∀ thread < k, ∀ block result elements,
        use.threads thread = .getting block (.storeElements result elements)
        → elements = use.pool.elements + 1

/-- An accounted pool keeps its capacity. Witness: a thread that is yet to count has room, so
the elements and the uncounted stay within it.
-/
theorem PoolUse.Accounted.capacityKept (accounted : use.Accounted k) : use.CapacityKept k := by
  have fewer : use.count k .uncounted ≤ use.count k .room := by
    refine occurrences_le fun thread => ?_
    unfold PoolThread.tokens
    split <;> decide
  have counted := accounted.counted
  have room := accounted.room
  exact ⟨counted, by omega⟩

/-- A thread that is to store the count has it on the way. -/
theorem PoolUse.storing_pos {thread result : Nat} {block : Bool} {elements : Int}
    (inside : thread < k)
    (position : use.threads thread = .getting block (.storeElements result elements))
    : 0 < use.count k .storing := by
  refine occurrences_pos inside ?_
  rw [position]
  exact List.mem_cons_of_mem _ (List.mem_cons_of_mem _ (List.mem_singleton_self _))

/-- A thread that moves on without a change of the count leaves it to those that are to store
it.
-/
theorem PoolUse.Accounted.stored_moved (accounted : use.Accounted k) {thread : Nat}
    {pool : WorkPool} {after : PoolThread} (same : pool.elements = use.pool.elements)
    (fresh
      : ∀ block result elements,
          after = .getting block (.storeElements result elements)
          → elements = use.pool.elements + 1)
    : ∀ other < k, ∀ block result elements,
        (use.moved pool thread after).threads other
            = .getting block (.storeElements result elements)
        → elements = pool.elements + 1 := by
  intro other inside block result elements position
  rw [same]
  by_cases here : other = thread
  · subst here
    rw [moved_self] at position
    exact fresh block result elements position
  · rw [moved_other pool after here] at position
    exact accounted.stored other inside block result elements position

/-- A step that takes the room and the count of no other thread keeps the account. -/
theorem PoolUse.Accounted.moves {event : PoolEvent} (accounted : use.Accounted k)
    (heeded : use.orderly k event) (moves : use.Moves k event next)
    : next.Accounted k := by
  have counted := accounted.counted
  have room := accounted.room
  have single := accounted.single
  unfold allocated at counted
  cases moves with
  | @quiet _ pool after inside account before idle =>
      have same (token)
          : (use.moved pool event.thread after).count k token = use.count k token := by
        have changed := use.count_moved inside rfl pool after token
        rwa [before, idle] at changed
      constructor
      case counted =>
        rw [same, allocated, moved, account.allocated, account.elements]
        exact counted
      case room =>
        rw [same, moved, account.elements, account.maxElements]
        exact room
      case single => rwa [same]
      case stored =>
        refine accounted.stored_moved account.elements ?_
        rintro block result elements rfl
        cases idle
  | @tests thread block inside position found =>
      have left : use.pool.elements + use.count k .room < use.pool.maxElements := by
        simp only [orderly, position] at heeded
        exact heeded found
      have changed := use.count_moved inside position use.pool (.getting block .allocate)
      have rooms : _ + 0 = _ + 1 := changed .room
      have uncounted : _ + 0 = _ + 0 := changed .uncounted
      have storing : _ + 0 = _ + 0 := changed .storing
      constructor
      case counted =>
        change (use.pool.allocated : Int) - use.base = use.pool.elements + _
        omega
      case room =>
        change use.pool.elements + _ ≤ use.pool.maxElements
        omega
      case single => omega
      case stored => exact accounted.stored_moved rfl nofun
  | @allocates thread block pool inside position elements maxElements allocated =>
      have changed :=
        use.count_moved inside position pool (.getting block (.loadElements use.pool.allocated))
      have rooms : _ + 1 = _ + 1 := changed .room
      have uncounted : _ + 0 = _ + 1 := changed .uncounted
      have storing : _ + 0 = _ + 0 := changed .storing
      constructor
      case counted =>
        change (pool.allocated : Int) - use.base = pool.elements + _
        omega
      case room =>
        change pool.elements + _ ≤ pool.maxElements
        omega
      case single => omega
      case stored => exact accounted.stored_moved elements nofun
  | @loads thread result block inside position =>
      have none : use.count k .storing = 0 := by
        simpa only [orderly, position] using heeded
      have changed :=
        use.count_moved inside position use.pool
          (.getting block (.storeElements result (use.pool.elements + 1)))
      have rooms : _ + 1 = _ + 1 := changed .room
      have uncounted : _ + 1 = _ + 1 := changed .uncounted
      have storing : _ + 0 = _ + 1 := changed .storing
      constructor
      case counted =>
        change (use.pool.allocated : Int) - use.base = use.pool.elements + _
        omega
      case room =>
        change use.pool.elements + _ ≤ use.pool.maxElements
        omega
      case single => omega
      case stored =>
        refine accounted.stored_moved rfl ?_
        rintro _ _ _ ⟨⟩
        rfl
  | @stores thread result block elements inside position =>
      have next := accounted.stored thread inside block result elements position
      have changed :=
        use.count_moved inside position { use.pool with elements := elements } .outside
      have rooms : _ + 1 = _ + 0 := changed .room
      have uncounted : _ + 1 = _ + 0 := changed .uncounted
      have storing : _ + 1 = _ + 0 := changed .storing
      constructor
      case counted =>
        change (use.pool.allocated : Int) - use.base = elements + _
        omega
      case room =>
        change elements + _ ≤ use.pool.maxElements
        omega
      case single => omega
      case stored =>
        -- no other thread was to store the count
        intro other among block result elements position
        have another := PoolUse.storing_pos among position
        omega

-----------------------------------------------------------------------------------------
-- Runs
-----------------------------------------------------------------------------------------

/-- A pool that is made has counted and allocated nothing. -/
theorem PoolUse.initial_account {memory : WorkPool} {maxElements : Int}
    {extbufferType : ExtBufferType} {numberOfIds : Int} (valid : 0 < numberOfIds)
    : SameAccount
        (poolInit memory maxElements extbufferType)
        (PoolUse.initial memory maxElements extbufferType numberOfIds).pool := by
  change SameAccount _ (poolSetThreads _ numberOfIds)
  rw [poolSetThreads, if_neg (Int.not_le.mpr valid)]
  exact ⟨rfl, rfl, rfl⟩

/-- A fresh pool is accounted for. Witness: no thread is inside a call. -/
theorem PoolUse.initial_accounted {memory : WorkPool} {maxElements : Int}
    {extbufferType : ExtBufferType} {numberOfIds : Int} (capacity : 0 ≤ maxElements)
    (valid : 0 < numberOfIds)
    : (PoolUse.initial memory maxElements extbufferType numberOfIds).Accounted k := by
  obtain ⟨elements, same, made⟩ := @PoolUse.initial_account memory maxElements extbufferType _ valid
  have none (token)
      : (PoolUse.initial memory maxElements extbufferType numberOfIds).count k token = 0 :=
    occurrences_nil
  constructor
  case counted =>
    rw [allocated, none, made, elements]
    exact Int.sub_self _
  case room =>
    rw [none, elements, same]
    exact capacity
  case single =>
    rw [none]
    exact Nat.zero_le 1
  case stored => exact nofun

/-- In every run where no step takes the room or the count of another thread, the pool counts what
it allocates and keeps its capacity.
-/
theorem poolCapacity_kept
    (reachable : ((poolUses k).restrict (PoolUse.orderly k)).Reachable use)
    : use.CapacityKept k := by
  have accounted : use.Accounted k := by
    refine reachable.invariant (PoolUse.Accounted k) ?_ ?_
    · rintro start ⟨memory, maxElements, extbufferType, numberOfIds, capacity, valid, rfl⟩
      exact PoolUse.initial_accounted capacity valid
    · intro current event next _ known fired
      obtain ⟨orderly, fired⟩ := System.restrict_step_iff.mp fired
      exact known.moves orderly (PoolUse.step_moves fired)
  exact accounted.capacityKept

/-- Memory before a pool is made in it. -/
def blankMemory : WorkPool :=
  ⟨fun _ => [], 0, 0, 0, .char, false, fun _ => extbufferInit .char, 0⟩

/-- A thread takes a buffer without another thread in between. -/
def takeAlone (thread : Nat) : List PoolEvent :=
  .get thread false :: List.replicate 6 (.step thread)

/-- Two threads take a buffer one after the other. -/
theorem poolCapacity_kept_in_turn
    : ∃ use,
        ((poolUses 2).restrict (PoolUse.orderly 2)).Reachable use
        ∧ use.allocated = 2
        ∧ use.CapacityKept 2 := by
  have replayed
      : (((poolUses 2).restrict (PoolUse.orderly 2)).run (.initial blankMemory 2 .char 1)
            (takeAlone 0 ++ takeAlone 1)).map
          (fun use => use.allocated)
        = some 2 := by
    decide +kernel
  obtain ⟨use, reachable, two⟩ :=
    System.exists_reachable_of_run replayed
      ⟨blankMemory, 2, .char, 1, by decide, by decide, rfl⟩
  exact ⟨use, reachable, two, poolCapacity_kept reachable⟩

/-- Two threads that both pass the test, and load the count before the other has stored it, leave
two buffers in a pool for one, which counts one of them.
-/
theorem poolCapacity_exceeded
    : ¬ ∀ use, (poolUses 2).Reachable use → use.CapacityKept 2 := by
  intro kept
  have replayed
      : ((poolUses 2).run (.initial blankMemory 1 .char 1)
            ([.get 0 false, .get 1 false]
              ++ (List.replicate 6 [PoolEvent.step 0, PoolEvent.step 1]).flatten)).map
          (fun use => (use.allocated, use.pool.elements, use.pool.maxElements, use.threads 0,
            use.threads 1))
        = some (2, 1, 1, .outside, .outside) := by
    decide +kernel
  obtain ⟨use, reachable, seen⟩ :=
    System.exists_reachable_of_run replayed
      ⟨blankMemory, 1, .char, 1, by decide, by decide, rfl⟩
  simp only [Prod.mk.injEq] at seen
  have bounded := (kept use reachable).bounded
  omega

end RtlTcpAndro.SdrTcp
