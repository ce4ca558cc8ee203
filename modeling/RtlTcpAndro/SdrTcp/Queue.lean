import RtlTcpAndro.Heaps.Cells
import RtlTcpAndro.Interleaving.Schedule

/-! The queues of `queue.c`, chains of nodes in a heap. Every node points to the next one and to the
one before it; the first one also points to the last.
-/

namespace RtlTcpAndro.SdrTcp

open RtlTcpAndro.Heaps
open RtlTcpAndro.Interleaving

-----------------------------------------------------------------------------------------
-- The code
-----------------------------------------------------------------------------------------

/-- `struct queue_element` -/
structure QueueElement where
  next : Nat
  prev : Nat
  last : Nat
  payload : Nat
  deriving DecidableEq, Repr

/-- `queue_add`, which returns `*queue`. The allocator answers with the address `newEl` of a node
that holds anything.
-/
def queueAdd (queue ptr newEl : Nat) (unset : QueueElement) : HeapProgram QueueElement Nat := do
  if queue = null then
    malloc newEl unset
    assign newEl fun el => { el with last := newEl }
    assign newEl fun el => { el with next := null }
    assign newEl fun el => { el with prev := null }
    assign newEl fun el => { el with payload := ptr }
    return newEl
  else
    malloc newEl unset
    assign newEl fun el => { el with last := null }
    assign newEl fun el => { el with next := null }
    let last := (← load queue).last
    assign newEl fun el => { el with prev := last }
    assign newEl fun el => { el with payload := ptr }
    let last := (← load queue).last
    assign last fun el => { el with next := newEl }
    assign queue fun el => { el with last := newEl }
    return queue

/-- `queue_pop`, which returns its result and `*queue`. -/
def queuePop (queue : Nat) : HeapProgram QueueElement (Nat × Nat) := do
  if queue = null then return (null, queue)
  if (← load queue).next ≠ null then
    assign (← load queue).next fun el => { el with prev := null }
    let last := (← load queue).last
    assign (← load queue).next fun el => { el with last := last }
  let result := (← load queue).payload
  let next := (← load queue).next
  free queue
  return (result, next)

/-- A queue in its heap, and the payloads that were added and not yet popped, the oldest first. -/
structure QueueState where
  queue : Nat
  heap : Heap QueueElement
  contents : List Nat

/-- A call of one of the functions, with the answer of the allocator. -/
inductive QueueCall
  | add (ptr newEl : Nat) (unset : QueueElement)
  | pop

/-- The calls of a queue that starts as `NULL`. -/
def queueCalls : System QueueState QueueCall where
  initial state := state = ⟨null, fun _ => none, []⟩
  step state call :=
    match call with
    | .add ptr newEl unset =>
        if state.heap.Fresh newEl then do
          let (queue, heap) ← queueAdd state.queue ptr newEl unset state.heap
          some ⟨queue, heap, state.contents ++ [ptr]⟩
        else none
    | .pop => do
        let ((_, queue), heap) ← queuePop state.queue state.heap
        some ⟨queue, heap, state.contents.tail⟩

-----------------------------------------------------------------------------------------
-- Chains
-----------------------------------------------------------------------------------------

/-- Nodes that follow one another, from one whose `prev` is given, with their payloads. -/
inductive Linked (heap : Heap QueueElement) : Nat → List Nat → List Nat → Prop
  | nil {prev : Nat} : Linked heap prev [] []
  | cons {prev node payload last : Nat} {nodes contents : List Nat}
    (held : heap node = some ⟨nodes.headD null, prev, last, payload⟩)
    (rest : Linked heap node nodes contents)
    : Linked heap prev (node :: nodes) (payload :: contents)

/-- A queue is the chain of the nodes that are allocated, whose first one points to the last. -/
structure Chain (heap : Heap QueueElement) (queue : Nat) (nodes contents : List Nat) : Prop where
  head : queue = nodes.headD null
  linked : Linked heap null nodes contents
  last : ∀ el, heap queue = some el → el.last = nodes.getLastD null
  allocated : ∀ address, (heap address).isSome = true ↔ address ∈ nodes
  distinct : nodes.Nodup
  nonnull : null ∉ nodes

section Links

variable {heap heap' : Heap QueueElement} {prev : Nat} {nodes contents : List Nat}

/-- Only the nodes of a chain matter to it. -/
theorem Linked.congr (linked : Linked heap prev nodes contents)
    (same : ∀ node ∈ nodes, heap' node = heap node)
    : Linked heap' prev nodes contents := by
  induction linked with
  | nil => exact .nil
  | cons held rest ih =>
      refine .cons ((same _ List.mem_cons_self).trans held) (ih fun node member => ?_)
      exact same node (List.mem_cons_of_mem _ member)

/-- The links do not depend on where a node points with `last`. -/
theorem Linked.set_last (linked : Linked heap prev nodes contents) {node : Nat}
    {el : QueueElement} (held : heap node = some el) (last : Nat)
    : Linked (heap.set node { el with last := last }) prev nodes contents := by
  induction linked with
  | nil => exact .nil
  | @cons prev here payload _ nodes contents known rest ih =>
      by_cases same : here = node
      · subst same
        obtain rfl := Option.some.inj (known.symm.trans held)
        exact .cons Heap.set_self ih
      · exact .cons ((Heap.set_other same).trans known) ih

/-- A node is appended where the last node of a chain is made to point to it. By induction on the
chain.
-/
theorem Linked.append (linked : Linked heap prev nodes contents) (distinct : nodes.Nodup)
    {final newEl last ptr : Nat} {el : QueueElement} (isLast : nodes.getLast? = some final)
    (held : heap final = some el) (changed : heap' final = some { el with next := newEl })
    (added : heap' newEl = some ⟨null, final, last, ptr⟩)
    (same : ∀ node ∈ nodes, node ≠ final → heap' node = heap node)
    : Linked heap' prev (nodes ++ [newEl]) (contents ++ [ptr]) := by
  induction linked with
  | nil => cases isLast
  | @cons prev node payload _ nodes contents known rest ih =>
      cases nodes with
      | nil =>
          obtain rfl : node = final := Option.some.inj isLast
          obtain rfl := Option.some.inj (known.symm.trans held)
          cases rest
          exact .cons changed (.cons added .nil)
      | cons next nodes =>
          obtain ⟨absent, distinct⟩ := List.nodup_cons.mp distinct
          rw [List.getLast?_cons_cons] at isLast
          have apart : node ≠ final := by
            rintro rfl
            exact absent (List.mem_of_getLast? isLast)
          refine .cons ((same node List.mem_cons_self apart).trans known) (ih distinct isLast ?_)
          exact fun other member => same other (List.mem_cons_of_mem _ member)

/-- A node of a chain is allocated. -/
theorem Linked.held (linked : Linked heap prev nodes contents) {node : Nat}
    (member : node ∈ nodes)
    : ∃ el, heap node = some el := by
  induction linked with
  | nil => cases member
  | cons known rest ih =>
      rcases List.mem_cons.mp member with rfl | later
      · exact ⟨_, known⟩
      · exact ih later

end Links

-----------------------------------------------------------------------------------------
-- The functions on chains
-----------------------------------------------------------------------------------------

section Calls

variable {heap : Heap QueueElement} {queue : Nat} {nodes contents : List Nat}

/-- A queue is `NULL` exactly if its chain is empty. -/
theorem Chain.null_iff (chain : Chain heap queue nodes contents) : queue = null ↔ nodes = [] := by
  rw [chain.head]
  cases nodes with
  | nil => exact iff_of_true rfl rfl
  | cons node nodes =>
      refine iff_of_false (fun same => ?_) (List.cons_ne_nil _ _)
      exact chain.nonnull (same ▸ List.mem_cons_self)

/-- A queue holds nothing just when it has no nodes. Witness: the linked list, from its end.
-/
theorem Chain.contents_nil_iff (chain : Chain heap queue nodes contents)
    : contents = [] ↔ nodes = [] := by
  have linked := chain.linked
  cases linked <;> simp

/-- The first payload makes a chain of one node. -/
theorem queueAdd_first (chain : Chain heap queue [] contents) {ptr newEl : Nat}
    {unset : QueueElement} (fresh : heap.Fresh newEl)
    : ∃ later,
        queueAdd queue ptr newEl unset heap = some (newEl, later)
        ∧ Chain later newEl [newEl] [ptr] := by
  refine ⟨heap.set newEl ⟨null, null, newEl, ptr⟩, ?_, ?_⟩
  · rw [chain.head, queueAdd, List.headD_nil, if_pos rfl, bind_run malloc_run,
      bind_run (assign_set _), bind_run (assign_set _), bind_run (assign_set _),
      bind_run (assign_set _)]
    rfl
  · constructor
    case head => rfl
    case linked => exact .cons Heap.set_self .nil
    case last =>
      intro el held
      obtain rfl := Option.some.inj (Heap.set_self.symm.trans held)
      rfl
    case allocated =>
      intro address
      rw [List.mem_singleton]
      by_cases same : address = newEl
      · rw [same, Heap.set_self]
        exact iff_of_true rfl rfl
      · rw [Heap.set_other same, chain.allocated]
        exact iff_of_false List.not_mem_nil same
    case distinct => exact List.pairwise_singleton _ newEl
    case nonnull => exact fun member => fresh.1 (List.mem_singleton.mp member).symm

/-- The node of a queue that is not empty. -/
theorem Chain.head_mem (chain : Chain heap queue nodes contents) (nonempty : nodes ≠ [])
    : queue ∈ nodes := by
  rw [chain.head]
  cases nodes with
  | nil => exact absurd rfl nonempty
  | cons node nodes => exact List.mem_cons_self

/-- A fresh address is not that of a node. -/
theorem Chain.apart (chain : Chain heap queue nodes contents) {newEl node : Nat}
    (fresh : heap.Fresh newEl) (member : node ∈ nodes)
    : node ≠ newEl := by
  rintro rfl
  have allocated := (chain.allocated node).mpr member
  rw [fresh.2] at allocated
  cases allocated

/-- A chain with another node at its end, whose head says so. -/
theorem Chain.more {heap' : Heap QueueElement} {newEl ptr : Nat}
    (chain : Chain heap queue nodes contents) (nonempty : nodes ≠ []) (fresh : heap.Fresh newEl)
    (linked : Linked heap' null (nodes ++ [newEl]) (contents ++ [ptr]))
    (last : ∀ el, heap' queue = some el → el.last = newEl)
    (added : (heap' newEl).isSome = true)
    (others : ∀ other, other ≠ newEl → (heap' other).isSome = (heap other).isSome)
    : Chain heap' queue (nodes ++ [newEl]) (contents ++ [ptr]) := by
  constructor
  case head =>
    rw [chain.head]
    cases nodes with
    | nil => exact absurd rfl nonempty
    | cons node nodes => rfl
  case linked => exact linked
  case last =>
    intro el held
    rw [last el held]
    simp
  case allocated =>
    intro address
    rw [List.mem_append, List.mem_singleton]
    by_cases same : address = newEl
    · rw [same, added]
      exact iff_of_true rfl (.inr rfl)
    · rw [others address same, or_iff_left same]
      exact chain.allocated address
  case distinct =>
    refine List.nodup_append.mpr
      ⟨chain.distinct, List.pairwise_singleton _ newEl, fun node member other single => ?_⟩
    rw [List.mem_singleton.mp single]
    exact chain.apart fresh member
  case nonnull =>
    rw [List.mem_append, List.mem_singleton]
    rintro (member | same)
    · exact chain.nonnull member
    · exact fresh.1 same.symm

/-- Another payload is appended to a chain. -/
theorem queueAdd_more (chain : Chain heap queue nodes contents) (nonempty : nodes ≠ [])
    {ptr newEl : Nat} {unset : QueueElement} (fresh : heap.Fresh newEl)
    : ∃ later,
        queueAdd queue ptr newEl unset heap = some (queue, later)
        ∧ Chain later queue (nodes ++ [newEl]) (contents ++ [ptr]) := by
  have isNode := chain.head_mem nonempty
  have used : queue ≠ null := fun same => nonempty (chain.null_iff.mp same)
  obtain ⟨el, held⟩ := chain.linked.held isNode
  have isLast : el.last ∈ nodes := by
    rw [chain.last el held, List.getLastD_eq_getLast?, List.getLast?_eq_some_getLast nonempty]
    exact List.getLast_mem nonempty
  obtain ⟨final, finalHeld⟩ := chain.linked.held isLast
  have apart {node : Nat} (member : node ∈ nodes) : node ≠ newEl := chain.apart fresh member
  obtain ⟨appended, defined⟩
      : ∃ appended,
          appended
          = (heap.set newEl ⟨null, el.last, null, ptr⟩).set el.last { final with next := newEl } :=
    ⟨_, rfl⟩
  have changed : appended el.last = some { final with next := newEl } := by
    rw [defined, Heap.set_self]
  have added : appended newEl = some ⟨null, el.last, null, ptr⟩ := by
    rw [defined, Heap.set_other (apart isLast).symm, Heap.set_self]
  have same (node) (member : node ∈ nodes) (differs : node ≠ el.last)
      : appended node = heap node := by
    rw [defined, Heap.set_other differs, Heap.set_other (apart member)]
  have linked : Linked appended null (nodes ++ [newEl]) (contents ++ [ptr]) := by
    refine chain.linked.append chain.distinct ?_ finalHeld changed added same
    rw [chain.last el held, List.getLastD_eq_getLast?, List.getLast?_eq_some_getLast nonempty]
    rfl
  obtain ⟨el', headHeld⟩ := linked.held (List.mem_append_left [newEl] isNode)
  refine ⟨appended.set queue { el' with last := newEl }, ?_, ?_⟩
  · rw [queueAdd, if_neg used, bind_run malloc_run, bind_run (assign_set _),
      bind_run (assign_set _), bind_run (load_run ((Heap.set_other (apart isNode)).trans held)),
      bind_run (assign_set _), bind_run (assign_set _),
      bind_run (load_run ((Heap.set_other (apart isNode)).trans held)),
      bind_run (assign_run ((Heap.set_other (apart isLast)).trans finalHeld) _), ← defined,
      bind_run (assign_run headHeld _)]
    rfl
  · refine chain.more nonempty fresh (linked.set_last headHeld newEl) ?_ ?_ ?_
    · intro el held
      obtain rfl := Option.some.inj (Heap.set_self.symm.trans held)
      rfl
    · rw [Heap.set_isSome headHeld, added]
      rfl
    · intro other differs
      have held' : (heap.set newEl ⟨null, el.last, null, ptr⟩) el.last = some final :=
        (Heap.set_other (apart isLast)).trans finalHeld
      rw [Heap.set_isSome headHeld, defined, Heap.set_isSome held', Heap.set_other differs]

/-- A chain without its first node, which was freed. -/
theorem Chain.rest {heap' : Heap QueueElement} {node ptr : Nat}
    (chain : Chain heap queue (node :: nodes) (ptr :: contents))
    (linked : Linked heap' null nodes contents)
    (last : ∀ el, heap' (nodes.headD null) = some el → el.last = nodes.getLastD null)
    (freed : heap' node = none)
    (others : ∀ other, other ≠ node → (heap' other).isSome = (heap other).isSome)
    : Chain heap' (nodes.headD null) nodes contents := by
  obtain ⟨absent, distinct⟩ := List.nodup_cons.mp chain.distinct
  constructor
  case head => rfl
  case linked => exact linked
  case last => exact last
  case allocated =>
    intro address
    by_cases same : address = node
    · rw [same, freed]
      exact iff_of_false Bool.false_ne_true absent
    · rw [others address same, chain.allocated, List.mem_cons, or_iff_right same]
  case distinct => exact distinct
  case nonnull => exact fun member => chain.nonnull (List.mem_cons_of_mem _ member)

/-- The payload of an only node is popped, and the node freed. -/
theorem queuePop_only {node ptr : Nat} (chain : Chain heap queue [node] [ptr])
    : queuePop queue heap = some ((ptr, null), heap.remove node)
      ∧ Chain (heap.remove node) null [] [] := by
  obtain rfl : queue = node := chain.head
  have used : queue ≠ null := fun same => List.cons_ne_nil _ _ (chain.null_iff.mp same)
  have linked := chain.linked
  cases linked with
  | @cons _ _ _ last _ _ held rest =>
  constructor
  · have alone : ¬ [].headD null ≠ null := not_not_intro rfl
    rw [queuePop, if_neg used, bind_run (load_run held), if_neg alone]
    dsimp only
    rw [bind_run (load_run held), bind_run (load_run held), bind_run (free_run held)]
    rfl
  · refine chain.rest .nil (fun el known => ?_) Heap.remove_self fun other apart => ?_
    · change heap.remove queue null = some el at known
      rw [Heap.remove_other used.symm] at known
      have allocated := (chain.allocated null).mp (known ▸ rfl)
      exact absurd allocated chain.nonnull
    · rw [Heap.remove_other apart]

/-- The payload of a first node is popped, and the node freed; the second takes over where the last
one is.
-/
theorem queuePop_front {node second ptr ptr' : Nat}
    (chain : Chain heap queue (node :: second :: nodes) (ptr :: ptr' :: contents))
    : ∃ moved : Heap QueueElement,
        queuePop queue heap = some ((ptr, second), moved.remove node)
        ∧ Chain (moved.remove node) second (second :: nodes) (ptr' :: contents)
        ∧ ∀ other, (moved other).isSome = (heap other).isSome := by
  obtain rfl : queue = node := chain.head
  have used : queue ≠ null := fun same => List.cons_ne_nil _ _ (chain.null_iff.mp same)
  obtain ⟨absent, distinct⟩ := List.nodup_cons.mp chain.distinct
  obtain ⟨absent', -⟩ := List.nodup_cons.mp distinct
  have apart : second ≠ queue := fun same => absent (same ▸ List.mem_cons_self)
  have pointer : second ≠ null := fun same =>
    chain.nonnull (same ▸ List.mem_cons_of_mem _ List.mem_cons_self)
  have linked := chain.linked
  cases linked with
  | @cons _ _ _ last _ _ held rest =>
  have pointed := chain.last _ held
  rw [List.headD_cons] at held
  cases rest with
  | @cons _ _ _ last' _ _ held' rest =>
  obtain ⟨moved, defined⟩
      : ∃ moved, moved = heap.set second ⟨nodes.headD null, null, last, ptr'⟩ :=
    ⟨_, rfl⟩
  have kept : moved queue = some ⟨second, null, last, ptr⟩ := by
    rw [defined, Heap.set_other apart.symm]
    exact held
  have secondHeld : moved.remove queue second = some ⟨nodes.headD null, null, last, ptr'⟩ := by
    rw [Heap.remove_other apart, defined, Heap.set_self]
  have same (other) : (moved other).isSome = (heap other).isSome := by
    rw [defined, Heap.set_isSome held']
  refine ⟨moved, ?_, ?_, same⟩
  · have first
        : heap.set second ⟨nodes.headD null, null, last', ptr'⟩ queue
          = some ⟨second, null, last, ptr⟩ :=
      (Heap.set_other apart.symm).trans held
    rw [queuePop, if_neg used, bind_run (load_run held), if_pos pointer,
      bind_run (load_run held), bind_run (assign_run held' _), bind_run (load_run first),
      bind_run (load_run first), bind_run (assign_set _)]
    dsimp only
    rw [← defined, bind_run (load_run kept), bind_run (load_run kept), bind_run (free_run kept)]
    rfl
  · refine chain.rest (.cons secondHeld (rest.congr fun node member => ?_)) (fun el known => ?_)
      Heap.remove_self fun other differs => ?_
    · have differs : node ≠ second := fun same => absent' (same ▸ member)
      have differs' : node ≠ queue := fun same => absent (same ▸ List.mem_cons_of_mem _ member)
      rw [Heap.remove_other differs', defined, Heap.set_other differs]
    · obtain rfl := Option.some.inj (secondHeld.symm.trans known)
      exact pointed
    · rw [Heap.remove_other differs, same]

/-- The oldest payload is popped, and its node freed. -/
theorem queuePop_first {node ptr : Nat}
    (chain : Chain heap queue (node :: nodes) (ptr :: contents))
    : ∃ later,
        queuePop queue heap = some ((ptr, nodes.headD null), later)
        ∧ Chain later (nodes.headD null) nodes contents
        ∧ later node = none
        ∧ ∀ other, other ≠ node → (later other).isSome = (heap other).isSome := by
  have linked := chain.linked
  cases linked with
  | cons held rest =>
  cases rest with
  | nil =>
      obtain ⟨ran, chained⟩ := queuePop_only chain
      refine ⟨heap.remove node, ran, chained, Heap.remove_self, fun other apart => ?_⟩
      rw [Heap.remove_other apart]
  | cons held' rest =>
      obtain ⟨moved, ran, chained, same⟩ := queuePop_front chain
      refine ⟨moved.remove node, ran, chained, Heap.remove_self, fun other apart => ?_⟩
      rw [Heap.remove_other apart, same]

/-- Nothing is popped from an empty queue. -/
theorem queuePop_null : queuePop null heap = some ((null, null), heap) := by
  rw [queuePop, if_pos rfl]
  rfl

end Calls

-----------------------------------------------------------------------------------------
-- Sequences of calls
-----------------------------------------------------------------------------------------

/-- What holds after every sequence of calls, and what the next call does: no access faults, a pop
returns the oldest payload and frees the node that held it, and nothing else is freed.
-/
structure QueueState.Fifo (state : QueueState) : Prop where
  null_iff : state.queue = null ↔ state.contents = []
  chain : ∃ nodes, Chain state.heap state.queue nodes state.contents
  add
    : ∀ ptr newEl unset,
        state.heap.Fresh newEl
        → ∃ queue later, queueAdd state.queue ptr newEl unset state.heap = some (queue, later)
  popEmpty
    : state.contents = []
      → queuePop state.queue state.heap = some ((null, state.queue), state.heap)
  pop
    : ∀ ptr rest,
        state.contents = ptr :: rest
        → ∃ queue later,
            queuePop state.queue state.heap = some ((ptr, queue), later)
            ∧ later state.queue = none
            ∧ ∀ other, other ≠ state.queue → (later other).isSome = (state.heap other).isSome

section Sequences

variable {heap : Heap QueueElement} {queue : Nat} {nodes contents : List Nat}

/-- A payload is added to any chain. -/
theorem Chain.queueAdd (chain : Chain heap queue nodes contents) {ptr newEl : Nat}
    {unset : QueueElement} (fresh : heap.Fresh newEl)
    : ∃ queue' later nodes',
        SdrTcp.queueAdd queue ptr newEl unset heap = some (queue', later)
        ∧ Chain later queue' nodes' (contents ++ [ptr]) := by
  by_cases empty : nodes = []
  · subst empty
    obtain rfl := chain.contents_nil_iff.mpr rfl
    obtain ⟨later, ran, chained⟩ := queueAdd_first chain fresh
    exact ⟨newEl, later, [newEl], ran, chained⟩
  · obtain ⟨later, ran, chained⟩ := queueAdd_more chain empty fresh
    exact ⟨queue, later, _, ran, chained⟩

/-- A payload is popped from a chain that is not empty. -/
theorem Chain.queuePop {ptr : Nat} (chain : Chain heap queue nodes (ptr :: contents))
    : ∃ queue' later nodes',
        SdrTcp.queuePop queue heap = some ((ptr, queue'), later)
        ∧ Chain later queue' nodes' contents
        ∧ later queue = none
        ∧ ∀ other, other ≠ queue → (later other).isSome = (heap other).isSome := by
  cases nodes with
  | nil => cases chain.contents_nil_iff.mpr rfl
  | cons node nodes =>
      obtain rfl : queue = node := chain.head
      obtain ⟨later, ran, chained, freed, others⟩ := queuePop_first chain
      exact ⟨_, later, nodes, ran, chained, freed, others⟩

/-- Every call that is made leaves a chain. -/
theorem Chain.step {state next : QueueState} {call : QueueCall}
    (chain : Chain state.heap state.queue nodes state.contents)
    (fired : queueCalls.step state call = some next)
    : ∃ nodes, Chain next.heap next.queue nodes next.contents := by
  unfold queueCalls at fired
  cases call with
  | add ptr newEl unset =>
      dsimp only at fired
      split at fired
      next fresh =>
        obtain ⟨queue, later, nodes, ran, chained⟩ := chain.queueAdd fresh
        rw [ran] at fired
        cases fired
        exact ⟨nodes, chained⟩
      next => cases fired
  | pop =>
      dsimp only at fired
      cases contents : state.contents with
      | nil =>
          rw [contents] at chain fired
          have empty : state.queue = null :=
            chain.null_iff.mpr (chain.contents_nil_iff.mp rfl)
          rw [empty, queuePop_null] at fired
          cases fired
          exact ⟨nodes, empty ▸ chain⟩
      | cons ptr rest =>
          rw [contents] at chain fired
          obtain ⟨queue, later, nodes, ran, chained, -⟩ := chain.queuePop
          rw [ran] at fired
          cases fired
          exact ⟨nodes, chained⟩

/-- A queue whose nodes chain its contents serves them in order. Witness: each operation on
the chain, with what it returns.
-/
theorem QueueState.fifo_of_chain {state : QueueState}
    (chain : Chain state.heap state.queue nodes state.contents)
    : state.Fifo := by
  have empty : state.queue = null ↔ state.contents = [] :=
    chain.null_iff.trans chain.contents_nil_iff.symm
  constructor
  case null_iff => exact empty
  case chain => exact ⟨nodes, chain⟩
  case add =>
    intro ptr newEl unset fresh
    obtain ⟨queue, later, -, ran, -⟩ := chain.queueAdd fresh
    exact ⟨queue, later, ran⟩
  case popEmpty =>
    intro none
    rw [empty.mpr none]
    exact queuePop_null
  case pop =>
    intro ptr rest same
    rw [same] at chain
    obtain ⟨queue, later, -, ran, -, freed, others⟩ := chain.queuePop
    exact ⟨queue, later, ran, freed, others⟩

/-- After every sequence of calls a queue is the chain of what was added and not popped. -/
theorem queue_fifo {state : QueueState} (reachable : queueCalls.Reachable state)
    : state.Fifo := by
  have chained : ∃ nodes, Chain state.heap state.queue nodes state.contents := by
    refine reachable.invariant
      (fun state => ∃ nodes, Chain state.heap state.queue nodes state.contents) ?_ ?_
    · rintro _ rfl
      refine ⟨[], rfl, .nil, ?_, ?_, List.nodup_nil, List.not_mem_nil⟩
      · rintro el ⟨⟩
      · exact fun address => iff_of_false Bool.false_ne_true List.not_mem_nil
    · rintro current call next - ⟨nodes, chain⟩ fired
      exact chain.step fired
  obtain ⟨nodes, chain⟩ := chained
  exact QueueState.fifo_of_chain chain

/-- Three payloads are added, one is popped, and the address of its node is used again. -/
theorem queue_fifo_reused
    : ∃ state,
        queueCalls.Reachable state ∧ state.contents = [3, 5, 18] ∧ state.Fifo := by
  let unset : QueueElement := ⟨7, 7, 7, 7⟩
  have replayed
      : (queueCalls.run ⟨null, fun _ => none, []⟩
            [.add 1 100 unset, .add 3 200 unset, .add 5 300 unset, .pop, .add 18 100 unset]).map
          (fun state => state.contents)
        = some [3, 5, 18] := by
    decide
  obtain ⟨state, reachable, contents⟩ := System.exists_reachable_of_run replayed rfl
  exact ⟨state, reachable, contents, queue_fifo reachable⟩

end Sequences

end RtlTcpAndro.SdrTcp
