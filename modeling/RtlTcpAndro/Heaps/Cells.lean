import Mathlib.Logic.Function.Basic

/-! Programs over a heap of cells, which may be allocated and freed. An access of a cell that is not
allocated faults. Nothing here depends on what the cells hold.
-/

namespace RtlTcpAndro.Heaps

-----------------------------------------------------------------------------------------
-- Heaps
-----------------------------------------------------------------------------------------

/-- The contents of the cells that are allocated, by their addresses. -/
abbrev Heap (α : Type) := Nat → Option α

/-- The address of no cell. -/
def null : Nat := 0

variable {α : Type} {heap : Heap α} {address other : Nat} {contents : α}

/-- A heap with other contents at an address. -/
def Heap.set (heap : Heap α) (address : Nat) (contents : α) : Heap α :=
  Function.update heap address (some contents)

/-- A heap without the cell at an address. -/
def Heap.remove (heap : Heap α) (address : Nat) : Heap α := Function.update heap address none

/-- A cell that was set has the contents it was set to. -/
@[simp] theorem Heap.set_self : heap.set address contents address = some contents :=
  Function.update_self ..

/-- Setting a cell leaves the others alone. -/
theorem Heap.set_other (apart : other ≠ address)
    : heap.set address contents other = heap other :=
  Function.update_of_ne apart ..

/-- Of two settings of a cell the later one stands. -/
@[simp] theorem Heap.set_set {contents' : α}
    : (heap.set address contents).set address contents' = heap.set address contents' :=
  Function.update_idem ..

/-- Other contents of an allocated cell allocate nothing. Witness: the cell itself, and the
others.
-/
theorem Heap.set_isSome (held : heap address = some contents) (contents' : α) (other : Nat)
    : (heap.set address contents' other).isSome = (heap other).isSome := by
  by_cases same : other = address
  · rw [same, Heap.set_self, held]
    rfl
  · rw [Heap.set_other same]

/-- A cell that was removed has no contents. -/
@[simp] theorem Heap.remove_self : heap.remove address address = none := Function.update_self ..

/-- Removing a cell leaves the others alone. -/
theorem Heap.remove_other (apart : other ≠ address) : heap.remove address other = heap other :=
  Function.update_of_ne apart ..

-----------------------------------------------------------------------------------------
-- Programs
-----------------------------------------------------------------------------------------

/-- A program over a heap, which has no outcome where it faults. -/
abbrev HeapProgram (α : Type) := StateT (Heap α) Option

/-- What a cell holds. -/
def load (address : Nat) : HeapProgram α α := fun heap =>
  (heap address).map fun contents => (contents, heap)

/-- An assignment to a part of a cell. -/
def assign (address : Nat) (update : α → α) : HeapProgram α Unit := fun heap =>
  (heap address).map fun contents => ((), heap.set address (update contents))

/-- Whether an allocator may answer with an address. -/
def Heap.Fresh (heap : Heap α) (address : Nat) : Prop := address ≠ null ∧ heap address = none

instance : Decidable (heap.Fresh address) := inferInstanceAs (Decidable (_ ∧ _))

/-- A cell is allocated, with any contents, at the address that the allocator answers. -/
def malloc (address : Nat) (contents : α) : HeapProgram α Unit := fun heap =>
  some ((), heap.set address contents)

/-- A cell is freed, which faults if it is not allocated. -/
def free (address : Nat) : HeapProgram α Unit := fun heap =>
  (heap address).map fun _ => ((), heap.remove address)

section Rules

variable {β γ : Type} {later : Heap α} {value : β}

/-- Where a first part has an outcome, the rest goes on from it. -/
theorem bind_run {first : HeapProgram α β} {rest : β → HeapProgram α γ}
    (ran : first heap = some (value, later))
    : (first >>= rest) heap = rest value later := by
  change (first heap >>= fun outcome => _) = _
  rw [ran]
  rfl

/-- Loading an allocated cell has its contents and leaves the heap alone. -/
theorem load_run (held : heap address = some contents)
    : (load address : HeapProgram α α) heap = some (contents, heap) := by
  rw [load, held]
  rfl

/-- Assigning to an allocated cell updates its contents. -/
theorem assign_run (held : heap address = some contents) (update : α → α)
    : assign address update heap = some ((), heap.set address (update contents)) := by
  rw [assign, held]
  rfl

/-- Allocating a cell sets its contents, by computation. -/
theorem malloc_run : malloc address contents heap = some ((), heap.set address contents) := rfl

/-- Freeing an allocated cell removes it. -/
theorem free_run (held : heap address = some contents)
    : free address heap = some ((), heap.remove address) := by
  rw [free, held]
  rfl

/-- An assignment to a cell that was just set. -/
theorem assign_set (update : α → α)
    : assign address update (heap.set address contents)
      = some ((), heap.set address (update contents)) := by
  rw [assign_run Heap.set_self, Heap.set_set]

end Rules

end RtlTcpAndro.Heaps
