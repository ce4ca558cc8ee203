import Mathlib.Algebra.BigOperators.Group.Finset.Piecewise
import Mathlib.Algebra.Order.BigOperators.Group.Finset

/-! Things held at numbered places, counted over all of them. -/

namespace RtlTcpAndro.Interleaving

open scoped BigOperators

variable {α : Type} [DecidableEq α] {places : Nat} {contents : Nat → List α} {thing : α}

/-- How often a thing is held at the places below a number. -/
def occurrences (places : Nat) (contents : Nat → List α) (thing : α) : Nat :=
  ∑ place ∈ Finset.range places, (contents place).count thing

/-- Nothing is held anywhere. -/
theorem occurrences_nil : occurrences places (fun _ => []) thing = 0 := by
  simp [occurrences]

/-- One place gets other contents. -/
theorem occurrences_update {place : Nat} (inside : place < places) (contents : Nat → List α)
    (held : List α) (thing : α)
    : occurrences places (Function.update contents place held) thing
        + (contents place).count thing
      = occurrences places contents thing + held.count thing := by
  have member : place ∈ Finset.range places := Finset.mem_range.mpr inside
  rw [occurrences, occurrences, ← Finset.add_sum_erase _ _ member,
    ← Finset.add_sum_erase _ _ member, Function.update_self]
  have others
      : ∑ other ∈ (Finset.range places).erase place,
          (Function.update contents place held other).count thing
        = ∑ other ∈ (Finset.range places).erase place, (contents other).count thing := by
    refine Finset.sum_congr rfl fun other among => ?_
    rw [Function.update_of_ne (Finset.ne_of_mem_erase among)]
  omega

/-- A thing that is held no more often than another at every place. -/
theorem occurrences_le {other : α}
    (fewer : ∀ place, (contents place).count thing ≤ (contents place).count other)
    : occurrences places contents thing ≤ occurrences places contents other :=
  Finset.sum_le_sum fun place _ => fewer place

/-- What is held at a place counts. -/
theorem count_le_occurrences {place : Nat} (inside : place < places)
    : (contents place).count thing ≤ occurrences places contents thing :=
  Finset.single_le_sum (f := fun place => (contents place).count thing)
    (fun _ _ => Nat.zero_le _) (Finset.mem_range.mpr inside)

/-- A thing held at some place occurs. Witness: it is counted there. -/
theorem occurrences_pos {place : Nat} (inside : place < places) (held : thing ∈ contents place)
    : 0 < occurrences places contents thing :=
  Nat.lt_of_lt_of_le (List.count_pos_iff.mpr held) (count_le_occurrences inside)

/-- A thing held at two places occurs more than once. -/
theorem place_unique {place other : Nat} (once : occurrences places contents thing ≤ 1)
    (inside : place < places) (among : other < places) (here : thing ∈ contents place)
    (there : thing ∈ contents other)
    : place = other := by
  by_contra different
  have without := occurrences_update inside contents [] thing
  have left : thing ∈ Function.update contents place [] other := by
    rwa [Function.update_of_ne (Ne.symm different)]
  have still := occurrences_pos among left
  have first := List.count_pos_iff.mpr here
  simp only [List.count_nil] at without
  omega

-----------------------------------------------------------------------------------------
-- Things held at most once
-----------------------------------------------------------------------------------------

/-- Every thing numbered below `allocated` is held at most once, and no other thing is held. -/
def HeldOnce (places : Nat) (contents : Nat → List Nat) (allocated : Nat) : Prop :=
  ∀ thing, occurrences places contents thing ≤ if thing < allocated then 1 else 0

namespace HeldOnce

variable {contents : Nat → List Nat} {allocated : Nat}

/-- A thing held once occurs at most once. Witness: whether it was allocated or not. -/
theorem le_one (once : HeldOnce places contents allocated) (thing : Nat)
    : occurrences places contents thing ≤ 1 := by
  have bound := once thing
  split at bound <;> omega

/-- What is held is numbered below `allocated`. -/
theorem lt_allocated (once : HeldOnce places contents allocated) (place : Nat) {thing : Nat}
    (inside : place < places) (held : thing ∈ contents place)
    : thing < allocated := by
  have bound := once thing
  have some_ := occurrences_pos inside held
  split at bound <;> omega

/-- A thing is held at one place. -/
theorem unique (once : HeldOnce places contents allocated) (place other : Nat) {thing : Nat}
    (inside : place < places) (among : other < places) (here : thing ∈ contents place)
    (there : thing ∈ contents other)
    : place = other :=
  place_unique (once.le_one thing) inside among here there

/-- One place gives things away. -/
theorem shrink (once : HeldOnce places contents allocated) {place : Nat}
    (inside : place < places) {held : List Nat}
    (fewer : ∀ thing, held.count thing ≤ (contents place).count thing)
    : HeldOnce places (Function.update contents place held) allocated := by
  intro thing
  have bound := once thing
  have changed := occurrences_update inside contents held thing
  have less := fewer thing
  omega

/-- One place passes things on to another. -/
theorem transfer (once : HeldOnce places contents allocated) {place other : Nat}
    (inside : place < places) (among : other < places) (different : place ≠ other)
    {held received : List Nat}
    (fewer
      : ∀ thing,
          held.count thing + received.count thing
          ≤ (contents place).count thing + (contents other).count thing)
    : HeldOnce places (Function.update (Function.update contents place held) other received)
        allocated := by
  intro thing
  have bound := once thing
  have gone := occurrences_update inside contents held thing
  have arrived := occurrences_update among (Function.update contents place held) received thing
  have less := fewer thing
  rw [Function.update_of_ne (Ne.symm different)] at arrived
  omega

/-- A new thing appears at an empty place. -/
theorem create (once : HeldOnce places contents allocated) {place : Nat}
    (inside : place < places) (empty : contents place = [])
    : HeldOnce places (Function.update contents place [allocated]) (allocated + 1) := by
  intro thing
  have bound := once thing
  have changed := occurrences_update inside contents [allocated] thing
  rw [empty, List.count_nil, List.count_singleton] at changed
  split at bound <;> split <;> split at changed <;> grind

end HeldOnce

end RtlTcpAndro.Interleaving
