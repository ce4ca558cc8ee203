import Mathlib.Order.Lattice

/-! Tests of all entries of a table, and searches for the entry at the least distance, the first of
several. Nothing here depends on what the entries and the distances stand for.
-/

namespace RtlTcpAndro.Tables

variable {α β : Type} [LinearOrder β] {distance : α → β}

/-- What is tested on each entry of a table holds of all of them. -/
theorem forall_entries {p : α → Prop} [DecidablePred p] {table : List α}
    (tested : (table.all fun entry => decide (p entry)) = true)
    : ∀ entry ∈ table, p entry :=
  fun entry member => of_decide_eq_true (List.all_eq_true.mp tested entry member)

/-- An index of a table whose entry is at the least distance, the first such index. -/
def IsNearest (distance : α → β) (table : List α) (index : Nat) : Prop :=
  ∃ found,
    table[index]? = some found
    ∧ (∀ entry ∈ table, distance found ≤ distance entry)
    ∧ ∀ earlier entry,
        earlier < index → table[earlier]? = some entry → distance found < distance entry

/-- A loop over the rest of a table, with the least distance so far, its index and that of the next
entry.
-/
def nearestFrom (distance : α → β) : List α → β → Nat → Nat → Nat
  | [], _, index, _ => index
  | entry :: rest, least, index, next =>
      if distance entry < least then nearestFrom distance rest (distance entry) next (next + 1)
      else nearestFrom distance rest least index (next + 1)

/-- One more entry, which is nearer than those before it or not. -/
theorem IsNearest.step {before : List α} {index : Nat} {found entry : α}
    (nearest : IsNearest distance before index) (at_ : before[index]? = some found)
    : IsNearest distance (before ++ [entry])
        (if distance entry < distance found then before.length else index) := by
  obtain ⟨known, same, least, first⟩ := nearest
  obtain rfl : found = known := Option.some.inj (at_.symm.trans same)
  have early : index < before.length := (List.getElem?_eq_some_iff.mp at_).1
  split
  next nearer =>
    refine ⟨entry, List.getElem?_concat_length, ?_, ?_⟩
    · intro other member
      rcases List.mem_append.mp member with old | new
      · exact (nearer.trans_le (least other old)).le
      · exact (congrArg distance (List.mem_singleton.mp new)).ge
    · intro earlier other lower listed
      rw [List.getElem?_append_left lower] at listed
      exact nearer.trans_le (least other (List.mem_of_getElem? listed))
  next farther =>
    refine ⟨found, (List.getElem?_append_left early).trans at_, ?_, ?_⟩
    · intro other member
      rcases List.mem_append.mp member with old | new
      · exact least other old
      · rw [List.mem_singleton.mp new]
        exact not_lt.mp farther
    · intro earlier other lower listed
      rw [List.getElem?_append_left (Nat.lt_trans lower early)] at listed
      exact first earlier other lower listed

/-- The loop finds the nearest entry of the whole table. By induction on the rest of it. -/
theorem nearestFrom_isNearest {rest before : List α} {index : Nat} {found : α}
    (nearest : IsNearest distance before index) (at_ : before[index]? = some found)
    : IsNearest distance (before ++ rest)
        (nearestFrom distance rest (distance found) index before.length) := by
  induction rest generalizing before index found with
  | nil =>
      rw [List.append_nil]
      exact nearest
  | cons entry rest ih =>
      have step := @IsNearest.step _ _ _ _ _ _ _ entry nearest at_
      have early : index < before.length := (List.getElem?_eq_some_iff.mp at_).1
      rw [List.append_cons]
      unfold nearestFrom
      split
      next nearer =>
        rw [if_pos nearer] at step
        have next := ih step List.getElem?_concat_length
        rwa [List.length_append] at next
      next farther =>
        rw [if_neg farther] at step
        have next := ih step ((List.getElem?_append_left early).trans at_)
        rwa [List.length_append] at next

/-- From the start, with a distance that no entry is beyond. -/
theorem nearestFrom_start {table : List α} {bound : β} (some_ : table ≠ [])
    (bounded : ∀ entry ∈ table, distance entry ≤ bound)
    : IsNearest distance table (nearestFrom distance table bound 0 0) := by
  obtain ⟨entry, rest, rfl⟩ := List.exists_cons_of_ne_nil some_
  have alone : IsNearest distance [entry] 0 := by
    refine ⟨entry, rfl, ?_, nofun⟩
    intro other member
    rw [List.mem_singleton.mp member]
  have same
      : nearestFrom distance (entry :: rest) bound 0 0
        = nearestFrom distance rest (distance entry) 0 1 := by
    rw [nearestFrom]
    split
    next => rfl
    next farther =>
      rw [le_antisymm (bounded entry List.mem_cons_self) (not_lt.mp farther)]
  rw [same]
  exact nearestFrom_isNearest alone rfl

end RtlTcpAndro.Tables
