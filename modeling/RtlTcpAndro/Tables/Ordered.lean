import Mathlib.Order.Bounds.Basic

/-! Searches of ordered tables for an entry that reaches a request. Nothing here depends on what the
entries stand for.
-/

namespace RtlTcpAndro.Tables

variable {α : Type} [LinearOrder α] {table : List α} {request lower : α}

/-- The entries of a table that reach a request. -/
def Reaching (table : List α) (request : α) : Set α :=
  { entry | entry ∈ table ∧ request ≤ entry }

/-- The least entry that reaches a lower request is no higher. -/
theorem isLeast_reaching_mono {least least' : α} (below : lower ≤ request)
    (found : IsLeast (Reaching table lower) least)
    (found' : IsLeast (Reaching table request) least')
    : least ≤ least' :=
  found'.mono found fun _ reaches => ⟨reaches.1, below.trans reaches.2⟩

/-- The first entry of a table that reaches a request. -/
def firstReaching (table : List α) (request : α) : Option α :=
  table.find? fun entry => decide (request ≤ entry)

/-- A first entry that reaches the request is the one found. Witness:
`List.find?_cons_of_pos`.
-/
theorem firstReaching_of_le {entry : α} (reaches : request ≤ entry)
    : firstReaching (entry :: table) request = some entry :=
  List.find?_cons_of_pos (decide_eq_true reaches)

/-- A first entry that falls short is passed over. Witness: `List.find?_cons_of_neg`. -/
theorem firstReaching_of_not_le {entry : α} (short : ¬ request ≤ entry)
    : firstReaching (entry :: table) request = firstReaching table request :=
  List.find?_cons_of_neg (by simp [short])

/-- Some entry reaches a request if there is one that does. -/
theorem firstReaching_isSome_iff
    : (firstReaching table request).isSome = true ↔ ∃ entry ∈ table, request ≤ entry := by
  simp [firstReaching]

/-- An entry found in a table is found in any longer one. Witness: `List.find?_append`. -/
theorem firstReaching_append {more : List α} {entry : α}
    (found : firstReaching table request = some entry)
    : firstReaching (table ++ more) request = some entry := by
  unfold firstReaching at found ⊢
  rw [List.find?_append, found]
  rfl

/-- The first entry of an ascending table that reaches a request is the least. -/
theorem firstReaching_isLeast (ascending : table.Pairwise (· ≤ ·)) {entry : α}
    (found : firstReaching table request = some entry)
    : IsLeast (Reaching table request) entry := by
  obtain ⟨reaches, before, after, split, missed⟩ := List.find?_eq_some_iff_append.mp found
  refine ⟨⟨List.mem_of_find?_eq_some found, of_decide_eq_true reaches⟩, ?_⟩
  rintro other ⟨member, reached⟩
  rw [split] at member ascending
  rcases List.mem_append.mp member with early | late
  · have short := missed other early
    simp [reached] at short
  · rcases List.mem_cons.mp late with rfl | later
    · exact le_rfl
    · exact List.rel_of_pairwise_cons (List.pairwise_append.mp ascending).2.1 later

/-- The number of entries of a descending table before the first one that does not reach a
request.
-/
def reachingCount (table : List α) (request : α) : Nat :=
  table.findIdx fun entry => decide (entry < request)

/-- No more entries are counted than there are. Witness: `List.findIdx_le_length`. -/
theorem reachingCount_le : reachingCount table request ≤ table.length := List.findIdx_le_length

/-- Only the entries before the first one that does not reach a request reach it. -/
theorem reaching_iff_lt (descending : table.Pairwise (· ≥ ·)) {i : Nat} (inside : i < table.length)
    : request ≤ table[i] ↔ i < reachingCount table request := by
  constructor
  · intro reaches
    refine Nat.lt_of_not_le fun late => ?_
    have first : reachingCount table request < table.length := Nat.lt_of_le_of_lt late inside
    have short := of_decide_eq_true (List.findIdx_getElem (w := first))
    rcases Nat.lt_or_eq_of_le late with later | same
    · have lower := List.pairwise_iff_getElem.mp descending _ i first inside later
      exact absurd (reaches.trans lower) (not_le.mpr short)
    · simp only [← same] at reaches
      exact absurd reaches (not_le.mpr short)
  · intro early
    exact not_lt.mp (of_decide_eq_false (List.not_of_lt_findIdx early))

/-- The last entry of a descending table that reaches a request is the least. -/
theorem reachingCount_isLeast (descending : table.Pairwise (· ≥ ·)) {i : Nat}
    (last : i + 1 = reachingCount table request)
    : ∃ inside : i < table.length, IsLeast (Reaching table request) table[i] := by
  have few : reachingCount table request ≤ table.length := reachingCount_le
  have inside : i < table.length := by omega
  refine ⟨inside, ⟨List.getElem_mem inside, (reaching_iff_lt descending inside).mpr (by omega)⟩, ?_⟩
  rintro other ⟨member, reached⟩
  obtain ⟨j, bound, rfl⟩ := List.getElem_of_mem member
  have early := (reaching_iff_lt descending bound).mp reached
  rcases Nat.lt_or_eq_of_le (Nat.le_of_lt_succ (last ▸ early)) with before | same
  · exact List.pairwise_iff_getElem.mp descending j i bound inside before
  · simp only [same, le_refl]

/-- The last entry of a table before the first one whose key is above a request, or else `last`. -/
def lastWithin {β : Type} (key : β → α) (request : α) : List β → β → β
  | [], last => last
  | entry :: rest, last =>
      if request < key entry then last else lastWithin key request rest entry

/-- In a table of ascending keys that is the entry with the greatest key within the request, if
there is one. By induction on the table.
-/
theorem lastWithin_isGreatest {β : Type} {key : β → α} {entries : List β} (last : β)
    (ascending : (entries.map key).Pairwise (· ≤ ·))
    : ((∀ entry ∈ entries, request < key entry) ∧ lastWithin key request entries last = last)
      ∨ IsGreatest { k | k ∈ entries.map key ∧ k ≤ request }
          (key (lastWithin key request entries last)) := by
  induction entries generalizing last with
  | nil => exact .inl ⟨nofun, rfl⟩
  | cons entry rest ih =>
      obtain ⟨lowest, ordered⟩ := List.pairwise_cons.mp ascending
      unfold lastWithin
      split
      next above =>
        refine .inl ⟨fun other member => ?_, rfl⟩
        rcases List.mem_cons.mp member with rfl | later
        · exact above
        · exact lt_of_lt_of_le above (lowest (key other) (List.mem_map_of_mem later))
      next within =>
        refine .inr ?_
        rcases ih entry ordered with ⟨none, same⟩ | ⟨found, greatest⟩
        · rw [same]
          refine ⟨⟨List.mem_cons_self, not_lt.mp within⟩, fun k bounded => ?_⟩
          rcases List.mem_cons.mp bounded.1 with rfl | later
          · exact le_rfl
          · obtain ⟨other, member, rfl⟩ := List.mem_map.mp later
            exact absurd bounded.2 (not_le.mpr (none other member))
        · refine ⟨⟨List.mem_cons_of_mem _ found.1, found.2⟩, fun k bounded => ?_⟩
          rcases List.mem_cons.mp bounded.1 with rfl | later
          · exact lowest _ found.1
          · exact greatest ⟨later, bounded.2⟩

end RtlTcpAndro.Tables
