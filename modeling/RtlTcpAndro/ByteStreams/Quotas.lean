import Mathlib.Data.List.Basic

/-! A stream that arrives in chunks, of which a quota is taken: a chunk that has more than is left
of the quota is cut and nothing is taken after it, and a quota of zero is none. Nothing here depends
on what the stream carries.
-/

namespace RtlTcpAndro.ByteStreams

variable {α : Type}

/-- What is left of a quota, what was taken, and whether a chunk was cut. -/
structure Metered (α : Type) where
  quota : Nat
  taken : List α
  cut : Bool

/-- A chunk arrives. -/
def Metered.pass (metered : Metered α) (chunk : List α) : Metered α :=
  if metered.cut then metered
  else if 0 < metered.quota ∧ metered.quota < chunk.length then
    ⟨0, metered.taken ++ chunk.take metered.quota, true⟩
  else ⟨metered.quota - chunk.length, metered.taken ++ chunk, false⟩

/-- Some first chunks have exactly the quota. -/
def Exhausts (quota : Nat) (chunks : List (List α)) : Prop :=
  ∃ count, ((chunks.take count).flatten).length = quota

variable {chunk taken : List α} {chunks : List (List α)} {quota : Nat}

/-- A count of zero is exhausted by any chunks. Witness: none of them. -/
theorem exhausts_zero : Exhausts 0 chunks := ⟨0, rfl⟩

/-- A quota that is not zero goes beyond the first chunk. -/
theorem exhausts_cons (some_ : 0 < quota)
    : Exhausts quota (chunk :: chunks)
      ↔ chunk.length ≤ quota ∧ Exhausts (quota - chunk.length) chunks := by
  constructor
  · rintro ⟨count, total⟩
    cases count with
    | zero => exact absurd total (Nat.ne_of_lt some_)
    | succ count =>
        rw [List.take_succ_cons, List.flatten_cons, List.length_append] at total
        exact ⟨by omega, count, by omega⟩
  · rintro ⟨fits, count, total⟩
    refine ⟨count + 1, ?_⟩
    rw [List.take_succ_cons, List.flatten_cons, List.length_append, total]
    omega

/-- Nothing is taken once a chunk was cut. By induction on the chunks. -/
theorem foldl_pass_of_cut
    : chunks.foldl Metered.pass ⟨quota, taken, true⟩ = ⟨quota, taken, true⟩ := by
  induction chunks with
  | nil => rfl
  | cons chunk rest ih => exact ih

/-- What is taken of a stream: all of it if some first chunks have exactly the quota, and else as
much as the quota is. By induction on the chunks.
-/
theorem foldl_pass (chunks : List (List α)) (quota : Nat) (taken : List α)
    : (Exhausts quota chunks
        → (chunks.foldl Metered.pass ⟨quota, taken, false⟩).taken = taken ++ chunks.flatten
          ∧ (chunks.foldl Metered.pass ⟨quota, taken, false⟩).cut = false)
      ∧ (¬ Exhausts quota chunks
        → (chunks.foldl Metered.pass ⟨quota, taken, false⟩).taken
            = taken ++ chunks.flatten.take quota
          ∧ ((chunks.foldl Metered.pass ⟨quota, taken, false⟩).cut = true
            ↔ quota < chunks.flatten.length)) := by
  induction chunks generalizing quota taken with
  | nil =>
      refine ⟨fun _ => ⟨(List.append_nil taken).symm, rfl⟩, fun _ => ⟨by simp, by simp⟩⟩
  | cons chunk rest ih =>
      rw [List.foldl_cons, List.flatten_cons]
      by_cases beyond : 0 < quota ∧ quota < chunk.length
      · have passed : Metered.pass ⟨quota, taken, false⟩ chunk
            = ⟨0, taken ++ chunk.take quota, true⟩ :=
          if_pos beyond
        rw [passed, foldl_pass_of_cut]
        refine ⟨fun exhausts => ?_, fun _ => ⟨?_, ?_⟩⟩
        · exact absurd ((exhausts_cons beyond.1).mp exhausts).1 (Nat.not_le.mpr beyond.2)
        · rw [List.take_append_of_le_length (Nat.le_of_lt beyond.2)]
        · rw [List.length_append]
          exact iff_of_true rfl (by omega)
      · have passed : Metered.pass ⟨quota, taken, false⟩ chunk
            = ⟨quota - chunk.length, taken ++ chunk, false⟩ :=
          if_neg beyond
        obtain ⟨all, part⟩ := ih (quota - chunk.length) (taken ++ chunk)
        rw [passed]
        rcases Nat.eq_zero_or_pos quota with rfl | some_
        · rw [Nat.zero_sub] at all ⊢
          obtain ⟨same, uncut⟩ := all exhausts_zero
          exact ⟨fun _ => ⟨same.trans (List.append_assoc ..), uncut⟩,
            fun wrong => absurd exhausts_zero wrong⟩
        · have fits : chunk.length ≤ quota := by omega
          rw [exhausts_cons some_]
          refine ⟨fun exhausts => ?_, fun inexact => ?_⟩
          · obtain ⟨same, uncut⟩ := all exhausts.2
            exact ⟨same.trans (List.append_assoc ..), uncut⟩
          · obtain ⟨same, ends⟩ := part fun exhausts => inexact ⟨fits, exhausts⟩
            refine ⟨?_, ends.trans ?_⟩
            · rw [same, List.take_append, List.take_of_length_le fits, List.append_assoc]
            · rw [List.length_append]
              omega

end RtlTcpAndro.ByteStreams
