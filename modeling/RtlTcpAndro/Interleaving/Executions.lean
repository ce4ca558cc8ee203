import RtlTcpAndro.Interleaving.Schedule

/-! Endless runs, and the progress of a party that is scheduled again and again. -/

namespace RtlTcpAndro.Interleaving

/-- An endless run: its states, and the choice taken in each of them. -/
structure Execution {σ ε : Type} (system : System σ ε) where
  state : Nat → σ
  choice : Nat → ε
  initial : system.initial (state 0)
  fired : ∀ n, system.step (state n) (choice n) = some (state (n + 1))

namespace Execution

variable {σ ε : Type} {system : System σ ε}

/-- What every step keeps holds from its first time on. -/
theorem kept (execution : Execution system) (holds : σ → Prop) {start : Nat}
    (first : holds (execution.state start))
    (step
      : ∀ n, start ≤ n → holds (execution.state n) → holds (execution.state (n + 1)))
    : ∀ n, start ≤ n → holds (execution.state n) := by
  intro n later
  induction later with
  | refl => exact first
  | step later ih => exact step _ later ih

/-- A party that moves again and again reaches its goal when each of its moves decreases a
rank and no other step increases it. By strong induction on the rank.
-/
theorem reaches (goal moves : Nat → Prop) (rank : Nat → Nat) (start : Nat)
    (again : ∀ n, ∃ m, n ≤ m ∧ (moves m ∨ goal m))
    (decreases : ∀ n, start ≤ n → ¬ goal n → moves n → rank (n + 1) < rank n)
    (keeps : ∀ n, start ≤ n → ¬ goal n → ¬ moves n → rank (n + 1) ≤ rank n)
    : ∃ n, start ≤ n ∧ goal n := by
  refine Classical.byContradiction fun missed => ?_
  have short (n : Nat) (later : start ≤ n) : ¬ goal n := fun reached => missed ⟨n, later, reached⟩
  have bounded (n m : Nat) (later : start ≤ n) (after : n ≤ m) : rank m ≤ rank n := by
    induction after with
    | refl => exact Nat.le_refl _
    | @step m after ih =>
        have late := Nat.le_trans later after
        by_cases moved : moves m
        · exact Nat.le_trans (Nat.le_of_lt (decreases m late (short m late) moved)) ih
        · exact Nat.le_trans (keeps m late (short m late) moved) ih
  have never (bound : Nat) : ∀ n, start ≤ n → rank n = bound → False := by
    induction bound using Nat.strongRecOn with
    | ind bound ih =>
        intro n later found
        obtain ⟨m, after, moved | reached⟩ := again n
        · have late := Nat.le_trans later after
          have less := decreases m late (short m late) moved
          have most := bounded n m later after
          exact ih (rank (m + 1)) (by omega) (m + 1) (by omega) rfl
        · exact short m (Nat.le_trans later after) reached
  exact never (rank start) start (Nat.le_refl start) rfl

end Execution

end RtlTcpAndro.Interleaving
