import RtlTcpAndro.Faults.Program

/-! Histories of calls that are made one after the other, each from the state that the one before
it left. Nothing here depends on what the calls do.
-/

namespace RtlTcpAndro.Faults

variable {ι ρ σ ε : Type}

/-- A call that was made, with the states before and after it and what it returned. -/
structure Made (ι σ ε : Type) where
  call : ι
  before : σ
  after : σ
  outcome : Except ε Unit

/-- The calls made so far, the last of them first, and the state that they leave. -/
inductive History (program : ι → Program ρ σ ε Unit) (environment : ρ) (start : σ)
    : List (Made ι σ ε) → σ → Prop
  | start : History program environment start [] start
  | call {earlier : List (Made ι σ ε)} {made : Made ι σ ε}
      (history : History program environment start earlier made.before)
      (ran : program made.call environment made.before = .ok (made.outcome, made.after))
    : History program environment start (made :: earlier) made.after

/-- Makes calls after those that were made, unless one of them faults. -/
def record (program : ι → Program ρ σ ε Unit) (environment : ρ)
    : List ι → List (Made ι σ ε) → σ → Faulty (List (Made ι σ ε) × σ)
  | [], earlier, state => return (earlier, state)
  | call :: calls, earlier, state => do
      let (outcome, later) ← program call environment state
      record program environment calls (⟨call, state, later, outcome⟩ :: earlier) later

section Records

variable {program : ι → Program ρ σ ε Unit} {environment : ρ} {start state last : σ}
  {earlier made : List (Made ι σ ε)}

/-- What is recorded is a history. By induction on the calls. -/
theorem History.record {calls : List ι} (history : History program environment start earlier state)
    (recorded : Faults.record program environment calls earlier state = .ok (made, last))
    : History program environment start made last := by
  induction calls generalizing earlier state with
  | nil =>
      cases recorded
      exact history
  | cons call calls ih =>
      unfold Faults.record at recorded
      cases ran : program call environment state with
      | error fault =>
          rw [ran] at recorded
          cases recorded
      | ok result =>
          obtain ⟨outcome, later⟩ := result
          rw [ran] at recorded
          exact ih (.call history ran) recorded

/-- Calls whose record passes a check are a history that passes it. -/
theorem exists_history {calls : List ι} {check : List (Made ι σ ε) → Bool}
    (checked
      : (record program environment calls [] start).map (fun made => check made.1) = .ok true)
    : ∃ made last, History program environment start made last ∧ check made = true := by
  cases recorded : record program environment calls [] start with
  | error fault =>
      rw [recorded] at checked
      cases checked
  | ok result =>
      obtain ⟨made, last⟩ := result
      rw [recorded] at checked
      exact ⟨made, last, .record .start recorded, Except.ok.inj checked⟩

end Records

end RtlTcpAndro.Faults
