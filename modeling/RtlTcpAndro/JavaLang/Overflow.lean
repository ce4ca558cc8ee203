import Mathlib.Algebra.Group.Int.Defs
import Mathlib.Algebra.Group.Nat.Defs

/-! Arithmetic of 32-bit integers that wraps around: where a number lies among the windows of
`2 ^ 32` numbers, and what this does to a function that rises with the number.
-/

namespace RtlTcpAndro.JavaLang

/-- How often a number wraps around on its way into 32 bits. -/
def window (n : Int) : Int := (n + 2 ^ 31) / 2 ^ 32

/-- A number cut to 32 bits differs from it by its window. Witness: the two halves of the
remainder.
-/
theorem bmod_eq_sub_window (n : Int) : n.bmod (2 ^ 32) = n - window n * 2 ^ 32 := by
  simp only [window, Int.bmod_def]
  split <;> omega

/-- Inside a window numbers keep their order. -/
theorem bmod_le_bmod {m n : Int} (order : m ≤ n) (same : window m = window n)
    : m.bmod (2 ^ 32) ≤ n.bmod (2 ^ 32) := by
  rw [bmod_eq_sub_window, bmod_eq_sub_window, same]
  omega

/-- Larger numbers lie in no earlier window. Witness: division is monotone. -/
theorem window_le_window {m n : Int} (order : m ≤ n) : window m ≤ window n := by
  simp only [window]
  omega

/-- From one window to the next a number falls from the top of the 32 bits to their bottom. -/
theorem bmod_of_window_ne {m n least : Int} (order : m ≤ n) (close : n ≤ m + least)
    (differ : window m ≠ window n)
    : 2 ^ 31 - least ≤ m.bmod (2 ^ 32) ∧ n.bmod (2 ^ 32) < least - 2 ^ 31 := by
  simp only [bmod_eq_sub_window, window] at *
  omega

/-- The quotient that drops the fraction, by the one that rounds down. -/
theorem tdiv_eq_ite (n divisor : Int)
    : n.tdiv divisor = if 0 ≤ n then n / divisor else -(-n / divisor) := by
  split
  next nonneg => exact Int.tdiv_eq_ediv_of_nonneg nonneg
  next negative =>
    rw [← Int.tdiv_eq_ediv_of_nonneg (by omega), Int.neg_tdiv, Int.neg_neg]

section

variable {f : Int → Int}

/-- A function that rises at each step rises over any distance, by induction on it. -/
theorem le_of_steps (rises : ∀ x, f x ≤ f (x + 1)) {low high : Int} (order : low ≤ high)
    : f low ≤ f high := by
  obtain ⟨distance, rfl⟩ := Int.le.dest order
  induction distance with
  | zero => simp
  | succ distance ih =>
      have step := rises (low + distance)
      rw [Int.natCast_succ, ← Int.add_assoc]
      exact Int.le_trans (ih (by omega)) step

/-- A function with different values at the ends changes at some step between them, by
induction on the distance.
-/
theorem exists_step_ne {low high : Int} (order : low ≤ high) (differ : f low ≠ f high)
    : ∃ x, low ≤ x ∧ x < high ∧ f x ≠ f (x + 1) := by
  obtain ⟨distance, rfl⟩ := Int.le.dest order
  induction distance with
  | zero => exact absurd (by simp) differ
  | succ distance ih =>
      rw [Int.natCast_succ, ← Int.add_assoc] at differ ⊢
      by_cases last : f (low + distance) = f (low + distance + 1)
      · obtain ⟨x, above, below, change⟩ := ih (by omega) (fun same => differ (same.trans last))
        exact ⟨x, above, by omega, change⟩
      · exact ⟨low + distance, by omega, by omega, last⟩

end

/-- A function of the wrapped number that rises with it, and falls from the top of the 32 bits to
their bottom, rises along numbers that rise slowly exactly where they stay in one window.
-/
theorem wrapped_monotone_iff {value number : Int → Int} {least : Int}
    (monotone : ∀ m n, m ≤ n → value m ≤ value n)
    (falls : ∀ m n, 2 ^ 31 - least ≤ m → n < least - 2 ^ 31 → value n < value m)
    (rises : ∀ x, number x ≤ number (x + 1))
    (slowly : ∀ x, number (x + 1) ≤ number x + least) {low high : Int} (order : low ≤ high)
    : (∀ x y, low ≤ x → x ≤ y → y ≤ high →
          value ((number x).bmod (2 ^ 32)) ≤ value ((number y).bmod (2 ^ 32)))
      ↔ window (number low) = window (number high) := by
  constructor
  · intro kept
    refine Classical.byContradiction fun differ => ?_
    obtain ⟨x, above, below, change⟩ :=
      exists_step_ne (f := fun x => window (number x)) order differ
    obtain ⟨top, bottom⟩ := bmod_of_window_ne (rises x) (slowly x) change
    have fallen := falls _ _ top bottom
    have risen := kept x (x + 1) above (by omega) (by omega)
    omega
  · intro same x y above between below
    have first := window_le_window (le_of_steps rises above)
    have middle := window_le_window (le_of_steps rises between)
    have final := window_le_window (le_of_steps rises below)
    exact monotone _ _ (bmod_le_bmod (le_of_steps rises between) (by omega))

end RtlTcpAndro.JavaLang
