import Mathlib.Tactic.Ring

/-! A number as a sum of halves of a total: a half, a quarter and so on, each rounded down and
taken when it is less than what is left. The digits of those taken approximate the quotient of the
number and the total.
-/

namespace RtlTcpAndro.Fractions

/-- Of a whole there is a rest after some steps, the last of which was for the part of the total
with a divisor. The digits of the parts taken, in fractions of a unit, are their sum up to the
rounding of one part in each step.
-/
structure Halved (unit total whole divisor rest digits steps : Nat) : Prop where
  rest_le : rest ≤ total / divisor + steps
  part : rest ≤ whole
  lower : unit * (whole - rest) ≤ total * digits
  upper : total * digits ≤ unit * (whole - rest) + unit * steps

variable {unit total whole divisor rest digits steps digit : Nat}

/-- Before the first step the whole is left, if it is at most the total. -/
theorem Halved.start (fits : whole ≤ total) : Halved unit total whole 1 whole 0 0 where
  rest_le := by
    rw [Nat.div_one]
    exact fits
  part := Nat.le_refl whole
  lower := by simp
  upper := by simp

/-- Half of a part is rounded down by at most one. -/
theorem div_le_double_div (total divisor : Nat)
    : total / divisor ≤ 2 * (total / (2 * divisor)) + 1 := by
  rw [Nat.mul_comm 2 divisor, ← Nat.div_div_eq_div_mul]
  omega

/-- A part that is less than the rest is taken, with its digit. -/
theorem Halved.take (halved : Halved unit total whole divisor rest digits steps)
    (positive : 0 < divisor) (counts : 2 * divisor * digit = unit)
    (above : total / (2 * divisor) < rest)
    : Halved unit total whole (2 * divisor) (rest - total / (2 * divisor)) (digits + digit)
        (steps + 1) := by
  have taken : whole - (rest - total / (2 * divisor))
      = whole - rest + total / (2 * divisor) := by
    have part := halved.part
    generalize total / (2 * divisor) = taken at above ⊢
    omega
  have double := Nat.div_add_mod total (2 * divisor)
  have below : total % (2 * divisor) < 2 * divisor := Nat.mod_lt _ (by omega)
  have scaled : total * digit
      = unit * (total / (2 * divisor)) + total % (2 * divisor) * digit := by
    calc
      total * digit
          = (2 * divisor * (total / (2 * divisor)) + total % (2 * divisor)) * digit := by
        rw [double]
      _ = 2 * divisor * digit * (total / (2 * divisor)) + total % (2 * divisor) * digit := by
        ring
      _ = unit * (total / (2 * divisor)) + total % (2 * divisor) * digit := by
        rw [counts]
  have rounding : total % (2 * divisor) * digit ≤ unit := by
    rw [← counts]
    exact Nat.mul_le_mul_right digit (Nat.le_of_lt below)
  have lower := halved.lower
  have upper := halved.upper
  refine ⟨?_, ?_, ?_, ?_⟩
  · have half := div_le_double_div total divisor
    have least := halved.rest_le
    omega
  · exact Nat.le_trans (Nat.sub_le _ _) halved.part
  · rw [taken, Nat.mul_add, Nat.mul_add, scaled]
    omega
  · rw [taken, Nat.mul_add, Nat.mul_add, Nat.mul_add, scaled, Nat.mul_one]
    omega

/-- Any other part is skipped. -/
theorem Halved.skip (halved : Halved unit total whole divisor rest digits steps)
    (below : rest ≤ total / (2 * divisor))
    : Halved unit total whole (2 * divisor) rest digits (steps + 1) where
  rest_le := Nat.le_trans below (Nat.le_add_right _ _)
  part := halved.part
  lower := halved.lower
  upper := by
    have upper := halved.upper
    rw [Nat.mul_add]
    omega

end RtlTcpAndro.Fractions
