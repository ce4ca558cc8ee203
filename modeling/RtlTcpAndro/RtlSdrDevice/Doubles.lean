import Mathlib.Data.Nat.Cast.Field
import Mathlib.Tactic.FieldSimp
import Mathlib.Tactic.Linarith
import Mathlib.Tactic.Positivity
import RtlTcpAndro.RtlSdrDevice.Tuning

/-! How close the doubles of the radio settings are to the exact numbers, and when dropping the
fraction of a quotient gives what it gives in exact arithmetic.
-/

namespace RtlTcpAndro.RtlSdrDevice

-----------------------------------------------------------------------------------------
-- Rounding
-----------------------------------------------------------------------------------------

/-- An integer rounds to itself. Witness: its fraction is zero. -/
theorem roundHalfEven_intCast (n : ℤ) : roundHalfEven (n : ℚ) = n := by
  unfold roundHalfEven
  rw [Int.floor_intCast, sub_self]
  exact if_pos (by norm_num)

/-- The nearest integer is at most a half away. -/
theorem abs_roundHalfEven_sub_le (q : ℚ) : |(roundHalfEven q : ℚ) - q| ≤ 1 / 2 := by
  have least := Int.floor_le q
  have most := Int.lt_floor_add_one q
  have down : q - ⌊q⌋ ≤ 1 / 2 → |(⌊q⌋ : ℚ) - q| ≤ 1 / 2 := by
    intro half
    rw [abs_le]
    constructor <;> linarith
  have up : 1 / 2 ≤ q - ⌊q⌋ → |((⌊q⌋ + 1 : ℤ) : ℚ) - q| ≤ 1 / 2 := by
    intro half
    push_cast
    rw [abs_le]
    constructor <;> linarith
  simp only [roundHalfEven]
  split
  next below => exact down below.le
  next reaches =>
    split
    next above => exact up above.le
    next stays =>
      split
      · exact down (not_lt.mp stays)
      · exact up (not_lt.mp reaches)

/-- An integer of at most 53 bits is a `double`. -/
theorem toDouble_intCast {n : ℤ} (small : n.natAbs < 2 ^ 53) : toDouble (n : ℚ) = n := by
  have digits : Nat.log 2 n.natAbs ≤ 52 :=
    Nat.lt_succ_iff.mp (Nat.log_lt_of_lt_pow' (by decide) small)
  have magnitude : |(n : ℚ)| = (n.natAbs : ℚ) := by
    rw [← Int.cast_abs, Int.abs_eq_natAbs, Int.cast_natCast]
  have ulp : (2 : ℚ) ^ (Int.log 2 |(n : ℚ)| - 52)
      = ((2 : ℚ) ^ (52 - Nat.log 2 n.natAbs))⁻¹ := by
    rw [magnitude, Int.log_natCast, ← zpow_natCast, ← zpow_neg, Nat.cast_sub digits]
    congr 1
    push_cast
    ring
  have scaled : (n : ℚ) / ((2 : ℚ) ^ (52 - Nat.log 2 n.natAbs))⁻¹
      = (n * 2 ^ (52 - Nat.log 2 n.natAbs) : ℤ) := by
    rw [div_inv_eq_mul]
    push_cast
    rfl
  unfold toDouble
  simp only []
  rw [ulp, scaled, roundHalfEven_intCast]
  push_cast
  rw [mul_assoc, mul_inv_cancel₀ (by positivity), mul_one]

/-- A `double` is off by at most the part 2^-53 of what it stands for. -/
theorem abs_toDouble_sub_le (q : ℚ) : |toDouble q - q| ≤ |q| / 2 ^ 53 := by
  by_cases zero : q = 0
  · subst zero
    have exact := toDouble_intCast (n := 0) (by decide)
    rw [Int.cast_zero] at exact
    rw [exact]
    norm_num
  · have positive : (0 : ℚ) < |q| := abs_pos.mpr zero
    have ulp : (0 : ℚ) < 2 ^ (Int.log 2 |q| - 52) := zpow_pos (by norm_num) _
    have magnitude : (2 : ℚ) ^ (Int.log 2 |q| - 52) ≤ |q| / 2 ^ 52 := by
      rw [zpow_sub₀ (by norm_num)]
      exact div_le_div_of_nonneg_right (Int.zpow_log_le_self (by norm_num) positive) (by norm_num)
    have rounded := abs_roundHalfEven_sub_le (q / 2 ^ (Int.log 2 |q| - 52))
    have scaled : toDouble q - q
        = ((roundHalfEven (q / 2 ^ (Int.log 2 |q| - 52)) : ℚ) - q / 2 ^ (Int.log 2 |q| - 52))
          * 2 ^ (Int.log 2 |q| - 52) := by
      simp only [toDouble]
      rw [sub_mul, div_mul_cancel₀ _ ulp.ne']
    rw [scaled, abs_mul, abs_of_pos ulp]
    calc
      _ ≤ 1 / 2 * (2 : ℚ) ^ (Int.log 2 |q| - 52) := mul_le_mul_of_nonneg_right rounded ulp.le
      _ ≤ 1 / 2 * (|q| / 2 ^ 52) := mul_le_mul_of_nonneg_left magnitude (by norm_num)
      _ = |q| / 2 ^ 53 := by ring

/-- A natural number below `2 ^ 53` is a double. Witness: as an integer. -/
theorem toDouble_natCast {n : Nat} (small : n < 2 ^ 53) : toDouble (n : ℚ) = n := by
  have exact := toDouble_intCast (n := (n : ℤ)) (by simpa using small)
  rwa [Int.cast_natCast] at exact

-----------------------------------------------------------------------------------------
-- Quotients without their fraction
-----------------------------------------------------------------------------------------

/-- Truncation leaves an integer. Witness: its denominator is one. -/
theorem truncate_intCast (n : ℤ) : truncate (n : ℚ) = n := by
  unfold truncate
  rw [Rat.num_intCast, Rat.den_intCast]
  exact Int.tdiv_one _

/-- Truncation is towards zero, so it commutes with the sign. Witness: so does integer
division there.
-/
theorem truncate_neg (q : ℚ) : truncate (-q) = -truncate q := by
  unfold truncate
  rw [Rat.num_neg_eq_neg_num, Rat.den_neg_eq_den, Int.neg_tdiv]

/-- From zero on truncation is the floor. Witness: integer division rounds down there. -/
theorem truncate_of_nonneg {q : ℚ} (nonneg : 0 ≤ q) : truncate q = ⌊q⌋ := by
  unfold truncate
  rw [Int.tdiv_eq_ediv_of_nonneg (Rat.num_nonneg.mpr nonneg)]
  exact (Rat.floor_def q).symm

/-- What is less than a denominator's part away from a quotient has its integer part, if it is
exact where the quotient is an integer.
-/
theorem truncate_natCast_of_close {q : ℚ} {n d : Nat} (positive : 0 < d)
    (exact : d ∣ n → q = n / d) (close : |q - n / d| < 1 / d)
    : truncate q = (n / d : Nat) := by
  have wide : (0 : ℚ) < d := by exact_mod_cast positive
  by_cases divides : d ∣ n
  · rw [exact divides, ← Nat.cast_div divides wide.ne', ← Int.cast_natCast, truncate_intCast]
  · have whole : (d : ℚ) * (n / d : Nat) + (n % d : Nat) = n := by
      exact_mod_cast Nat.div_add_mod n d
    have some : 1 ≤ n % d := Nat.pos_of_ne_zero fun none => divides (Nat.dvd_of_mod_eq_zero none)
    have least : (1 : ℚ) ≤ (n % d : Nat) := by exact_mod_cast some
    have most : ((n % d : Nat) : ℚ) + 1 ≤ d := by exact_mod_cast Nat.mod_lt n positive
    obtain ⟨below, above⟩ := abs_lt.mp close
    have lower : (n / d : Nat) ≤ q := by
      have reach : ((n / d : Nat) : ℚ) ≤ n / d - 1 / d := by
        rw [← sub_div, le_div_iff₀ wide]
        linarith
      linarith
    have upper : q < (n / d : Nat) + 1 := by
      have reach : (n : ℚ) / d + 1 / d ≤ (n / d : Nat) + 1 := by
        rw [← add_div, div_le_iff₀ wide]
        linarith
      linarith
    rw [truncate_of_nonneg (le_trans (Nat.cast_nonneg _) lower)]
    exact Int.floor_eq_iff.mpr ⟨by exact_mod_cast lower, by exact_mod_cast upper⟩

/-- The quotient of a number of at most 53 bits is close to its `double`. -/
theorem abs_toDouble_div_sub_lt {n : ℤ} {d : Nat} (small : n.natAbs < 2 ^ 53) (positive : 0 < d)
    : |toDouble (n / d) - n / d| < 1 / d := by
  have wide : (0 : ℚ) < d := by exact_mod_cast positive
  have magnitude : |(n : ℚ)| < 2 ^ 53 := by
    rw [← Int.cast_abs, Int.abs_eq_natAbs, Int.cast_natCast]
    exact_mod_cast small
  calc
    |toDouble (n / d) - n / d| ≤ |(n / d : ℚ)| / 2 ^ 53 := abs_toDouble_sub_le _
    _ = |(n : ℚ)| / 2 ^ 53 / d := by rw [abs_div, abs_of_pos wide, div_right_comm]
    _ < 1 / d := div_lt_div_of_pos_right ((div_lt_one (by norm_num)).mpr magnitude) wide

/-- The fraction of a quotient of a number of at most 53 bits is dropped as if the quotient were
exact.
-/
theorem truncate_toDouble_div {n : ℤ} {d : Nat} (small : n.natAbs < 2 ^ 53) (positive : 0 < d)
    : truncate (toDouble (n / d)) = n.tdiv d := by
  have wide : (0 : ℚ) < d := by exact_mod_cast positive
  have close := abs_toDouble_div_sub_lt small positive
  have exact (divides : (d : ℤ) ∣ n) : toDouble (n / d) = n / d := by
    obtain ⟨quotient, rfl⟩ := divides
    have same : (((d : ℤ) * quotient : ℤ) : ℚ) / d = (quotient : ℤ) := by
      push_cast
      field_simp
    rw [same, toDouble_intCast]
    rw [Int.natAbs_mul] at small
    exact lt_of_le_of_lt (Nat.le_mul_of_pos_left _ positive) small
  obtain ⟨magnitude, rfl | rfl⟩ := n.eq_nat_or_neg
  · rw [Int.cast_natCast] at *
    exact truncate_natCast_of_close positive
      (fun divides => exact (Int.natCast_dvd_natCast.mpr divides)) close
  · rw [Int.cast_neg, Int.cast_natCast] at *
    have mirrored : truncate (-toDouble (-magnitude / d)) = (magnitude / d : Nat) := by
      refine truncate_natCast_of_close positive ?_ ?_
      · intro divides
        rw [exact ((Int.natCast_dvd_natCast.mpr divides).neg_right), neg_div, neg_neg]
      · rw [neg_div] at *
        rw [← abs_neg]
        convert close using 2
        ring
    rw [truncate_neg] at mirrored
    rw [Int.neg_tdiv, ← neg_eq_iff_eq_neg, mirrored]
    rfl

end RtlTcpAndro.RtlSdrDevice
