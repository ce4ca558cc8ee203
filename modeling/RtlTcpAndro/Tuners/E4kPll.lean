import Mathlib.Algebra.Order.Ring.Int

/-! The parameters of the phase-locked loop of the E4000, as `tuner_e4k.c` computes them from the
clock of the chip and a frequency.
-/

namespace RtlTcpAndro.Tuners

-----------------------------------------------------------------------------------------
-- e4k_compute_pll_params
-----------------------------------------------------------------------------------------

/-- `struct pll_settings` -/
structure PllSettings where
  freq : UInt32
  regSynth7 : UInt8
  mult : UInt8

/-- `KHZ` and `MHZ` -/
def khz (n : UInt32) : UInt32 := n * 1000
def mhz (n : UInt32) : UInt32 := n * 1000 * 1000

/-- `reg_synth7` of three phases, or two, and the index of a divider. -/
def regSynth7 (threephase index : UInt8) : UInt8 := (threephase <<< 3) ||| index

/-- `pll_vars` -/
def pllVars : List PllSettings :=
  [⟨khz 72400, regSynth7 1 7, 48⟩, ⟨khz 81200, regSynth7 1 6, 40⟩,
    ⟨khz 108300, regSynth7 1 5, 32⟩, ⟨khz 162500, regSynth7 1 4, 24⟩,
    ⟨khz 216600, regSynth7 1 3, 16⟩, ⟨khz 325000, regSynth7 1 2, 12⟩,
    ⟨khz 350000, regSynth7 1 1, 8⟩, ⟨khz 432000, regSynth7 0 3, 8⟩,
    ⟨khz 667000, regSynth7 0 2, 6⟩, ⟨khz 1200000, regSynth7 0 1, 4⟩]

/-- `struct e4k_pll_params` -/
structure E4kPllParams where
  fosc : UInt32
  intendedFlo : UInt32
  flo : UInt32
  x : UInt16
  z : UInt8
  r : UInt8
  rIdx : UInt8
  threephase : UInt8
  deriving DecidableEq, Repr

/-- `E4K_PLL_Y` -/
def e4kPllY : UInt64 := 65536

/-- `is_fosc_valid` -/
def isFoscValid (fosc : UInt32) : Bool := ¬ (fosc < mhz 16 ∨ mhz 30 < fosc)

/-- `compute_fvco` -/
def computeFvco (fOsc : UInt32) (z : UInt8) (x : UInt16) : UInt64 :=
  let fvcoZ := fOsc.toUInt64 * z.toUInt64
  let fvcoX := fOsc.toUInt64 * x.toUInt64 / e4kPllY
  fvcoZ + fvcoX

/-- `compute_flo`, where `-EINVAL` becomes a large frequency. -/
def computeFlo (fOsc : UInt32) (z : UInt8) (x : UInt16) (r : UInt8) : UInt32 :=
  let fvco := computeFvco fOsc z x
  if fvco = 0 then -22 else (fvco / r.toUInt64).toUInt32

/-- The entry of the table that a frequency is tuned with. -/
def findPllVars (intendedFlo : UInt32) : Option PllSettings :=
  pllVars.find? fun vars => intendedFlo < vars.freq

/-- The divider that a frequency is tuned with. -/
def pllR (intendedFlo : UInt32) : UInt8 :=
  match findPllVars intendedFlo with
  | some vars => vars.mult
  | none => 2

/-- `e4k_compute_pll_params` -/
def e4kComputePllParams (oscp : E4kPllParams) (fosc intendedFlo : UInt32)
    : UInt32 × E4kPllParams :=
  let oscp := { oscp with rIdx := 0 }
  if ¬ isFoscValid fosc then (0, oscp)
  else
    let vars := findPllVars intendedFlo
    let threePhaseMixing := vars.any fun vars => vars.regSynth7 &&& 0x08 ≠ 0
    let rIdx := (vars.map PllSettings.regSynth7).getD 0
    let r := pllR intendedFlo
    let intendedFvco := intendedFlo.toUInt64 * r.toUInt64
    let z := intendedFvco / fosc.toUInt64
    let remainder := intendedFvco - fosc.toUInt64 * z
    let x := (remainder * e4kPllY / fosc.toUInt64).toUInt32
    let flo := computeFlo fosc z.toUInt8 x.toUInt16 r
    (flo,
      { fosc := fosc
        intendedFlo := intendedFlo
        flo := flo
        x := x.toUInt16
        z := z.toUInt8
        r := r
        rIdx := rIdx
        threephase := if threePhaseMixing then 1 else 0 })

-----------------------------------------------------------------------------------------
-- A ratio with a fraction of sixteen bits
-----------------------------------------------------------------------------------------

/-- A number as a multiple of a unit, in sixteen bits of fraction, both rounded down. -/
theorem fraction_lt {unit : Nat} (positive : 0 < unit) (number : Nat)
    : number % unit * 65536 / unit < 65536 := by
  have rest := Nat.mod_lt number positive
  exact Nat.div_lt_of_lt_mul (by omega)

/-- What the whole and the fraction leave of the number. -/
theorem fraction_rest {unit : Nat} (positive : 0 < unit) (number : Nat)
    : ∃ rest,
        unit * (number / unit) + unit * (number % unit * 65536 / unit) / 65536 + rest = number
        ∧ 65536 * rest < unit + 65536 := by
  have whole := Nat.div_add_mod number unit
  have part := Nat.div_add_mod (number % unit * 65536) unit
  have lost := Nat.mod_lt (number % unit * 65536) positive
  generalize unit * (number % unit * 65536 / unit) = fraction at part ⊢
  generalize unit * (number / unit) = multiple at whole ⊢
  refine ⟨number % unit - fraction / 65536, ?_, ?_⟩ <;> omega

/-- Nothing is left of a number that is less than the last bit of a fraction. -/
theorem fraction_eq_zero_iff {unit : Nat} (enough : 65536 ≤ unit) (number : Nat)
    : unit * (number / unit) + unit * (number % unit * 65536 / unit) / 65536 = 0
      ↔ 65536 * number < unit := by
  constructor
  · intro zero
    refine Nat.lt_of_not_le fun reaches => ?_
    by_cases below : number < unit
    · rw [Nat.mod_eq_of_lt below] at zero
      have bit : 1 ≤ number * 65536 / unit := (Nat.one_le_div_iff (by omega)).mpr (by omega)
      have scaled : unit * 1 ≤ unit * (number * 65536 / unit) := Nat.mul_le_mul_left unit bit
      omega
    · have whole : 1 ≤ number / unit := (Nat.one_le_div_iff (by omega)).mpr (by omega)
      have scaled : unit * 1 ≤ unit * (number / unit) := Nat.mul_le_mul_left unit whole
      omega
  · intro small
    have below : number < unit := by omega
    have noBit : number * 65536 / unit = 0 := Nat.div_eq_of_lt (by omega)
    rw [Nat.mod_eq_of_lt below, Nat.div_eq_of_lt below, noBit, Nat.mul_zero, Nat.zero_div]

-----------------------------------------------------------------------------------------
-- What the parameters are meant to be
-----------------------------------------------------------------------------------------

/-- The frequency of the oscillator that parameters stand for. -/
def E4kPllParams.fvco (p : E4kPllParams) : Nat :=
  p.fosc.toNat * p.z.toNat + p.fosc.toNat * p.x.toNat / 65536

/-- Parameters are the nearest below a frequency: neither part of the multiple is cut off, what
they leave of the frequency times the divider is less than a bit, and the frequency they stand
for is returned.
-/
structure E4kPllParams.Sound (p : E4kPllParams) (fosc intendedFlo flo : UInt32) : Prop where
  clock : p.fosc = fosc
  whole : p.z.toNat = intendedFlo.toNat * p.r.toNat / fosc.toNat
  fraction : p.x.toNat = intendedFlo.toNat * p.r.toNat % fosc.toNat * 65536 / fosc.toNat
  near
    : 65536 * |(p.fvco : ℤ) - intendedFlo.toNat * p.r.toNat| ≤ fosc.toNat + 65536
  returned : flo.toNat = p.fvco / p.r.toNat

/-- The multiple of the clock fits its eight bits and is not zero. -/
def MultipleFits (fosc intendedFlo : UInt32) : Prop :=
  fosc.toNat ≤ 65536 * (intendedFlo.toNat * (pllR intendedFlo).toNat)
  ∧ intendedFlo.toNat * (pllR intendedFlo).toNat < 256 * fosc.toNat

/-- The divider of the output lies between 2 and 48. Witness: the table's entries, and the
default.
-/
theorem pllR_bounded (intendedFlo : UInt32)
    : 2 ≤ (pllR intendedFlo).toNat ∧ (pllR intendedFlo).toNat ≤ 48 := by
  have listed : ∀ vars ∈ pllVars, 2 ≤ vars.mult.toNat ∧ vars.mult.toNat ≤ 48 := by decide
  rw [pllR]
  cases found : findPllVars intendedFlo with
  | none => decide
  | some vars => exact listed vars (List.mem_of_find?_eq_some found)

-----------------------------------------------------------------------------------------
-- The machine's arithmetic
-----------------------------------------------------------------------------------------

/-- A product of a word and a byte or a short fits 64 bits. -/
theorem toNat_mul_of_small (word : UInt32) (factor : UInt64) (small : factor.toNat < 2 ^ 16)
    : (word.toUInt64 * factor).toNat = word.toNat * factor.toNat := by
  rw [UInt64.toNat_mul, UInt32.toNat_toUInt64]
  have bound := Nat.mul_lt_mul'' word.toNat_lt small
  exact Nat.mod_eq_of_lt (by omega)

/-- The frequency of the oscillator does not overflow its 64 bits. -/
theorem computeFvco_toNat (fOsc : UInt32) (z : UInt8) (x : UInt16)
    : (computeFvco fOsc z x).toNat = fOsc.toNat * z.toNat + fOsc.toNat * x.toNat / 65536 := by
  have wordBound := fOsc.toNat_lt
  have byteBound := z.toNat_lt
  have shortBound := x.toNat_lt
  have whole := toNat_mul_of_small fOsc z.toUInt64 (by simp; omega)
  have part := toNat_mul_of_small fOsc x.toUInt64 (by simpa using shortBound)
  rw [computeFvco, UInt64.toNat_add, UInt64.toNat_div, whole, part]
  have wholeBound := Nat.mul_lt_mul'' wordBound byteBound
  have partBound := Nat.mul_lt_mul'' wordBound shortBound
  exact Nat.mod_eq_of_lt (by simp [e4kPllY]; omega)

/-- The frequency that is returned, the error code of a loop that does not oscillate being one.
-/
theorem computeFlo_toNat {fOsc : UInt32} (most : fOsc.toNat ≤ 30000000) (z : UInt8) (x : UInt16)
    {r : UInt8} (divides : 2 ≤ r.toNat)
    : (computeFlo fOsc z x r).toNat
      = if (computeFvco fOsc z x).toNat = 0 then 4294967274
        else (computeFvco fOsc z x).toNat / r.toNat := by
  rw [computeFlo]
  by_cases silent : computeFvco fOsc z x = 0
  · rw [if_pos silent, silent]
    rfl
  · have turning : (computeFvco fOsc z x).toNat ≠ 0 :=
      fun zero => silent (UInt64.toNat_inj.mp zero)
    rw [if_neg silent, if_neg turning, UInt64.toNat_toUInt32, UInt64.toNat_div,
      UInt8.toNat_toUInt64]
    have whole := Nat.mul_le_mul most (Nat.le_of_lt_succ z.toNat_lt)
    have part := Nat.mul_le_mul most (Nat.le_of_lt_succ x.toNat_lt)
    have bound := computeFvco_toNat fOsc z x
    have quotient := Nat.div_le_div_left divides (by decide) (a := (computeFvco fOsc z x).toNat)
    exact Nat.mod_eq_of_lt (by omega)

/-- A clock in the range of the chip makes a frequency that is no less than any divider. -/
theorem computeFlo_ne_zero {fOsc : UInt32} (least : 16000000 ≤ fOsc.toNat)
    (most : fOsc.toNat ≤ 30000000) (z : UInt8) (x : UInt16) {r : UInt8} (divides : 2 ≤ r.toNat)
    (small : r.toNat ≤ 48)
    : computeFlo fOsc z x r ≠ 0 := by
  intro zero
  have number := computeFlo_toNat most z x divides
  rw [zero, computeFvco_toNat] at number
  have turning : 0 < fOsc.toNat * z.toNat + fOsc.toNat * x.toNat / 65536 := by
    refine Nat.pos_of_ne_zero fun silent => ?_
    rw [if_pos silent] at number
    cases number
  rw [if_neg (Nat.ne_of_gt turning)] at number
  have below := (Nat.div_eq_zero_iff_lt (by omega)).mp number.symm
  have noWhole : z.toNat = 0 := by
    refine Nat.eq_zero_of_not_pos fun some => ?_
    have scaled := Nat.mul_le_mul_left fOsc.toNat some
    omega
  have noPart : x.toNat = 0 := by
    refine Nat.eq_zero_of_not_pos fun some => ?_
    have scaled := Nat.mul_le_mul_left fOsc.toNat some
    omega
  rw [noWhole, noPart] at turning
  omega

section Computed

variable {fosc intendedFlo : UInt32}

/-- What a quotient leaves is the remainder. -/
theorem toNat_sub_mul_div (number unit : UInt64)
    : (number - unit * (number / unit)).toNat = number.toNat % unit.toNat := by
  have fits := Nat.mul_div_le number.toNat unit.toNat
  have whole : (unit * (number / unit)).toNat = unit.toNat * (number.toNat / unit.toNat) := by
    rw [UInt64.toNat_mul, UInt64.toNat_div]
    exact Nat.mod_eq_of_lt (Nat.lt_of_le_of_lt fits number.toNat_lt)
  rw [UInt64.toNat_sub_of_le _ _ (UInt64.le_iff_toNat_le.mpr (whole ▸ fits)), whole]
  exact Nat.sub_eq_of_eq_add (Nat.mod_add_div _ _).symm

/-- The fraction of a number below 2^48 is computed without overflow. -/
theorem toNat_fraction (number : UInt64) {unit : UInt64} (positive : 0 < unit.toNat)
    (small : unit.toNat < 2 ^ 48)
    : ((number - unit * (number / unit)) * e4kPllY / unit).toUInt32.toUInt16.toNat
      = number.toNat % unit.toNat * 65536 / unit.toNat := by
  have below := Nat.mod_lt number.toNat positive
  have part := fraction_lt positive number.toNat
  rw [UInt32.toNat_toUInt16, UInt64.toNat_toUInt32, UInt64.toNat_div, UInt64.toNat_mul,
    toNat_sub_mul_div]
  change number.toNat % unit.toNat * 65536 % 2 ^ 64 / unit.toNat % 2 ^ 32 % 2 ^ 16 = _
  rw [Nat.mod_eq_of_lt (by omega : number.toNat % unit.toNat * 65536 < 2 ^ 64),
    Nat.mod_eq_of_lt (Nat.lt_trans part (by decide)), Nat.mod_eq_of_lt part]

/-- The parameters are those of the whole and the fraction, of which the whole loses all but
eight bits.
-/
theorem e4kComputePllParams_fields (least : 16000000 ≤ fosc.toNat)
    (most : fosc.toNat ≤ 30000000) (oscp : E4kPllParams)
    : ∃ p : E4kPllParams,
        e4kComputePllParams oscp fosc intendedFlo = (computeFlo fosc p.z p.x p.r, p)
        ∧ p.fosc = fosc
        ∧ p.r = pllR intendedFlo
        ∧ p.z.toNat = intendedFlo.toNat * (pllR intendedFlo).toNat / fosc.toNat % 256
        ∧ p.x.toNat
          = intendedFlo.toNat * (pllR intendedFlo).toNat % fosc.toNat * 65536 / fosc.toNat := by
  have valid : isFoscValid fosc = true := by
    simp only [isFoscValid, UInt32.lt_iff_toNat_lt, decide_eq_true_eq]
    change ¬ (fosc.toNat < 16000000 ∨ 30000000 < fosc.toNat)
    omega
  have bound := (pllR_bounded intendedFlo).2
  have product := toNat_mul_of_small intendedFlo (pllR intendedFlo).toUInt64 (by simp; omega)
  rw [UInt8.toNat_toUInt64] at product
  have clock : fosc.toUInt64.toNat = fosc.toNat := UInt32.toNat_toUInt64 fosc
  have ran := e4kComputePllParams.eq_1 oscp fosc intendedFlo
  rw [if_neg (not_not.mpr valid)] at ran
  refine ⟨(e4kComputePllParams oscp fosc intendedFlo).2, ?_⟩
  rw [ran]
  dsimp only
  refine ⟨rfl, rfl, rfl, ?_, ?_⟩
  · rw [UInt64.toNat_toUInt8, UInt64.toNat_div, product, clock]
  · rw [toNat_fraction _ (by omega) (by omega), product, clock]

/-- The parameters are sound exactly if the multiple fits. Below, the error of a loop that stands
still is returned as a frequency, and above, the eight bits of the whole are cut off unchecked.
-/
theorem e4kComputePllParams_sound_iff (least : 16000000 ≤ fosc.toNat)
    (most : fosc.toNat ≤ 30000000) (oscp : E4kPllParams)
    : ((e4kComputePllParams oscp fosc intendedFlo).1 = 0
        ∨ (e4kComputePllParams oscp fosc intendedFlo).2.Sound fosc intendedFlo
            (e4kComputePllParams oscp fosc intendedFlo).1)
      ↔ MultipleFits fosc intendedFlo := by
  obtain ⟨p, computed, clock, divider, whole, fraction⟩ :=
    e4kComputePllParams_fields least most oscp
  rw [computed, divider]
  dsimp only
  obtain ⟨divides, small⟩ := pllR_bounded intendedFlo
  have positive : 0 < fosc.toNat := by omega
  have number : p.fvco = (computeFvco fosc p.z p.x).toNat := by
    rw [E4kPllParams.fvco, clock, computeFvco_toNat]
  have returns := computeFlo_toNat most p.z p.x divides
  rw [← number] at returns
  have silent := fraction_eq_zero_iff (show 65536 ≤ fosc.toNat by omega)
    (intendedFlo.toNat * (pllR intendedFlo).toNat)
  have cut := Nat.div_lt_iff_lt_mul positive (y := 256)
    (x := intendedFlo.toNat * (pllR intendedFlo).toNat)
  constructor
  · rintro (zero | sound)
    · exact absurd zero (computeFlo_ne_zero least most _ _ divides small)
    · have uncut := sound.whole
      have byte := p.z.toNat_lt
      rw [divider] at uncut
      refine ⟨Nat.le_of_not_lt fun less => ?_, ?_⟩
      · have none := silent.mpr less
        rw [← uncut, ← fraction, ← clock] at none
        have stands := sound.returned
        have stopped : p.fvco = 0 := none
        rw [returns, if_pos stopped, stopped, Nat.zero_div] at stands
        cases stands
      · exact cut.mp (uncut ▸ byte)
  · rintro ⟨turns, fits⟩
    rw [Nat.mod_eq_of_lt (cut.mpr fits)] at whole
    have exact : p.fvco = fosc.toNat * (intendedFlo.toNat * (pllR intendedFlo).toNat / fosc.toNat)
        + fosc.toNat
          * (intendedFlo.toNat * (pllR intendedFlo).toNat % fosc.toNat * 65536 / fosc.toNat)
          / 65536 := by
      rw [E4kPllParams.fvco, clock, whole, fraction]
    have oscillates : p.fvco ≠ 0 := by
      rw [exact]
      exact fun zero => absurd (silent.mp zero) (Nat.not_lt.mpr turns)
    refine .inr ⟨clock, ?_, ?_, ?_, ?_⟩
    · rw [divider, whole]
    · rw [divider, fraction]
    · obtain ⟨rest, total, bound⟩ :=
        fraction_rest positive (intendedFlo.toNat * (pllR intendedFlo).toNat)
      rw [← exact] at total
      have below : (p.fvco : ℤ) - intendedFlo.toNat * p.r.toNat = -rest := by
        rw [divider, ← Nat.cast_mul, ← total]
        push_cast
        omega
      rw [below, abs_neg, abs_of_nonneg (Int.natCast_nonneg rest)]
      omega
    · rw [returns, if_neg oscillates, divider]

end Computed

/-- Parameters before they are computed. -/
def E4kPllParams.zero : E4kPllParams := ⟨0, 0, 0, 0, 0, 0, 0, 0⟩

/-- The parameters for 100 MHz from the clock of the dongles are sound. Witness: the multiple
fits its byte, and a frequency is returned.
-/
theorem e4kComputePllParams_sound_100MHz
    : (e4kComputePllParams .zero 28800000 100000000).2.Sound 28800000 100000000
        (e4kComputePllParams .zero 28800000 100000000).1 :=
  ((e4kComputePllParams_sound_iff (by decide) (by decide) .zero).mpr
    ⟨by decide, by decide⟩).resolve_left (by decide)

/-- At 4 GHz the multiple is 277, of which 21 is programmed. -/
theorem e4kComputePllParams_cuts_multiple
    : ¬ ((e4kComputePllParams .zero 28800000 4000000000).1 = 0
        ∨ (e4kComputePllParams .zero 28800000 4000000000).2.Sound 28800000 4000000000
            (e4kComputePllParams .zero 28800000 4000000000).1) := by
  rintro (zero | sound)
  · revert zero
    decide
  · have whole := sound.whole
    revert whole
    decide

end RtlTcpAndro.Tuners
