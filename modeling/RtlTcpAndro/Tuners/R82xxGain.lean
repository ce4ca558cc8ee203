import RtlTcpAndro.Tables.Ordered
import RtlTcpAndro.Tuners.R82xxInputs

/-! The gains that `r82xx_set_gain` sets: the steps of the low noise amplifier and of the mixer are
taken in turn until their sum reaches what is asked for. The last step of the mixer is negative.
-/

namespace RtlTcpAndro.Tuners

open RtlTcpAndro.Faults
open RtlTcpAndro.Tables

-----------------------------------------------------------------------------------------
-- The steps
-----------------------------------------------------------------------------------------

/-- The steps of two tables in turn, without the entries at index zero. -/
def alternating : List Int → List Int → List Int
  | lna :: lnaSteps, mix :: mixSteps => lna :: mix :: alternating lnaSteps mixSteps
  | _, _ => []

/-- The sums of the first steps. -/
def gainSums : List Int :=
  (alternating r82xxLnaGainSteps.tail r82xxMixerGainSteps.tail).scanl (· + ·) 0

/-- The largest gain that the steps reach. -/
def largestGain : Int := 496

/-- The first sum that reaches a gain, or the largest. -/
def sufficientGain (gain : Int) : Int :=
  (firstReaching gainSums gain).getD largestGain

/-- The sum of the steps up to an index. -/
def stepsUpTo (steps : List Int) (index : Nat) : Int := (steps.take (index + 1)).sum

/-- The gain that two indexes stand for. -/
def indexedGain (indexes : Nat × Nat) : Int :=
  stepsUpTo r82xxLnaGainSteps indexes.1 + stepsUpTo r82xxMixerGainSteps indexes.2

/-- The gain that is programmed in the two registers. -/
def programmedGain (registers : UInt8 → UInt8) : Int :=
  indexedGain ((registers 0x05 &&& 0x0f).toNat, (registers 0x07 &&& 0x0f).toNat)

/-- The loop of `r82xx_set_gain`, where its indexes are incremented one after the other and may
leave the tables.
-/
def searchGain (gain : Int) : Nat → Int → Nat → Nat → Option (Nat × Nat)
  | 0, _, lnaIndex, mixIndex => some (lnaIndex, mixIndex)
  | rounds + 1, totalGain, lnaIndex, mixIndex => do
      if gain ≤ totalGain then return (lnaIndex, mixIndex)
      let lnaIndex := lnaIndex + 1
      let totalGain := totalGain + (← r82xxLnaGainSteps[lnaIndex]?)
      if gain ≤ totalGain then return (lnaIndex, mixIndex)
      let mixIndex := mixIndex + 1
      let totalGain := totalGain + (← r82xxMixerGainSteps[mixIndex]?)
      searchGain gain rounds totalGain lnaIndex mixIndex

/-- No sum of gains exceeds the largest. Witness: the sums are computed. -/
theorem largestGain_isGreatest : IsGreatest {sum | sum ∈ gainSums} largestGain := by
  constructor
  · change _ ∈ gainSums
    decide
  · change ∀ sum ∈ gainSums, sum ≤ largestGain
    decide

-----------------------------------------------------------------------------------------
-- The loop
-----------------------------------------------------------------------------------------

/-- The sums from those of a round on. -/
theorem gainSums_drop
    : ∀ index < 15,
        gainSums.drop (2 * index)
        = indexedGain (index, index) :: indexedGain (index + 1, index)
            :: gainSums.drop (2 * (index + 1)) := by
  decide

/-- Every round finds its two steps in the tables. -/
theorem gainSteps_found
    : ∀ index < 15,
        r82xxLnaGainSteps[index + 1]?
            = some (indexedGain (index + 1, index) - indexedGain (index, index))
        ∧ r82xxMixerGainSteps[index + 1]?
            = some (indexedGain (index + 1, index + 1) - indexedGain (index + 1, index)) := by
  decide

/-- The indexes of a sum. -/
structure Indexes (gain : Int) (index : Nat) (indexes : Nat × Nat) : Prop where
  lna : indexes.1 ≤ 15
  mix : indexes.2 ≤ 15
  reached
    : indexedGain indexes
      = (firstReaching (gainSums.drop (2 * index)) gain).getD (indexedGain (15, 15))

/-- The loop stays in the tables, and stops at the first sum that reaches the gain or at the last.
By induction on the rounds that are left.
-/
theorem gainIndexes_found (gain : Int) {rounds index : Nat} (left : index + rounds = 15)
    : searchGain gain rounds (indexedGain (index, index)) index index
        = some (gainIndexes gain rounds (indexedGain (index, index)) index)
      ∧ Indexes gain index (gainIndexes gain rounds (indexedGain (index, index)) index) := by
  induction rounds generalizing index with
  | zero =>
      obtain rfl : index = 15 := left
      refine ⟨rfl, Nat.le_refl 15, Nat.le_refl 15, ?_⟩
      have last : gainSums.drop (2 * 15) = [indexedGain (15, 15)] := by decide
      by_cases reaches : gain ≤ indexedGain (15, 15)
      · rw [last, firstReaching_of_le reaches]
        rfl
      · rw [last, firstReaching_of_not_le reaches]
        rfl
  | succ rounds ih =>
      have inside : index < 15 := by omega
      obtain ⟨lna, mix⟩ := gainSteps_found index inside
      have sums := gainSums_drop index inside
      rw [searchGain, gainIndexes]
      by_cases first : gain ≤ indexedGain (index, index)
      · rw [if_pos first, if_pos first]
        refine ⟨rfl, by omega, by omega, ?_⟩
        rw [sums, firstReaching_of_le first]
        rfl
      · have taken : indexedGain (index, index)
              + (indexedGain (index + 1, index) - indexedGain (index, index))
            = indexedGain (index + 1, index) := by
          omega
        rw [if_neg first, if_neg first, List.getD_eq_getElem?_getD, List.getD_eq_getElem?_getD]
        dsimp only
        rw [lna, Option.getD_some, Option.bind_eq_bind, Option.bind_some, taken]
        by_cases second : gain ≤ indexedGain (index + 1, index)
        · rw [if_pos second, if_pos second]
          refine ⟨rfl, Nat.succ_le_of_lt inside, by omega, ?_⟩
          rw [sums, firstReaching_of_not_le first, firstReaching_of_le second]
          rfl
        · have both : indexedGain (index + 1, index)
                + (indexedGain (index + 1, index + 1) - indexedGain (index + 1, index))
              = indexedGain (index + 1, index + 1) := by
            omega
          rw [if_neg second, if_neg second, mix, Option.bind_some, Option.getD_some, both]
          obtain ⟨searched, indexes⟩ := @ih (index + 1) (by omega)
          refine ⟨searched, indexes.lna, indexes.mix, ?_⟩
          rw [sums, firstReaching_of_not_le first, firstReaching_of_not_le second]
          exact indexes.reached

/-- The search for the two gain indexes keeps to its bounds. Witness: the invariant at its
start.
-/
theorem gainIndexes_bounded (gain : Int) : Indexes gain 0 (gainIndexes gain 15 0 0) :=
  (@gainIndexes_found gain 15 0 rfl).2

/-- The sums before the last, which is lower than the one before it. -/
def ascendingSums : List Int := gainSums.dropLast

/-- The sums before the last ascend. Witness: they are computed. -/
theorem ascendingSums_ascend : ascendingSums.Pairwise (· ≤ ·) := by
  decide

/-- Up to the largest gain the first sum that reaches a gain is one of those that ascend. -/
theorem firstReaching_gainSums {gain : Int} (reached : gain ≤ largestGain)
    : ∃ sum,
        firstReaching gainSums gain = some sum
        ∧ IsLeast (Reaching ascendingSums gain) sum := by
  have split : gainSums = ascendingSums ++ [488] := by decide
  have largest : largestGain ∈ ascendingSums := by decide
  obtain ⟨sum, found⟩ :=
    Option.isSome_iff_exists.mp (firstReaching_isSome_iff.mpr ⟨largestGain, largest, reached⟩)
  refine ⟨sum, ?_, firstReaching_isLeast ascendingSums_ascend found⟩
  rw [split]
  exact firstReaching_append found

/-- No sum reaches a gain above the largest. -/
theorem firstReaching_eq_none {gain : Int} (beyond : largestGain < gain)
    : firstReaching gainSums gain = none := by
  refine Option.not_isSome_iff_eq_none.mp fun found => ?_
  obtain ⟨sum, member, reached⟩ := firstReaching_isSome_iff.mp found
  have bounded := largestGain_isGreatest.2 member
  omega

-----------------------------------------------------------------------------------------
-- Setting a gain
-----------------------------------------------------------------------------------------

/-- A run of `r82xx_set_gain` in manual mode that returns zero, and the registers it leaves. -/
def SetsGain (gain : Int32) (registers : UInt8 → UInt8) : Prop :=
  ∃ environment bus later,
    2 ≤ environment.config.maxI2cMsgLen.toNat
    ∧ r82xxSetGain true gain environment bus = .ok (.ok (), later)
    ∧ later.registers = registers

/-- The loop stays in its tables, the gain that is programmed is the first sum that reaches what is
asked for or the largest, and never above that of a larger request.
-/
structure LeastSufficient (gain : Int32) (registers : UInt8 → UInt8) : Prop where
  inside
    : ∃ lnaIndex mixIndex,
        searchGain gain.toInt 15 0 0 0 = some (lnaIndex, mixIndex)
        ∧ lnaIndex ≤ 15
        ∧ mixIndex ≤ 15
  sufficient : programmedGain registers = sufficientGain gain.toInt
  monotone
    : ∀ lower ≤ gain, ∀ registers',
        SetsGain lower registers' → programmedGain registers' ≤ programmedGain registers

/-- The indexes of a gain are programmed. -/
theorem r82xxSetGain_programs {environment : Environment.Bus R82xxConfig}
    (room : 2 ≤ environment.config.maxI2cMsgLen.toNat) (gain : Int32) (bus : Bus R82xxPriv)
    : (r82xxSetGain true gain).Permits environment
        (fun _ later =>
          programmedGain later.registers = indexedGain (gainIndexes gain.toInt 15 0 0))
        (fun _ _ => True) bus := by
  obtain ⟨lna, mix, -⟩ := gainIndexes_bounded gain.toInt
  have fits : ∀ index < 16, (UInt8.ofNat index &&& 0x0f).toNat = index := by decide
  refine Program.permits_bind.mpr
    ((r82xxWriteRegMask_sets room (by decide) _ _ _).weaken ?_ fun _ _ _ => trivial)
  intro _ _ _
  refine Program.permits_bind.mpr
    ((r82xxWriteRegMask_sets room (by decide) _ _ _).weaken ?_ fun _ _ _ => trivial)
  intro _ _ _
  refine Program.permits_bind.mpr
    ((r82xxRead_leads _ _ _).permits.weaken ?_ fun _ _ _ => trivial)
  intro _ _ _
  refine Program.permits_bind.mpr
    ((r82xxWriteRegMask_sets room (by decide) _ _ _).weaken ?_ fun _ _ _ => trivial)
  intro _ _ _
  refine Program.permits_bind.mpr
    ((r82xxWriteRegMask_sets room (by decide)
      (UInt8.ofNat (gainIndexes gain.toInt 15 0 0).1) _ _).weaken ?_ fun _ _ _ => trivial)
  intro _ between first
  refine (r82xxWriteRegMask_sets room (by decide)
    (UInt8.ofNat (gainIndexes gain.toInt 15 0 0).2) _ _).weaken ?_ fun _ _ _ => trivial
  intro _ later second
  have lnaHeld := second.keeps first.holds (by decide) (by decide)
  rw [programmedGain, lnaHeld.chip, second.holds.chip, fits _ (Nat.lt_succ_of_le lna),
    fits _ (Nat.lt_succ_of_le mix)]

/-- A successful call leaves the first sum that reaches the gain, or the largest indexes' sum.
Witness: what the call programs, and what the search finds.
-/
theorem SetsGain.programmed {gain : Int32} {registers : UInt8 → UInt8}
    (sets : SetsGain gain registers)
    : programmedGain registers
      = (firstReaching gainSums gain.toInt).getD (indexedGain (15, 15)) := by
  obtain ⟨environment, bus, later, room, ran, rfl⟩ := sets
  rw [(r82xxSetGain_programs room gain bus _ later ran).1 () rfl]
  exact (gainIndexes_bounded gain.toInt).reached

/-- The gain that is programmed is the first sum that suffices, for every gain up to the largest. -/
theorem r82xxSetGain_leastSufficient_iff {gain : Int32} {registers : UInt8 → UInt8}
    (sets : SetsGain gain registers)
    : LeastSufficient gain registers ↔ gain.toInt ≤ 496 := by
  constructor
  · intro least
    refine Int.not_lt.mp fun beyond => ?_
    have missed := firstReaching_eq_none beyond
    have programmed := least.sufficient
    rw [sets.programmed, sufficientGain, missed] at programmed
    revert programmed
    decide
  · intro reached
    obtain ⟨searched, lna, mix, -⟩ := @gainIndexes_found gain.toInt 15 0 rfl
    obtain ⟨sum, found, least⟩ := firstReaching_gainSums reached
    refine ⟨⟨_, _, searched, lna, mix⟩, ?_, ?_⟩
    · rw [sets.programmed, sufficientGain, found]
      rfl
    · intro lower below registers' sets'
      have below := Int32.le_iff_toInt_le.mp below
      obtain ⟨sum', found', least'⟩ := firstReaching_gainSums (Int.le_trans below reached)
      rw [sets.programmed, sets'.programmed, found, found']
      exact isLeast_reaching_mono below least' least

/-- A gain that the tuner is listed with. -/
theorem r82xxSetGain_leastSufficient_496
    : ∃ registers, SetsGain 496 registers ∧ LeastSufficient 496 registers := by
  have ran : ∃ registers, SetsGain 496 registers :=
    ⟨_, .obliging r828dConfig.toR82xxConfig, freshTuner.inner, _, by decide, rfl, rfl⟩
  obtain ⟨registers, sets⟩ := ran
  exact ⟨registers, sets, (r82xxSetGain_leastSufficient_iff sets).mpr (by decide)⟩

/-- More than the largest gain is asked for, and less is programmed than for the largest. -/
theorem r82xxSetGain_falls
    : ∃ registers, SetsGain 497 registers ∧ ¬ LeastSufficient 497 registers := by
  have ran
      : ∃ registers, SetsGain 497 registers ∧ programmedGain registers = 488 :=
    ⟨_, ⟨.obliging r828dConfig.toR82xxConfig, freshTuner.inner, _, by decide, rfl, rfl⟩, rfl⟩
  obtain ⟨registers, sets, programmed⟩ := ran
  refine ⟨registers, sets, fun least => ?_⟩
  have same := least.sufficient
  rw [programmed] at same
  revert same
  decide

end RtlTcpAndro.Tuners
