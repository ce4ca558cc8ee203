import RtlTcpAndro.RtlSdrDevice.Tuning

/-! The gains of the tuners and how a client selects one by a percentage, `set_gain_by_perc` in
`rtlsdrdevice.c`.
-/

namespace RtlTcpAndro.RtlSdrDevice

-----------------------------------------------------------------------------------------
-- The tables
-----------------------------------------------------------------------------------------

/-- `rtlsdr_get_tuner_gains`, in tenths of a dB. -/
def rtlsdrGetTunerGains : RtlsdrTuner → List Int32
  | .e4000 => [-10, 15, 40, 65, 90, 115, 140, 165, 190, 215, 240, 290, 340, 420]
  | .fc0012 => [-99, -40, 71, 179, 192]
  | .fc0013 =>
      [-99, -73, -65, -63, -60, -58, -54, 58, 61, 63, 65, 67, 68, 70, 71, 179, 181, 182, 184,
        186, 188, 191, 197]
  | .fc2580 => [0]
  | .r820t | .r828d =>
      [0, 9, 14, 27, 37, 77, 87, 125, 144, 157, 166, 197, 207, 229, 254, 280, 297, 328, 338,
        364, 372, 386, 402, 421, 434, 439, 445, 480, 496]
  | .unknown => [0]

/-- A table of gains in increasing order, of as many as an `int` counts and at least one. -/
structure GainTable where
  gains : List Int32
  nonempty : 0 < gains.length
  counted : gains.length < 2 ^ 31
  sorted : gains.Pairwise (· ≤ ·)

/-- The table of every tuner is one. -/
def RtlsdrTuner.gainTable (tuner : RtlsdrTuner) : GainTable where
  gains := rtlsdrGetTunerGains tuner
  nonempty := by cases tuner <;> decide
  counted := by cases tuner <;> decide
  sorted := by cases tuner <;> decide

-----------------------------------------------------------------------------------------
-- set_gain_by_perc
-----------------------------------------------------------------------------------------

/-- `index` in `set_gain_by_perc`, which C computes in unsigned integers. -/
def percIndex (percent : UInt32) (count : Int32) : UInt32 :=
  let index := percent * count.toUInt32 / 100
  let index := if index < 0 then 0 else index
  if index ≥ count.toUInt32 then (count - 1).toUInt32 else index

/-- `set_gain_by_perc` up to the gain that it passes to `rtlsdr_set_tuner_gain`, none where it
would read beyond the array.
-/
def setGainByPerc (gains : List Int32) (percent : UInt32) : Option Int32 :=
  gains[(percIndex percent (Int32.ofNat gains.length)).toNat]?

/-- The index by numbers: the product wraps around before it is divided. -/
theorem toNat_percIndex (percent : UInt32) {count : Nat} (some : 0 < count)
    (counted : count < 2 ^ 31)
    : (percIndex percent (Int32.ofNat count)).toNat
      = min (percent.toNat * count % 2 ^ 32 / 100) (count - 1) := by
  have converted : (Int32.ofNat count).toUInt32.toNat = count :=
    UInt32.toNat_ofNat_of_lt' (Nat.lt_trans counted (by decide))
  have last : (Int32.ofNat count - 1).toUInt32.toNat = count - 1 := by
    have positive : 1 ≤ (Int32.ofNat count).toUInt32 := by
      rw [UInt32.le_iff_toNat_le, converted]
      exact some
    have unsigned : (Int32.ofNat count - 1).toUInt32 = (Int32.ofNat count).toUInt32 - 1 := rfl
    rw [unsigned, UInt32.toNat_sub_of_le _ _ positive, converted]
    rfl
  have product : (percent * (Int32.ofNat count).toUInt32 / 100).toNat
      = percent.toNat * count % 2 ^ 32 / 100 := by
    rw [UInt32.toNat_div, UInt32.toNat_mul, converted]
    rfl
  simp only [percIndex, ge_iff_le, UInt32.le_iff_toNat_le]
  rw [if_neg (UInt32.not_lt_zero)]
  split
  next beyond =>
    rw [last]
    omega
  next inside =>
    rw [product]
    omega

/-- A product that wraps around still saturates exactly if as much is left of it. -/
theorem wrapped_index_eq_iff (product count : Nat)
    : min (product % 2 ^ 32 / 100) (count - 1) = min (product / 100) (count - 1)
      ↔ product < 2 ^ 32 ∨ 100 * (count - 1) ≤ product % 2 ^ 32 := by
  omega

namespace GainTable

variable (table : GainTable)

def count : Nat := table.gains.length

/-- The selected index, in exact arithmetic but for the wrap-around. -/
def index (percent : UInt32) : Nat :=
  min (percent.toNat * table.count % 2 ^ 32 / 100) (table.count - 1)

/-- What a percentage is meant to select: the index in exact arithmetic, the ends of the table
for 0 and from 100 on, and no less than any lower percentage.
-/
structure SelectsAt (percent : UInt32) : Prop where
  index
    : (percIndex percent (Int32.ofNat table.gains.length)).toNat
      = min (percent.toNat * table.count / 100) (table.count - 1)
  first : percent = 0 → setGainByPerc table.gains percent = table.gains.head?
  last : 100 ≤ percent → setGainByPerc table.gains percent = table.gains.getLast?
  monotone
    : ∀ lower ≤ percent,
        ∃ less more,
          setGainByPerc table.gains lower = some less
          ∧ setGainByPerc table.gains percent = some more
          ∧ less ≤ more

/-- The product of percentage and count fits 32 bits, or what wraps around still saturates. -/
def Saturates (percent : UInt32) : Prop :=
  percent.toNat * table.count < 2 ^ 32
  ∨ 100 * (table.count - 1) ≤ percent.toNat * table.count % 2 ^ 32

/-- Every percentage selects an entry of the table. -/
theorem setGainByPerc_eq (percent : UInt32)
    : table.index percent < table.gains.length
      ∧ setGainByPerc table.gains percent = table.gains[table.index percent]? := by
  have nonempty := table.nonempty
  refine ⟨?_, ?_⟩
  · simp only [index, count]
    omega
  · rw [setGainByPerc, toNat_percIndex percent nonempty table.counted]
    rfl

/-- A later entry is no smaller. -/
theorem entries_le {i j : Nat} (order : i ≤ j) (inside : j < table.gains.length)
    : ∃ less more,
        table.gains[i]? = some less ∧ table.gains[j]? = some more ∧ less ≤ more := by
  have within : i < table.gains.length := Nat.lt_of_le_of_lt order inside
  refine ⟨table.gains[i], table.gains[j], List.getElem?_eq_getElem within,
    List.getElem?_eq_getElem inside, ?_⟩
  obtain rfl | earlier := Nat.eq_or_lt_of_le order
  · exact Int32.le_refl _
  · exact List.pairwise_iff_getElem.mp table.sorted i j within inside earlier

/-- Where the product is not lost, a lower percentage does not select a later entry. -/
theorem index_le_of_saturates {lower percent : UInt32} (saturates : table.Saturates percent)
    (order : lower ≤ percent)
    : table.index lower ≤ table.index percent := by
  simp only [index]
  obtain fits | left := saturates
  · have products : lower.toNat * table.count ≤ percent.toNat * table.count :=
      Nat.mul_le_mul_right _ (UInt32.le_iff_toNat_le.mp order)
    omega
  · omega

/-- `set_gain_by_perc` selects as it is meant to exactly where the product of percentage and
count is not lost in 32 bits.
-/
theorem selectsAt_iff (percent : UInt32) : table.SelectsAt percent ↔ table.Saturates percent := by
  have nonempty := table.nonempty
  have selected := toNat_percIndex percent nonempty table.counted
  constructor
  · intro selects
    rw [Saturates, ← wrapped_index_eq_iff]
    exact selected.symm.trans selects.index
  · intro saturates
    have unwrapped := (wrapped_index_eq_iff _ _).mpr saturates
    have found := (table.setGainByPerc_eq percent).2
    rw [index, unwrapped] at found
    constructor
    case index => exact selected.trans unwrapped
    case first =>
      rintro rfl
      rw [found, List.head?_eq_getElem?]
      simp
    case last =>
      intro full
      have hundred : 100 ≤ percent.toNat := UInt32.le_iff_toNat_le.mp full
      have product : 100 * table.count ≤ percent.toNat * table.count :=
        Nat.mul_le_mul_right _ hundred
      rw [found, List.getLast?_eq_getElem?, Nat.min_eq_right (by omega)]
      rfl
    case monotone =>
      intro lower order
      obtain ⟨inside, greater⟩ := table.setGainByPerc_eq percent
      rw [greater, (table.setGainByPerc_eq lower).2]
      exact table.entries_le (table.index_le_of_saturates saturates order) inside

end GainTable

/-- The product wraps around to a remainder of 13: the R820T is set to its lowest gain. -/
theorem gain_by_percentage_wraps : ¬ RtlsdrTuner.r820t.gainTable.SelectsAt 148102321 := by
  intro selects
  have last := selects.last (by decide)
  revert last
  decide

end RtlTcpAndro.RtlSdrDevice
