import Mathlib.Tactic.IntervalCases
import RtlTcpAndro.Fractions.Halving
import RtlTcpAndro.Tuners.R82xxCrystal
import RtlTcpAndro.Tuners.R82xxWrites

/-! What `r82xx_set_pll` programs the loop of the R820T and R828D with: the divider that it finds,
the ratio of the oscillator to the crystal in a byte, and its fraction as a sum of halves.
-/

namespace RtlTcpAndro.Tuners

open RtlTcpAndro.Faults
open RtlTcpAndro.Fractions
open RtlTcpAndro.Registers

-----------------------------------------------------------------------------------------
-- The divider
-----------------------------------------------------------------------------------------

section Dividers

variable {freqKhz : UInt32}

/-- A divider puts a frequency in the range of the oscillator. -/
def InRange (freqKhz : UInt32) (log : Nat) : Prop :=
  1770000 ≤ freqKhz.toNat * 2 ^ (log + 1) ∧ freqKhz.toNat * 2 ^ (log + 1) < 3540000

/-- The divider of a logarithm. -/
def dividerOf (log : Nat) : UInt8 := UInt8.ofNat (2 ^ (log + 1))

/-- The divider tried after `log` doublings is the next power of two. Witness: each of the six
dividers is computed.
-/
theorem dividerOf_toNat {log : Nat} (tried : log ≤ 5) : (dividerOf log).toNat = 2 ^ (log + 1) := by
  interval_cases log <;> rfl

/-- The products with the dividers that are tried. -/
theorem product_toNat (small : freqKhz.toNat < 4294968) {log : Nat} (tried : log ≤ 5)
    : (freqKhz * (dividerOf log).toUInt32).toNat = freqKhz.toNat * 2 ^ (log + 1) := by
  have bound : 2 ^ (log + 1) ≤ 2 ^ 6 := Nat.pow_le_pow_right (by decide) (by omega)
  have product := Nat.mul_le_mul (Nat.le_of_lt_succ small) bound
  rw [UInt32.toNat_mul, UInt8.toNat_toUInt32, dividerOf_toNat tried]
  exact Nat.mod_eq_of_lt (Nat.lt_of_le_of_lt product (by decide))

/-- The test in the search for the divider, in 32-bit arithmetic, asks whether the
oscillator's frequency lies in its range. Witness: the product does not wrap for frequencies
that small.
-/
theorem inRange_iff (small : freqKhz.toNat < 4294968) {log : Nat} (tried : log ≤ 5)
    : vcoMin ≤ freqKhz * (dividerOf log).toUInt32 ∧ freqKhz * (dividerOf log).toUInt32 < vcoMax
      ↔ InRange freqKhz log := by
  rw [UInt32.le_iff_toNat_le, UInt32.lt_iff_toNat_lt, product_toNat small tried]
  exact Iff.rfl

/-- A divider that misses the range is doubled, and the search goes on. Witness: the test of
the round fails by `inRange_iff`.
-/
theorem dividerRound_miss (small : freqKhz.toNat < 4294968) {log : Nat} (tried : log ≤ 5)
    (miss : ¬ InRange freqKhz log)
    : dividerRound freqKhz ⟨dividerOf log, 0⟩ = .ok (.yield ⟨dividerOf (log + 1), 0⟩) := by
  have double : dividerOf log <<< 1 = dividerOf (log + 1) := by
    interval_cases log <;> rfl
  unfold dividerRound
  simp only []
  rw [if_neg fun fits => miss ((inRange_iff small tried).mp fits), double]
  rfl

/-- A divider that meets the range ends the search, with its logarithm for the divider field.
Witness: the test succeeds by `inRange_iff`, and the halving loop counts the six dividers'
logarithms.
-/
theorem dividerRound_hit (small : freqKhz.toNat < 4294968) {log : Nat} (tried : log ≤ 5)
    (hit : InRange freqKhz log)
    : dividerRound freqKhz ⟨dividerOf log, 0⟩
      = .ok (.done ⟨dividerOf log, UInt8.ofNat log⟩) := by
  have logarithm : halve (dividerOf log) = .ok ⟨2, UInt8.ofNat log⟩ := by
    interval_cases log <;> rfl
  unfold dividerRound
  simp only []
  rw [if_pos ((inRange_iff small tried).mpr hit), logarithm]
  rfl

/-- The search finds the first divider that fits. By induction on the dividers that are tried
before it.
-/
theorem search_finds (small : freqKhz.toNat < 4294968) {first log rounds : Nat}
    (order : first ≤ log) (tried : log ≤ 5) (enough : log < first + rounds)
    (misses : ∀ other, first ≤ other → other < log → ¬ InRange freqKhz other)
    (hit : InRange freqKhz log)
    : whileLoop (fun divider => decide (divider.mixDiv ≤ 64)) (dividerRound freqKhz) rounds
        ⟨dividerOf first, 0⟩
      = .ok ⟨dividerOf log, UInt8.ofNat log⟩ := by
  have goes : ∀ other ≤ 5, decide (dividerOf other ≤ 64) = true := by decide
  induction rounds generalizing first with
  | zero => omega
  | succ rounds ih =>
      obtain rfl | later := Nat.eq_or_lt_of_le order
      · exact whileLoop_done (goes first tried) (dividerRound_hit small tried hit)
      · have early : first ≤ 5 := by omega
        have next := dividerRound_miss small early (misses first (Nat.le_refl first) later)
        refine Eq.trans (whileLoop_yield (goes first early) next) ?_
        exact ih later (by omega) fun other least before => misses other (by omega) before

/-- Where no divider fits, the search ends with one hundred and twenty-eight. By induction on the
dividers that are left.
-/
theorem search_misses (small : freqKhz.toNat < 4294968) {first rounds : Nat} (order : first ≤ 6)
    (enough : 6 < first + rounds)
    (misses : ∀ other, first ≤ other → other ≤ 5 → ¬ InRange freqKhz other)
    : whileLoop (fun divider => decide (divider.mixDiv ≤ 64)) (dividerRound freqKhz) rounds
        ⟨dividerOf first, 0⟩
      = .ok ⟨128, 0⟩ := by
  have goes : ∀ other ≤ 5, decide (dividerOf other ≤ 64) = true := by decide
  induction rounds generalizing first with
  | zero => omega
  | succ rounds ih =>
      obtain rfl | later := Nat.eq_or_lt_of_le order
      · exact whileLoop_stops rfl
      · have early : first ≤ 5 := by omega
        have next := dividerRound_miss small early (misses first (Nat.le_refl first) early)
        refine Eq.trans (whileLoop_yield (goes first early) next) ?_
        exact ih later (by omega) fun other least before => misses other (by omega) before

/-- The frequencies that some divider puts in range, whose ranges follow one another. -/
theorem exists_inRange_iff
    : (∃ log ≤ 5, InRange freqKhz log) ↔ 27657 ≤ freqKhz.toNat ∧ freqKhz.toNat ≤ 1769999 := by
  unfold InRange
  constructor
  · rintro ⟨log, tried, fits⟩
    interval_cases log <;> omega
  · intro fits
    by_cases two : 885000 ≤ freqKhz.toNat
    · exact ⟨0, by omega, by omega⟩
    by_cases four : 442500 ≤ freqKhz.toNat
    · exact ⟨1, by omega, by omega⟩
    by_cases eight : 221250 ≤ freqKhz.toNat
    · exact ⟨2, by omega, by omega⟩
    by_cases sixteen : 110625 ≤ freqKhz.toNat
    · exact ⟨3, by omega, by omega⟩
    by_cases thirtyTwo : 55313 ≤ freqKhz.toNat
    · exact ⟨4, by omega, by omega⟩
    · exact ⟨5, by omega, by omega⟩

/-- No frequency is in the ranges of two dividers. -/
theorem InRange.unique {log other : Nat} (fits : InRange freqKhz log)
    (fits' : InRange freqKhz other)
    : log = other := by
  have doubled {low high : Nat} (order : low < high) (least : InRange freqKhz low)
      (most : InRange freqKhz high)
      : False := by
    have power : 2 ^ (low + 1 + 1) ≤ 2 ^ (high + 1) :=
      Nat.pow_le_pow_right (by decide) (Nat.succ_le_succ order)
    have product := Nat.mul_le_mul_left freqKhz.toNat power
    rw [Nat.pow_succ, ← Nat.mul_assoc] at product
    have lower := least.1
    have upper := most.2
    omega
  obtain less | same | more := Nat.lt_trichotomy log other
  · exact (doubled less fits fits').elim
  · exact same
  · exact (doubled more fits' fits).elim

/-- A frequency with a divider in range gets that divider. Witness: the search from the first
divider reaches it, since no earlier one is in range.
-/
theorem calculateDivider_found (small : freqKhz.toNat < 4294968) {log : Nat} (tried : log ≤ 5)
    (hit : InRange freqKhz log)
    : calculateDivider freqKhz = .ok ⟨dividerOf log, UInt8.ofNat log⟩ := by
  refine @search_finds freqKhz small 0 log 8 (Nat.zero_le log) tried (by omega) ?_ hit
  intro other _ before fits
  exact Nat.ne_of_lt before (fits.unique hit)

/-- A frequency with no divider in range leaves the search with 128 and no logarithm. Witness:
all six rounds miss.
-/
theorem calculateDivider_missing (small : freqKhz.toNat < 4294968)
    (misses : ¬ ∃ log ≤ 5, InRange freqKhz log)
    : calculateDivider freqKhz = .ok ⟨128, 0⟩ := by
  refine @search_misses freqKhz small 0 8 (by decide) (by decide) ?_
  exact fun other _ tried fits => misses ⟨other, tried, fits⟩

end Dividers

-----------------------------------------------------------------------------------------
-- The fraction
-----------------------------------------------------------------------------------------

/-- In the sdm calculator a frequency is halved so far, and the bits that are left have room. -/
def SdmCalculator.Approaches (pllRefKhz whole rounds : Nat) (state : SdmCalculator) : Prop :=
  ∃ divisor,
    state.nSdm.toNat = 2 * divisor
    ∧ 0 < divisor
    ∧ divisor * 2 ^ rounds = 65536
    ∧ state.sdm.toNat + 2 ^ rounds ≤ 65536
    ∧ Halved 65536 (2 * pllRefKhz) whole divisor state.vcoFra.toNat state.sdm.toNat (16 - rounds)

/-- The sdm calculator leaves at most sixteen kilohertz. -/
def SdmCalculator.Approached (pllRefKhz whole : Nat) (state : SdmCalculator) : Prop :=
  state.vcoFra.toNat ≤ 16
  ∧ ∃ divisor steps,
      steps ≤ 15
      ∧ Halved 65536 (2 * pllRefKhz) whole divisor state.vcoFra.toNat state.sdm.toNat steps

section Fractions

variable {pllRefKhz : UInt32} {whole rounds : Nat} {state : SdmCalculator}

/-- An approximation under way has a divisor that still counts the remaining rounds. Witness:
the divisor is the state's, doubled.
-/
theorem SdmCalculator.Approaches.counts
    (approaches : SdmCalculator.Approaches pllRefKhz.toNat whole rounds state)
    : SdmCalculator.Counts rounds state := by
  obtain ⟨divisor, double, positive, total, -⟩ := approaches
  refine ⟨by omega, ?_⟩
  rw [double, Nat.mul_assoc, total]
  rfl

/-- At most sixteen rounds remain. Witness: the divisor times `2 ^ rounds` is `2 ^ 16`, and
the divisor is positive.
-/
theorem SdmCalculator.Approaches.rounds_le
    (approaches : SdmCalculator.Approaches pllRefKhz.toNat whole rounds state)
    : rounds ≤ 16 := by
  obtain ⟨divisor, -, positive, total, -⟩ := approaches
  refine (Nat.pow_le_pow_iff_right (le_refl 2)).mp ?_
  calc
    2 ^ rounds = 1 * 2 ^ rounds := (Nat.one_mul _).symm
    _ ≤ divisor * 2 ^ rounds := Nat.mul_le_mul_right _ positive
    _ = 2 ^ 16 := total

/-- Before the first round nothing is halved. -/
theorem SdmCalculator.Approaches.first {vcoFra : UInt32}
    (fits : vcoFra.toNat ≤ 2 * pllRefKhz.toNat)
    : SdmCalculator.Approaches pllRefKhz.toNat vcoFra.toNat 16 ⟨2, 0, vcoFra⟩ := by
  have power : 2 ^ 16 = 65536 := by norm_num
  refine ⟨1, rfl, Nat.one_pos, ?_, ?_, .start fits⟩
  · rw [power]
  · change (0 : UInt16).toNat + 2 ^ 16 ≤ 65536
    rw [power, UInt16.toNat_zero, Nat.zero_add]

/-- The digit of a round has room below those that are taken. -/
theorem SdmCalculator.Approaches.digit_toNat
    (approaches : SdmCalculator.Approaches pllRefKhz.toNat whole (rounds + 1) state)
    : (32768 / (state.nSdm / 2)).toNat = 2 ^ rounds := by
  obtain ⟨divisor, double, positive, total, -⟩ := approaches
  rw [Nat.pow_succ, ← Nat.mul_assoc] at total
  have half : state.nSdm.toNat / 2 = divisor := by omega
  have quotient : 32768 = divisor * 2 ^ rounds := by omega
  rw [UInt16.toNat_div, UInt16.toNat_div]
  change 32768 / (state.nSdm.toNat / 2) = _
  rw [half, quotient]
  exact Nat.mul_div_cancel_left _ positive

/-- A round that adds its digit adds one power of two, without wrapping. Witness: the sum so
far leaves room for that power.
-/
theorem SdmCalculator.Approaches.sum_toNat
    (approaches : SdmCalculator.Approaches pllRefKhz.toNat whole (rounds + 1) state)
    : (state.sdm + 32768 / (state.nSdm / 2)).toNat = state.sdm.toNat + 2 ^ rounds := by
  have digit := approaches.digit_toNat
  obtain ⟨-, -, -, -, room, -⟩ := approaches
  have power : 0 < 2 ^ rounds := Nat.two_pow_pos rounds
  rw [Nat.pow_succ] at room
  rw [UInt16.toNat_add, digit]
  exact Nat.mod_eq_of_lt (by omega)

/-- A round that takes its bit. -/
theorem SdmCalculator.Approaches.take (small : pllRefKhz.toNat < 32768)
    (approaches : SdmCalculator.Approaches pllRefKhz.toNat whole (rounds + 1) state)
    (above : contribution pllRefKhz state.nSdm < state.vcoFra)
    : Halved 65536 (2 * pllRefKhz.toNat) whole state.nSdm.toNat
        (state.vcoFra - contribution pllRefKhz state.nSdm).toNat
        (state.sdm + 32768 / (state.nSdm / 2)).toNat (16 - rounds)
      ∧ (state.sdm + 32768 / (state.nSdm / 2)).toNat + 2 ^ rounds ≤ 65536 := by
  have few := approaches.rounds_le
  have sum := approaches.sum_toNat
  obtain ⟨divisor, double, positive, total, room, halved⟩ := approaches
  rw [Nat.pow_succ] at total room
  have unit : 2 * divisor * 2 ^ rounds = 65536 := by
    rw [← total]
    ring
  have part : (contribution pllRefKhz state.nSdm).toNat = 2 * pllRefKhz.toNat / (2 * divisor) := by
    rw [contribution_toNat (by omega), double]
  have contributes := UInt32.lt_iff_toNat_lt.mp above
  rw [part] at contributes
  rw [sum, UInt32.toNat_sub_of_le _ _ (UInt32.le_of_lt above), part, double]
  refine ⟨?_, by omega⟩
  have steps : 16 - (rounds + 1) + 1 = 16 - rounds := by omega
  exact steps ▸ halved.take positive unit contributes

/-- A round that skips its bit. -/
theorem SdmCalculator.Approaches.skip (small : pllRefKhz.toNat < 32768)
    (approaches : SdmCalculator.Approaches pllRefKhz.toNat whole (rounds + 1) state)
    (below : ¬ contribution pllRefKhz state.nSdm < state.vcoFra)
    : Halved 65536 (2 * pllRefKhz.toNat) whole state.nSdm.toNat state.vcoFra.toNat
        state.sdm.toNat (16 - rounds)
      ∧ state.sdm.toNat + 2 ^ rounds ≤ 65536 := by
  have few := approaches.rounds_le
  obtain ⟨divisor, double, positive, total, room, halved⟩ := approaches
  rw [Nat.pow_succ] at room
  have least := UInt32.le_iff_toNat_le.mp (UInt32.not_lt.mp below)
  rw [contribution_toNat (by omega), double] at least
  rw [double]
  refine ⟨?_, by omega⟩
  have steps : 16 - (rounds + 1) + 1 = 16 - rounds := by omega
  exact steps ▸ halved.skip least

/-- The next round, with the counter doubled. -/
theorem SdmCalculator.Approaches.double {sdm : UInt16} {vcoFra : UInt32}
    (approaches : SdmCalculator.Approaches pllRefKhz.toNat whole (rounds + 1) state)
    (below : state.nSdm.toNat < 32768)
    (halved
      : Halved 65536 (2 * pllRefKhz.toNat) whole state.nSdm.toNat vcoFra.toNat sdm.toNat
          (16 - rounds)
        ∧ sdm.toNat + 2 ^ rounds ≤ 65536)
    : SdmCalculator.Approaches pllRefKhz.toNat whole rounds ⟨state.nSdm <<< 1, sdm, vcoFra⟩ := by
  obtain ⟨divisor, double, positive, total, -⟩ := approaches
  refine ⟨state.nSdm.toNat, double_toNat below, by omega, ?_, halved.2, halved.1⟩
  rw [double, ← total, Nat.pow_succ]
  ring

/-- Where the loop stops, one kilohertz is left at most. -/
theorem SdmCalculator.Approaches.stops
    (approaches : SdmCalculator.Approaches pllRefKhz.toNat whole rounds state)
    (stopped : decide (1 < state.vcoFra) = false)
    : state.Approached pllRefKhz.toNat whole := by
  have little := UInt32.le_iff_toNat_le.mp (UInt32.not_lt.mp (of_decide_eq_false stopped))
  change state.vcoFra.toNat ≤ 1 at little
  have some : rounds ≠ 0 := by
    rintro rfl
    exact SdmCalculator.Counts.not_zero approaches.counts
  obtain ⟨divisor, -, -, -, -, halved⟩ := approaches
  exact ⟨by omega, divisor, 16 - rounds, by omega, halved⟩

/-- The highest counter takes its bit, and little is left. -/
theorem SdmCalculator.Approaches.highest (small : pllRefKhz.toNat < 32768)
    (approaches : SdmCalculator.Approaches pllRefKhz.toNat whole (rounds + 1) state)
    (goes : 1 < state.vcoFra) (top : state.nSdm.toNat = 32768)
    : contribution pllRefKhz state.nSdm < state.vcoFra
      ∧ SdmCalculator.Approached pllRefKhz.toNat whole
          ⟨state.nSdm, state.sdm + 32768 / (state.nSdm / 2),
            state.vcoFra - contribution pllRefKhz state.nSdm⟩ := by
  have contributes : contribution pllRefKhz state.nSdm < state.vcoFra := by
    have above := UInt32.lt_iff_toNat_lt.mp goes
    change 1 < state.vcoFra.toNat at above
    rw [UInt32.lt_iff_toNat_lt, contribution_toNat (by omega), top]
    omega
  have total := approaches.counts.2
  have one : rounds = 1 := by
    rw [top] at total
    refine Nat.pow_right_injective (le_refl 2) ?_
    change 2 ^ rounds = 2 ^ 1
    rw [Nat.pow_succ] at total
    omega
  have taken := (approaches.take small contributes).1
  refine ⟨contributes, ?_, _, 16 - rounds, by omega, taken⟩
  have least := taken.rest_le
  rw [top] at least
  change (state.vcoFra - contribution pllRefKhz state.nSdm).toNat ≤ 16
  omega

/-- A round doubles the counter, unless it is the highest. -/
theorem SdmCalculator.Approaches.round (small : pllRefKhz.toNat < 32768)
    (approaches : SdmCalculator.Approaches pllRefKhz.toNat whole (rounds + 1) state)
    (goes : 1 < state.vcoFra)
    : (∃ next,
        sdmRound pllRefKhz state = .ok (.yield next)
        ∧ SdmCalculator.Approaches pllRefKhz.toNat whole rounds next)
      ∨ ∃ next,
          sdmRound pllRefKhz state = .ok (.done next)
          ∧ next.Approached pllRefKhz.toNat whole := by
  rw [sdmRound_of_counts approaches.counts.1]
  by_cases top : state.nSdm.toNat < 32768
  · have going : ¬ 0x8000 ≤ state.nSdm := by
      rw [UInt16.le_iff_toNat_le]
      exact Nat.not_le.mpr top
    rw [if_neg going]
    split
    next above => exact .inl ⟨_, rfl, approaches.double top (approaches.take small above)⟩
    next below => exact .inl ⟨_, rfl, approaches.double top (approaches.skip small below)⟩
  · have highest : state.nSdm.toNat = 32768 :=
      le_antisymm approaches.counts.le (Nat.not_lt.mp top)
    have going : 0x8000 ≤ state.nSdm := UInt16.le_iff_toNat_le.mpr (Nat.not_lt.mp top)
    obtain ⟨contributes, approached⟩ := approaches.highest small goes highest
    rw [if_pos contributes, if_pos going]
    exact .inr ⟨_, rfl, approached⟩

/-- The sdm calculator comes within sixteen kilohertz of what it is given, up to the rounding of
its bits.
-/
theorem calculateSdm_approaches (small : pllRefKhz.toNat < 32768) {vcoFra : UInt32}
    (fits : vcoFra.toNat ≤ 2 * pllRefKhz.toNat)
    : ∃ state,
        calculateSdm pllRefKhz vcoFra = .ok state
        ∧ state.Approached pllRefKhz.toNat vcoFra.toNat := by
  have stops (rounds : Nat) (state : SdmCalculator)
      (approaches : SdmCalculator.Approaches pllRefKhz.toNat vcoFra.toNat rounds state)
      (stopped : decide (1 < state.vcoFra) = false)
      : state.Approached pllRefKhz.toNat vcoFra.toNat :=
    approaches.stops stopped
  have last (state : SdmCalculator)
      (approaches : SdmCalculator.Approaches pllRefKhz.toNat vcoFra.toNat 0 state)
      : decide (1 < state.vcoFra) = false :=
    absurd approaches.counts SdmCalculator.Counts.not_zero
  refine whileLoop_ends stops last ?_ (SdmCalculator.Approaches.first fits)
  exact fun rounds state approaches goes => approaches.round small (of_decide_eq_true goes)

end Fractions

-----------------------------------------------------------------------------------------
-- The registers
-----------------------------------------------------------------------------------------

/-- The current of the oscillator that the fine tuning is compared with. -/
def vcoPowerRef (config : R82xxConfig) : UInt8 :=
  if config.rafaelChip = .r828d ∨ config.blogV4L = true then 1 else 2

/-- What the chip says of its fine tuning in the fifth byte of an answer. -/
def vcoFineTune (answer : Nat → UInt8) : UInt8 := (r82xxBitrev (answer 4) &&& 0x30) >>> 4

/-- The logarithm of the divider, changed by the fine tuning. -/
def tunedDivNum (divNum powerRef fineTune : UInt8) : UInt8 :=
  if powerRef < fineTune then divNum - 1
  else if fineTune < powerRef then divNum + 1
  else divNum

/-- The bits of the divider in its register. -/
def dividerField (register : UInt8) : UInt8 := register &&& 0xe0

/-- The frequency of the oscillator, the integer part of its ratio to the crystal and the rest in
kHz.
-/
def vcoFreq (freq : UInt32) (mixDiv : UInt8) : UInt64 := freq.toUInt64 * mixDiv.toUInt64

def vcoNint (pllRef freq : UInt32) (mixDiv : UInt8) : UInt8 :=
  (vcoFreq freq mixDiv / (2 * pllRef).toUInt64).toUInt8

def vcoFraction (pllRef freq : UInt32) (mixDiv : UInt8) : UInt32 :=
  ((vcoFreq freq mixDiv
      - (2 * pllRef * (vcoNint pllRef freq mixDiv).toUInt32).toUInt64) / 1000).toUInt32

/-- The register of the integer part. -/
def nintRegister (nint : UInt8) : UInt8 :=
  let ni := UInt8.ofInt (((nint.toNat : Int) - 13).tdiv 4)
  let si := nint - 4 * ni - 13
  ni + (si <<< 6)

section Registers

variable {environment : Environment.Bus R82xxConfig}

/-- Programming the divider leaves the divider field of register `0x10` at the corrected
divider; it fails only when a transfer does. Witness: the read-back, then the masked write.
-/
theorem programDivider_leads (room : 2 ≤ environment.config.maxI2cMsgLen.toNat)
    (divNum powerRef : UInt8) (bus : Bus R82xxPriv)
    : (programDivider divNum powerRef).Leads environment
        (fun _ later =>
          dividerField (later.registers 0x10)
          = dividerField
              (tunedDivNum divNum powerRef
                  (vcoFineTune (environment.reads (bus.transfers + 1))) <<< 5))
        (fun _ _ => ¬ environment.Moves)
        bus := by
  refine Program.leads_bind.mpr ((r82xxRead_leads 0x00 5 bus).weaken ?_ ?_)
  · rintro _ _ ⟨rfl, rfl⟩
    refine (r82xxWriteRegMask_leads room (by decide) _ 0xe0 _).weaken ?_ ?_
    · rintro _ _ rfl
      rw [Bus.wrote_self]
      exact merge_and_mask
    · exact fun _ _ failed => failed.2.2
  · exact fun _ _ failed => failed.2.2

/-- Programming the whole part leaves the registers as the one write stores them. Witness: the
contract of the register write.
-/
theorem programNint_leads (room : 2 ≤ environment.config.maxI2cMsgLen.toNat) (nint : UInt8)
    (bus : Bus R82xxPriv)
    : (programNint nint).Leads environment
        (fun _ later => later.registers = stored bus.registers 0x14 [nintRegister nint])
        (fun _ _ => ¬ environment.Moves)
        bus := by
  refine (r82xxWriteReg_leads room 0x14 (nintRegister nint) bus).weaken ?_ ?_
  · rintro _ _ rfl
    rfl
  · exact fun _ _ failed => failed.2.2

/-- Programming the fraction leaves its two bytes in registers `0x15` and `0x16`, and the
divider and the whole part untouched. Witness: the masked write of `0x12` spares both, and the
two byte writes follow.
-/
theorem programSdm_leads (room : 2 ≤ environment.config.maxI2cMsgLen.toNat)
    {pllRefKhz fra : UInt32} {state : SdmCalculator}
    (counted : calculateSdm pllRefKhz fra = .ok state) (bus : Bus R82xxPriv)
    : (programSdm pllRefKhz fra).Leads environment
        (fun _ later =>
          later.registers 0x10 = bus.registers 0x10
          ∧ later.registers 0x14 = bus.registers 0x14
          ∧ later.registers 0x15 = (state.sdm &&& 0xff).toUInt8
          ∧ later.registers 0x16 = (state.sdm >>> 8).toUInt8)
        (fun _ _ => ¬ environment.Moves)
        bus := by
  have kept : Spares (r82xxWriteRegMask 0x12 (if fra = 0 then 0x08 else 0x00) 0x08) environment
      (fun reg => reg = 0x10 ∨ reg = 0x14) :=
    r82xxWriteRegMask_spares room (by decide) (by decide) _ _
  refine Program.leads_bind.mpr ((kept bus).weaken ?_ fun _ _ failed => failed.2)
  intro _ powered same
  refine Program.leads_bind.mpr ((Program.leads_lift counted).mpr ?_)
  refine Program.leads_bind.mpr ((r82xxWriteReg_leads room 0x16 _ powered).weaken ?_ ?_)
  · rintro _ _ rfl
    refine (r82xxWriteReg_leads room 0x15 _ _).weaken ?_ fun _ _ failed => failed.2.2
    rintro _ _ rfl
    refine ⟨?_, ?_, Bus.wrote_self _ _ _, ?_⟩
    · rw [Bus.wrote_other (by decide), Bus.wrote_other (by decide)]
      exact same 0x10 (.inl rfl)
    · rw [Bus.wrote_other (by decide), Bus.wrote_other (by decide)]
      exact same 0x14 (.inr rfl)
    · rw [Bus.wrote_other (by decide), Bus.wrote_self]
  · exact fun _ _ failed => failed.2.2

/-- Waiting for the lock touches no register but `0x12`. Witness: it reads, and raises the
oscillator's current there once.
-/
theorem awaitLock_spares {spared : UInt8 → Prop}
    (room : 2 ≤ environment.config.maxI2cMsgLen.toNat) (taken : ¬ spared 0x12)
    : Spares awaitLock environment spared := by
  refine .bind (r82xxRead_spares _ _) fun _ => ?_
  split
  · exact .pure
  · refine .bind (r82xxWriteRegMask_spares room (by decide) taken _ _) fun _ => ?_
    exact .bind (r82xxRead_spares _ _) fun _ => .pure

/-- The end of `r82xx_set_pll`, which changes the currents and the tuning of the loop. -/
theorem lockLoop_spares {spared : UInt8 → Prop}
    (room : 2 ≤ environment.config.maxI2cMsgLen.toNat) (current : ¬ spared 0x12)
    (autotune : ¬ spared 0x1a)
    : Spares
        (do
          let locked ← awaitLock
          modify fun bus => { bus with driver := { bus.driver with hasLock := locked } }
          if locked then r82xxWriteRegMask 0x1a 0x08 0x08)
        environment spared := by
  refine .bind (awaitLock_spares room current) fun locked => ?_
  refine .bind (.modify fun _ _ _ => rfl) fun _ => ?_
  split
  · exact r82xxWriteRegMask_spares room (by decide) autotune _ _
  · exact .pure

/-- The registers that the divider, the integer part and the fraction are programmed in. -/
structure PllRegisters (registers : UInt8 → UInt8) (divNum nint : UInt8) (sdm : UInt16)
    : Prop where
  divider : dividerField (registers 0x10) = dividerField (divNum <<< 5)
  whole : registers 0x14 = nintRegister nint
  low : registers 0x15 = (sdm &&& 0xff).toUInt8
  high : registers 0x16 = (sdm >>> 8).toUInt8

/-- The registers that `PllRegisters` speaks of. -/
def IsPllRegister (reg : UInt8) : Prop := reg = 0x10 ∨ reg = 0x14 ∨ reg = 0x15 ∨ reg = 0x16

instance (reg : UInt8) : Decidable (IsPllRegister reg) := inferInstanceAs (Decidable (_ ∨ _))

/-- What the loop is programmed with depends on its registers only. Witness: the four of them are
listed.
-/
theorem PllRegisters.congr {registers later : UInt8 → UInt8} {divNum nint : UInt8} {sdm : UInt16}
    (programmed : PllRegisters registers divNum nint sdm)
    (same : ∀ reg, IsPllRegister reg → later reg = registers reg)
    : PllRegisters later divNum nint sdm where
  divider := (congrArg dividerField (same _ (by decide))).trans programmed.divider
  whole := (same _ (by decide)).trans programmed.whole
  low := (same _ (by decide)).trans programmed.low
  high := (same _ (by decide)).trans programmed.high

/-- A run that succeeds has programmed what is computed, and the integer part is in bounds. -/
theorem r82xxSetPll_leads (room : 2 ≤ environment.config.maxI2cMsgLen.toNat)
    (fits : LoopFits environment.config.xtal) {freq : UInt32} {divider : Divider}
    {state : SdmCalculator} (found : calculateDivider ((freq + 500) / 1000) = .ok divider)
    (counted
      : calculateSdm ((environment.config.xtal + 500) / 1000)
          (vcoFraction environment.config.xtal freq divider.mixDiv)
        = .ok state)
    (bus : Bus R82xxPriv)
    : (r82xxSetPll freq).Leads environment
        (fun _ later =>
          vcoNint environment.config.xtal freq divider.mixDiv
            ≤ 128 / vcoPowerRef environment.config - 1
          ∧ PllRegisters later.registers
              (tunedDivNum divider.divNum (vcoPowerRef environment.config)
                (vcoFineTune (environment.reads (bus.transfers + 4))))
              (vcoNint environment.config.xtal freq divider.mixDiv) state.sdm)
        (fun _ _ =>
          ¬ vcoNint environment.config.xtal freq divider.mixDiv
              ≤ 128 / vcoPowerRef environment.config - 1
          ∨ ¬ environment.Moves)
        bus := by
  refine Program.leads_bind.mpr (Program.leads_read.mpr ?_)
  refine Program.leads_bind.mpr
    ((r82xxWriteRegMask_leads room (by decide) 0x00 0x10 bus).weaken ?_
      fun _ _ failed => .inr failed.2.2)
  rintro _ first rfl
  refine Program.leads_bind.mpr
    ((r82xxWriteRegMask_leads room (by decide) 0x00 0x0c _).weaken ?_
      fun _ _ failed => .inr failed.2.2)
  rintro _ second rfl
  refine Program.leads_bind.mpr
    ((r82xxWriteRegMask_leads room (by decide) 0x80 0xe0 _).weaken ?_
      fun _ _ failed => .inr failed.2.2)
  rintro _ third rfl
  refine Program.leads_bind.mpr ((Program.leads_lift found).mpr ?_)
  refine Program.leads_bind.mpr
    ((programDivider_leads room _ (vcoPowerRef environment.config) _).weaken ?_
      fun _ _ failed => .inr failed)
  intro _ tuned dividerBits
  refine Program.leads_bind.mpr ((Program.leads_lift (divide_of_ne fits.reference)).mpr ?_)
  refine Program.leads_bind.mpr
    (Program.leads_require.mpr ⟨fun bounded => ?_, fun unbounded => .inl unbounded⟩)
  refine Program.leads_bind.mpr
    ((programNint_leads room _ tuned).weaken ?_ fun _ _ failed => .inr failed)
  intro _ whole nintBits
  refine Program.leads_bind.mpr
    ((programSdm_leads room counted whole).weaken ?_ fun _ _ failed => .inr failed)
  rintro _ fraction ⟨reg10, reg14, reg15, reg16⟩
  refine (@lockLoop_spares _ IsPllRegister room (by decide) (by decide) fraction).weaken ?_ ?_
  · intro _ later same
    refine ⟨bounded, PllRegisters.congr ⟨?_, ?_, reg15, reg16⟩ same⟩
    · rw [reg10, nintBits, stored_other (by decide)]
      exact dividerBits
    · rw [reg14, nintBits, stored_self]
      rfl
  · exact fun _ _ failed => .inr failed.2

end Registers

-----------------------------------------------------------------------------------------
-- What the registers stand for
-----------------------------------------------------------------------------------------

/-- The crystals of 28.8 MHz and 16 MHz, corrected by at most 1000 ppm. -/
def CrystalOf1000Ppm (xtal : Nat) : Prop :=
  28771200 ≤ xtal ∧ xtal ≤ 28828800 ∨ 15984000 ≤ xtal ∧ xtal ≤ 16016000

/-- The integer part of the ratio that register 0x14 stands for. -/
def pllNint (registers : UInt8 → UInt8) : Nat :=
  4 * (registers 0x14 &&& 0x3f).toNat + (registers 0x14 >>> 6).toNat + 13

/-- The fraction of the ratio, in parts of 65536. -/
def pllSdm (registers : UInt8 → UInt8) : Nat :=
  256 * (registers 0x16).toNat + (registers 0x15).toNat

/-- The registers stand for a frequency multiplied by one of the dividers, within 20 kHz: the
field of the divider is its logarithm, changed by at most one, and the integer part of the ratio is
not cut.
-/
structure PllProgrammed (xtal freq mixDiv : Nat) (registers : UInt8 → UInt8) : Prop where
  divider
    : ∃ log ≤ 5,
        mixDiv = 2 ^ (log + 1)
        ∧ (registers 0x10 >>> 5).toNat ≤ log + 1
        ∧ log ≤ (registers 0x10 >>> 5).toNat + 1
  whole : pllNint registers = freq * mixDiv / (2 * xtal)
  below
    : 2 * xtal * (65536 * pllNint registers + pllSdm registers)
      ≤ 65536 * (freq * mixDiv + 20000)
  above
    : 65536 * (freq * mixDiv)
      ≤ 2 * xtal * (65536 * pllNint registers + pllSdm registers) + 65536 * 20000

section Decoding

/-- The integer parts that are bytes, one by one. -/
theorem nintRegister_decodes {nint : UInt8} (least : 13 ≤ nint.toNat)
    : 4 * (nintRegister nint &&& 0x3f).toNat + (nintRegister nint >>> 6).toNat + 13
      = nint.toNat := by
  have bytes
      : ∀ byte < 256,
          13 ≤ byte
          → 4 * (nintRegister (.ofNat byte) &&& 0x3f).toNat
              + (nintRegister (.ofNat byte) >>> 6).toNat + 13
            = byte := by
    decide +kernel
  have decoded := bytes nint.toNat nint.toNat_lt least
  rwa [UInt8.ofNat_toNat] at decoded

/-- The field of the divider shifted down. -/
theorem dividerField_decodes {register divNum : UInt8}
    (same : dividerField register = dividerField (divNum <<< 5))
    : (register >>> 5).toNat = divNum.toNat % 8 := by
  have field (byte : UInt8) : (byte >>> 5).toNat = (dividerField byte >>> 5).toNat := by
    have bytes
        : ∀ byte < 256,
            ((UInt8.ofNat byte) >>> 5).toNat = (dividerField (.ofNat byte) >>> 5).toNat := by
      decide +kernel
    have shifted := bytes byte.toNat byte.toNat_lt
    rwa [UInt8.ofNat_toNat] at shifted
  have shifted : ((divNum <<< 5) >>> 5).toNat = divNum.toNat % 8 := by
    rw [UInt8.toNat_shiftRight, UInt8.toNat_shiftLeft]
    change (divNum.toNat <<< 5 % 256) >>> 5 = _
    rw [Nat.shiftLeft_eq, Nat.shiftRight_eq_div_pow]
    omega
  rw [field, same, ← field, shifted]

/-- The two bytes written for the fraction are the fraction. Witness: quotient and remainder
by 256.
-/
theorem sdm_decodes (sdm : UInt16)
    : 256 * (sdm >>> 8).toUInt8.toNat + (sdm &&& 0xff).toUInt8.toNat = sdm.toNat := by
  have bound := sdm.toNat_lt
  have high : (sdm >>> 8).toNat = sdm.toNat / 256 := by
    rw [UInt16.toNat_shiftRight]
    exact Nat.shiftRight_eq_div_pow _ 8
  have low : (sdm &&& 0xff).toNat = sdm.toNat % 256 := by
    rw [UInt16.toNat_and]
    exact Nat.and_two_pow_sub_one_eq_mod _ 8
  rw [UInt16.toNat_toUInt8, UInt16.toNat_toUInt8, high, low]
  omega

end Decoding

section Arithmetic

variable {xtal product rest : Nat}

/-- A crystal within 1000 ppm of one of the two nominal frequencies lies between these bounds.
Witness: linear arithmetic over the two disjuncts.
-/
theorem CrystalOf1000Ppm.bounds (crystal : CrystalOf1000Ppm xtal)
    : 15984000 ≤ xtal ∧ xtal ≤ 28828800 := by
  unfold CrystalOf1000Ppm at crystal
  omega

/-- The rest of the ratio and its fraction differ by the rounding of the crystal and of the rest to
kHz, by that of the fifteen bits, and by what the calculator leaves.
-/
theorem SdmCalculator.Approached.near {state : SdmCalculator}
    (approached : state.Approached ((xtal + 500) / 1000) (rest / 1000))
    : 2 * xtal * state.sdm.toNat ≤ 65536 * (rest + 16000)
      ∧ 65536 * rest ≤ 2 * xtal * state.sdm.toNat + 65536 * 18000 := by
  obtain ⟨little, divisor, steps, few, -, part, lower, upper⟩ := approached
  have bits := state.sdm.toNat_lt
  have most := Nat.mul_le_mul_right state.sdm.toNat
    (show 2 * xtal ≤ 1000 * (2 * ((xtal + 500) / 1000)) + 1000 by omega)
  have least := Nat.mul_le_mul_right state.sdm.toNat
    (show 1000 * (2 * ((xtal + 500) / 1000)) ≤ 2 * xtal + 1000 by omega)
  rw [Nat.add_mul, Nat.mul_assoc 1000] at most
  rw [Nat.add_mul, Nat.mul_assoc 1000] at least
  omega

/-- The oscillator's frequency is the product, without wrapping. Witness: a 32-bit by an 8-bit
number fits 64 bits.
-/
theorem vcoFreq_toNat (freq : UInt32) (mixDiv : UInt8)
    : (vcoFreq freq mixDiv).toNat = freq.toNat * mixDiv.toNat := by
  have product := Nat.mul_le_mul (Nat.le_of_lt freq.toNat_lt) (Nat.le_of_lt mixDiv.toNat_lt)
  rw [vcoFreq, UInt64.toNat_mul, UInt32.toNat_toUInt64, UInt8.toNat_toUInt64]
  exact Nat.mod_eq_of_lt (Nat.lt_of_le_of_lt product (by decide))

/-- The whole part is the oscillator's frequency by twice the reference, cut to a byte.
Witness: the doubled reference does not wrap below `2 ^ 31`.
-/
theorem vcoNint_toNat {pllRef : UInt32} (small : pllRef.toNat < 2147483648) (freq : UInt32)
    (mixDiv : UInt8)
    : (vcoNint pllRef freq mixDiv).toNat
      = freq.toNat * mixDiv.toNat / (2 * pllRef.toNat) % 256 := by
  have reference : (2 * pllRef).toUInt64.toNat = 2 * pllRef.toNat := by
    rw [reference_toNat]
    omega
  rw [vcoNint, UInt64.toNat_toUInt8, UInt64.toNat_div, vcoFreq_toNat, reference]

/-- Where the integer part is not cut, the fraction is of the rest. -/
theorem vcoFraction_toNat {pllRef freq : UInt32} {mixDiv : UInt8}
    (small : pllRef.toNat < 2147483648)
    (byte : freq.toNat * mixDiv.toNat / (2 * pllRef.toNat) < 256)
    (word : freq.toNat * mixDiv.toNat < 4294967296)
    : (vcoFraction pllRef freq mixDiv).toNat
      = freq.toNat * mixDiv.toNat % (2 * pllRef.toNat) / 1000 := by
  have nint : (vcoNint pllRef freq mixDiv).toNat
      = freq.toNat * mixDiv.toNat / (2 * pllRef.toNat) := by
    rw [vcoNint_toNat small]
    exact Nat.mod_eq_of_lt byte
  have whole := Nat.div_add_mod (freq.toNat * mixDiv.toNat) (2 * pllRef.toNat)
  have double : (2 * pllRef).toNat = 2 * pllRef.toNat := by
    rw [UInt32.toNat_mul]
    change 2 * pllRef.toNat % 4294967296 = _
    omega
  have multiple : (2 * pllRef * (vcoNint pllRef freq mixDiv).toUInt32).toUInt64.toNat
      = 2 * pllRef.toNat * (freq.toNat * mixDiv.toNat / (2 * pllRef.toNat)) := by
    rw [UInt32.toNat_toUInt64, UInt32.toNat_mul, double, UInt8.toNat_toUInt32, nint]
    exact Nat.mod_eq_of_lt (by omega)
  have fits : (2 * pllRef * (vcoNint pllRef freq mixDiv).toUInt32).toUInt64
      ≤ vcoFreq freq mixDiv := by
    rw [UInt64.le_iff_toNat_le, multiple, vcoFreq_toNat]
    omega
  rw [vcoFraction, UInt64.toNat_toUInt32, UInt64.toNat_div, UInt64.toNat_sub_of_le _ _ fits,
    multiple, vcoFreq_toNat]
  change (_ - _) / 1000 % 4294967296 = _
  omega

/-- The logarithm of the divider changes by at most one, unless it is zero and lowered. -/
theorem tunedDivNum_near_iff {log : Nat} (tried : log ≤ 5) (powerRef fineTune : UInt8)
    : ((tunedDivNum (.ofNat log) powerRef fineTune).toNat % 8 ≤ log + 1
        ∧ log ≤ (tunedDivNum (.ofNat log) powerRef fineTune).toNat % 8 + 1)
      ↔ (log = 0 → fineTune ≤ powerRef) := by
  have lowered
      : ∀ log ≤ 5,
          ((UInt8.ofNat log - 1).toNat % 8 ≤ log + 1 ∧ log ≤ (UInt8.ofNat log - 1).toNat % 8 + 1)
          ↔ log ≠ 0 := by
    decide
  have raised
      : ∀ log ≤ 5,
          (UInt8.ofNat log + 1).toNat % 8 ≤ log + 1
          ∧ log ≤ (UInt8.ofNat log + 1).toNat % 8 + 1 := by
    decide
  have kept
      : ∀ log ≤ 5,
          (UInt8.ofNat log).toNat % 8 ≤ log + 1 ∧ log ≤ (UInt8.ofNat log).toNat % 8 + 1 := by
    decide
  unfold tunedDivNum
  split
  next above =>
    rw [lowered log tried]
    exact forall_congr' fun _ => iff_of_false (fun never => never) (UInt8.not_le.mpr above)
  next atMost =>
    have most := UInt8.not_lt.mp atMost
    split
    · exact iff_of_true (raised log tried) fun _ => most
    · exact iff_of_true (kept log tried) fun _ => most

end Arithmetic

-----------------------------------------------------------------------------------------
-- Frequencies that are programmed
-----------------------------------------------------------------------------------------

/-- The frequency in kHz, with the overflow of its rounding. -/
def freqKhz (freq : UInt32) : Nat := (freq.toNat + 500) % 4294967296 / 1000

/-- The largest integer part that is accepted. -/
def nintLimit (config : R82xxConfig) : Nat := 128 / (vcoPowerRef config).toNat - 1

/-- Whatever the transfers return, `r82xx_set_pll` fails or has programmed the frequency, with the
divider that the search found.
-/
def PllSound (config : R82xxConfig) (reads : Nat → Nat → UInt8) (freq : UInt32)
    (bus : Bus R82xxPriv)
    : Prop :=
  ∀ returns,
    (r82xxSetPll freq).Leads ⟨config, returns, reads⟩
      (fun _ later =>
        ∃ divider,
          calculateDivider ((freq + 500) / 1000) = .ok divider
          ∧ PllProgrammed config.xtal.toNat freq.toNat divider.mixDiv.toNat later.registers)
      (fun _ _ => True)
      bus

/-- The frequencies that a divider above two puts in range, those that two puts in range, unless
the fine tuning lowers its logarithm and the integer part is accepted, and those of which the
integer part, that of 128 times the frequency cut to a byte, is refused.
-/
def PllFits (config : R82xxConfig) (fineTune : UInt8) (freq : UInt32) : Prop :=
  (27657 ≤ freqKhz freq ∧ freqKhz freq ≤ 884999)
  ∨ (885000 ≤ freqKhz freq ∧ freqKhz freq ≤ 1769999
    ∧ (fineTune ≤ vcoPowerRef config
      ∨ nintLimit config < freq.toNat * 2 / (2 * config.xtal.toNat)))
  ∨ ((freqKhz freq < 27657 ∨ 1769999 < freqKhz freq)
    ∧ nintLimit config < freq.toNat * 128 / (2 * config.xtal.toNat) % 256)

instance (config : R82xxConfig) (fineTune : UInt8) (freq : UInt32)
    : Decidable (PllFits config fineTune freq) :=
  inferInstanceAs (Decidable (_ ∨ _))

section Sound

variable {config : R82xxConfig} {reads : Nat → Nat → UInt8} {freq : UInt32}
  {bus : Bus R82xxPriv}

/-- The frequency in kHz as the code rounds it is the one of the arithmetic. Witness: quotient
and sum, the sum wrapping in both.
-/
theorem freqKhz_toNat (freq : UInt32) : ((freq + 500) / 1000).toNat = freqKhz freq := by
  rw [UInt32.toNat_div, UInt32.toNat_add]
  rfl

/-- The largest whole part the code accepts is the arithmetic's. Witness: both reference
powers are computed.
-/
theorem nintLimit_toNat (config : R82xxConfig)
    : (128 / vcoPowerRef config - 1).toNat = nintLimit config := by
  unfold nintLimit vcoPowerRef
  split <;> rfl

/-- A crystal within 1000 ppm is one the loop fits. Witness: its bounds, as `UInt32`. -/
theorem CrystalOf1000Ppm.fits (crystal : CrystalOf1000Ppm config.xtal.toNat)
    : LoopFits config.xtal := by
  have bounds := crystal.bounds
  refine ⟨?_, ?_⟩
  · intro zero
    have none : config.xtal.toNat = 0 := congrArg UInt32.toNat zero
    omega
  · rw [UInt32.lt_iff_toNat_lt, pllRefKhz_toNat]
    change (config.xtal.toNat + 500) % 4294967296 / 1000 < 32768
    omega

/-- A property that programmed registers have is that of the run where every transfer moves all
its bytes.
-/
theorem pllSound_iff (room : 2 ≤ config.maxI2cMsgLen.toNat) (fits : LoopFits config.xtal)
    {divider : Divider} {state : SdmCalculator} {property : Prop}
    (found : calculateDivider ((freq + 500) / 1000) = .ok divider)
    (counted
      : calculateSdm ((config.xtal + 500) / 1000) (vcoFraction config.xtal freq divider.mixDiv)
        = .ok state)
    (decoded
      : ∀ registers,
          PllRegisters registers
            (tunedDivNum divider.divNum (vcoPowerRef config)
              (vcoFineTune (reads (bus.transfers + 4))))
            (vcoNint config.xtal freq divider.mixDiv) state.sdm
          → (PllProgrammed config.xtal.toNat freq.toNat divider.mixDiv.toNat registers
            ↔ property))
    : PllSound config reads freq bus
      ↔ ((vcoNint config.xtal freq divider.mixDiv).toNat ≤ nintLimit config → property) := by
  rw [← nintLimit_toNat, ← UInt8.le_iff_toNat_le]
  constructor
  · intro sound bounded
    let environment : Environment.Bus R82xxConfig := ⟨config, fun _ len => Int32.ofNat len, reads⟩
    have leads := @r82xxSetPll_leads environment room fits freq divider state found counted bus
    refine ((sound environment.returns).both leads).elim ?_ ?_
    · rintro _ later ⟨⟨other, found', programmed⟩, -, registers⟩
      obtain rfl : divider = other := Except.ok.inj (found.symm.trans found')
      exact (decoded later.registers registers).mp programmed
    · rintro _ later ⟨-, unbounded | unmoved⟩
      · exact absurd bounded unbounded
      · exact absurd (fun _ _ => rfl) unmoved
  · intro implied returns
    have leads :=
      @r82xxSetPll_leads ⟨config, returns, reads⟩ room fits freq divider state found counted bus
    refine leads.weaken ?_ fun _ _ _ => trivial
    rintro _ later ⟨bounded, registers⟩
    exact ⟨divider, found, (decoded later.registers registers).mpr (implied bounded)⟩

/-- The products of a frequency and the divider that puts it in range. -/
theorem InRange.product {log : Nat} (fits : InRange ((freq + 500) / 1000) log)
    (tried : log ≤ 5)
    : 1769968000 ≤ freq.toNat * (dividerOf log).toNat
      ∧ freq.toNat * (dividerOf log).toNat < 3540032000 := by
  have power : 2 ^ (log + 1) ≤ 64 := Nat.pow_le_pow_right (by decide) (Nat.succ_le_succ tried)
  have word := freq.toNat_lt
  unfold InRange at fits
  rw [freqKhz_toNat] at fits
  rw [dividerOf_toNat tried]
  have some : 0 < freqKhz freq := by
    refine Nat.pos_of_ne_zero fun none => ?_
    rw [none] at fits
    omega
  have lower : 1000 * freqKhz freq ≤ freq.toNat + 500 := by
    unfold freqKhz at some ⊢
    omega
  have upper : freq.toNat + 500 < 1000 * freqKhz freq + 1000 := by
    unfold freqKhz at some ⊢
    omega
  have least := Nat.mul_le_mul_right (2 ^ (log + 1)) lower
  have most := Nat.mul_le_mul_right (2 ^ (log + 1)) (Nat.le_of_lt_succ upper)
  rw [Nat.mul_assoc, Nat.add_mul] at least
  rw [Nat.add_mul, Nat.add_mul, Nat.mul_assoc] at most
  omega

/-- With a divider that puts the frequency in range, only its field can be wrong. -/
theorem pllProgrammed_found_iff (crystal : CrystalOf1000Ppm config.xtal.toNat) {log : Nat}
    (tried : log ≤ 5) (hit : InRange ((freq + 500) / 1000) log) {state : SdmCalculator}
    (approached
      : state.Approached ((config.xtal.toNat + 500) / 1000)
          (freq.toNat * (dividerOf log).toNat % (2 * config.xtal.toNat) / 1000))
    {fineTune : UInt8} {registers : UInt8 → UInt8}
    (programmed
      : PllRegisters registers (tunedDivNum (.ofNat log) (vcoPowerRef config) fineTune)
          (vcoNint config.xtal freq (dividerOf log)) state.sdm)
    : PllProgrammed config.xtal.toNat freq.toNat (dividerOf log).toNat registers
      ↔ (log = 0 → fineTune ≤ vcoPowerRef config) := by
  obtain ⟨lower, upper⟩ := hit.product tried
  have bounds := crystal.bounds
  have near := approached.near
  have field := dividerField_decodes programmed.divider
  have least : 13 ≤ freq.toNat * (dividerOf log).toNat / (2 * config.xtal.toNat) :=
    (Nat.le_div_iff_mul_le (by omega)).mpr (by omega)
  have most : freq.toNat * (dividerOf log).toNat / (2 * config.xtal.toNat) < 256 :=
    Nat.div_lt_of_lt_mul (by omega)
  have nint : (vcoNint config.xtal freq (dividerOf log)).toNat
      = freq.toNat * (dividerOf log).toNat / (2 * config.xtal.toNat) := by
    rw [vcoNint_toNat (by omega)]
    exact Nat.mod_eq_of_lt most
  have whole : pllNint registers
      = freq.toNat * (dividerOf log).toNat / (2 * config.xtal.toNat) := by
    rw [pllNint, programmed.whole, nintRegister_decodes (by omega), nint]
  have fraction : pllSdm registers = state.sdm.toNat := by
    rw [pllSdm, programmed.high, programmed.low, sdm_decodes]
  have ratio := Nat.div_add_mod (freq.toNat * (dividerOf log).toNat) (2 * config.xtal.toNat)
  have scaled : 2 * config.xtal.toNat * (65536 * pllNint registers + pllSdm registers)
      = 65536 * (2 * config.xtal.toNat
          * (freq.toNat * (dividerOf log).toNat / (2 * config.xtal.toNat)))
        + 2 * config.xtal.toNat * state.sdm.toNat := by
    rw [whole, fraction]
    ring
  rw [← tunedDivNum_near_iff tried, ← field]
  constructor
  · intro sound
    obtain ⟨other, tried', same, close⟩ := sound.divider
    rw [dividerOf_toNat tried] at same
    obtain rfl : log = other :=
      Nat.succ.inj (Nat.pow_right_injective (le_refl 2) same)
    exact close
  · intro close
    refine ⟨⟨log, tried, dividerOf_toNat tried, close⟩, whole, ?_, ?_⟩
    · rw [scaled]
      omega
    · rw [scaled]
      omega

/-- Every 32-bit frequency is below 4294968 kHz. Witness: its rounded quotient by 1000. -/
theorem freqKhz_small (freq : UInt32) : ((freq + 500) / 1000).toNat < 4294968 := by
  rw [freqKhz_toNat, freqKhz]
  omega

/-- The frequencies that a divider puts in range. -/
theorem pllSound_found_iff (room : 2 ≤ config.maxI2cMsgLen.toNat)
    (crystal : CrystalOf1000Ppm config.xtal.toNat) {log : Nat} (tried : log ≤ 5)
    (hit : InRange ((freq + 500) / 1000) log)
    : PllSound config reads freq bus
      ↔ (freq.toNat * (dividerOf log).toNat / (2 * config.xtal.toNat) ≤ nintLimit config
        → log = 0
        → vcoFineTune (reads (bus.transfers + 4)) ≤ vcoPowerRef config) := by
  obtain ⟨lower, upper⟩ := hit.product tried
  have bounds := crystal.bounds
  have byte : freq.toNat * (dividerOf log).toNat / (2 * config.xtal.toNat) < 256 :=
    Nat.div_lt_of_lt_mul (by omega)
  have fraction := @vcoFraction_toNat config.xtal freq (dividerOf log) (by omega) byte (by omega)
  have reference : ((config.xtal + 500) / 1000).toNat = (config.xtal.toNat + 500) / 1000 := by
    rw [pllRefKhz_toNat]
    omega
  have rest := Nat.mod_lt (freq.toNat * (dividerOf log).toNat)
    (show 0 < 2 * config.xtal.toNat by omega)
  obtain ⟨state, counted, approached⟩ :=
    @calculateSdm_approaches ((config.xtal + 500) / 1000) (by omega)
      (vcoFraction config.xtal freq (dividerOf log)) (by omega)
  rw [reference, fraction] at approached
  rw [pllSound_iff room crystal.fits (calculateDivider_found (freqKhz_small freq) tried hit)
    counted fun registers => pllProgrammed_found_iff crystal tried hit approached,
    vcoNint_toNat (by omega), Nat.mod_eq_of_lt byte]

/-- The frequencies that no divider puts in range: the search has left the dividers. -/
theorem pllSound_missing_iff (room : 2 ≤ config.maxI2cMsgLen.toNat)
    (crystal : CrystalOf1000Ppm config.xtal.toNat)
    (misses : ¬ ∃ log ≤ 5, InRange ((freq + 500) / 1000) log)
    : PllSound config reads freq bus
      ↔ nintLimit config < freq.toNat * 128 / (2 * config.xtal.toNat) % 256 := by
  have bounds := crystal.bounds
  have small : ((config.xtal + 500) / 1000).toNat < 32768 :=
    UInt32.lt_iff_toNat_lt.mp crystal.fits.2
  obtain ⟨state, counted⟩ := calculateSdm_ends small (vcoFraction config.xtal freq 128)
  have never (registers : UInt8 → UInt8)
      : PllProgrammed config.xtal.toNat freq.toNat (128 : UInt8).toNat registers ↔ False := by
    refine iff_false_intro fun programmed => ?_
    obtain ⟨log, tried, same, -⟩ := programmed.divider
    change 2 ^ 7 = 2 ^ (log + 1) at same
    have seven := Nat.pow_right_injective (le_refl 2) same
    omega
  rw [pllSound_iff room crystal.fits (calculateDivider_missing (freqKhz_small freq) misses) counted
    fun registers _ => never registers, vcoNint_toNat (by omega)]
  exact Nat.not_le

/-- `r82xx_set_pll` is sound for exactly the frequencies and the answers of the tuner that fit. -/
theorem r82xxSetPll_sound_iff (room : 2 ≤ config.maxI2cMsgLen.toNat)
    (crystal : CrystalOf1000Ppm config.xtal.toNat) (reads : Nat → Nat → UInt8) (freq : UInt32)
    (bus : Bus R82xxPriv)
    : PllSound config reads freq bus
      ↔ PllFits config (vcoFineTune (reads (bus.transfers + 4))) freq := by
  have khz := @exists_inRange_iff ((freq + 500) / 1000)
  rw [freqKhz_toNat] at khz
  unfold PllFits
  by_cases found : ∃ log ≤ 5, InRange ((freq + 500) / 1000) log
  · obtain ⟨least, most⟩ := khz.mp found
    obtain ⟨log, tried, hit⟩ := found
    rw [pllSound_found_iff room crystal tried hit]
    by_cases low : freqKhz freq ≤ 884999
    · have positive : log ≠ 0 := by
        rintro rfl
        have lower := hit.1
        rw [freqKhz_toNat] at lower
        omega
      exact iff_of_true (fun _ zero => absurd zero positive) (.inl ⟨least, low⟩)
    · have two : InRange ((freq + 500) / 1000) 0 := by
        unfold InRange
        rw [freqKhz_toNat]
        omega
      obtain rfl : log = 0 := hit.unique two
      have high : 885000 ≤ freqKhz freq := Nat.lt_of_not_le low
      change (freq.toNat * 2 / (2 * config.xtal.toNat) ≤ nintLimit config → _) ↔ _
      constructor
      · intro sound
        refine .inr (.inl ⟨high, most, ?_⟩)
        by_cases accepted : freq.toNat * 2 / (2 * config.xtal.toNat) ≤ nintLimit config
        · exact .inl (sound accepted rfl)
        · exact .inr (Nat.lt_of_not_le accepted)
      · rintro (⟨-, below⟩ | ⟨-, -, lowered | refused⟩ | ⟨outside, -⟩) accepted -
        · exact absurd below low
        · exact lowered
        · exact absurd accepted (Nat.not_le.mpr refused)
        · omega
  · rw [pllSound_missing_iff room crystal found]
    have outside := mt khz.mpr found
    omega

/-- A frequency of 100 MHz above the intermediate frequency, with a crystal of 28.8 MHz. -/
theorem r82xxSetPll_sound_100MHz
    : PllSound ⟨28800000, .r820t, 8, false⟩ (fun _ _ => 0) 103570000
        ⟨fun _ => 0, 0, ⟨fun _ => 0, false⟩⟩ := by
  have room : 2 ≤ (8 : UInt32).toNat := by decide
  have crystal : CrystalOf1000Ppm (28800000 : UInt32).toNat := .inl (by decide)
  refine (@r82xxSetPll_sound_iff ⟨28800000, .r820t, 8, false⟩ room crystal (fun _ _ => 0)
    103570000 _).mpr ?_
  decide

/-- A frequency of 500 kHz above the intermediate frequency leaves the dividers at 128, and is
programmed with an integer part of nine.
-/
theorem r82xxSetPll_unsound_4MHz
    : ¬ ∀ (config : R82xxConfig) (reads : Nat → Nat → UInt8) (freq : UInt32)
          (bus : Bus R82xxPriv),
        2 ≤ config.maxI2cMsgLen.toNat
        → CrystalOf1000Ppm config.xtal.toNat
        → PllSound config reads freq bus := by
  intro sound
  have room : 2 ≤ (8 : UInt32).toNat := by decide
  have crystal : CrystalOf1000Ppm (28800000 : UInt32).toNat := .inl (by decide)
  have claimed := sound ⟨28800000, .r820t, 8, false⟩ (fun _ _ => 0) 4070000
    ⟨fun _ => 0, 0, ⟨fun _ => 0, false⟩⟩ room crystal
  have misses : ¬ ∃ log ≤ 5, InRange (((4070000 : UInt32) + 500) / 1000) log := by
    rw [exists_inRange_iff]
    decide
  have refused := (pllSound_missing_iff room crystal misses).mp claimed
  revert refused
  decide

end Sound

end RtlTcpAndro.Tuners
