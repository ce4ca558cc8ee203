import RtlTcpAndro.Tables.Ordered
import RtlTcpAndro.Tuners.R82xxInputs

/-! The bandwidths that `r82xx_set_bandwidth` selects. A narrow one is put together from the
high-pass filters that contribute to it and the low-pass filter that covers the rest.
-/

namespace RtlTcpAndro.Tuners

open RtlTcpAndro.Faults
open RtlTcpAndro.Tables

-----------------------------------------------------------------------------------------
-- The search
-----------------------------------------------------------------------------------------

/-- `bw`, `priv->int_freq`, `real_bw` and `reg_0b` in the search for a narrow bandwidth. -/
structure BandwidthSearch where
  bw : Int
  intFreq : UInt32
  realBw : Int
  reg0b : UInt8

/-- A high-pass filter contributes to what is above a bandwidth, or is switched off. -/
def BandwidthSearch.highPass (search : BandwidthSearch) (above filter : Int) (off : UInt8)
    : BandwidthSearch :=
  if above < search.bw then
    {
      search with
      bw := search.bw - filter
      intFreq := search.intFreq + UInt32.ofInt filter
      realBw := search.realBw + filter
    }
  else { search with reg0b := search.reg0b ||| off }

/-- `i` after the search for a low-pass filter and its decrement. -/
def lowPassIndex (bw : Int) : UInt32 :=
  UInt32.ofNat (reachingCount r82xxIfLowPassBwTable bw) - 1

/-- What the high-pass filters leave to the search for a low-pass filter. -/
def highPassSearch (bw : Int) : BandwidthSearch :=
  let widest := r82xxIfLowPassBwTable.getD 0 0
  let search : BandwidthSearch := ⟨bw, 2300000, 0, 0x80⟩
  (search.highPass (widest + filtHpBw1) filtHpBw2 0x20).highPass widest filtHpBw1 0x40

/-- The values with the low-pass filter of an index, none if it is not one of the table. -/
def BandwidthSearch.lowPass (search : BandwidthSearch) (i : UInt32) : Option BandwidthValues := do
  let width ← r82xxIfLowPassBwTable[i.toNat]?
  return {
    reg0a := 0x00
    reg0b := search.reg0b ||| (15 - i).toUInt8
    intFreq := search.intFreq - UInt32.ofInt ((search.realBw + width).tdiv 2)
  }

/-- The narrow bandwidths as the code searches them, where the index is unsigned. -/
def searchBandwidth (bw : Int) : Option BandwidthValues :=
  let search := highPassSearch bw
  search.lowPass (lowPassIndex search.bw)

/-- What the high-pass filters contribute to a narrow bandwidth. -/
def highPassOf (bw : Int) : Int :=
  if 2050000 < bw then
    if 1700000 < bw - filtHpBw2 then filtHpBw2 + filtHpBw1 else filtHpBw2
  else if 1700000 < bw then filtHpBw1 else 0

/-- What is left of a narrow bandwidth can be covered. -/
theorem highPassOf_leaves {bw : Int} (narrow : bw ≤ 2430000) : bw - highPassOf bw ≤ 1700000 := by
  unfold highPassOf filtHpBw1 filtHpBw2
  split <;> split <;> omega

/-- The low-pass filters are listed from the widest. Witness: the table is computed. -/
theorem lowPass_descending : r82xxIfLowPassBwTable.Pairwise (· ≥ ·) := by
  decide

/-- The search for a low-pass filter does not stop at the first one. -/
theorem reachingCount_bounded {bw : Int} (covered : bw ≤ 1700000)
    : ∃ i < 10, reachingCount r82xxIfLowPassBwTable bw = i + 1 := by
  have first : 0 < reachingCount r82xxIfLowPassBwTable bw :=
    (reaching_iff_lt lowPass_descending (i := 0) (by decide)).mp covered
  have few : reachingCount r82xxIfLowPassBwTable bw ≤ 10 := reachingCount_le
  exact ⟨reachingCount r82xxIfLowPassBwTable bw - 1, by omega, by omega⟩

/-- The contributions of the high-pass filters that are on. -/
def contributions (second first : Bool) : Int :=
  (if second then filtHpBw2 else 0) + (if first then filtHpBw1 else 0)

/-- The values with the low-pass filter of an index, and the high-pass filters that are on. -/
def filterValues (second first : Bool) (i : Nat) : BandwidthValues :=
  let highPass := contributions second first
  {
    reg0a := 0x00
    reg0b :=
      0x80 ||| (if second then 0x00 else 0x20) ||| (if first then 0x00 else 0x40)
        ||| UInt8.ofNat (15 - i)
    intFreq := UInt32.ofInt (2300000 + highPass - (highPass + r82xxIfLowPassBwTable.getD i 0) / 2)
  }

/-- What the high-pass filters that are on leave to the search, with what is left of a bandwidth. -/
def searchAfter (bw : Int) (second first : Bool) : BandwidthSearch where
  bw := bw
  intFreq := 2300000 + UInt32.ofInt (contributions second first)
  realBw := contributions second first
  reg0b := 0x80 ||| (if second then 0x00 else 0x20) ||| (if first then 0x00 else 0x40)

/-- After either high-pass decision the search's i-th entry gives the values for it. Witness:
the forty cases are computed; the bandwidth plays no part.
-/
theorem searchAfter_lowPass (bw : Int)
    : ∀ second first : Bool, ∀ i < 10,
        (searchAfter bw second first).lowPass (UInt32.ofNat (i + 1) - 1)
        = some (filterValues second first i) := by
  change ∀ second first : Bool, ∀ i < 10,
    (searchAfter 0 second first).lowPass (UInt32.ofNat (i + 1) - 1)
    = some (filterValues second first i)
  decide

/-- The high-pass filters that are on for a bandwidth. -/
theorem highPass_chosen (bw : Int)
    : ∃ second first,
        highPassOf bw = contributions second first
        ∧ highPassSearch bw = searchAfter (bw - highPassOf bw) second first
        ∧ narrowBandwidth bw
          = filterValues second first
              (reachingCount r82xxIfLowPassBwTable (bw - highPassOf bw) - 1) := by
  by_cases above : r82xxIfLowPassBwTable.getD 0 0 + filtHpBw1 < bw
  · by_cases beyond : r82xxIfLowPassBwTable.getD 0 0 < bw - filtHpBw2
    · have contributed : highPassOf bw = contributions true true :=
        (if_pos above).trans (if_pos beyond)
      have left : bw - highPassOf bw = bw - filtHpBw2 - filtHpBw1 := by
        rw [contributed, Int.sub_sub]
        rfl
      refine ⟨true, true, contributed, ?_, ?_⟩
      · rw [left]
        simp only [highPassSearch, BandwidthSearch.highPass, if_pos above, if_pos beyond]
        rfl
      · rw [left]
        simp only [narrowBandwidth, above, beyond, decide_true, if_true]
        rfl
    · have contributed : highPassOf bw = contributions true false :=
        (if_pos above).trans (if_neg beyond)
      have left : bw - highPassOf bw = bw - filtHpBw2 := by
        rw [contributed]
        rfl
      refine ⟨true, false, contributed, ?_, ?_⟩
      · rw [left]
        simp only [highPassSearch, BandwidthSearch.highPass, if_pos above, if_neg beyond]
        rfl
      · rw [left]
        simp only [narrowBandwidth, above, beyond, decide_true, decide_false, if_true,
          Bool.false_eq_true, if_false]
        rfl
  · by_cases beyond : r82xxIfLowPassBwTable.getD 0 0 < bw
    · have contributed : highPassOf bw = contributions false true :=
        (if_neg above).trans (if_pos beyond)
      have left : bw - highPassOf bw = bw - filtHpBw1 := by
        rw [contributed]
        rfl
      refine ⟨false, true, contributed, ?_, ?_⟩
      · rw [left]
        simp only [highPassSearch, BandwidthSearch.highPass, if_neg above, if_pos beyond]
        rfl
      · rw [left]
        simp only [narrowBandwidth, above, beyond, decide_true, decide_false, if_true,
          Bool.false_eq_true, if_false]
        rfl
    · have contributed : highPassOf bw = contributions false false :=
        (if_neg above).trans (if_neg beyond)
      have left : bw - highPassOf bw = bw := by
        rw [contributed]
        exact Int.sub_zero bw
      refine ⟨false, false, contributed, ?_, ?_⟩
      · rw [left]
        simp only [highPassSearch, BandwidthSearch.highPass, if_neg above, if_neg beyond]
        rfl
      · rw [left]
        simp only [narrowBandwidth, above, beyond, decide_false, Bool.false_eq_true, if_false]
        rfl

/-- The search finds a low-pass filter of the table, and what the driver computes from it. -/
theorem searchBandwidth_eq {bw : Int} (narrow : bw ≤ 2430000)
    : searchBandwidth bw = some (narrowBandwidth bw) := by
  obtain ⟨i, inside, count⟩ := reachingCount_bounded (highPassOf_leaves narrow)
  obtain ⟨second, first, -, left, values⟩ := highPass_chosen bw
  rw [searchBandwidth, left, values, count]
  change BandwidthSearch.lowPass _ (lowPassIndex (bw - highPassOf bw)) = _
  rw [lowPassIndex, count]
  exact searchAfter_lowPass _ second first i inside

/-- `reg_0a`, `reg_0b` and `int_freq` of a bandwidth, where the search for a low-pass filter may
leave the table.
-/
def searchValues (bw : Int) : Option BandwidthValues :=
  if 7000000 < bw then some ⟨0x10, 0x0b, 4570000⟩
  else if 6000000 < bw then some ⟨0x10, 0x2a, 4570000⟩
  else if 2430000 < bw then some ⟨0x10, 0x6b, 3570000⟩
  else searchBandwidth bw

/-- The search ends with the values of the specification. Witness: the same bounds, compared
in the same order.
-/
theorem searchValues_eq (bw : Int) : searchValues bw = some (bandwidthValues bw) := by
  have widest : r82xxIfLowPassBwTable.getD 0 0 + filtHpBw1 + filtHpBw2 = 2430000 := by decide
  rw [searchValues, bandwidthValues, widest]
  split
  next => rfl
  next =>
    split
    next => rfl
    next =>
      split
      next => rfl
      next narrow => exact searchBandwidth_eq (Int.not_lt.mp narrow)

-----------------------------------------------------------------------------------------
-- What register 0x0b stands for
-----------------------------------------------------------------------------------------

/-- The contributions of the high-pass filters that are not switched off. -/
def enabledHighPass (reg0b : UInt8) : Int :=
  (if reg0b &&& 0x20 = 0 then filtHpBw2 else 0) + (if reg0b &&& 0x40 = 0 then filtHpBw1 else 0)

/-- The low-pass filter that is selected. -/
def chosenLowPass (reg0b : UInt8) : Int :=
  r82xxIfLowPassBwTable.getD (15 - (reg0b &&& 0x0f).toNat) 0

def totalBandwidth (reg0b : UInt8) : Int := enabledHighPass reg0b + chosenLowPass reg0b

/-- The values name the filters they are for. Witness: the forty cases are computed. -/
theorem filterValues_decode
    : ∀ second first : Bool, ∀ i < 10,
        enabledHighPass (filterValues second first i).reg0b = contributions second first
        ∧ chosenLowPass (filterValues second first i).reg0b = r82xxIfLowPassBwTable.getD i 0 := by
  decide

/-- The values of a narrow bandwidth select what covers it. -/
theorem narrowBandwidth_decodes {bw : Int} (narrow : bw ≤ 2430000)
    : enabledHighPass (narrowBandwidth bw).reg0b = highPassOf bw
      ∧ IsLeast (Reaching r82xxIfLowPassBwTable (bw - highPassOf bw))
          (chosenLowPass (narrowBandwidth bw).reg0b)
      ∧ (narrowBandwidth bw).intFreq
        = UInt32.ofInt (2300000 + highPassOf bw
            - (highPassOf bw + chosenLowPass (narrowBandwidth bw).reg0b) / 2) := by
  obtain ⟨i, inside, count⟩ := reachingCount_bounded (highPassOf_leaves narrow)
  obtain ⟨second, first, contributed, -, values⟩ := highPass_chosen bw
  obtain ⟨bound, least⟩ := reachingCount_isLeast lowPass_descending count.symm
  rw [count] at values
  obtain ⟨highPass, lowPass⟩ := filterValues_decode second first i inside
  have entry : r82xxIfLowPassBwTable.getD i 0 = r82xxIfLowPassBwTable[i] :=
    (List.getElem_eq_getD 0).symm
  rw [values, Nat.add_sub_cancel, highPass, lowPass, entry, contributed]
  rw [contributed] at least
  refine ⟨rfl, least, ?_⟩
  rw [← entry]
  rfl

/-- What is selected is read from the bits that are written. -/
theorem decoded_masked {reg reg' : UInt8} (same : reg &&& 0xef = reg' &&& 0xef)
    : enabledHighPass reg = enabledHighPass reg' ∧ chosenLowPass reg = chosenLowPass reg' := by
  have within (mask : UInt8) (inside : 0xef &&& mask = mask) : reg &&& mask = reg' &&& mask := by
    rw [← inside, ← UInt8.and_assoc, same, UInt8.and_assoc]
  unfold enabledHighPass chosenLowPass
  rw [within 0x20 (by decide), within 0x40 (by decide), within 0x0f (by decide)]
  exact ⟨rfl, rfl⟩

/-- A wider bandwidth is never covered by less. -/
theorem covered_mono {lower bw low low' : Int} (below : lower ≤ bw)
    (least : IsLeast (Reaching r82xxIfLowPassBwTable (lower - highPassOf lower)) low)
    (least' : IsLeast (Reaching r82xxIfLowPassBwTable (bw - highPassOf bw)) low')
    : highPassOf lower + low ≤ highPassOf bw + low' := by
  have widest : ∀ width ∈ r82xxIfLowPassBwTable, width ≤ 1700000 := by decide
  have bounded := widest low least.1.1
  have reaches := least'.1.2
  by_cases same : highPassOf lower = highPassOf bw
  · rw [same] at least ⊢
    have narrower := isLeast_reaching_mono (Int.sub_le_sub_right below _) least least'
    omega
  · have apart : highPassOf lower + 1700000 ≤ bw := by
      revert same
      unfold highPassOf filtHpBw1 filtHpBw2
      split <;> split <;> split <;> split <;> omega
    omega

-----------------------------------------------------------------------------------------
-- Setting a bandwidth
-----------------------------------------------------------------------------------------

/-- A run of `r82xx_set_bandwidth` that returns a frequency, and the registers it leaves. -/
def SetsBandwidth (bw : Int32) (rc : UInt32) (registers : UInt8 → UInt8) : Prop :=
  ∃ environment bus later,
    2 ≤ environment.config.maxI2cMsgLen.toNat
    ∧ r82xxSetBandwidth bw environment bus = .ok (.ok rc, later)
    ∧ later.registers = registers

/-- A bandwidth is covered by what is selected, as narrowly as can be with the high-pass filters
that are on, and a narrower one by no more than that. The frequency that is returned is that of the
selected band.
-/
structure Covering (bw : Int32) (rc : UInt32) (reg0b : UInt8) : Prop where
  covers : bw.toInt ≤ totalBandwidth reg0b
  least
    : IsLeast (Reaching r82xxIfLowPassBwTable (bw.toInt - enabledHighPass reg0b))
        (chosenLowPass reg0b)
  monotone
    : ∀ lower ≤ bw, ∀ rc' registers',
        SetsBandwidth lower rc' registers'
        → totalBandwidth (registers' 0x0b) ≤ totalBandwidth reg0b
  frequency
    : rc.toInt32.toInt = 2300000 + enabledHighPass reg0b - totalBandwidth reg0b / 2

/-- The values of a bandwidth are programmed and returned. -/
theorem r82xxSetBandwidth_programs {environment : Environment.Bus R82xxTunerConfig}
    (room : 2 ≤ environment.config.maxI2cMsgLen.toNat) (bw : Int32) (bus : Bus R82xxTunerPriv)
    : (r82xxSetBandwidth bw).Permits environment
        (fun rc later =>
          rc = (bandwidthValues bw.toInt).intFreq
          ∧ later.registers 0x0b &&& 0xef = (bandwidthValues bw.toInt).reg0b &&& 0xef)
        (fun _ _ => True) bus := by
  refine Program.permits_bind.mpr (Program.permits_modify.mpr ?_)
  refine Program.permits_bind.mpr (Program.permits_zoom.mpr ?_)
  refine Program.permits_bind.mpr
    ((r82xxWriteRegMask_sets room (by decide) _ _ _).weaken ?_ fun _ _ _ => trivial)
  intro _ between _
  refine (r82xxWriteRegMask_sets room (by decide) _ _ _).weaken ?_ fun _ _ _ => trivial
  intro _ later set
  exact Program.permits_bind.mpr
    (Program.permits_get.mpr (Program.permits_pure.mpr ⟨rfl, set.holds.chip⟩))

/-- A successful call returns the intermediate frequency of the specification's values and
leaves their filters in the register. Witness: what the call programs, decoded.
-/
theorem SetsBandwidth.values {bw : Int32} {rc : UInt32} {registers : UInt8 → UInt8}
    (sets : SetsBandwidth bw rc registers)
    : rc = (bandwidthValues bw.toInt).intFreq
      ∧ enabledHighPass (registers 0x0b) = enabledHighPass (bandwidthValues bw.toInt).reg0b
      ∧ chosenLowPass (registers 0x0b) = chosenLowPass (bandwidthValues bw.toInt).reg0b := by
  obtain ⟨environment, bus, later, room, ran, rfl⟩ := sets
  obtain ⟨returned, programmed⟩ :=
    (r82xxSetBandwidth_programs room bw bus _ later ran).1 rc rfl
  exact ⟨returned, decoded_masked programmed⟩

/-- A number below `2 ^ 31` survives the way through `uint32_t` to `int`. Witness: neither
cast wraps.
-/
theorem toInt32_ofInt {x : Int} (least : 0 ≤ x) (most : x < 2147483648)
    : (UInt32.ofInt x).toInt32.toInt = x := by
  obtain ⟨n, rfl⟩ := Int.eq_ofNat_of_zero_le least
  have whole : (n : Int) % 2 ^ 32 = n := Int.emod_eq_of_lt least (by omega)
  rw [UInt32.ofInt, whole, Int.toNat_natCast, UInt32.toInt32_ofNat',
    Int32.toInt_ofNat_of_lt (by omega)]

/-- Up to 2430000 Hz the values are the narrow ones. Witness: none of the wider tests holds.
-/
theorem bandwidthValues_narrow {bw : Int} (narrow : bw ≤ 2430000)
    : bandwidthValues bw = narrowBandwidth bw := by
  have widest : r82xxIfLowPassBwTable.getD 0 0 + filtHpBw1 + filtHpBw2 = 2430000 := by decide
  rw [bandwidthValues, widest, if_neg (by omega), if_neg (by omega), if_neg (by omega)]

/-- The frequency of a narrow bandwidth is that of its band, and positive. -/
theorem narrowBandwidth_frequency {bw : Int} (narrow : bw ≤ 2430000)
    : (narrowBandwidth bw).intFreq.toInt32.toInt
        = 2300000 + highPassOf bw
            - (highPassOf bw + chosenLowPass (narrowBandwidth bw).reg0b) / 2
      ∧ 0 < (narrowBandwidth bw).intFreq.toInt32.toInt := by
  obtain ⟨-, least, frequency⟩ := narrowBandwidth_decodes narrow
  have widths : ∀ width ∈ r82xxIfLowPassBwTable, 350000 ≤ width ∧ width ≤ 1700000 := by decide
  have bounds := widths _ least.1.1
  have contributed : 0 ≤ highPassOf bw ∧ highPassOf bw ≤ 730000 := by
    unfold highPassOf filtHpBw1 filtHpBw2
    split <;> split <;> omega
  rw [frequency, toInt32_ofInt (by omega) (by omega)]
  omega

/-- The frequency that is returned is positive for every bandwidth. -/
theorem bandwidthValues_positive (bw : Int) : 0 < (bandwidthValues bw).intFreq.toInt32.toInt := by
  by_cases narrow : bw ≤ 2430000
  · rw [bandwidthValues_narrow narrow]
    exact (narrowBandwidth_frequency narrow).2
  · have widest : r82xxIfLowPassBwTable.getD 0 0 + filtHpBw1 + filtHpBw2 = 2430000 := by decide
    have wide : 0 < (4570000 : UInt32).toInt32.toInt := by decide
    have least : 0 < (3570000 : UInt32).toInt32.toInt := by decide
    rw [bandwidthValues, widest]
    split
    next => exact wide
    next =>
      split
      next => exact wide
      next =>
        rw [if_pos (Int.lt_of_not_ge narrow)]
        exact least

/-- The search for a low-pass filter stays in its table for every bandwidth, and every bandwidth
that the table is made for is covered.
-/
theorem r82xxSetBandwidth_covers (bw : Int32)
    : searchValues bw.toInt = some (bandwidthValues bw.toInt)
      ∧ ∀ rc registers,
          SetsBandwidth bw rc registers
          → 0 < rc.toInt32.toInt
            ∧ (bw.toInt ≤ 2430000 → Covering bw rc (registers 0x0b)) := by
  refine ⟨searchValues_eq bw.toInt, fun rc registers sets => ?_⟩
  obtain ⟨rfl, highPass, lowPass⟩ := sets.values
  refine ⟨bandwidthValues_positive bw.toInt, fun narrow => ?_⟩
  rw [bandwidthValues_narrow narrow] at highPass lowPass ⊢
  obtain ⟨contributed, least, -⟩ := narrowBandwidth_decodes narrow
  obtain ⟨frequency, -⟩ := narrowBandwidth_frequency narrow
  rw [contributed] at highPass
  rw [← lowPass] at least frequency
  constructor
  case covers =>
    have reaches := least.1.2
    rw [totalBandwidth, highPass]
    omega
  case least => rwa [highPass]
  case frequency => rwa [totalBandwidth, highPass]
  case monotone =>
    intro lower below rc' registers' sets'
    have below := Int32.le_iff_toInt_le.mp below
    have narrow' : lower.toInt ≤ 2430000 := Int.le_trans below narrow
    obtain ⟨-, highPass', lowPass'⟩ := sets'.values
    rw [bandwidthValues_narrow narrow'] at highPass' lowPass'
    obtain ⟨contributed', least', -⟩ := narrowBandwidth_decodes narrow'
    rw [← lowPass'] at least'
    rw [totalBandwidth, totalBandwidth, highPass, highPass', contributed']
    exact covered_mono below least' least

/-- A bandwidth that the first high-pass filter contributes to. -/
theorem r82xxSetBandwidth_covers_2048kHz
    : ∃ rc registers,
        SetsBandwidth 2048000 rc registers ∧ Covering 2048000 rc (registers 0x0b) := by
  have ran : ∃ rc registers, SetsBandwidth 2048000 rc registers :=
    ⟨_, _, .obliging r828dConfig, freshTuner, _, by decide, rfl, rfl⟩
  obtain ⟨rc, registers, sets⟩ := ran
  obtain ⟨-, covering⟩ := (r82xxSetBandwidth_covers 2048000).2 rc registers sets
  exact ⟨rc, registers, sets, covering (by decide)⟩

end RtlTcpAndro.Tuners
