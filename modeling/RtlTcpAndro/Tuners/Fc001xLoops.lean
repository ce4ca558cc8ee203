import Mathlib.Data.Fintype.Basic
import RtlTcpAndro.Faults.Triples
import RtlTcpAndro.Tuners.Fc001x

/-! The ratios that the loops of the FC0012 and FC0013 are programmed with. A ratio is the multiple
of half the clock that is nearest to the product of the frequency and its divider. Its registers
hold the ratio only in part of its range, and the product is formed in 32 bits.
-/

namespace RtlTcpAndro.Tuners

open RtlTcpAndro.Faults

-----------------------------------------------------------------------------------------
-- Ratios
-----------------------------------------------------------------------------------------

/-- The ratio of a product to half the clock, rounded. -/
def roundedRatio (product half : Nat) : Nat :=
  product / half + if half / 2 ≤ product % half then 1 else 0

/-- The multiple of half the clock that two registers stand for. -/
def FcRatio.value (ratio : FcRatio) : Nat :=
  8 * ratio.reg2.toNat + ratio.reg1.toNat

/-- The check of `reg[1]` and `reg[2]`. -/
def FcRatio.Accepted (ratio : FcRatio) : Prop :=
  ratio.reg1 ≤ 15 ∧ 0x0b ≤ ratio.reg2

/-- The ratios whose registers are refused. -/
def RatioRefused (ratio : Nat) : Prop :=
  (2 ≤ ratio ∧ ratio ≤ 89) ∨ (264 ≤ ratio ∧ ratio ≤ 503) ∨ 520 ≤ ratio

/-- The difference of a multiple of half the clock and a product is at most half of it, rounded
up.
-/
def NearProduct (multiple half product : Nat) : Prop :=
  multiple * half ≤ product + half / 2 + 1 ∧ product ≤ multiple * half + half / 2 + 1

/-- The ratio that is computed, of the lower 32 bits of the product. -/
def wrappedRatio (product half : Nat) : Nat :=
  roundedRatio (product % 4294967296) half

/-- The products whose ratio is refused, those of 32 bits whose ratio is between 90 and 263, and
those of more where 256 is the ratio of what is cut off.
-/
def RatioFits (product half : Nat) : Prop :=
  RatioRefused (wrappedRatio product half)
  ∨ (90 ≤ wrappedRatio product half ∧ wrappedRatio product half ≤ 263 ∧ product < 4294967296)
  ∨ (wrappedRatio product half ≤ 1
    ∧ 4294967296 ≤ product
    ∧ NearProduct (256 + wrappedRatio product half) half product)

instance (ratio : Nat) : Decidable (RatioRefused ratio) :=
  inferInstanceAs (Decidable (_ ∨ _))

instance (multiple half product : Nat) : Decidable (NearProduct multiple half product) :=
  inferInstanceAs (Decidable (_ ∧ _))

instance (product half : Nat) : Decidable (RatioFits product half) :=
  inferInstanceAs (Decidable (_ ∨ _))

/-- Registers in range whose ratio is the one of the product. -/
structure FcRatio.Sound (ratio : FcRatio) (half product : Nat) : Prop where
  reg1 : ratio.reg1 ≤ 15
  least : 11 ≤ ratio.reg2
  most : ratio.reg2 ≤ 31
  near : NearProduct ratio.value half product

/-- The rounded ratio is within half of the exact one, with one more to spare above. Witness:
quotient and remainder of the division, rounded either way.
-/
theorem roundedRatio_near {half : Nat} (positive : 0 < half) (product : Nat)
    : roundedRatio product half * half ≤ product + half / 2 + 1
      ∧ product ≤ roundedRatio product half * half + half / 2 := by
  have whole := Nat.div_add_mod' product half
  have below := Nat.mod_lt product positive
  unfold roundedRatio
  split
  · rw [Nat.add_mul]
    omega
  · rw [Nat.add_zero]
    omega

/-- Clocks of 16 MHz or more keep the ratio within ten bits. -/
theorem roundedRatio_lt {half product : Nat} (slow : 8000000 ≤ half)
    (fits : product < 4294967296)
    : roundedRatio product half < 538 := by
  refine Nat.lt_of_not_le fun large => ?_
  have positive : 0 < half := by omega
  have near := (roundedRatio_near positive product).1
  have least : 538 * half ≤ roundedRatio product half * half := Nat.mul_le_mul_right half large
  omega

/-- The registers of a quotient by eight and a rest. -/
theorem ratioRegisters_eq {xdiv : UInt16} (small : xdiv.toNat < 540)
    : ∃ pm am : UInt8,
        pm.toNat = xdiv.toNat / 8
        ∧ am.toNat = xdiv.toNat % 8
        ∧ ratioRegisters xdiv
          = if am < 2 then
              if 31 < pm - 1 then ⟨am + 8 + 8 * (pm - 1 - 31), 31⟩ else ⟨am + 8, pm - 1⟩
            else if 31 < pm then ⟨am + 8 * (pm - 31), 31⟩
            else ⟨am, pm⟩ := by
  have pm : (xdiv / 8).toUInt8.toNat = xdiv.toNat / 8 := by
    rw [UInt16.toNat_toUInt8, UInt16.toNat_div]
    change xdiv.toNat / 8 % 2 ^ 8 = _
    omega
  have am : (xdiv - 8 * (xdiv / 8).toUInt8.toUInt16).toUInt8.toNat = xdiv.toNat % 8 := by
    rw [UInt16.toNat_toUInt8, UInt16.toNat_sub, UInt16.toNat_mul, UInt8.toNat_toUInt16, pm]
    change (2 ^ 16 - 8 * (xdiv.toNat / 8) % 2 ^ 16 + xdiv.toNat) % 2 ^ 16 % 2 ^ 8 = _
    omega
  refine ⟨_, _, pm, am, ?_⟩
  unfold ratioRegisters
  simp only []
  split
  · rfl
  · rfl

/-- The ratio is accepted exactly if its two registers are in their ranges, as numbers. -/
theorem FcRatio.accepted_iff {ratio : FcRatio}
    : ratio.Accepted ↔ ratio.reg1.toNat ≤ 15 ∧ 11 ≤ ratio.reg2.toNat :=
  and_congr UInt8.le_iff_toNat_le UInt8.le_iff_toNat_le

/-- The second register is 31 at most, since the code cuts it there or it is smaller. -/
theorem ratioRegisters_most (xdiv : UInt16) : (ratioRegisters xdiv).reg2 ≤ 31 := by
  unfold ratioRegisters
  extract_lets pm am
  split
  split
  · exact UInt8.le_refl 31
  next small => exact UInt8.not_lt.mp small

/-- What a ratio below 540 becomes: which are refused, and what the registers of the others
stand for. Witness: the eighth of the ratio and its rest, with the borrow that the code makes.
-/
theorem ratioRegisters_numbers {xdiv : UInt16} (small : xdiv.toNat < 540)
    : ((ratioRegisters xdiv).Accepted ↔ ¬ RatioRefused xdiv.toNat)
      ∧ ((ratioRegisters xdiv).Accepted →
          xdiv.toNat ≤ 1 ∧ (ratioRegisters xdiv).value = 256 + xdiv.toNat
          ∨ 90 ≤ xdiv.toNat ∧ xdiv.toNat ≤ 263 ∧ (ratioRegisters xdiv).value = xdiv.toNat
          ∨ 504 ≤ xdiv.toNat ∧ (ratioRegisters xdiv).value = xdiv.toNat - 256) := by
  obtain ⟨pm, am, eighth, rest, same⟩ := ratioRegisters_eq small
  rw [same, FcRatio.accepted_iff, FcRatio.value, RatioRefused]
  have pmBelow : pm.toNat < 256 := pm.toNat_lt
  have one : (pm - 1).toNat = (255 + pm.toNat) % 256 := UInt8.toNat_sub pm 1
  have borrowed : (am + 8).toNat = am.toNat + 8 := by
    rw [UInt8.toNat_add]
    change (am.toNat + 8) % 256 = _
    omega
  split
  next borrow =>
    have least : am.toNat < 2 := UInt8.lt_iff_toNat_lt.mp borrow
    split
    next large =>
      have excess : 31 < (pm - 1).toNat := UInt8.lt_iff_toNat_lt.mp large
      have reg1 : (am + 8 + 8 * (pm - 1 - 31)).toNat
          = (am.toNat + 8 + 8 * ((225 + (pm - 1).toNat) % 256) % 256) % 256 := by
        rw [UInt8.toNat_add, borrowed, UInt8.toNat_mul, UInt8.toNat_sub]
        rfl
      have reg2 : (31 : UInt8).toNat = 31 := rfl
      simp only []
      rw [reg1, reg2]
      omega
    next fits =>
      have within : (pm - 1).toNat ≤ 31 := UInt8.le_iff_toNat_le.mp (UInt8.not_lt.mp fits)
      simp only []
      rw [borrowed]
      omega
  next none =>
    have least : 2 ≤ am.toNat := UInt8.le_iff_toNat_le.mp (UInt8.not_lt.mp none)
    split
    next large =>
      have excess : 31 < pm.toNat := UInt8.lt_iff_toNat_lt.mp large
      have reg1 : (am + 8 * (pm - 31)).toNat
          = (am.toNat + 8 * ((225 + pm.toNat) % 256) % 256) % 256 := by
        rw [UInt8.toNat_add, UInt8.toNat_mul, UInt8.toNat_sub]
        rfl
      have reg2 : (31 : UInt8).toNat = 31 := rfl
      simp only []
      rw [reg1, reg2]
      omega
    next fits =>
      have within : pm.toNat ≤ 31 := UInt8.le_iff_toNat_le.mp (UInt8.not_lt.mp fits)
      simp only []
      omega

/-- The registers of a ratio below 90 stand for more than the ratio, and those of a ratio above
503 for less; the product is more than its lower 32 bits. These differences are more than the
rounding.
-/
theorem ratioRegisters_sound_iff {xdiv : UInt16} {half product : Nat} (slow : 8000000 ≤ half)
    (fast : half ≤ 18000000) (rounded : xdiv.toNat = wrappedRatio product half)
    : ((ratioRegisters xdiv).Accepted → (ratioRegisters xdiv).Sound half product)
      ↔ RatioFits product half := by
  have positive : 0 < half := by omega
  have bounded : wrappedRatio product half < 538 :=
    roundedRatio_lt slow (Nat.mod_lt product (by decide))
  have small : xdiv.toNat < 540 := by omega
  obtain ⟨accepted, value⟩ := ratioRegisters_numbers small
  have near
      : wrappedRatio product half * half ≤ product % 4294967296 + half / 2 + 1
        ∧ product % 4294967296 ≤ wrappedRatio product half * half + half / 2 :=
    roundedRatio_near positive (product % 4294967296)
  have sound : (ratioRegisters xdiv).Accepted →
      ((ratioRegisters xdiv).Sound half product
        ↔ NearProduct (ratioRegisters xdiv).value half product) := fun holds =>
    ⟨fun sound => sound.near, fun near => ⟨holds.1, holds.2, ratioRegisters_most xdiv, near⟩⟩
  unfold RatioFits
  rw [rounded] at accepted value
  generalize wrappedRatio product half = ratio at *
  by_cases refused : RatioRefused ratio
  · exact iff_of_true (fun holds => absurd refused (accepted.mp holds)) (.inl refused)
  have holds := accepted.mpr refused
  rw [imp_iff_right holds, sound holds, or_iff_right refused]
  obtain ⟨least, same⟩ | ⟨least, most, same⟩ | ⟨least, same⟩ := value holds
  · rw [same, or_iff_right (fun regular => by omega)]
    constructor
    · intro nearby
      refine ⟨least, Nat.le_of_not_lt fun short => ?_, nearby⟩
      rw [Nat.mod_eq_of_lt short] at near
      have above := nearby.1
      rw [Nat.add_mul] at above
      omega
    · exact fun cut => cut.2.2
  · rw [same, or_iff_left (fun cut => by omega)]
    constructor
    · intro nearby
      refine ⟨least, most, Nat.lt_of_not_le fun long => ?_⟩
      have below := nearby.2
      have beyond : product % 4294967296 + 4294967296 ≤ product := by omega
      omega
    · rintro ⟨-, -, short⟩
      rw [Nat.mod_eq_of_lt short] at near
      exact ⟨near.1, Nat.le_succ_of_le near.2⟩
  · refine iff_of_false (fun nearby => ?_) (fun fits => ?_)
    · have below := nearby.2
      have less : product % 4294967296 ≤ product := Nat.mod_le _ _
      rw [same, Nat.sub_mul] at below
      have many : 504 * half ≤ ratio * half := Nat.mul_le_mul_right half least
      omega
    · obtain ⟨-, most, -⟩ | ⟨most, -⟩ := fits
      · omega
      · omega

/-- The product of 32 bits is divided and rounded without another overflow. -/
theorem calculateXdiv_rounded {fVco : UInt64} {half : UInt32} (slow : 8000000 ≤ half.toNat)
    (fits : fVco.toNat < 4294967296)
    : ∃ xdiv,
        calculateXdiv fVco half = .ok xdiv
        ∧ xdiv.toNat = roundedRatio fVco.toNat half.toNat := by
  have divisor : half.toUInt64.toNat = half.toNat := UInt32.toNat_toUInt64 half
  have nonzero : half.toUInt64 ≠ 0 := by
    intro zero
    have none : half.toUInt64.toNat = 0 := congrArg UInt64.toNat zero
    omega
  have small : fVco.toNat / half.toNat < 537 :=
    Nat.div_lt_of_lt_mul
      (Nat.lt_of_lt_of_le fits (Nat.le_trans (by decide) (Nat.mul_le_mul_right 537 slow)))
  have quotient : (fVco / half.toUInt64).toUInt16.toNat = fVco.toNat / half.toNat := by
    rw [UInt64.toNat_toUInt16, UInt64.toNat_div, divisor]
    exact Nat.mod_eq_of_lt (Nat.lt_trans small (by decide))
  have whole := Nat.div_add_mod' fVco.toNat half.toNat
  have product : ((fVco / half.toUInt64).toUInt16.toUInt32 * half).toUInt64.toNat
      = fVco.toNat / half.toNat * half.toNat := by
    rw [UInt32.toNat_toUInt64, UInt32.toNat_mul, UInt16.toNat_toUInt32, quotient]
    exact Nat.mod_eq_of_lt (by omega)
  have rest : (fVco - ((fVco / half.toUInt64).toUInt16.toUInt32 * half).toUInt64).toNat
      = fVco.toNat % half.toNat := by
    rw [UInt64.toNat_sub_of_le _ _ (UInt64.le_iff_toNat_le.mpr (by omega)), product]
    omega
  have rounds : (half / 2).toUInt64
        ≤ fVco - ((fVco / half.toUInt64).toUInt16.toUInt32 * half).toUInt64
      ↔ half.toNat / 2 ≤ fVco.toNat % half.toNat := by
    rw [UInt64.le_iff_toNat_le, rest, UInt32.toNat_toUInt64, UInt32.toNat_div]
    exact Iff.rfl
  unfold calculateXdiv roundedRatio
  rw [divide_of_ne nonzero, ok_bind]
  simp only [rounds]
  split
  · refine ⟨_, rfl, ?_⟩
    rw [UInt16.toNat_add, quotient]
    exact Nat.mod_eq_of_lt (Nat.lt_trans (Nat.add_lt_add_right small 1) (by decide))
  · exact ⟨_, rfl, quotient⟩

-----------------------------------------------------------------------------------------
-- Registers that are written
-----------------------------------------------------------------------------------------

section Writes

variable {environment : Environment.Bus UInt32} {spared : UInt8 → Prop}

/-- A write leaves its register stored or untouched, and stored if every transfer moves; it
fails only where one does not. Witness: the answer of its message.
-/
theorem fcWritereg_leads (reg val : UInt8) (bus : Bus Unit)
    : (fcWritereg reg val).Leads environment
        (fun _ later =>
          (later.registers = bus.registers ∨ later.registers = stored bus.registers reg [val])
          ∧ (environment.Moves → later.registers = stored bus.registers reg [val]))
        (fun _ later => later.registers = bus.registers ∧ ¬ environment.Moves)
        bus := by
  have positive : (0 : Int32) ≤ 2 := by decide
  refine Program.leads_bind.mpr ((rtlsdrI2cWriteFn_leads reg [val]).mpr ?_)
  refine Program.leads_require.mpr
    ⟨fun _ => ⟨?_, fun moves => ?_⟩, fun failed => ⟨?_, fun moves => ?_⟩⟩
  · exact (ite_eq_or_eq _ _ _).symm
  · exact if_pos (moves _ _)
  · refine if_neg fun whole => failed ?_
    rw [whole]
    exact positive
  · refine failed ?_
    rw [moves]
    exact positive

/-- A read leaves the registers alone, and it fails only where a transfer does. -/
theorem fcReadreg_leads (reg : UInt8) (bus : Bus Unit)
    : (fcReadreg reg).Leads environment
        (fun _ later => later.registers = bus.registers)
        (fun _ later => later.registers = bus.registers ∧ ¬ environment.Moves)
        bus := by
  have same : (bus.sent environment reg []).registers = bus.registers := by
    unfold Bus.sent
    simp only [ite_eq_right_iff]
    exact fun _ => rfl
  refine Program.leads_bind.mpr ((rtlsdrI2cWriteFn_leads reg []).mpr ?_)
  refine Program.leads_bind.mpr (Program.leads_require.mpr ⟨fun _ => ?_, fun failed => ⟨same, ?_⟩⟩)
  · refine Program.leads_bind.mpr ((rtlsdrI2cReadFn_leads 1).mpr ?_)
    refine Program.leads_bind.mpr
      (Program.leads_require.mpr ⟨fun _ => Program.leads_pure.mpr same, fun failed => ⟨same, ?_⟩⟩)
    intro moves
    refine failed ?_
    rw [moves]
    decide
  · intro moves
    refine failed ?_
    rw [moves]
    decide

/-- A write spares every register but its own. -/
theorem fcWritereg_spares {reg : UInt8} (taken : ¬ spared reg) (val : UInt8)
    : Spares (fcWritereg reg val) environment spared := by
  intro bus
  refine (fcWritereg_leads reg val bus).weaken ?_ ?_
  · rintro _ later ⟨kept | written, -⟩ other chosen
    · rw [kept]
    · rw [written]
      exact stored_other fun same => taken (same ▸ chosen)
  · rintro _ later ⟨kept, failed⟩
    exact ⟨fun other _ => by rw [kept], failed⟩

/-- A read spares every register. -/
theorem fcReadreg_spares (reg : UInt8) : Spares (fcReadreg reg) environment spared := by
  intro bus
  refine (fcReadreg_leads reg bus).weaken ?_ ?_
  · exact fun _ later kept other _ => by rw [kept]
  · rintro _ later ⟨kept, failed⟩
    exact ⟨fun other _ => by rw [kept], failed⟩

/-- By induction on the registers. -/
theorem fcWriteregs_spares {regs : List (UInt8 × UInt8)}
    (taken : ∀ reg ∈ regs, ¬ spared reg.1)
    : Spares (fcWriteregs regs) environment spared := by
  induction regs with
  | nil => exact .pure
  | cons reg rest ih =>
      refine .bind (fcWritereg_spares (taken reg List.mem_cons_self) _) fun _ => ih ?_
      exact fun other member => taken other (List.mem_cons_of_mem reg member)

/-- Of registers that are written once each, one holds what it did or its value, and where every
transfer moves its value.
-/
theorem fcWriteregs_leads {regs : List (UInt8 × UInt8)} (distinct : (regs.map Prod.fst).Nodup)
    {reg val : UInt8} (member : (reg, val) ∈ regs) (bus : Bus Unit)
    : (fcWriteregs regs).Leads environment
        (fun _ later =>
          (later.registers reg = bus.registers reg ∨ later.registers reg = val)
          ∧ (environment.Moves → later.registers reg = val))
        (fun _ later =>
          (later.registers reg = bus.registers reg ∨ later.registers reg = val)
          ∧ ¬ environment.Moves)
        bus := by
  induction regs generalizing bus with
  | nil => cases member
  | cons first rest ih =>
      obtain ⟨fresh, distinct⟩ := List.nodup_cons.mp distinct
      refine Program.leads_bind.mpr ((fcWritereg_leads first.1 first.2 bus).weaken ?_ ?_)
      · intro _ between written
        obtain rfl | later := List.mem_cons.mp member
        · have spares : Spares (fcWriteregs rest) environment (· = reg) := by
            refine fcWriteregs_spares fun other listed same => fresh ?_
            exact List.mem_map.mpr ⟨other, listed, same⟩
          obtain ⟨either, exact⟩ := written
          have now : between.registers reg = bus.registers reg ∨ between.registers reg = val := by
            obtain kept | moved := either
            · exact .inl (by rw [kept])
            · exact .inr (by rw [moved, stored_self])
          refine (spares between).weaken ?_ ?_
          · intro _ last same
            rw [same reg rfl]
            exact ⟨now, fun moves => by rw [exact moves, stored_self]⟩
          · rintro _ last ⟨same, failed⟩
            rw [same reg rfl]
            exact ⟨now, failed⟩
        · have other : reg ≠ first.1 := by
            rintro rfl
            exact fresh (List.mem_map.mpr ⟨_, later, rfl⟩)
          have now : between.registers reg = bus.registers reg := by
            obtain kept | moved := written.1
            · rw [kept]
            · rw [moved, stored_other other]
          rw [← now]
          exact ih distinct later between
      · rintro _ between ⟨kept, failed⟩
        exact ⟨.inl (by rw [kept]), failed⟩

end Writes

-----------------------------------------------------------------------------------------
-- Loops that are programmed
-----------------------------------------------------------------------------------------

/-- Registers 1 and 2 hold what they did or those of a ratio, and where every transfer moves
those of the ratio.
-/
structure RatioWritten (environment : Environment.Bus UInt32) (ratio : FcRatio)
    (before after : UInt8 → UInt8)
    : Prop where
  reg1 : after 1 = before 1 ∨ after 1 = ratio.reg1
  reg2 : after 2 = before 2 ∨ after 2 = ratio.reg2
  moved : environment.Moves → after 1 = ratio.reg1 ∧ after 2 = ratio.reg2

/-- Whatever the transfers return and what the registers hold: a `set_params` writes the registers
of a sound ratio, or it fails and has written none of the registers of the loop or those.
-/
def ProgramsSoundly (setParams : UInt32 → UInt32 → Fc001x Unit)
    (divider : UInt32 → FcDivider) (clock freq : UInt32)
    : Prop :=
  ∀ environment : Environment.Bus UInt32, environment.config = clock → ∀ bandwidth bus,
    (setParams freq bandwidth).Leads environment
      (fun _ later =>
        ∃ ratio : FcRatio,
          ratio.Sound (clock.toNat / 2) (freq.toNat * (divider freq).multi.toNat)
          ∧ RatioWritten environment ratio bus.registers later.registers)
      (fun _ later =>
        (∀ reg, 1 ≤ reg ∧ reg ≤ 6 → later.registers reg = bus.registers reg)
        ∨ ∃ ratio : FcRatio,
            ratio.Sound (clock.toNat / 2) (freq.toNat * (divider freq).multi.toNat)
            ∧ RatioWritten environment ratio bus.registers later.registers)
      bus

section Loops

variable {environment : Environment.Bus UInt32} {divider : FcDivider} {freq bandwidth : UInt32}
  {xdiv : UInt16}

/-- The loop is computed without touching the bus: its ratio is the rounded one, and an error
is returned exactly where the ratio is refused. Witness: neither division is by zero.
-/
theorem calculateLoop_leads (slow : 8000000 ≤ (environment.config / 2).toNat)
    (rounded
      : calculateXdiv (freq * divider.multi.toUInt32).toUInt64 (environment.config / 2)
        = .ok xdiv)
    (bus : Bus Unit)
    : (calculateLoop divider freq bandwidth).Leads environment
        (fun loop later =>
          later = bus
          ∧ (ratioRegisters xdiv).Accepted
          ∧ loop.regs.map Prod.fst = [1, 2, 3, 4, 5, 6]
          ∧ (1, (ratioRegisters xdiv).reg1) ∈ loop.regs
          ∧ (2, (ratioRegisters xdiv).reg2) ∈ loop.regs)
        (fun _ later => later = bus ∧ ¬ (ratioRegisters xdiv).Accepted)
        bus := by
  have nonzero : (environment.config / 2).toUInt64 ≠ 0 := by
    intro zero
    have none : (environment.config / 2).toNat = 0 := congrArg UInt64.toNat zero
    omega
  have kHz : environment.config / 2 / 1000 ≠ 0 := by
    intro zero
    have none : (environment.config / 2).toNat / 1000 = 0 := congrArg UInt32.toNat zero
    omega
  obtain ⟨xin, ended⟩ := calculateXin_ends nonzero kHz (freq * divider.multi.toUInt32).toUInt64
  refine Program.leads_bind.mpr (Program.leads_read.mpr ?_)
  refine Program.leads_bind.mpr ((Program.leads_lift rounded).mpr ?_)
  refine Program.leads_bind.mpr
    (Program.leads_require.mpr ⟨fun accepted => ?_, fun refused => ⟨rfl, refused⟩⟩)
  refine Program.leads_bind.mpr ((Program.leads_lift ended).mpr (Program.leads_pure.mpr ?_))
  exact ⟨rfl, accepted, rfl, List.mem_cons_self, List.mem_cons_of_mem _ List.mem_cons_self⟩

/-- The part of a `set_params` from the ratio on. -/
theorem programLoop_leads (slow : 8000000 ≤ (environment.config / 2).toNat)
    (rounded
      : calculateXdiv (freq * divider.multi.toUInt32).toUInt64 (environment.config / 2)
        = .ok xdiv)
    {after : FcLoop → Fc001x Unit}
    (spares : ∀ loop, Spares (after loop) environment (fun reg => reg = 1 ∨ reg = 2))
    (bus : Bus Unit)
    : (do
        let loop ← calculateLoop divider freq bandwidth
        fcWriteregs loop.regs
        after loop).Leads environment
        (fun _ later =>
          (ratioRegisters xdiv).Accepted
          ∧ RatioWritten environment (ratioRegisters xdiv) bus.registers later.registers)
        (fun _ later =>
          ¬ (ratioRegisters xdiv).Accepted ∧ later = bus
          ∨ (ratioRegisters xdiv).Accepted
            ∧ RatioWritten environment (ratioRegisters xdiv) bus.registers later.registers
            ∧ ¬ environment.Moves)
        bus := by
  refine Program.leads_bind.mpr ((calculateLoop_leads slow rounded bus).weaken ?_ ?_)
  · rintro loop between ⟨rfl, accepted, listed, first, second⟩
    have distinct : (loop.regs.map Prod.fst).Nodup := by
      rw [listed]
      decide
    refine Program.leads_bind.mpr
      (((fcWriteregs_leads distinct first between).both
        (fcWriteregs_leads distinct second between)).weaken ?_ ?_)
    · rintro _ written ⟨⟨reg1, exact1⟩, reg2, exact2⟩
      refine (spares loop written).weaken ?_ ?_
      · intro _ last same
        refine ⟨accepted, ⟨?_, ?_, fun moves => ?_⟩⟩
        · rw [same 1 (.inl rfl)]
          exact reg1
        · rw [same 2 (.inr rfl)]
          exact reg2
        · rw [same 1 (.inl rfl), same 2 (.inr rfl)]
          exact ⟨exact1 moves, exact2 moves⟩
      · rintro _ last ⟨same, failed⟩
        refine .inr ⟨accepted, ⟨?_, ?_, fun moves => absurd moves failed⟩, failed⟩
        · rw [same 1 (.inl rfl)]
          exact reg1
        · rw [same 2 (.inr rfl)]
          exact reg2
    · rintro _ written ⟨⟨reg1, failed⟩, reg2, -⟩
      exact .inr ⟨accepted, ⟨reg1, reg2, fun moves => absurd moves failed⟩, failed⟩
  · rintro _ between ⟨same, refused⟩
    exact .inl ⟨refused, same⟩

/-- What was written of a ratio after its registers were spared was written since before. -/
theorem RatioWritten.since {ratio : FcRatio} {before between after : UInt8 → UInt8}
    (written : RatioWritten environment ratio between after)
    (same : ∀ reg, 1 ≤ reg ∧ reg ≤ 6 → between reg = before reg)
    : RatioWritten environment ratio before after where
  reg1 := same 1 (by decide) ▸ written.reg1
  reg2 := same 2 (by decide) ▸ written.reg2
  moved := written.moved

/-- The half of a clock between 16 MHz and 36 MHz, and the ratio that is computed with it. -/
theorem clock_rounded {clock : UInt32} (slow : 16000000 ≤ clock) (fast : clock ≤ 36000000)
    (divider : FcDivider) (freq : UInt32)
    : 8000000 ≤ (clock / 2).toNat
      ∧ clock.toNat / 2 ≤ 18000000
      ∧ ∃ xdiv,
          calculateXdiv (freq * divider.multi.toUInt32).toUInt64 (clock / 2) = .ok xdiv
          ∧ xdiv.toNat = wrappedRatio (freq.toNat * divider.multi.toNat) (clock.toNat / 2) := by
  have least : 16000000 ≤ clock.toNat := UInt32.le_iff_toNat_le.mp slow
  have most : clock.toNat ≤ 36000000 := UInt32.le_iff_toNat_le.mp fast
  have half : (clock / 2).toNat = clock.toNat / 2 := UInt32.toNat_div _ _
  have product : (freq * divider.multi.toUInt32).toUInt64.toNat
      = freq.toNat * divider.multi.toNat % 4294967296 := by
    rw [UInt32.toNat_toUInt64, UInt32.toNat_mul, UInt8.toNat_toUInt32]
  have slowHalf : 8000000 ≤ (clock / 2).toNat := by omega
  have fits : (freq * divider.multi.toUInt32).toUInt64.toNat < 4294967296 := by
    rw [product]
    exact Nat.mod_lt _ (by decide)
  obtain ⟨xdiv, ran, rounded⟩ := calculateXdiv_rounded slowHalf fits
  refine ⟨slowHalf, by omega, xdiv, ran, ?_⟩
  rw [rounded, product, half]
  rfl

/-- A function that spares the registers of the ratio before and after programs it soundly
exactly if the ratio fits. Witness: the loop as it is computed, and an environment in which
every transfer moves.
-/
theorem programsSoundly_iff {setParams : UInt32 → UInt32 → Fc001x Unit}
    {divider : UInt32 → FcDivider} {before : Fc001x Unit} {after : FcLoop → Fc001x Unit}
    {clock : UInt32} (slow : 16000000 ≤ clock) (fast : clock ≤ 36000000) (freq : UInt32)
    (preludes : ∀ environment, Spares before environment (fun reg => 1 ≤ reg ∧ reg ≤ 6))
    (spares
      : ∀ environment loop, Spares (after loop) environment (fun reg => reg = 1 ∨ reg = 2))
    (shape
      : ∀ bandwidth,
          setParams freq bandwidth
          = (do
              before
              let loop ← calculateLoop (divider freq) freq bandwidth
              fcWriteregs loop.regs
              after loop))
    : ProgramsSoundly setParams divider clock freq
      ↔ RatioFits (freq.toNat * (divider freq).multi.toNat) (clock.toNat / 2) := by
  obtain ⟨slowHalf, fastHalf, xdiv, ran, rounded⟩ := clock_rounded slow fast (divider freq) freq
  rw [← ratioRegisters_sound_iff (UInt32.toNat_div clock 2 ▸ slowHalf) fastHalf rounded]
  constructor
  · intro sound accepted
    let environment : Environment.Bus UInt32 := .obliging clock
    have moves : environment.Moves := fun _ _ => rfl
    have runs
        : (setParams freq 0).Leads environment
            (fun _ later =>
              later.registers 1 = (ratioRegisters xdiv).reg1
              ∧ later.registers 2 = (ratioRegisters xdiv).reg2)
            (fun _ _ => False)
            ⟨fun _ => 0, 0, ()⟩ := by
      rw [shape]
      refine Program.leads_bind.mpr ((preludes environment _).weaken ?_ ?_)
      · intro _ between _
        refine (programLoop_leads slowHalf ran (spares environment) between).weaken ?_ ?_
        · exact fun _ last programmed => programmed.2.moved moves
        · rintro _ last (⟨refused, -⟩ | ⟨-, -, failed⟩)
          · exact refused accepted
          · exact failed moves
      · exact fun _ between failed => failed.2 moves
    refine ((sound environment rfl 0 _).both runs).elim ?_ ?_
    · rintro _ later ⟨⟨ratio, sound, written⟩, reg1, reg2⟩
      obtain ⟨first, second⟩ := written.moved moves
      have same : ratio = ratioRegisters xdiv := by
        obtain ⟨r1, r2⟩ := ratio
        rw [FcRatio.mk.injEq]
        exact ⟨first.symm.trans reg1, second.symm.trans reg2⟩
      exact same ▸ sound
    · exact fun _ later failed => failed.2.elim
  · rintro implied environment rfl bandwidth bus
    rw [shape]
    refine Program.leads_bind.mpr ((preludes environment bus).weaken ?_ ?_)
    · intro _ between same
      refine (programLoop_leads slowHalf ran (spares environment) between).weaken ?_ ?_
      · rintro _ last ⟨accepted, written⟩
        exact ⟨_, implied accepted, written.since same⟩
      · rintro _ last (⟨-, rfl⟩ | ⟨accepted, written, -⟩)
        · exact .inl same
        · exact .inr ⟨_, implied accepted, written.since same⟩
    · exact fun _ between kept => .inl kept.1

/-- The calibration spares the registers of the ratio; it writes two others. -/
theorem calibrateVco_spares (loop : FcLoop)
    : Spares (calibrateVco loop) environment (fun reg => reg = 1 ∨ reg = 2) := by
  have spares {regs : List (UInt8 × UInt8)} (taken : ∀ reg ∈ regs, reg.1 = 0x06 ∨ reg.1 = 0x0e)
      : Spares (fcWriteregs regs) environment (fun reg => reg = 1 ∨ reg = 2) := by
    refine fcWriteregs_spares fun reg listed chosen => ?_
    obtain high | high := taken reg listed
    · exact absurd (high ▸ chosen) (by decide)
    · exact absurd (high ▸ chosen) (by decide)
  have selects (reg6 : UInt8)
      : Spares (selectVco reg6) environment (fun reg => reg = 1 ∨ reg = 2) :=
    spares (by simp)
  refine .bind (spares (by simp)) fun _ => .bind (fcReadreg_spares _) fun _ => ?_
  simp only []
  split
  · split
    · exact selects _
    · exact .pure
  · split
    · exact selects _
    · exact .pure

/-- Setting the tracking filter spares the registers from one to six. -/
theorem fc0013SetVhfTrack_spares (freq : UInt32)
    : Spares (fc0013SetVhfTrack freq) environment (fun reg => 1 ≤ reg ∧ reg ≤ 6) :=
  .bind (fcReadreg_spares _) fun _ => fcWritereg_spares (by decide) _

/-- Setting the filters spares the registers from one to six. -/
theorem fc0013SetFilters_spares (freq : UInt32)
    : Spares (fc0013SetFilters freq) environment (fun reg => 1 ≤ reg ∧ reg ≤ 6) := by
  refine .bind (fcReadreg_spares _) fun _ => .bind (fcWritereg_spares (by decide) _) fun _ => ?_
  exact .bind (fcReadreg_spares _) fun _ => fcWritereg_spares (by decide) _

/-- `fc0012_set_params` programs its ratio soundly exactly if the ratio fits. Witness: nothing
comes before the loop, and the calibration after it.
-/
theorem fc0012SetParams_sound_iff {clock : UInt32} (slow : 16000000 ≤ clock)
    (fast : clock ≤ 36000000) (freq : UInt32)
    : ProgramsSoundly fc0012SetParams fc0012Divider clock freq
      ↔ RatioFits (freq.toNat * (fc0012Divider freq).multi.toNat) (clock.toNat / 2) := by
  have prelude (environment : Environment.Bus UInt32)
      : Spares (pure () : Fc001x Unit) environment (fun reg => 1 ≤ reg ∧ reg ≤ 6) :=
    .pure
  refine programsSoundly_iff slow fast freq prelude (fun _ loop => calibrateVco_spares loop) ?_
  intro bandwidth
  rw [pure_bind]
  rfl

/-- `fc0013_set_params` programs its ratio soundly exactly if the ratio fits. Witness:
tracking filter and filters come before the loop, and the calibration after it.
-/
theorem fc0013SetParams_sound_iff {clock : UInt32} (slow : 16000000 ≤ clock)
    (fast : clock ≤ 36000000) (freq : UInt32)
    : ProgramsSoundly fc0013SetParams fc0013Divider clock freq
      ↔ RatioFits (freq.toNat * (fc0013Divider freq).multi.toNat) (clock.toNat / 2) := by
  have prelude (environment : Environment.Bus UInt32)
      : Spares
          (do
            fc0013SetVhfTrack freq
            fc0013SetFilters freq)
          environment (fun reg => 1 ≤ reg ∧ reg ≤ 6) :=
    .bind (fc0013SetVhfTrack_spares freq) fun _ => fc0013SetFilters_spares freq
  have spares (environment : Environment.Bus UInt32) (loop : FcLoop)
      : Spares
          (do
            let tmp ← fcReadreg 0x11
            fcWritereg 0x11
              (if (fc0013Divider freq).multi = 64 then tmp ||| 0x04 else tmp &&& 0xfb)
            calibrateVco loop)
          environment (fun reg => reg = 1 ∨ reg = 2) := by
    refine .bind (fcReadreg_spares _) fun _ => ?_
    exact .bind (fcWritereg_spares (by decide) _) fun _ => calibrateVco_spares loop
  refine programsSoundly_iff slow fast freq prelude spares fun bandwidth => ?_
  rw [bind_assoc]
  rfl

/-- The loops of both tuners are programmed soundly for exactly the frequencies whose product has a
ratio that is refused, or that the registers hold, or that is cut to what the registers of a ratio
of zero or one stand for.
-/
theorem fcSetParams_sound_iff {clock : UInt32} (slow : 16000000 ≤ clock)
    (fast : clock ≤ 36000000) (freq : UInt32)
    : (ProgramsSoundly fc0012SetParams fc0012Divider clock freq
        ↔ RatioFits (freq.toNat * (fc0012Divider freq).multi.toNat) (clock.toNat / 2))
      ∧ (ProgramsSoundly fc0013SetParams fc0013Divider clock freq
        ↔ RatioFits (freq.toNat * (fc0013Divider freq).multi.toNat) (clock.toNat / 2)) :=
  ⟨fc0012SetParams_sound_iff slow fast freq, fc0013SetParams_sound_iff slow fast freq⟩

/-- A clock of 28.8 MHz and a frequency of 100 MHz. -/
theorem fcSetParams_sound_100MHz
    : ProgramsSoundly fc0012SetParams fc0012Divider 28800000 100000000
      ∧ ProgramsSoundly fc0013SetParams fc0013Divider 28800000 100000000 := by
  have slow : (16000000 : UInt32) ≤ 28800000 := by decide
  have fast : (28800000 : UInt32) ≤ 36000000 := by decide
  obtain ⟨fc0012, fc0013⟩ := fcSetParams_sound_iff slow fast 100000000
  exact ⟨fc0012.mpr (by decide), fc0013.mpr (by decide)⟩

/-- At 2³⁰ Hz the product of the FC0012 is cut to zero, whose registers stand for 256. -/
theorem fcSetParams_cuts_product
    : ¬ ∀ clock freq : UInt32,
        16000000 ≤ clock
        → clock ≤ 36000000
        → ProgramsSoundly fc0012SetParams fc0012Divider clock freq
          ∧ ProgramsSoundly fc0013SetParams fc0013Divider clock freq := by
  intro sound
  have slow : (16000000 : UInt32) ≤ 28800000 := by decide
  have fast : (28800000 : UInt32) ≤ 36000000 := by decide
  have claimed := (sound 28800000 1073741824 slow fast).1
  have fits := (fc0012SetParams_sound_iff slow fast 1073741824).mp claimed
  revert fits
  decide

end Loops

end RtlTcpAndro.Tuners
