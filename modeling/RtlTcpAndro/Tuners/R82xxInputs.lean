import RtlTcpAndro.Faults.Histories
import RtlTcpAndro.Tuners.R82xxHeld

/-! Which antenna input the tuner has selected when `r82xx_set_freq` returns zero. The driver caches
the input before it switches to it, and standby switches without the driver; a cached input is that
of the chip as long as nothing of this has gone wrong.
-/

namespace RtlTcpAndro.Tuners

open RtlTcpAndro.Faults

-----------------------------------------------------------------------------------------
-- Inputs
-----------------------------------------------------------------------------------------

/-- The dongles that switch between inputs. -/
def R82xxTunerConfig.Switches (config : R82xxTunerConfig) : Prop :=
  config.blogV4 = true ∨ config.blogV4L = true ∨ config.rafaelChip = .r828d

/-- The input of the band of a frequency. -/
def inputFor (config : R82xxTunerConfig) (freq : UInt32) : UInt8 :=
  if config.blogV4 = true then blogV4Band freq
  else if config.blogV4L = true then blogV4LBand freq
  else airCable1In freq

/-- The bits 0x60 of register 0x05 that select an input: on the dongles that upconvert, cable 1 is
on with bit 0x40, and air-in is off with bit 0x20.
-/
def antennaBits (config : R82xxTunerConfig) (input : UInt8) : UInt8 :=
  if config.blogV4 = true then
    (if input = vhf then 0x40 else 0x00) ||| (if input = uhf then 0x00 else 0x20)
  else if config.blogV4L = true then
    (if input = hf then 0x40 else 0x00) ||| (if input = uhf then 0x00 else 0x20)
  else input

/-- The bit 0x08 of register 0x06, which has cable 2 on. -/
def cable2Bits (input : UInt8) : UInt8 := if input = hf then 0x08 else 0x00

/-- A chip has the input of a frequency selected. -/
structure Prescribed (config : R82xxTunerConfig) (freq : UInt32) (registers : UInt8 → UInt8)
    : Prop where
  antenna : registers 0x05 &&& 0x60 = antennaBits config (inputFor config freq)
  cable2 : config.blogV4 = true → registers 0x06 &&& 0x08 = cable2Bits (inputFor config freq)

/-- An input is selected in the chip and in the shadow. -/
structure Bus.Selects (bus : Bus R82xxPriv) (config : R82xxTunerConfig) (input : UInt8)
    : Prop where
  antenna : bus.Holds 0x05 0x60 (antennaBits config input)
  cable2 : config.blogV4 = true → bus.Holds 0x06 0x08 (cable2Bits input)

/-- The input that the driver caches is selected, if it is one of the dongle. -/
def Bus.Truthful (bus : Bus R82xxTunerPriv) (config : R82xxTunerConfig) : Prop :=
  (∃ freq, inputFor config freq = bus.driver.input) → bus.inner.Selects config bus.driver.input

/-- The driver caches the input that it did, and the registers that switch inputs are as they
were.
-/
def Bus.Stays (start bus : Bus R82xxTunerPriv) : Prop :=
  bus.driver.input = start.driver.input ∧ start.inner.Untouched bus.inner

section Selections

variable {environment : Environment.Bus R82xxTunerConfig} {config : R82xxTunerConfig}
  {start bus : Bus R82xxTunerPriv} {α : Type}

/-- What leaves cached input and registers alone keeps the cache truthful. -/
theorem Bus.Stays.truthful (stays : start.Stays bus) (truthful : start.Truthful config)
    : bus.Truthful config := by
  obtain ⟨input, untouched⟩ := stays
  rintro ⟨freq, same⟩
  rw [input] at same ⊢
  obtain ⟨antenna, cable2⟩ := truthful ⟨freq, same⟩
  obtain ⟨chip, cached⟩ := untouched 0x05 (.inl rfl)
  obtain ⟨chip', cached'⟩ := untouched 0x06 (.inr rfl)
  refine ⟨⟨?_, ?_⟩, fun blogV4 => ⟨?_, ?_⟩⟩
  · exact chip ▸ antenna.chip
  · exact cached ▸ antenna.shadow
  · exact chip' ▸ (cable2 blogV4).chip
  · exact cached' ▸ (cable2 blogV4).shadow

/-- What leaves the registers alone leaves the inputs as prescribed as they were. -/
theorem Bus.Stays.prescribed_iff (stays : start.Stays bus) {freq : UInt32}
    : Prescribed config freq bus.registers ↔ Prescribed config freq start.registers := by
  have antenna : bus.registers 0x05 = start.registers 0x05 := (stays.2 0x05 (.inl rfl)).1
  have cable2 : bus.registers 0x06 = start.registers 0x06 := (stays.2 0x06 (.inr rfl)).1
  constructor
  · rintro ⟨bits, bits'⟩
    rw [antenna] at bits
    rw [cable2] at bits'
    exact ⟨bits, bits'⟩
  · rintro ⟨bits, bits'⟩
    rw [← antenna] at bits
    rw [← cable2] at bits'
    exact ⟨bits, bits'⟩

/-- A function that leaves the inputs alone. -/
theorem tuner_stays {program : R82xx α} (leaves : LeavesInputs program environment.inner)
    : (tuner program).Keeps environment start.Stays := by
  rintro bus ⟨input, untouched⟩
  refine Program.permits_zoom.mpr ((leaves start.inner bus.inner untouched).weaken ?_ ?_)
  · exact fun _ later holds => ⟨input, holds⟩
  · exact fun _ later holds => ⟨input, holds⟩

/-- A function that keeps the bits of the inputs keeps an input selected. -/
theorem KeepsInputs.selects {environment : Environment.Bus R82xxConfig} {program : R82xx α}
    {input : UInt8} (keeps : KeepsInputs program environment)
    : program.Keeps environment (·.Selects config input) := by
  have antenna := keeps 0x05 0x60 (.inl ⟨rfl, rfl⟩) (antennaBits config input)
  have cable2 (_ : config.blogV4 = true) :=
    keeps 0x06 0x08 (.inr ⟨rfl, rfl⟩) (cable2Bits input)
  intro bus selects
  refine (antenna.both (.implied cable2) bus ⟨selects.antenna, selects.cable2⟩).weaken ?_ ?_
  · exact fun _ later holds => ⟨holds.1, holds.2⟩
  · exact fun _ later holds => ⟨holds.1, holds.2⟩

/-- A function that keeps the bits of the inputs keeps the cached input selected. -/
theorem tuner_truthful {program : R82xx α} (keeps : KeepsInputs program environment.inner)
    : (tuner program).Keeps environment (·.Truthful config) := by
  intro bus truthful
  refine Program.permits_zoom.mpr ?_
  by_cases known : ∃ freq, inputFor config freq = bus.driver.input
  · refine (keeps.selects bus.inner (truthful known)).weaken ?_ ?_
    · exact fun _ later holds _ => holds
    · exact fun _ later holds _ => holds
  · refine Program.Permits.trivial.weaken ?_ ?_
    · exact fun _ later _ input => absurd input known
    · exact fun _ later _ input => absurd input known

/-- An assignment that leaves the registers and the input alone keeps the cached input selected. -/
theorem assign_truthful {update : R82xxTunerPriv → R82xxTunerPriv}
    (inner : ∀ priv, (update priv).toR82xxPriv = priv.toR82xxPriv)
    (same : ∀ priv, (update priv).input = priv.input)
    : (assign update).Keeps environment (·.Truthful config) := by
  refine .modify ?_
  rintro bus truthful ⟨freq, known⟩
  have selects := truthful ⟨freq, known.trans (same _)⟩
  change Bus.Selects ⟨_, _, (update bus.driver).toR82xxPriv⟩ config (update bus.driver).input
  rw [inner, same]
  exact selects

end Selections

-----------------------------------------------------------------------------------------
-- Tuning
-----------------------------------------------------------------------------------------

section Tuning

variable {environment : Environment.Bus R82xxTunerConfig}

/-- A program of the chip takes as many transfers as a program of the tuner. -/
theorem tuner_takes {α : Type} {program : R82xx α} {count : Nat}
    (takes : Takes program environment.inner count) (bus : Bus R82xxTunerPriv)
    : (tuner program).Permits environment
        (fun _ later => later.transfers = bus.transfers + count) (fun _ _ => True) bus :=
  Program.permits_zoom.mpr (takes bus.inner)

variable (room : 2 ≤ environment.config.maxI2cMsgLen.toNat)

include room

/-- Setting the multiplexer leaves cached input and registers of the inputs alone. Witness:
its six writes, one by one.
-/
theorem r82xxSetMux_stays (freq : UInt32) (start : Bus R82xxTunerPriv)
    : (r82xxSetMux freq).Keeps environment start.Stays := by
  refine .bind .get fun bus => tuner_stays ?_
  refine .bind (r82xxWriteRegMask_leaves room (by decide) (by decide) _ _) fun _ => ?_
  refine .bind (r82xxWriteRegMask_leaves room (by decide) (by decide) _ _) fun _ => ?_
  refine .bind (r82xxWriteReg_leaves room (by decide) (by decide) _) fun _ => ?_
  refine .bind (r82xxWriteRegMask_leaves room (by decide) (by decide) _ _) fun _ => ?_
  refine .bind (r82xxWriteRegMask_leaves room (by decide) (by decide) _ _) fun _ => ?_
  exact r82xxWriteRegMask_leaves room (by decide) (by decide) _ _

/-- Setting the multiplexer takes six transfers, one for each write. -/
theorem r82xxSetMux_takes (freq : UInt32) (bus : Bus R82xxTunerPriv)
    : (r82xxSetMux freq).Permits environment
        (fun _ later => later.transfers = bus.transfers + 6) (fun _ _ => True) bus := by
  refine Program.permits_bind.mpr (Program.permits_get.mpr (tuner_takes ?_ bus))
  change Takes _ _ (1 + (1 + (1 + (1 + (1 + 1)))))
  refine .bind (r82xxWriteRegMask_takes room (by decide) _ _) fun _ => ?_
  refine .bind (r82xxWriteRegMask_takes room (by decide) _ _) fun _ => ?_
  refine .bind (r82xxWriteReg_takes room _ _) fun _ => ?_
  refine .bind (r82xxWriteRegMask_takes room (by decide) _ _) fun _ => ?_
  refine .bind (r82xxWriteRegMask_takes room (by decide) _ _) fun _ => ?_
  exact r82xxWriteRegMask_takes room (by decide) _ _

/-- `r82xx_set_freq` has the loop locked before it selects an input, and returns zero without that
where it is not.
-/
theorem r82xxSetFreq_permits {freq : UInt32} {bus : Bus R82xxTunerPriv}
    {returns : Unit → Bus R82xxTunerPriv → Prop} {fails : Int32 → Bus R82xxTunerPriv → Prop}
    (locked
      : ∀ between,
          bus.Stays between
          → between.driver.hasLock = true
          → Locks environment.reads (bus.transfers + 16)
          → (selectInput environment.config freq).Permits environment returns fails between)
    (unlocked
      : ∀ between,
          bus.Stays between
          → between.driver.hasLock = false
          → ¬ Locks environment.reads (bus.transfers + 16)
          → returns () between)
    (failed : ∀ error between, bus.Stays between → fails error between)
    : (r82xxSetFreq freq).Permits environment returns fails bus := by
  refine Program.permits_bind.mpr (Program.permits_read.mpr ?_)
  refine Program.permits_bind.mpr (Program.permits_get.mpr ?_)
  have start : bus.Stays bus := ⟨rfl, .refl bus.inner⟩
  refine Program.permits_bind.mpr
    (((r82xxSetMux_stays room _ bus bus start).both (r82xxSetMux_takes room _ bus)).weaken ?_
      fun error between after => failed error between after.1)
  rintro _ muxed ⟨stays, taken⟩
  have locks (freq : UInt32)
      : (tuner (r82xxSetPll freq)).Permits environment
          (fun _ later =>
            later.driver.hasLock = true ↔ Locks environment.reads (muxed.transfers + 10))
          (fun _ _ => True) muxed :=
    Program.permits_zoom.mpr (r82xxSetPll_locks room freq muxed.inner)
  refine Program.permits_bind.mpr
    (((tuner_stays (r82xxSetPll_leaves room _) muxed stays).both (locks _)).weaken ?_
      fun error between after => failed error between after.1)
  rintro _ tuned ⟨stays, locks⟩
  rw [taken] at locks
  refine Program.permits_bind.mpr (Program.permits_get.mpr ?_)
  split
  next lock => exact locked tuned stays lock (locks.mp lock)
  next free =>
    exact Program.permits_pure.mpr
      (unlocked tuned stays (Bool.eq_false_iff.mpr free) (mt locks.mpr free))

end Tuning

-----------------------------------------------------------------------------------------
-- Switching
-----------------------------------------------------------------------------------------

/-- A function has switched to an input, if it was not that of the driver before. -/
structure Switched (config : R82xxTunerConfig) (band : UInt8) (before later : Bus R82xxTunerPriv)
    : Prop where
  input : later.driver.input = band
  lock : later.driver.hasLock = before.driver.hasLock
  stays : band = before.driver.input → later.inner = before.inner
  selects : band ≠ before.driver.input → later.inner.Selects config band
  keeps
    : ∀ {reg mask bits : UInt8},
        before.inner.Holds reg mask bits
        → Shadowed reg
        → reg ≠ 0x05 ∧ reg ≠ 0x06
        → later.inner.Holds reg mask bits

section Switching

/-- A mask keeps either of two values within it. -/
theorem ite_and_mask {chosen : Prop} [Decidable chosen] {value other mask : UInt8}
    (inside : value &&& mask = value) (inside' : other &&& mask = other)
    : (if chosen then value else other) &&& mask = if chosen then value else other := by
  split
  · exact inside
  · exact inside'

/-- The antenna inputs on the dongles that upconvert. -/
theorem switchAntenna_permits {environment : Environment.Bus R82xxConfig}
    (room : 2 ≤ environment.config.maxI2cMsgLen.toNat) (cable1 air : UInt8)
    (bus : Bus R82xxPriv)
    : (do
        r82xxWriteRegMask 0x05 cable1 0x40
        r82xxWriteRegMask 0x05 air 0x20).Permits environment
        (fun _ later =>
          later.Holds 0x05 0x60 ((cable1 &&& 0x40) ||| (air &&& 0x20))
          ∧ (∀ reg mask bits,
              bus.Holds reg mask bits → Shadowed reg → reg ≠ 0x05 → later.Holds reg mask bits)
          ∧ later.driver.hasLock = bus.driver.hasLock)
        (fun _ _ => True) bus := by
  refine Program.permits_bind.mpr
    ((r82xxWriteRegMask_sets room (by decide) cable1 0x40 bus).weaken ?_ fun _ _ _ => trivial)
  intro _ between cable1
  refine (r82xxWriteRegMask_sets room (by decide) air 0x20 between).weaken ?_ fun _ _ _ => trivial
  intro _ later air
  refine ⟨?_, fun reg mask bits holds shadow differs => ?_, air.lock.trans cable1.lock⟩
  · exact (air.keeps cable1.holds (by decide) fun _ => by decide).or air.holds
  · have between := cable1.keeps holds shadow fun same => absurd same differs
    exact air.keeps between shadow fun same => absurd same differs

variable {environment : Environment.Bus R82xxTunerConfig}
  (room : 2 ≤ environment.config.maxI2cMsgLen.toNat)

include room

/-- The inputs of a Blog V4 are selected and cached where the band changes, and an error is
returned only then. Witness: the three masked writes, each of which keeps what the ones before
it set.
-/
theorem switchBlogV4_permits (blogV4 : environment.config.blogV4 = true) (band : UInt8)
    (bus : Bus R82xxTunerPriv)
    : (switchBlogV4 band).Permits environment
        (fun _ later => Switched environment.config band bus later)
        (fun _ later => later.driver.input ≠ bus.driver.input) bus := by
  refine Program.permits_bind.mpr (Program.permits_get.mpr ?_)
  split
  next differs =>
    refine Program.permits_bind.mpr (Program.permits_modify.mpr ?_)
    refine Program.permits_bind.mpr (Program.permits_zoom.mpr
      ((r82xxWriteRegMask_sets room (by decide) _ 0x08 _).weaken ?_ fun _ _ _ => differs))
    intro _ cabled cable2
    refine Program.permits_bind.mpr (Program.permits_modify.mpr (Program.permits_zoom.mpr
      ((switchAntenna_permits room _ _ _).weaken ?_ fun _ _ _ => differs)))
    rintro _ later ⟨antenna, keeps, lock⟩
    refine ⟨rfl, lock.trans cable2.lock, fun same => absurd same differs,
      fun _ => ⟨?_, fun _ => ?_⟩, fun holds shadow others => ?_⟩
    · rw [ite_and_mask rfl rfl, ite_and_mask rfl rfl] at antenna
      rw [antennaBits, if_pos blogV4]
      exact antenna
    · have holds := keeps _ _ _ cable2.holds (by decide) (by decide)
      rw [ite_and_mask rfl rfl] at holds
      exact holds
    · exact keeps _ _ _ (cable2.keeps holds shadow fun same => absurd same others.2) shadow others.1
  next same =>
    have same := Classical.not_not.mp same
    exact Program.permits_pure.mpr
      ⟨same.symm, rfl, fun _ => rfl, absurd same, fun holds _ _ => holds⟩

/-- The inputs of a Blog V4L are selected and cached where the band changes, and an error is
returned only then.
-/
theorem switchBlogV4L_permits (other : environment.config.blogV4 = false)
    (blogV4L : environment.config.blogV4L = true) (band : UInt8) (bus : Bus R82xxTunerPriv)
    : (switchBlogV4L band).Permits environment
        (fun _ later => Switched environment.config band bus later)
        (fun _ later => later.driver.input ≠ bus.driver.input) bus := by
  refine Program.permits_bind.mpr (Program.permits_get.mpr ?_)
  split
  next differs =>
    refine Program.permits_bind.mpr (Program.permits_modify.mpr ?_)
    refine Program.permits_bind.mpr (Program.permits_modify.mpr (Program.permits_zoom.mpr
      ((switchAntenna_permits room _ _ _).weaken ?_ fun _ _ _ => differs)))
    rintro _ later ⟨antenna, keeps, lock⟩
    refine ⟨rfl, lock, fun same => absurd same differs, fun _ => ⟨?_, fun blogV4 => ?_⟩,
      fun holds shadow others => keeps _ _ _ holds shadow others.1⟩
    · rw [ite_and_mask rfl rfl, ite_and_mask rfl rfl] at antenna
      rw [antennaBits, other, if_neg Bool.false_ne_true, if_pos blogV4L]
      exact antenna
    · rw [other] at blogV4
      cases blogV4
  next same =>
    have same := Classical.not_not.mp same
    exact Program.permits_pure.mpr
      ⟨same.symm, rfl, fun _ => rfl, absurd same, fun holds _ _ => holds⟩

/-- The input of an R828D is selected and cached where it changes, and an error is returned
only then.
-/
theorem switchStandard_permits (other : environment.config.blogV4 = false)
    (other' : environment.config.blogV4L = false) (chip : environment.config.rafaelChip = .r828d)
    {airCable1In : UInt8} (inside : airCable1In &&& 0x60 = airCable1In)
    (bus : Bus R82xxTunerPriv)
    : (switchStandard airCable1In).Permits environment
        (fun _ later => Switched environment.config airCable1In bus later)
        (fun _ later => later.driver.input ≠ bus.driver.input) bus := by
  refine Program.permits_bind.mpr (Program.permits_read.mpr ?_)
  refine Program.permits_bind.mpr (Program.permits_get.mpr ?_)
  split
  next switches =>
    obtain ⟨-, differs⟩ := switches
    refine Program.permits_bind.mpr (Program.permits_modify.mpr (Program.permits_zoom.mpr
      ((r82xxWriteRegMask_sets room (by decide) _ 0x60 _).weaken ?_ fun _ _ _ => differs)))
    intro _ later antenna
    refine ⟨rfl, antenna.lock, fun same => absurd same differs, fun _ => ⟨?_, fun blogV4 => ?_⟩,
      fun holds shadow others => antenna.keeps holds shadow fun same => absurd same others.1⟩
    · have holds := antenna.holds
      rw [inside] at holds
      rw [antennaBits, other, other', if_neg Bool.false_ne_true, if_neg Bool.false_ne_true]
      exact holds
    · rw [other] at blogV4
      cases blogV4
  next stays =>
    have same : airCable1In = bus.driver.input :=
      Classical.not_not.mp fun differs => stays ⟨chip, differs⟩
    exact Program.permits_pure.mpr
      ⟨same.symm, rfl, fun _ => rfl, absurd same, fun holds _ _ => holds⟩

end Switching

-----------------------------------------------------------------------------------------
-- The end of a tuning
-----------------------------------------------------------------------------------------

/-- The tracking filter is bypassed, in the chip and in the shadow. -/
def Bus.Bypasses (bus : Bus R82xxPriv) : Prop :=
  bus.Holds 0x1a 0xc3 0x40 ∧ bus.Holds 0x1b 0xff 0x00

/-- The tuner is tuned to the band of a frequency, and has switched to its input if it was not that
of the driver before.
-/
structure Tuned (config : R82xxTunerConfig) (freq : UInt32) (before later : Bus R82xxTunerPriv)
    : Prop where
  lock : later.driver.hasLock = true
  band : later.driver.input = inputFor config freq
  stays : inputFor config freq = before.driver.input → before.Stays later
  selects
    : inputFor config freq ≠ before.driver.input
      → later.inner.Selects config (inputFor config freq)
  bypasses : inputFor config freq = hf → later.inner.Bypasses

section Ends

variable {config : R82xxTunerConfig}

/-- What the switch makes of inputs that were left alone. -/
theorem Switched.tuned {freq : UInt32} {before between later : Bus R82xxTunerPriv}
    (switched : Switched config (inputFor config freq) between later)
    (stays : before.Stays between) (lock : between.driver.hasLock = true)
    (bypasses : inputFor config freq = hf → between.inner.Bypasses)
    : Tuned config freq before later := by
  refine ⟨switched.lock.trans lock, switched.input, ?_, ?_, ?_⟩
  · intro same
    refine ⟨switched.input.trans same, ?_⟩
    rw [switched.stays (same.trans stays.1.symm)]
    exact stays.2
  · exact fun differs => switched.selects fun same => differs (same.trans stays.1)
  · intro lowest
    obtain ⟨mux, filter⟩ := bypasses lowest
    have muxKept := switched.keeps mux (by decide) (by decide)
    exact ⟨muxKept, switched.keeps filter (by decide) (by decide)⟩

variable {environment : Environment.Bus R82xxConfig}
  (room : 2 ≤ environment.config.maxI2cMsgLen.toNat)

include room

/-- In the lowest band the tracking filter is bypassed, and whether there is a lock stays
known. Witness: the masked write and the one after it.
-/
theorem bypassTrackingFilter_permits (band : UInt8) (bus : Bus R82xxPriv)
    : (bypassTrackingFilter band).Permits environment
        (fun _ later =>
          (band = hf → later.Bypasses) ∧ later.driver.hasLock = bus.driver.hasLock)
        (fun _ _ => True) bus := by
  unfold bypassTrackingFilter
  split
  next lowest =>
    refine Program.permits_bind.mpr
      ((r82xxWriteRegMask_sets room (by decide) 0x40 0xc3 bus).weaken ?_ fun _ _ _ => trivial)
    intro _ between mux
    refine (r82xxWriteReg_sets room (by decide) 0x00 between).weaken ?_ fun _ _ _ => trivial
    intro _ later filter
    refine ⟨fun _ => ⟨?_, filter.holds⟩, filter.lock.trans mux.lock⟩
    exact filter.keeps mux.holds (by decide) (by decide)
  next higher => exact Program.permits_pure.mpr ⟨fun lowest => absurd lowest higher, rfl⟩

end Ends

section Selecting

variable {environment : Environment.Bus R82xxTunerConfig} {start : Bus R82xxTunerPriv}

/-- A function that bypasses the tracking filter, and a switch after it. -/
theorem bypass_permits {block : R82xx Unit} {switch : R82xxTuner Unit} {freq : UInt32}
    (leaves : LeavesInputs block environment.inner)
    (bypasses
      : ∀ bus,
          block.Permits environment.inner
            (fun _ later =>
              (inputFor environment.config freq = hf → later.Bypasses)
              ∧ later.driver.hasLock = bus.driver.hasLock)
            (fun _ _ => True) bus)
    (switches
      : ∀ bus,
          switch.Permits environment
            (fun _ later =>
              Switched environment.config (inputFor environment.config freq) bus later)
            (fun _ later => later.driver.input ≠ bus.driver.input) bus)
    {bus : Bus R82xxTunerPriv} (stays : start.Stays bus) (lock : bus.driver.hasLock = true)
    : (do
        tuner block
        switch).Permits environment
        (fun _ later => Tuned environment.config freq start later)
        (fun _ later => later.driver.input = start.driver.input → start.Stays later) bus := by
  have block : (tuner block).Permits environment
      (fun _ later =>
        (inputFor environment.config freq = hf → later.inner.Bypasses)
        ∧ later.driver.hasLock = bus.driver.hasLock)
      (fun _ _ => True) bus :=
    Program.permits_zoom.mpr (bypasses bus.inner)
  refine Program.permits_bind.mpr (((tuner_stays leaves bus stays).both block).weaken ?_
    fun _ later failed _ => failed.1)
  rintro _ between ⟨stays, bypasses, lock'⟩
  refine (switches between).weaken ?_ ?_
  · exact fun _ later switched => switched.tuned stays (lock'.trans lock) bypasses
  · exact fun _ later changed same => absurd (same.trans stays.1.symm) changed

/-- After a lock the input of the frequency is selected, on the three kinds of dongle.
Witness: each kind's own switch, with the bypass before it.
-/
theorem selectInput_permits (room : 2 ≤ environment.config.maxI2cMsgLen.toNat)
    (switches : environment.config.Switches) (freq : UInt32) {bus : Bus R82xxTunerPriv}
    (stays : start.Stays bus) (lock : bus.driver.hasLock = true)
    : (selectInput environment.config freq).Permits environment
        (fun _ later => Tuned environment.config freq start later)
        (fun _ later => later.driver.input = start.driver.input → start.Stays later) bus := by
  unfold selectInput
  split
  next blogV4 =>
    have band : inputFor environment.config freq = blogV4Band freq := if_pos blogV4
    refine bypass_permits ?_ ?_ ?_ stays lock
    · refine .bind (r82xxWriteRegMask_leaves room (by decide) (by decide) _ _) fun _ => ?_
      exact bypassTrackingFilter_leaves room _
    · intro bus
      refine Program.permits_bind.mpr
        ((r82xxWriteRegMask_sets room (by decide) _ 0x08 bus).weaken ?_ fun _ _ _ => trivial)
      intro _ between notch
      rw [band, ← notch.lock]
      exact bypassTrackingFilter_permits room _ between
    · rw [band]
      exact switchBlogV4_permits room blogV4 _
  next other =>
    have other := Bool.eq_false_iff.mpr other
    split
    next blogV4L =>
      have band : inputFor environment.config freq = blogV4LBand freq := by
        rw [inputFor, other, if_neg Bool.false_ne_true, if_pos blogV4L]
      refine bypass_permits (bypassTrackingFilter_leaves room _) ?_ ?_ stays lock
      · rw [band]
        exact bypassTrackingFilter_permits room _
      · rw [band]
        exact switchBlogV4L_permits room other blogV4L _
    next other' =>
      have other' := Bool.eq_false_iff.mpr other'
      have band : inputFor environment.config freq = airCable1In freq := by
        rw [inputFor, other, other', if_neg Bool.false_ne_true, if_neg Bool.false_ne_true]
      have chip : environment.config.rafaelChip = .r828d := by
        obtain blogV4 | blogV4L | chip := switches
        · exact absurd (other.symm.trans blogV4) Bool.false_ne_true
        · exact absurd (other'.symm.trans blogV4L) Bool.false_ne_true
        · exact chip
      have values : airCable1In freq = 0x00 ∨ airCable1In freq = 0x60 := by
        unfold airCable1In
        split
        · exact .inl rfl
        · exact .inr rfl
      have inside : airCable1In freq &&& 0x60 = airCable1In freq := by
        obtain same | same := values <;> rw [same] <;> rfl
      refine (switchStandard_permits room other other' chip inside bus).weaken ?_ ?_
      · intro _ later switched
        rw [← band] at switched
        refine switched.tuned stays lock fun lowest => ?_
        rw [band] at lowest
        obtain same | same := values <;> rw [same] at lowest <;> cases lowest
      · exact fun _ later changed same => absurd (same.trans stays.1.symm) changed

/-- Where `r82xx_set_freq` returns zero, the loop was locked and the tuner is tuned, or it was not
and the inputs were left alone. Where it fails, they were, or another input is cached.
-/
theorem r82xxSetFreq_tunes (room : 2 ≤ environment.config.maxI2cMsgLen.toNat)
    (switches : environment.config.Switches) (freq : UInt32) (bus : Bus R82xxTunerPriv)
    : (r82xxSetFreq freq).Permits environment
        (fun _ later =>
          Locks environment.reads (bus.transfers + 16) ∧ Tuned environment.config freq bus later
          ∨ ¬ Locks environment.reads (bus.transfers + 16)
            ∧ later.driver.hasLock = false
            ∧ bus.Stays later)
        (fun _ later => later.driver.input = bus.driver.input → bus.Stays later) bus := by
  refine r82xxSetFreq_permits room ?_ ?_ ?_
  · intro between stays lock locks
    refine (selectInput_permits room switches freq stays lock).weaken ?_ fun _ _ failed => failed
    exact fun _ later tuned => .inl ⟨locks, tuned⟩
  · exact fun between stays lock free => .inr ⟨free, lock, stays⟩
  · exact fun _ between stays _ => stays

end Selecting

-----------------------------------------------------------------------------------------
-- Initialization
-----------------------------------------------------------------------------------------

section Initialization

variable {environment : Environment.Bus R82xxTunerConfig} {config : R82xxTunerConfig}

/-- No band of a Blog V4 is the value that is cached at the beginning. -/
theorem blogV4Band_ne_zero (freq : UInt32) : blogV4Band freq ≠ 0 := by
  unfold blogV4Band
  split
  · decide
  · split <;> decide

/-- No band of a Blog V4L is the value that is cached at the beginning. -/
theorem blogV4LBand_ne_zero (freq : UInt32) : blogV4LBand freq ≠ 0 := by
  unfold blogV4LBand
  split <;> decide

/-- Zero is the air-in of the dongles that do not upconvert, and no input of the others. -/
theorem truthful_zero {bus : Bus R82xxTunerPriv} (input : bus.driver.input = 0x00)
    (antenna : bus.inner.Holds 0x05 0x60 0x00)
    : bus.Truthful config := by
  rintro ⟨freq, same⟩
  rw [input] at same ⊢
  unfold inputFor at same
  split at same
  · exact absurd same (blogV4Band_ne_zero freq)
  · split at same
    · exact absurd same (blogV4LBand_ne_zero freq)
    · next other other' =>
      refine ⟨?_, fun blogV4 => absurd blogV4 other⟩
      rw [antennaBits, if_neg other, if_neg other']
      exact antenna

/-- All delivery systems use air-in. -/
theorem sysfreqValues_airCable1In (freq : UInt32) (delsys : R82xxDeliverySystem)
    : (sysfreqValues freq delsys).airCable1In = 0x00 := by
  cases delsys with
  | dvbt =>
      simp only [sysfreqValues]
      split <;> rfl
  | undefined => rfl
  | dvbt2 => rfl
  | isdbt => rfl

variable (room : 2 ≤ environment.config.maxI2cMsgLen.toNat)

include room

/-- Where setting the system frequency succeeds, the cache is truthful. Witness: on a dongle
that caches the input itself the input was written, and elsewhere it is none of the bands.
-/
theorem r82xxSysfreqSel_truthful (freq : UInt32) (type : R82xxTunerType)
    (delsys : R82xxDeliverySystem) (bus : Bus R82xxTunerPriv)
    : (r82xxSysfreqSel freq type delsys).Permits environment
        (fun _ later => later.Truthful config) (fun _ _ => True) bus := by
  refine Program.permits_bind.mpr (Program.permits_read.mpr ?_)
  refine Program.permits_bind.mpr (Program.Permits.trivial.weaken ?_ fun _ _ _ => trivial)
  intro _ between _
  refine Program.permits_bind.mpr (Program.permits_modify.mpr (Program.permits_zoom.mpr ?_))
  refine Program.permits_bind.mpr
    ((r82xxWriteRegMask_sets room (by decide) _ 0x60 _).weaken ?_ fun _ _ _ => trivial)
  intro _ aired air
  have antenna := air.holds
  rw [sysfreqValues_airCable1In] at antenna
  refine Program.permits_bind.mpr
    ((r82xxWriteRegMask_sets room (by decide) _ 0x08 _).weaken ?_ fun _ _ _ => trivial)
  intro _ cabled cable2
  have kept : cabled.Holds 0x05 0x60 0x00 := cable2.keeps antenna (by decide) (by decide)
  have rest : KeepsInputs
      (do
        r82xxWriteRegMask 0x11 (sysfreqValues freq delsys).cpCur 0x38
        r82xxWriteRegMask 0x17 (sysfreqValues freq delsys).divBufCur 0x30
        r82xxWriteRegMask 0x0a (sysfreqValues freq delsys).filterCur 0x60
        setLna (sysfreqValues freq delsys) type)
      environment.inner := by
    refine .bind (r82xxWriteRegMask_keepsInputs room (by decide) (by decide) _) fun _ => ?_
    refine .bind (r82xxWriteRegMask_keepsInputs room (by decide) (by decide) _) fun _ => ?_
    refine .bind (r82xxWriteRegMask_keepsInputs room (by decide) (by decide) _) fun _ => ?_
    exact setLna_keepsInputs room _ _
  refine (rest 0x05 0x60 (.inl ⟨rfl, rfl⟩) 0x00 cabled kept).weaken ?_ fun _ _ _ => trivial
  exact fun _ later antenna => truthful_zero (sysfreqValues_airCable1In freq delsys) antenna

/-- An initialization that succeeds selects the input that the driver caches. -/
theorem r82xxInit_truthful (bus : Bus R82xxTunerPriv)
    : r82xxInit.Permits environment (fun _ later => later.Truthful config) (fun _ _ => True)
        bus := by
  refine Program.permits_bind.mpr (Program.permits_modify.mpr ?_)
  refine Program.permits_bind.mpr (Program.Permits.trivial.weaken ?_ fun _ _ _ => trivial)
  intro _ written _
  refine Program.permits_bind.mpr (Program.Permits.trivial.weaken ?_ fun _ _ _ => trivial)
  intro _ filtered _
  have selects : (r82xxSysfreqSel 0 .digitalTv .dvbt).Permits environment
      (fun _ later => later.Truthful config) (fun _ _ => True) filtered :=
    r82xxSysfreqSel_truthful room _ _ _ filtered
  refine Program.permits_bind.mpr (Program.permits_attempt.mpr (selects.weaken ?_ ?_))
  · intro _ selected truthful
    exact Program.permits_bind.mpr (Program.permits_modify.mpr (Program.permits_pure.mpr truthful))
  · intro error failed _
    exact Program.permits_bind.mpr (Program.permits_modify.mpr
      ((Program.permits_of_error rfl).mpr trivial))

end Initialization

-----------------------------------------------------------------------------------------
-- Histories
-----------------------------------------------------------------------------------------

/-- The calls of the functions that `librtlsdr.c` calls. -/
inductive R82xxTunerCall
  | init
  | setFreq (freq : UInt32)
  | setGain (setManualGain : Bool) (gain : Int32)
  | setBandwidth (bw : Int32)
  | standby

def R82xxTunerCall.program : R82xxTunerCall → R82xxTuner Unit
  | .init => r82xxInit
  | .setFreq freq => r82xxSetFreq freq
  | .setGain setManualGain gain => tuner (r82xxSetGain setManualGain gain)
  | .setBandwidth bw => do
      let _ ← r82xxSetBandwidth bw
      return ()
  | .standby => r82xxStandby

/-- A call that was made. -/
abbrev TunerCalled := Made R82xxTunerCall (Bus R82xxTunerPriv) Int32

/-- The calls made so far, the last of them first. -/
abbrev TunerHistory (environment : Environment.Bus R82xxTunerConfig)
    (start : Bus R82xxTunerPriv)
    : List TunerCalled → Bus R82xxTunerPriv → Prop :=
  History R82xxTunerCall.program environment start

/-- If a call of `r82xx_set_freq` returned zero, the loop was locked and the chip has the input of
the frequency selected.
-/
def TunerCalled.TunedRight (config : R82xxTunerConfig) (made : TunerCalled) : Prop :=
  ∀ freq,
    made.call = .setFreq freq
    → made.outcome = .ok ()
    → made.after.driver.hasLock = true ∧ Prescribed config freq made.after.registers

/-- The cached input is that of the chip since the start or the last initialization: every call of
`r82xx_set_freq` that changed it succeeded, and an initialized tuner was not put into standby.
-/
def Trusted (config : R82xxTunerConfig) (start : Bus R82xxTunerPriv) : List TunerCalled → Prop
  | [] => start.Truthful config
  | made :: earlier =>
      match made.call with
      | .init => made.outcome = .ok ()
      | .setFreq _ =>
          if made.after.driver.input = made.before.driver.input then
            Trusted config start earlier
          else made.outcome = .ok ()
      | .setGain _ _ => Trusted config start earlier
      | .setBandwidth _ => Trusted config start earlier
      | .standby => Trusted config start earlier ∧ made.before.driver.initDone = false

/-- In every call of `r82xx_set_freq` that returned zero the chip said in one of two looks that the
loop is locked, and where the input of the frequency was cached already, the chip had it selected.
-/
def HistoryFits (environment : Environment.Bus R82xxTunerConfig) : List TunerCalled → Prop
  | [] => True
  | made :: earlier =>
      (∀ freq,
        made.call = .setFreq freq
        → made.outcome = .ok ()
        → Locks environment.reads (made.before.transfers + 16)
          ∧ (inputFor environment.config freq = made.before.driver.input
            → Prescribed environment.config freq made.before.registers))
      ∧ HistoryFits environment earlier

/-- As `HistoryFits`, of histories that are trusted where an input was cached already. -/
def HistoryTrusted (environment : Environment.Bus R82xxTunerConfig)
    (start : Bus R82xxTunerPriv)
    : List TunerCalled → Prop
  | [] => True
  | made :: earlier =>
      (∀ freq,
        made.call = .setFreq freq
        → made.outcome = .ok ()
        → Locks environment.reads (made.before.transfers + 16)
          ∧ (inputFor environment.config freq = made.before.driver.input
            → Trusted environment.config start earlier))
      ∧ HistoryTrusted environment start earlier

section Histories

variable {environment : Environment.Bus R82xxTunerConfig} {config : R82xxTunerConfig}
  {start last before later : Bus R82xxTunerPriv} {freq : UInt32}

/-- Where the input of a frequency is selected in chip and shadow, the registers of the chip
are as prescribed.
-/
theorem Bus.Selects.prescribed {bus : Bus R82xxPriv}
    (selects : bus.Selects config (inputFor config freq))
    : Prescribed config freq bus.registers :=
  ⟨selects.antenna.chip, fun blogV4 => (selects.cable2 blogV4).chip⟩

/-- After a tuning the cache is truthful, where it was for a band that is tuned to again. -/
theorem Tuned.truthful (tuned : Tuned config freq before later)
    (selects : inputFor config freq = before.driver.input → before.Truthful config)
    : later.Truthful config := by
  by_cases same : inputFor config freq = before.driver.input
  · exact (tuned.stays same).truthful (selects same)
  · intro _
    rw [tuned.band]
    exact tuned.selects same

/-- A tuning is right if it switches, or the chip had the input selected. -/
theorem Tuned.prescribed_iff (tuned : Tuned config freq before later)
    : Prescribed config freq later.registers
      ↔ (inputFor config freq = before.driver.input → Prescribed config freq before.registers) := by
  by_cases same : inputFor config freq = before.driver.input
  · rw [(tuned.stays same).prescribed_iff]
    exact ⟨fun prescribed _ => prescribed, fun prescribed => prescribed same⟩
  · exact iff_of_true (tuned.selects same).prescribed fun chosen => absurd chosen same

/-- Standby leaves a tuner that is not initialized alone. -/
theorem r82xxStandby_idle {bus : Bus R82xxTunerPriv} (idle : bus.driver.initDone = false)
    : r82xxStandby.Permits environment (fun _ later => later = bus) (fun _ _ => False) bus := by
  refine Program.permits_bind.mpr (Program.permits_get.mpr ?_)
  rw [idle, if_neg Bool.false_ne_true]
  exact Program.permits_pure.mpr rfl

variable (room : 2 ≤ environment.config.maxI2cMsgLen.toNat)

include room

/-- Setting the bandwidth keeps the cache truthful. Witness: its masked writes spare the bits
of the inputs.
-/
theorem r82xxSetBandwidth_truthful (bw : Int32)
    : (r82xxSetBandwidth bw).Keeps environment (·.Truthful config) := by
  refine .bind (assign_truthful (fun _ => rfl) fun _ => rfl) fun _ => ?_
  refine .bind (tuner_truthful ?_) fun _ => .bind .get fun _ => .pure
  refine .bind (r82xxWriteRegMask_keepsInputs room (by decide) (by decide) _) fun _ => ?_
  exact r82xxWriteRegMask_keepsInputs room (by decide) (by decide) _

variable (switches : environment.config.Switches)

include switches

/-- A call keeps what makes the cached input trusted. -/
theorem TunerCalled.truthful {made : TunerCalled} {earlier : List TunerCalled}
    (ran : made.call.program environment made.before = .ok (made.outcome, made.after))
    (before : Trusted environment.config start earlier → made.before.Truthful environment.config)
    (trusted : Trusted environment.config start (made :: earlier))
    : made.after.Truthful environment.config := by
  obtain ⟨call, first, later, outcome⟩ := made
  have kept {program : R82xxTuner Unit}
      (keeps : program.Keeps environment (·.Truthful environment.config))
      (ended : program environment first = .ok (outcome, later))
      (truthful : first.Truthful environment.config)
      : later.Truthful environment.config := by
    obtain ⟨returned, failed⟩ := keeps first truthful outcome later ended
    cases outcome with
    | error error => exact failed error rfl
    | ok value => exact returned value rfl
  cases call with
  | init =>
      obtain rfl : outcome = .ok () := trusted
      exact (r82xxInit_truthful room first _ later ran).1 () rfl
  | setFreq freq =>
      obtain ⟨returned, failed⟩ := r82xxSetFreq_tunes room switches freq first outcome later ran
      change if later.driver.input = first.driver.input then _ else outcome = .ok () at trusted
      split at trusted
      next same =>
        have truthful := before trusted
        cases outcome with
        | error error => exact (failed error rfl same).truthful truthful
        | ok value =>
            obtain ⟨-, tuned⟩ | ⟨-, -, stays⟩ := returned value rfl
            · exact tuned.truthful fun _ => truthful
            · exact stays.truthful truthful
      next changed =>
        obtain ⟨-, tuned⟩ | ⟨-, -, stays⟩ := returned () trusted
        · exact tuned.truthful fun same => absurd (tuned.band.trans same) changed
        · exact absurd stays.1 changed
  | setGain setManualGain gain =>
      exact kept (tuner_truthful (r82xxSetGain_keepsInputs room _ _)) ran (before trusted)
  | setBandwidth bw =>
      exact kept (.bind (r82xxSetBandwidth_truthful room bw) fun _ => .pure) ran (before trusted)
  | standby =>
      obtain ⟨trusted, idle⟩ := trusted
      obtain ⟨returned, failed⟩ := r82xxStandby_idle idle outcome later ran
      cases outcome with
      | error error => exact (failed error rfl).elim
      | ok value =>
          obtain rfl := returned value rfl
          exact before trusted

/-- After a trusted history the cached input is selected. By induction on the calls. -/
theorem TunerHistory.truthful {history : List TunerCalled}
    (ran : TunerHistory environment start history last)
    (trusted : Trusted environment.config start history)
    : last.Truthful environment.config := by
  induction ran with
  | start => exact trusted
  | call earlier ran ih => exact TunerCalled.truthful room switches ran ih trusted

/-- A history that is trusted fits. By induction on the calls: what was trusted before a call has
the cached input selected in the chip.
-/
theorem TunerHistory.fits {history : List TunerCalled}
    (ran : TunerHistory environment start history last)
    (trusted : HistoryTrusted environment start history)
    : HistoryFits environment history := by
  induction ran with
  | start => exact trivial
  | @call earlier made before ran ih =>
      refine ⟨fun freq same succeeded => ?_, ih trusted.2⟩
      obtain ⟨locks, trusts⟩ := trusted.1 freq same succeeded
      refine ⟨locks, fun cached => ?_⟩
      have selects := TunerHistory.truthful room switches before (trusts cached) ⟨freq, cached⟩
      rw [← cached] at selects
      exact selects.prescribed

/-- A call of `r82xx_set_freq` that returns zero is right if the chip reports the lock and has the
input selected that is not switched to.
-/
theorem r82xxSetFreq_right_iff
    (ran : r82xxSetFreq freq environment before = .ok (.ok (), later))
    : later.driver.hasLock = true ∧ Prescribed environment.config freq later.registers
      ↔ Locks environment.reads (before.transfers + 16)
        ∧ (inputFor environment.config freq = before.driver.input
          → Prescribed environment.config freq before.registers) := by
  obtain ⟨locks, tuned⟩ | ⟨free, lock, -⟩ :=
    (r82xxSetFreq_tunes room switches freq before _ later ran).1 () rfl
  · rw [tuned.prescribed_iff]
    exact and_congr_left fun _ => iff_of_true tuned.lock locks
  · refine iff_of_false ?_ fun right => free right.1
    rintro ⟨locked, -⟩
    rw [lock] at locked
    cases locked

/-- A history tunes right if and only if it fits. By induction on the calls. -/
theorem r82xxSetFreq_tunedRight_iff {history : List TunerCalled}
    (ran : TunerHistory environment start history last)
    : (∀ made ∈ history, TunerCalled.TunedRight environment.config made)
      ↔ HistoryFits environment history := by
  induction ran with
  | start => exact iff_of_true (fun made member => absurd member List.not_mem_nil) trivial
  | @call earlier made before ran ih =>
      rw [List.forall_mem_cons, ih]
      refine and_congr_left fun _ => forall_congr' fun freq => ?_
      refine forall_congr' fun same => forall_congr' fun succeeded => ?_
      have ended : r82xxSetFreq freq environment made.before = .ok (.ok (), made.after) := by
        rw [same, succeeded] at ran
        exact ran
      exact r82xxSetFreq_right_iff room switches ended

end Histories

-----------------------------------------------------------------------------------------
-- Two tunings
-----------------------------------------------------------------------------------------

/-- A dongle with an R828D, and its driver before the tuner is initialized. -/
def r828dConfig : R82xxTunerConfig where
  xtal := 28800000
  rafaelChip := .r828d
  maxI2cMsgLen := 8
  blogV4L := false
  blogV4 := false
  usePredetect := false

def freshTuner : Bus R82xxTunerPriv where
  registers _ := 0
  transfers := 0
  driver :=
    {
      regs := fun _ => 0
      hasLock := false
      xtalCapSel := .low30p
      intFreq := 0
      filCalCode := 0
      input := 0
      initDone := false
      gpio5 := false
    }

/-- An environment where the loop is always locked, and at most one transfer fails. -/
def lockedBut (failing : Option Nat) : Environment.Bus R82xxTunerConfig where
  config := r828dConfig
  returns number len := if some number = failing then -1 else Int32.ofNat len
  reads _ _ := 0xff

/-- A tuner is initialized, switched to cable 1, given a gain and tuned again, all with success. -/
def retunes : List TunerCalled → Bool
  | [⟨.setFreq _, _, _, .ok ()⟩, ⟨.setGain _ _, _, _, .ok ()⟩,
      ⟨.setFreq _, before, after, .ok ()⟩, ⟨.init, _, _, .ok ()⟩] =>
      decide (after.driver.input ≠ before.driver.input ∧ after.registers 0x05 &&& 0x60 = 0x60)
  | _ => false

/-- Such a history is trusted. Witness: the initialization succeeded, and the first tuning changed
the input and succeeded.
-/
theorem retunes_trusted {start : Bus R82xxTunerPriv} {history : List TunerCalled}
    (retuned : retunes history = true)
    : HistoryTrusted (lockedBut none) start history := by
  have locks (number : Nat) : Locks (lockedBut none).reads number :=
    .inl (show r82xxBitrev 0xff &&& 0x40 ≠ 0 by decide)
  unfold retunes at retuned
  split at retuned
  next =>
    obtain ⟨changed, -⟩ := of_decide_eq_true retuned
    refine ⟨fun _ _ _ => ⟨locks _, fun _ => ?_⟩, ?_,
      fun _ _ _ => ⟨locks _, fun _ => rfl⟩, ?_, trivial⟩
    · simp only [Trusted]
      rw [if_neg changed]
      trivial
    · rintro _ ⟨⟩
    · rintro _ ⟨⟩
  next => cases retuned

/-- A tuner that is initialized, tuned to 100 MHz, given a gain and tuned to 101 MHz. -/
theorem r82xxSetFreq_tunedRight_twice
    : ∃ history last,
        TunerHistory (lockedBut none) freshTuner history last
        ∧ retunes history = true
        ∧ ∀ made ∈ history, TunerCalled.TunedRight (lockedBut none).config made := by
  have room : 2 ≤ (lockedBut none).config.maxI2cMsgLen.toNat := by decide
  have switches : (lockedBut none).config.Switches := .inr (.inr rfl)
  obtain ⟨history, last, ran, retuned⟩
      : ∃ history last,
          TunerHistory (lockedBut none) freshTuner history last ∧ retunes history = true :=
    @exists_history _ _ _ _ _ _ _
      [.init, .setFreq 100000000, .setGain true 0, .setFreq 101000000] retunes (by decide +kernel)
  have fits : HistoryFits (lockedBut none) history :=
    TunerHistory.fits room switches ran (retunes_trusted retuned)
  exact ⟨history, last, ran, retuned, (r82xxSetFreq_tunedRight_iff room switches ran).mpr fits⟩

/-- Whether the last call has tuned to 100 MHz and left air-in selected. -/
def leavesAirIn : List TunerCalled → Bool
  | ⟨.setFreq freq, _, later, .ok ()⟩ :: _ =>
      decide (freq = 100000000 ∧ later.registers 0x05 &&& 0x60 = 0x00)
  | _ => false

/-- The transfer that switches to cable 1 fails, and the next tuning to the same band does not
switch.
-/
theorem r82xxSetFreq_wrongInput
    : ¬ ∀ (environment : Environment.Bus R82xxTunerConfig) (start last : Bus R82xxTunerPriv)
          (history : List TunerCalled),
        2 ≤ environment.config.maxI2cMsgLen.toNat
        → environment.config.Switches
        → TunerHistory environment start history last
        → ∀ made ∈ history, TunerCalled.TunedRight environment.config made := by
  intro right
  obtain ⟨history, last, ran, left⟩
      : ∃ history last,
          TunerHistory (lockedBut (some 95)) freshTuner history last ∧ leavesAirIn history = true :=
    @exists_history _ _ _ _ _ _ _ [.init, .setFreq 100000000, .setFreq 100000000] leavesAirIn
      (by decide +kernel)
  have tuned := right _ _ _ history (by decide) (.inr (.inr rfl)) ran
  unfold leavesAirIn at left
  split at left
  next freq before later earlier =>
    obtain ⟨rfl, airIn⟩ := of_decide_eq_true left
    have antenna := (tuned _ List.mem_cons_self _ rfl rfl).2.antenna
    change later.registers 0x05 &&& 0x60 = 0x60 at antenna
    rw [airIn] at antenna
    cases antenna
  next => cases left

end RtlTcpAndro.Tuners
