import RtlTcpAndro.Tuners.R82xxPll
import RtlTcpAndro.Tuners.R82xxTuner

/-! The bits of registers that the functions of `tuner_r82xx.c` leave alone, in the chip and in the
shadow, whatever the transfers return, the number of transfers that they make where none fails, and
whether `r82xx_set_pll` finds the loop locked.
-/

namespace RtlTcpAndro.Tuners

open RtlTcpAndro.Faults
open RtlTcpAndro.Registers

-----------------------------------------------------------------------------------------
-- Bits of a register
-----------------------------------------------------------------------------------------

/-- The bits that a mask selects of a register, in the chip and in the shadow. -/
structure Bus.Holds (bus : Bus R82xxPriv) (reg mask bits : UInt8) : Prop where
  chip : bus.registers reg &&& mask = bits
  shadow : bus.driver.regs (reg.toNat - regShadowStart) &&& mask = bits

/-- The bits that switch the antenna inputs. -/
def IsInput (reg mask : UInt8) : Prop := reg = 0x05 ∧ mask = 0x60 ∨ reg = 0x06 ∧ mask = 0x08

/-- A masked write spares the bits that switch the antenna inputs. -/
def SparesInput (reg bitMask : UInt8) : Prop :=
  (reg = 0x05 → 0x60 &&& bitMask = 0) ∧ (reg = 0x06 → 0x08 &&& bitMask = 0)

instance (reg bitMask : UInt8) : Decidable (SparesInput reg bitMask) :=
  inferInstanceAs (Decidable (_ ∧ _))

section Bits

variable {bus : Bus R82xxPriv} {reg other mask bits val bitMask : UInt8}

/-- A value that is shadowed for a register is found in its cell of the shadow. Witness: the
offset of the register in the message is zero.
-/
theorem shadowed_self (regs : Nat → UInt8) (shadow : Shadowed reg)
    : shadowed regs reg [val] (reg.toNat - regShadowStart) = val := by
  unfold Shadowed at shadow
  unfold shadowed
  simp only [List.length_singleton]
  rw [if_pos (by omega), Nat.sub_self]
  rfl

/-- A value that is shadowed for a register leaves the cell of every other one alone, since
registers with a shadow have cells of their own.
-/
theorem shadowed_other {regs : Nat → UInt8} (shadow : Shadowed reg) (shadow' : Shadowed other)
    (differs : other ≠ reg)
    : shadowed regs reg [val] (other.toNat - regShadowStart)
      = regs (other.toNat - regShadowStart) := by
  have apart : other.toNat ≠ reg.toNat := fun same => differs (UInt8.toNat_inj.mp same)
  unfold Shadowed at shadow shadow'
  unfold shadowed
  simp only [List.length_singleton]
  exact if_neg (by omega)

/-- After a write its register holds what was written, in the chip as in the shadow. -/
theorem Bus.holds_wrote (shadow : Shadowed reg)
    : (bus.wrote reg [val]).Holds reg mask (val &&& mask) := by
  refine ⟨by rw [Bus.wrote_self], ?_⟩
  change shadowed _ _ _ _ &&& mask = _
  rw [shadowed_self _ shadow]

/-- The bits of two masks are held together. Witness: selecting by both masks joins what each
of them selects.
-/
theorem Bus.Holds.or {more bits' : UInt8} (holds : bus.Holds reg mask bits)
    (holds' : bus.Holds reg more bits')
    : bus.Holds reg (mask ||| more) (bits ||| bits') := by
  refine ⟨?_, ?_⟩
  · rw [and_or_mask, holds.chip, holds'.chip]
  · rw [and_or_mask, holds.shadow, holds'.shadow]

/-- A write of another register, or of a value with the same bits, keeps what is held.
Witness: whether the written register is the one in question.
-/
theorem Bus.Holds.wrote (holds : bus.Holds other mask bits) (shadow : Shadowed reg)
    (shadow' : Shadowed other) (same : other = reg → val &&& mask = bits)
    : (bus.wrote reg [val]).Holds other mask bits := by
  by_cases differs : other = reg
  · subst differs
    exact same rfl ▸ Bus.holds_wrote shadow
  · refine ⟨?_, ?_⟩
    · rw [Bus.wrote_other differs]
      exact holds.chip
    · change shadowed _ _ _ _ &&& mask = _
      rw [shadowed_other shadow shadow' differs]
      exact holds.shadow

/-- A write that fails shadows its value and leaves the chip alone, so what is held is kept if
the shadow of a write keeps it.
-/
theorem Bus.Holds.failed {later : Bus R82xxPriv} (holds : bus.Holds other mask bits)
    (shadow : Shadowed reg) (shadow' : Shadowed other) (same : other = reg → val &&& mask = bits)
    (registers : later.registers = bus.registers)
    (driver : later.driver = (bus.shadows reg [val]).driver)
    : later.Holds other mask bits := by
  refine ⟨?_, ?_⟩
  · rw [registers]
    exact holds.chip
  · rw [driver]
    exact (holds.wrote shadow shadow' same).shadow

end Bits

section Keeps

variable {environment : Environment.Bus R82xxConfig} {reg other mask bits : UInt8}

/-- A masked write keeps the bits of its register that its mask does not select. Witness: what
it merges has the shadow's bits there, whether the write moves or fails.
-/
theorem r82xxWriteRegMask_keeps (room : 2 ≤ environment.config.maxI2cMsgLen.toNat)
    (shadow : Shadowed reg) (shadow' : Shadowed other) {bitMask : UInt8}
    (spares : other = reg → mask &&& bitMask = 0) (val : UInt8)
    : (r82xxWriteRegMask reg val bitMask).Keeps environment (·.Holds other mask bits) := by
  intro bus holds
  have same (this : other = reg)
      : merge (bus.driver.regs (reg.toNat - regShadowStart)) val bitMask &&& mask = bits := by
    rw [merge_and_of_disjoint (spares this), ← this]
    exact holds.shadow
  refine ((r82xxWriteRegMask_leads room shadow val bitMask bus).weaken ?_ ?_).permits
  · rintro _ _ rfl
    exact holds.wrote shadow shadow' same
  · rintro _ later ⟨registers, driver, -⟩
    exact holds.failed shadow shadow' same registers driver

/-- What a masked write changes: its register holds the bits of the value, and all bits that its
mask does not select are held as before.
-/
structure Bus.SetBits (before later : Bus R82xxPriv) (reg val bitMask : UInt8) : Prop where
  holds : later.Holds reg bitMask (val &&& bitMask)
  keeps
    : ∀ {other mask bits : UInt8},
        before.Holds other mask bits
        → Shadowed other
        → (other = reg → mask &&& bitMask = 0)
        → later.Holds other mask bits
  lock : later.driver.hasLock = before.driver.hasLock

/-- A masked write that succeeds sets the bits that its mask selects, and keeps all that it
does not. Witness: the merged value is written whole.
-/
theorem r82xxWriteRegMask_sets (room : 2 ≤ environment.config.maxI2cMsgLen.toNat)
    (shadow : Shadowed reg) (val bitMask : UInt8) (bus : Bus R82xxPriv)
    : (r82xxWriteRegMask reg val bitMask).Permits environment
        (fun _ later => bus.SetBits later reg val bitMask) (fun _ _ => True) bus := by
  refine ((r82xxWriteRegMask_leads room shadow val bitMask bus).weaken ?_ ?_).permits
  · rintro _ _ rfl
    refine ⟨?_, ?_, rfl⟩
    · rw [← @merge_and_mask (bus.driver.regs (reg.toNat - regShadowStart)) val bitMask]
      exact Bus.holds_wrote shadow
    · intro other mask bits holds shadow' spares
      refine holds.wrote shadow shadow' ?_
      rintro rfl
      rw [merge_and_of_disjoint (spares rfl)]
      exact holds.shadow
  · exact fun _ _ _ => trivial

/-- A write that succeeds sets all bits of its register; it is a masked one whose mask selects
them all.
-/
theorem r82xxWriteReg_sets (room : 2 ≤ environment.config.maxI2cMsgLen.toNat)
    (shadow : Shadowed reg) (val : UInt8) (bus : Bus R82xxPriv)
    : (r82xxWriteReg reg val).Permits environment
        (fun _ later => bus.SetBits later reg val 0xff) (fun _ _ => True) bus := by
  refine ((r82xxWriteReg_leads room reg val bus).weaken ?_ fun _ _ _ => trivial).permits
  rintro _ _ rfl
  refine ⟨Bus.holds_wrote shadow, ?_, rfl⟩
  intro other mask bits holds shadow' spares
  refine holds.wrote shadow shadow' ?_
  rintro rfl
  have none : mask = 0 := by
    rw [← spares rfl]
    exact (UInt8.and_neg_one).symm
  rw [none, UInt8.and_zero]
  have zero := holds.chip
  rwa [none, UInt8.and_zero] at zero

end Keeps

-----------------------------------------------------------------------------------------
-- The bits that switch the inputs
-----------------------------------------------------------------------------------------

/-- The registers that switch the antenna inputs are as they were, in the chip and in the shadow. -/
def Bus.Untouched (start bus : Bus R82xxPriv) : Prop :=
  ∀ reg,
    reg = 0x05 ∨ reg = 0x06
    → bus.registers reg = start.registers reg
      ∧ bus.driver.regs (reg.toNat - regShadowStart)
        = start.driver.regs (reg.toNat - regShadowStart)

/-- A function leaves the registers that switch the antenna inputs alone. -/
def LeavesInputs {α : Type} (program : R82xx α) (environment : Environment.Bus R82xxConfig)
    : Prop :=
  ∀ start : Bus R82xxPriv, program.Keeps environment start.Untouched

/-- A function keeps the bits that switch the antenna inputs. -/
def KeepsInputs {α : Type} (program : R82xx α) (environment : Environment.Bus R82xxConfig)
    : Prop :=
  ∀ reg mask, IsInput reg mask → ∀ bits, program.Keeps environment (·.Holds reg mask bits)

section Inputs

variable {environment : Environment.Bus R82xxConfig} {α β : Type}

/-- The bits that switch the inputs are in two registers. -/
theorem IsInput.register {reg mask : UInt8} (input : IsInput reg mask)
    : reg = 0x05 ∨ reg = 0x06 :=
  input.imp And.left And.left

/-- The registers that switch the inputs have a shadow. -/
theorem IsInput.shadowed {reg mask : UInt8} (input : IsInput reg mask) : Shadowed reg := by
  obtain rfl | rfl := input.register <;> decide

/-- A bus that nothing was done to is untouched, by reflexivity. -/
theorem Bus.Untouched.refl (bus : Bus R82xxPriv) : bus.Untouched bus :=
  fun _ _ => ⟨rfl, rfl⟩

/-- A write of a register that switches no input leaves those alone that do, in the chip as in
the shadow.
-/
theorem Bus.Untouched.wrote {start bus : Bus R82xxPriv} (untouched : start.Untouched bus)
    {reg val : UInt8} (shadow : Shadowed reg) (differs : reg ≠ 0x05 ∧ reg ≠ 0x06)
    : start.Untouched (bus.wrote reg [val]) := by
  intro other input
  have apart : other ≠ reg := by
    rintro rfl
    exact input.elim differs.1 differs.2
  have shadow' : Shadowed other := by
    obtain rfl | rfl := input <;> decide
  obtain ⟨chip, cached⟩ := untouched other input
  exact ⟨(Bus.wrote_other apart).trans chip, (shadowed_other shadow shadow' apart).trans cached⟩

/-- A write that fails shadows its value, so one of a register that switches no input leaves
those alone that do.
-/
theorem Bus.Untouched.failed {start bus later : Bus R82xxPriv} (untouched : start.Untouched bus)
    {reg val : UInt8} (shadow : Shadowed reg) (differs : reg ≠ 0x05 ∧ reg ≠ 0x06)
    (registers : later.registers = bus.registers)
    (driver : later.driver = (bus.shadows reg [val]).driver)
    : start.Untouched later := by
  intro other input
  have wrote : start.Untouched (bus.wrote reg [val]) := untouched.wrote shadow differs
  exact ⟨registers ▸ (untouched other input).1, driver ▸ (wrote other input).2⟩

/-- A sequence leaves the registers of the inputs alone where both of its parts do. -/
theorem LeavesInputs.bind {first : R82xx α} {rest : α → R82xx β}
    (before : LeavesInputs first environment)
    (next : ∀ value, LeavesInputs (rest value) environment)
    : LeavesInputs (first >>= rest) environment :=
  fun start => (before start).bind fun value => next value start

/-- A value leaves the registers of the inputs alone. -/
theorem LeavesInputs.pure {value : α} : LeavesInputs (Pure.pure value) environment :=
  fun _ => Program.Keeps.pure

/-- A function that leaves the registers alone keeps their bits. Witness: what is held of an
untouched register is held of it later.
-/
theorem LeavesInputs.keepsInputs {program : R82xx α} (leaves : LeavesInputs program environment)
    : KeepsInputs program environment := by
  intro reg mask input bits bus holds
  have kept (later : Bus R82xxPriv) (untouched : bus.Untouched later)
      : later.Holds reg mask bits := by
    obtain ⟨chip, cached⟩ := untouched reg input.register
    exact ⟨chip ▸ holds.chip, cached ▸ holds.shadow⟩
  exact (leaves bus bus (.refl bus)).weaken (fun _ => kept) fun _ => kept

/-- A sequence keeps the bits of the inputs where both of its parts do. -/
theorem KeepsInputs.bind {first : R82xx α} {rest : α → R82xx β}
    (before : KeepsInputs first environment)
    (next : ∀ value, KeepsInputs (rest value) environment)
    : KeepsInputs (first >>= rest) environment :=
  fun reg mask input bits =>
    (before reg mask input bits).bind fun value => next value reg mask input bits

/-- A write of another register leaves those of the inputs alone, whether it moves or fails.
-/
theorem r82xxWriteReg_leaves (room : 2 ≤ environment.config.maxI2cMsgLen.toNat)
    {reg : UInt8} (shadow : Shadowed reg) (differs : reg ≠ 0x05 ∧ reg ≠ 0x06) (val : UInt8)
    : LeavesInputs (r82xxWriteReg reg val) environment := by
  intro start bus untouched
  refine ((r82xxWriteReg_leads room reg val bus).weaken ?_ ?_).permits
  · rintro _ _ rfl
    exact untouched.wrote shadow differs
  · rintro _ later ⟨registers, driver, -⟩
    exact untouched.failed shadow differs registers driver

/-- A masked write of another register leaves those of the inputs alone, whether it moves or
fails.
-/
theorem r82xxWriteRegMask_leaves (room : 2 ≤ environment.config.maxI2cMsgLen.toNat)
    {reg : UInt8} (shadow : Shadowed reg) (differs : reg ≠ 0x05 ∧ reg ≠ 0x06)
    (val bitMask : UInt8)
    : LeavesInputs (r82xxWriteRegMask reg val bitMask) environment := by
  intro start bus untouched
  refine ((r82xxWriteRegMask_leads room shadow val bitMask bus).weaken ?_ ?_).permits
  · rintro _ _ rfl
    exact untouched.wrote shadow differs
  · rintro _ later ⟨registers, driver, -⟩
    exact untouched.failed shadow differs registers driver

/-- A read leaves the registers of the inputs alone: it changes neither the chip nor the
shadow.
-/
theorem r82xxRead_leaves (reg : UInt8) (len : Nat)
    : LeavesInputs (r82xxRead reg len) environment := by
  intro start bus untouched
  refine ((r82xxRead_leads reg len bus).weaken ?_ ?_).permits
  · rintro _ _ ⟨-, rfl⟩
    exact untouched
  · rintro _ later ⟨registers, driver, -⟩ other input
    exact ⟨registers ▸ (untouched other input).1, driver ▸ (untouched other input).2⟩

/-- A masked write whose mask spares the bits of the inputs keeps them, even in their own
registers.
-/
theorem r82xxWriteRegMask_keepsInputs (room : 2 ≤ environment.config.maxI2cMsgLen.toNat)
    {reg bitMask : UInt8} (shadow : Shadowed reg) (spares : SparesInput reg bitMask)
    (val : UInt8)
    : KeepsInputs (r82xxWriteRegMask reg val bitMask) environment := by
  intro other mask input bits
  refine r82xxWriteRegMask_keeps room shadow input.shadowed ?_ val
  rintro rfl
  obtain ⟨same, rfl⟩ | ⟨same, rfl⟩ := input
  · exact spares.1 same
  · exact spares.2 same

variable (room : 2 ≤ environment.config.maxI2cMsgLen.toNat)

include room

/-- Programming the divider leaves the registers of the inputs alone; it reads and writes
others.
-/
theorem programDivider_leaves (divNum powerRef : UInt8)
    : LeavesInputs (programDivider divNum powerRef) environment := by
  refine .bind (r82xxRead_leaves _ _) fun data => ?_
  exact r82xxWriteRegMask_leaves room (by decide) (by decide) _ _

/-- Programming the fraction leaves the registers of the inputs alone; it writes others. -/
theorem programSdm_leaves (pllRefKhz vcoFra : UInt32)
    : LeavesInputs (programSdm pllRefKhz vcoFra) environment := by
  refine .bind (r82xxWriteRegMask_leaves room (by decide) (by decide) _ _) fun _ => ?_
  refine .bind (fun _ => .lift) fun _ => ?_
  refine .bind (r82xxWriteReg_leaves room (by decide) (by decide) _) fun _ => ?_
  exact r82xxWriteReg_leaves room (by decide) (by decide) _

/-- Looking for the lock leaves the registers of the inputs alone, also where the current is
raised in between.
-/
theorem awaitLock_leaves : LeavesInputs awaitLock environment := by
  refine .bind (r82xxRead_leaves _ _) fun data => ?_
  split
  · exact .pure
  · refine .bind (r82xxWriteRegMask_leaves room (by decide) (by decide) _ _) fun _ => ?_
    exact .bind (r82xxRead_leaves _ _) fun _ => .pure

/-- Setting the loop leaves the registers of the inputs alone. Witness: its parts in the order
of the source.
-/
theorem r82xxSetPll_leaves (freq : UInt32) : LeavesInputs (r82xxSetPll freq) environment := by
  refine .bind (fun _ => .read) fun _ => ?_
  refine .bind (r82xxWriteRegMask_leaves room (by decide) (by decide) _ _) fun _ => ?_
  refine .bind (r82xxWriteRegMask_leaves room (by decide) (by decide) _ _) fun _ => ?_
  refine .bind (r82xxWriteRegMask_leaves room (by decide) (by decide) _ _) fun _ => ?_
  refine .bind (fun _ => .lift) fun divider => ?_
  refine .bind (programDivider_leaves room _ _) fun _ => ?_
  refine .bind (fun _ => .lift) fun quotient => ?_
  refine .bind (fun _ => .require) fun _ => ?_
  refine .bind (r82xxWriteReg_leaves room (by decide) (by decide) _) fun _ => ?_
  refine .bind (programSdm_leaves room _ _) fun _ => ?_
  refine .bind (awaitLock_leaves room) fun locked => ?_
  refine .bind (fun _ => .modify fun _ untouched => untouched) fun _ => ?_
  split
  · exact r82xxWriteRegMask_leaves room (by decide) (by decide) _ _
  · exact .pure

/-- Bypassing the tracking filter leaves the registers of the inputs alone, in the band that is
bypassed as in the others.
-/
theorem bypassTrackingFilter_leaves (band : UInt8)
    : LeavesInputs (bypassTrackingFilter band) environment := by
  unfold bypassTrackingFilter
  split
  · refine .bind (r82xxWriteRegMask_leaves room (by decide) (by decide) _ _) fun _ => ?_
    exact r82xxWriteReg_leaves room (by decide) (by decide) _
  · exact .pure

/-- Setting the gain keeps the bits of the inputs. Witness: it writes the register of one of
them, with a mask that spares it.
-/
theorem r82xxSetGain_keepsInputs (setManualGain : Bool) (gain : Int32)
    : KeepsInputs (r82xxSetGain setManualGain gain) environment := by
  unfold r82xxSetGain
  split
  · refine .bind (r82xxWriteRegMask_keepsInputs room (by decide) (by decide) _) fun _ => ?_
    refine .bind (r82xxWriteRegMask_keepsInputs room (by decide) (by decide) _) fun _ => ?_
    refine .bind (r82xxRead_leaves _ _).keepsInputs fun _ => ?_
    refine .bind (r82xxWriteRegMask_keepsInputs room (by decide) (by decide) _) fun _ => ?_
    refine .bind (r82xxWriteRegMask_keepsInputs room (by decide) (by decide) _) fun _ => ?_
    exact r82xxWriteRegMask_keepsInputs room (by decide) (by decide) _
  · refine .bind (r82xxWriteRegMask_keepsInputs room (by decide) (by decide) _) fun _ => ?_
    refine .bind (r82xxWriteRegMask_keepsInputs room (by decide) (by decide) _) fun _ => ?_
    exact r82xxWriteRegMask_keepsInputs room (by decide) (by decide) _

/-- Setting up the front end for a mode keeps the bits of the inputs. Witness: every mask of
its writes spares them.
-/
theorem setLna_keepsInputs (values : SysfreqValues) (type : R82xxTunerType)
    : KeepsInputs (setLna values type) environment := by
  unfold setLna
  split
  · refine .bind (r82xxWriteRegMask_keepsInputs room (by decide) (by decide) _) fun _ => ?_
    refine .bind (r82xxWriteRegMask_keepsInputs room (by decide) (by decide) _) fun _ => ?_
    refine .bind (r82xxWriteRegMask_keepsInputs room (by decide) (by decide) _) fun _ => ?_
    refine .bind (r82xxWriteRegMask_keepsInputs room (by decide) (by decide) _) fun _ => ?_
    refine .bind (r82xxWriteRegMask_keepsInputs room (by decide) (by decide) _) fun _ => ?_
    refine .bind (r82xxWriteRegMask_keepsInputs room (by decide) (by decide) _) fun _ => ?_
    refine .bind (r82xxWriteRegMask_keepsInputs room (by decide) (by decide) _) fun _ => ?_
    exact r82xxWriteRegMask_keepsInputs room (by decide) (by decide) _
  · refine .bind (r82xxWriteRegMask_keepsInputs room (by decide) (by decide) _) fun _ => ?_
    refine .bind (r82xxWriteRegMask_keepsInputs room (by decide) (by decide) _) fun _ => ?_
    refine .bind (r82xxWriteRegMask_keepsInputs room (by decide) (by decide) _) fun _ => ?_
    refine .bind (r82xxWriteRegMask_keepsInputs room (by decide) (by decide) _) fun _ => ?_
    refine .bind (r82xxWriteRegMask_keepsInputs room (by decide) (by decide) _) fun _ => ?_
    exact r82xxWriteRegMask_keepsInputs room (by decide) (by decide) _

end Inputs

-----------------------------------------------------------------------------------------
-- The lock of the loop
-----------------------------------------------------------------------------------------

/-- A function makes so many transfers where it does not fail. -/
def Takes {α : Type} (program : R82xx α) (environment : Environment.Bus R82xxConfig)
    (count : Nat)
    : Prop :=
  ∀ bus, program.Permits environment
    (fun _ later => later.transfers = bus.transfers + count) (fun _ _ => True) bus

/-- In one of two looks, the first with the transfers from a number on and the second, after a
write, with those from the third after it on, the chip says that the loop is locked.
-/
def Locks (reads : Nat → Nat → UInt8) (number : Nat) : Prop :=
  r82xxBitrev (reads (number + 1) 2) &&& 0x40 ≠ 0
  ∨ r82xxBitrev (reads (number + 4) 2) &&& 0x40 ≠ 0

instance (reads : Nat → Nat → UInt8) (number : Nat) : Decidable (Locks reads number) :=
  inferInstanceAs (Decidable (_ ∨ _))

section Locks

variable {environment : Environment.Bus R82xxConfig} {α β : Type}

/-- What is asserted of the end may start from the transfers that a first part takes; an error
of the first part is no end to assert anything of.
-/
theorem Takes.permits_bind {first : R82xx α} {rest : α → R82xx β} {count : Nat}
    {bus : Bus R82xxPriv} {returns : β → Bus R82xxPriv → Prop}
    (takes : Takes first environment count)
    (next
      : ∀ value between,
          between.transfers = bus.transfers + count
          → (rest value).Permits environment returns (fun _ _ => True) between)
    : (first >>= rest).Permits environment returns (fun _ _ => True) bus :=
  Program.permits_bind.mpr ((takes bus).weaken next fun _ _ _ => trivial)

/-- A sequence takes the transfers of both of its parts. -/
theorem Takes.bind {first : R82xx α} {rest : α → R82xx β} {count count' : Nat}
    (before : Takes first environment count)
    (next : ∀ value, Takes (rest value) environment count')
    : Takes (first >>= rest) environment (count + count') := by
  intro bus
  refine before.permits_bind fun value between taken => ?_
  rw [← Nat.add_assoc, ← taken]
  exact next value between

/-- A computation takes no transfer. -/
theorem Takes.lift {computation : Faulty α} : Takes (liftM computation) environment 0 :=
  fun _ => Program.permits_lift fun _ _ => rfl

/-- A check takes no transfer. -/
theorem Takes.require {holds : Prop} [Decidable holds] {error : Int32}
    : Takes (Program.require holds error) environment 0 :=
  fun _ => Program.permits_require.mpr ⟨fun _ => rfl, fun _ => trivial⟩

/-- A read takes two transfers, the address and the bytes. -/
theorem r82xxRead_takes (reg : UInt8) (len : Nat) : Takes (r82xxRead reg len) environment 2 := by
  intro bus
  refine ((r82xxRead_leads reg len bus).weaken ?_ fun _ _ _ => trivial).permits
  rintro _ _ ⟨-, rfl⟩
  rfl

variable (room : 2 ≤ environment.config.maxI2cMsgLen.toNat)

include room

/-- A write of a register takes one transfer. -/
theorem r82xxWriteReg_takes (reg val : UInt8) : Takes (r82xxWriteReg reg val) environment 1 := by
  intro bus
  refine ((r82xxWriteReg_leads room reg val bus).weaken ?_ fun _ _ _ => trivial).permits
  rintro _ _ rfl
  rfl

/-- A masked write takes one transfer, since the shadow is read in its place. -/
theorem r82xxWriteRegMask_takes {reg : UInt8} (shadow : Shadowed reg) (val bitMask : UInt8)
    : Takes (r82xxWriteRegMask reg val bitMask) environment 1 := by
  intro bus
  refine ((r82xxWriteRegMask_leads room shadow val bitMask bus).weaken ?_
    fun _ _ _ => trivial).permits
  rintro _ _ rfl
  rfl

/-- Programming the divider takes three transfers, two of them for the read. -/
theorem programDivider_takes (divNum powerRef : UInt8)
    : Takes (programDivider divNum powerRef) environment 3 :=
  .bind (r82xxRead_takes _ _) fun _ => r82xxWriteRegMask_takes room (by decide) _ _

/-- Programming the fraction takes three transfers, one for each write. -/
theorem programSdm_takes (pllRefKhz vcoFra : UInt32)
    : Takes (programSdm pllRefKhz vcoFra) environment 3 :=
  .bind (r82xxWriteRegMask_takes room (by decide) _ _) fun _ =>
    .bind .lift fun _ =>
      .bind (r82xxWriteReg_takes room _ _) fun _ => r82xxWriteReg_takes room _ _

/-- The loop is found locked if the chip says so in one of the two looks. Witness: the second
look is three transfers after the first, with the write between them.
-/
theorem awaitLock_locks (bus : Bus R82xxPriv)
    : awaitLock.Permits environment
        (fun locked _ => locked = true ↔ Locks environment.reads bus.transfers) (fun _ _ => True)
        bus := by
  refine Program.permits_bind.mpr
    ((r82xxRead_leads 0x00 3 bus).permits.weaken ?_ fun _ _ _ => trivial)
  rintro _ _ ⟨rfl, rfl⟩
  dsimp only
  split
  next first => exact Program.permits_pure.mpr (iff_of_true rfl (.inl first))
  next first =>
    refine (r82xxWriteRegMask_takes room (by decide) _ _).permits_bind fun _ between taken => ?_
    refine Program.permits_bind.mpr
      ((r82xxRead_leads 0x00 3 between).permits.weaken ?_ fun _ _ _ => trivial)
    rintro _ _ ⟨rfl, rfl⟩
    refine Program.permits_pure.mpr ?_
    rw [taken, decide_eq_true_iff]
    exact (or_iff_right first).symm

/-- Where `r82xx_set_pll` returns zero, it has found out whether the loop is locked. Witness:
the ten transfers that its parts take before the first look.
-/
theorem r82xxSetPll_locks (freq : UInt32) (bus : Bus R82xxPriv)
    : (r82xxSetPll freq).Permits environment
        (fun _ later =>
          later.driver.hasLock = true ↔ Locks environment.reads (bus.transfers + 10))
        (fun _ _ => True) bus := by
  refine Program.permits_bind.mpr (Program.permits_read.mpr ?_)
  refine (r82xxWriteRegMask_takes room (by decide) _ _).permits_bind fun _ _ first => ?_
  refine (r82xxWriteRegMask_takes room (by decide) _ _).permits_bind fun _ _ second => ?_
  refine (r82xxWriteRegMask_takes room (by decide) _ _).permits_bind fun _ _ third => ?_
  refine Takes.lift.permits_bind fun divider _ found => ?_
  refine (programDivider_takes room _ _).permits_bind fun _ _ tuned => ?_
  refine Takes.lift.permits_bind fun quotient _ divided => ?_
  refine Takes.require.permits_bind fun _ _ bounded => ?_
  refine (r82xxWriteReg_takes room _ _).permits_bind fun _ _ whole => ?_
  refine (programSdm_takes room _ _).permits_bind fun _ between fraction => ?_
  have taken : between.transfers = bus.transfers + 10 := by omega
  rw [← taken]
  refine Program.permits_bind.mpr
    ((awaitLock_locks room between).weaken ?_ fun _ _ _ => trivial)
  intro locked _ locks
  refine Program.permits_bind.mpr (Program.permits_modify.mpr ?_)
  split
  next =>
    refine ((r82xxWriteRegMask_leads room (by decide) 0x08 0x08 _).weaken ?_
      fun _ _ _ => trivial).permits
    rintro _ _ rfl
    exact locks
  next => exact Program.permits_pure.mpr locks

end Locks

end RtlTcpAndro.Tuners
