import RtlTcpAndro.Tuners.R82xxWrites

/-! Runs of the writes of `tuner_r82xx.c`, and the shadow that its masked writes take the bits from
that they do not mean to change. A write that fails leaves the shadow with values that the chip
does not have.
-/

namespace RtlTcpAndro.Tuners

open RtlTcpAndro.Faults
open RtlTcpAndro.Registers

-----------------------------------------------------------------------------------------
-- Calls
-----------------------------------------------------------------------------------------

/-- `r82xx_init_array`, of which the last values are not given. -/
def r82xxInitArray : List UInt8 :=
  [0x83, 0x32, 0x75,
    0xc0, 0x40, 0xd6, 0x6c,
    0xf5, 0x63, 0x75, 0x68,
    0x6c, 0x83, 0x80, 0x00,
    0x0f, 0x00, 0xc0, 0x30,
    0x48, 0xcc, 0x60, 0x00,
    0x54, 0xae, 0x4a, 0xc0,
    0x00, 0x00, 0x00]

/-- The calls of the functions that write. -/
inductive R82xxCall
  | write (reg : UInt8) (val : List UInt8)
  | writeReg (reg val : UInt8)
  | writeRegMask (reg val bitMask : UInt8)

namespace R82xxCall

def program : R82xxCall → R82xx Unit
  | .write reg val => r82xxWrite reg val
  | .writeReg reg val => r82xxWriteReg reg val
  | .writeRegMask reg val bitMask => r82xxWriteRegMask reg val bitMask

/-- The first register that a call names. -/
def reg : R82xxCall → UInt8
  | .write reg _ => reg
  | .writeReg reg _ => reg
  | .writeRegMask reg _ _ => reg

/-- The values that a call writes: a masked one takes bits from the shadow. -/
def values (driver : R82xxPriv) : R82xxCall → List UInt8
  | .write _ val => val
  | .writeReg _ val => [val]
  | .writeRegMask reg val bitMask =>
      [merge (driver.regs (reg.toNat - regShadowStart)) val bitMask]

/-- The number of registers that a call names. -/
def count : R82xxCall → Nat
  | .write _ val => val.length
  | .writeReg _ _ => 1
  | .writeRegMask _ _ _ => 1

/-- A call names registers from 0x05 to 0x1f, or from one of them on. -/
def InRange (call : R82xxCall) : Prop :=
  5 ≤ call.reg ∧ call.reg ≤ 0x1f ∧ call.reg.toNat + call.count ≤ 256

instance (call : R82xxCall) : Decidable call.InRange :=
  inferInstanceAs (Decidable (_ ∧ _ ∧ _))

end R82xxCall

/-- A call that was made, with the bus before and after it and what it returned. -/
structure Called where
  call : R82xxCall
  before : Bus R82xxPriv
  after : Bus R82xxPriv
  outcome : Except Int32 Unit

/-- The calls made so far, the last of them first, and the bus that they leave. -/
inductive Ran (environment : Environment.Bus R82xxConfig) (start : Bus R82xxPriv)
    : List Called → Bus R82xxPriv → Prop
  | start : Ran environment start [] start
  | call {history : List Called} {called : Called}
      (earlier : Ran environment start history called.before)
      (inRange : called.call.InRange)
      (ran : called.call.program environment called.before = .ok (called.outcome, called.after))
    : Ran environment start (called :: history) called.after

/-- A call sends consecutive values from its register on, and where it succeeds the chip holds them
and is unchanged elsewhere, also outside the mask of a masked write.
-/
structure Called.Sound (environment : Environment.Bus R82xxConfig) (called : Called)
    : Prop where
  messages
    : ∃ messages,
        Consecutive (messageSize environment.config) called.call.reg
          (called.call.values called.before.driver) messages
        ∧ called.call.program environment called.before
          = (do
              shadowStore called.call.reg (called.call.values called.before.driver)
              sendMessages messages) environment called.before
  named
    : called.outcome = .ok ()
      → ∀ i (inside : i < (called.call.values called.before.driver).length),
          called.after.registers (called.call.reg + UInt8.ofNat i)
          = (called.call.values called.before.driver)[i]
  unnamed
    : called.outcome = .ok ()
      → ∀ other,
          (∀ i < called.call.count, other ≠ called.call.reg + UInt8.ofNat i)
          → called.after.registers other = called.before.registers other
  masked
    : called.outcome = .ok ()
      → ∀ reg val bitMask,
          called.call = .writeRegMask reg val bitMask
          → called.after.registers reg &&& ~~~bitMask
            = called.before.registers reg &&& ~~~bitMask

/-- The shadow holds what the chip does. -/
def Bus.Agrees (bus : Bus R82xxPriv) : Prop :=
  ∀ i < numRegs, bus.driver.regs i = bus.registers (UInt8.ofNat (regShadowStart + i))

/-- A history starts with the write of `r82xx_init`. -/
def Initialized (history : List Called) : Prop :=
  ∃ later first, history = later ++ [first] ∧ first.call = .write 0x05 r82xxInitArray

/-- Every call of a run is sound, and where all of them succeed the shadow agrees with the chip if
it did at the start or the run starts with the write of `r82xx_init`.
-/
structure RunSound (environment : Environment.Bus R82xxConfig) (start : Bus R82xxPriv)
    (history : List Called) (last : Bus R82xxPriv)
    : Prop where
  calls : ∀ called ∈ history, called.Sound environment
  agrees
    : start.Agrees ∨ Initialized history
      → (∀ called ∈ history, called.outcome = .ok ())
      → last.Agrees

/-- If a call is a masked write that succeeds, the shadow agreed with the chip outside its mask. -/
def Called.MaskAgrees (called : Called) : Prop :=
  called.outcome = .ok ()
  → ∀ reg val bitMask,
      called.call = .writeRegMask reg val bitMask
      → called.before.driver.regs (reg.toNat - regShadowStart) &&& ~~~bitMask
        = called.before.registers reg &&& ~~~bitMask

-----------------------------------------------------------------------------------------
-- One call
-----------------------------------------------------------------------------------------

section Calls

variable {environment : Environment.Bus R82xxConfig}

/-- A call stores as many values as it counts. Witness: the kinds of call. -/
theorem R82xxCall.length_values (call : R82xxCall) (driver : R82xxPriv)
    : (call.values driver).length = call.count := by
  cases call <;> rfl

/-- Every call writes its values. -/
theorem R82xxCall.program_eq {call : R82xxCall} (inRange : call.InRange)
    (bus : Bus R82xxPriv)
    : call.program environment bus
      = r82xxWrite call.reg (call.values bus.driver) environment bus := by
  cases call with
  | write reg val => rfl
  | writeReg reg val => rfl
  | writeRegMask reg val bitMask =>
      obtain ⟨least, most, -⟩ := inRange
      have shadowed : regShadowStart ≤ reg.toNat ∧ reg.toNat - regShadowStart < numRegs := by
        have lower := UInt8.le_iff_toNat_le.mp least
        have upper := UInt8.le_iff_toNat_le.mp most
        change 5 ≤ reg.toNat at lower
        change reg.toNat ≤ 31 at upper
        unfold regShadowStart numRegs
        omega
      have cached : r82xxReadCacheReg reg environment bus
          = .ok (.ok (bus.driver.regs (reg.toNat - regShadowStart)), bus) := by
        rw [r82xxReadCacheReg, Program.require, if_pos shadowed]
        rfl
      exact Program.bind_of_ok cached

/-- A register that the message names holds the value for it. Witness: its offset in the
message does not wrap.
-/
theorem stored_named {registers : UInt8 → UInt8} {reg : UInt8} {val : List UInt8}
    (fits : val.length ≤ 256) {i : Nat} (inside : i < val.length)
    : stored registers reg val (reg + UInt8.ofNat i) = val[i] := by
  have offset : (reg + UInt8.ofNat i - reg).toNat = i := by
    rw [UInt8.add_comm, UInt8.add_sub_cancel, UInt8.toNat_ofNat']
    exact Nat.mod_eq_of_lt (by omega)
  rw [stored, offset, List.getElem?_eq_getElem inside, Option.getD_some]

/-- A register that the message does not name keeps its value. Witness: its offset lies beyond
the values.
-/
theorem stored_unnamed {registers : UInt8 → UInt8} {reg other : UInt8} {val : List UInt8}
    (unnamed : ∀ i < val.length, other ≠ reg + UInt8.ofNat i)
    : stored registers reg val other = registers other := by
  have beyond : val.length ≤ (other - reg).toNat := by
    refine Nat.le_of_not_lt fun inside => unnamed _ inside ?_
    rw [UInt8.ofNat_toNat, UInt8.add_comm, UInt8.sub_add_cancel]
  rw [stored, List.getElem?_eq_none beyond, Option.getD_none]

variable {called : Called}

/-- A call in range stores no more values than there are registers. Witness: its count is
bounded.
-/
theorem Called.length_le (inRange : called.call.InRange)
    : (called.call.values called.before.driver).length ≤ 256 := by
  rw [R82xxCall.length_values]
  exact Nat.le_trans (Nat.le_add_left _ _) inRange.2.2

/-- A call that succeeds leaves its values in the chip and in the shadow. -/
theorem Called.stores (room : 2 ≤ environment.config.maxI2cMsgLen.toNat)
    (inRange : called.call.InRange)
    (ran : called.call.program environment called.before = .ok (called.outcome, called.after))
    (succeeded : called.outcome = .ok ())
    : called.after.registers
        = stored called.before.registers called.call.reg
            (called.call.values called.before.driver)
      ∧ called.after.driver
        = (called.before.shadows called.call.reg
            (called.call.values called.before.driver)).driver := by
  rw [R82xxCall.program_eq inRange, succeeded] at ran
  exact (Program.leads_of_ok ran).mp
    (r82xxWrite_leads room called.call.reg (Called.length_le inRange) called.before)

/-- A masked write that succeeds keeps the bits outside its mask if and only if the shadow had
them.
-/
theorem Called.masked_iff (room : 2 ≤ environment.config.maxI2cMsgLen.toNat)
    (inRange : called.call.InRange)
    (ran : called.call.program environment called.before = .ok (called.outcome, called.after))
    (succeeded : called.outcome = .ok ()) {reg val bitMask : UInt8}
    (masked : called.call = .writeRegMask reg val bitMask)
    : called.after.registers reg &&& ~~~bitMask = called.before.registers reg &&& ~~~bitMask
      ↔ called.before.driver.regs (reg.toNat - regShadowStart) &&& ~~~bitMask
        = called.before.registers reg &&& ~~~bitMask := by
  have stores := (Called.stores room inRange ran succeeded).1
  rw [masked] at stores
  have written : called.after.registers reg
      = merge (called.before.driver.regs (reg.toNat - regShadowStart)) val bitMask := by
    rw [stores]
    exact stored_self _ _ _
  rw [written, merge_and_not_mask]

/-- What is asserted of a call always holds, but for the bits outside the mask. -/
theorem Called.sound_iff (room : 2 ≤ environment.config.maxI2cMsgLen.toNat)
    (inRange : called.call.InRange)
    (ran : called.call.program environment called.before = .ok (called.outcome, called.after))
    : called.Sound environment ↔ called.MaskAgrees := by
  constructor
  · intro sound succeeded reg val bitMask masked
    exact (Called.masked_iff room inRange ran succeeded masked).mp
      (sound.masked succeeded reg val bitMask masked)
  · intro agrees
    refine ⟨?_, ?_, ?_, ?_⟩
    · obtain ⟨messages, consecutive, sent⟩ :=
        r82xxWrite_sends room called.call.reg (called.call.values called.before.driver)
      refine ⟨messages, consecutive, ?_⟩
      rw [R82xxCall.program_eq inRange, sent]
    · intro succeeded i inside
      rw [(Called.stores room inRange ran succeeded).1]
      exact stored_named (Called.length_le inRange) inside
    · intro succeeded other unnamed
      rw [(Called.stores room inRange ran succeeded).1]
      refine stored_unnamed fun i inside => unnamed i ?_
      rwa [R82xxCall.length_values] at inside
    · intro succeeded reg val bitMask masked
      exact (Called.masked_iff room inRange ran succeeded masked).mpr
        (agrees succeeded reg val bitMask masked)

end Calls

-----------------------------------------------------------------------------------------
-- The shadow
-----------------------------------------------------------------------------------------

section Shadows

variable {environment : Environment.Bus R82xxConfig} {start last : Bus R82xxPriv}

/-- Where the shadow holds what the chip does, or is named, it does so after the write. -/
theorem shadowed_eq_stored {regs : Nat → UInt8} {registers : UInt8 → UInt8} {reg : UInt8}
    {val : List UInt8} (least : 5 ≤ reg.toNat) (fits : reg.toNat + val.length ≤ 256) {i : Nat}
    (bound : i < numRegs)
    (agrees
      : regs i = registers (UInt8.ofNat (regShadowStart + i))
        ∨ (reg.toNat ≤ 5 + i ∧ 5 + i < reg.toNat + val.length))
    : shadowed regs reg val i = stored registers reg val (UInt8.ofNat (regShadowStart + i)) := by
  unfold numRegs at bound
  have offset : (UInt8.ofNat (regShadowStart + i) - reg).toNat
      = (256 - reg.toNat + (5 + i)) % 256 := by
    rw [UInt8.toNat_sub, UInt8.toNat_ofNat']
    unfold regShadowStart
    omega
  unfold shadowed stored
  rw [offset]
  by_cases named : reg.toNat ≤ 5 + i ∧ 5 + i < reg.toNat + val.length
  · have inside : (256 - reg.toNat + (5 + i)) % 256 = i - (reg.toNat - 5) := by omega
    have covered : reg.toNat - regShadowStart ≤ i
        ∧ i < reg.toNat - regShadowStart
          + min (val.length - (regShadowStart - reg.toNat))
            (numRegs - (reg.toNat - regShadowStart)) := by
      unfold regShadowStart numRegs
      omega
    have within : i - (reg.toNat - 5) < val.length := by omega
    simp only []
    rw [if_pos covered, inside, List.getD_eq_getElem?_getD]
    change val[i - (reg.toNat - 5)]?.getD 0 = _
    rw [List.getElem?_eq_getElem within, Option.getD_some, Option.getD_some]
  · have outside : val.length ≤ (256 - reg.toNat + (5 + i)) % 256 := by omega
    have uncovered : ¬ (reg.toNat - regShadowStart ≤ i
        ∧ i < reg.toNat - regShadowStart
          + min (val.length - (regShadowStart - reg.toNat))
            (numRegs - (reg.toNat - regShadowStart))) := by
      unfold regShadowStart numRegs
      omega
    simp only []
    rw [if_neg uncovered, List.getElem?_eq_none outside, Option.getD_none]
    exact agrees.resolve_right named

/-- A successful call in range leaves shadow and registers in agreement, if they were, or if
it is the write of the whole array. Witness: both store the same values at the same places.
-/
theorem Called.agrees {called : Called} (room : 2 ≤ environment.config.maxI2cMsgLen.toNat)
    (inRange : called.call.InRange)
    (ran : called.call.program environment called.before = .ok (called.outcome, called.after))
    (succeeded : called.outcome = .ok ())
    (before : called.before.Agrees ∨ called.call = .write 0x05 r82xxInitArray)
    : called.after.Agrees := by
  obtain ⟨registers, driver⟩ := Called.stores room inRange ran succeeded
  intro i bound
  rw [registers, driver]
  refine shadowed_eq_stored (UInt8.le_iff_toNat_le.mp inRange.1) ?_ bound ?_
  · rw [R82xxCall.length_values]
    exact inRange.2.2
  · obtain agrees | first := before
    · exact .inl (agrees i bound)
    · rw [first]
      refine .inr ⟨Nat.le_add_right 5 i, ?_⟩
      change 5 + i < 5 + 30
      unfold numRegs at bound
      omega

/-- The calls of a run, one by one. -/
theorem Ran.made {history : List Called} (ran : Ran environment start history last)
    : ∀ called ∈ history,
        called.call.InRange
        ∧ called.call.program environment called.before
          = .ok (called.outcome, called.after) := by
  induction ran with
  | start => exact fun called member => absurd member List.not_mem_nil
  | call earlier inRange made ih =>
      intro called member
      obtain rfl | before := List.mem_cons.mp member
      · exact ⟨inRange, made⟩
      · exact ih called before

/-- A run of calls that all succeed. By induction on the calls, of which the first may be the
write of `r82xx_init`.
-/
theorem Ran.agrees (room : 2 ≤ environment.config.maxI2cMsgLen.toNat) {history : List Called}
    (ran : Ran environment start history last)
    (first : start.Agrees ∨ Initialized history)
    (succeeded : ∀ called ∈ history, called.outcome = .ok ())
    : last.Agrees := by
  induction ran with
  | start =>
      refine first.resolve_right ?_
      rintro ⟨later, first, none, -⟩
      exact absurd none (by simp)
  | @call history called earlier inRange ran ih =>
      refine Called.agrees room inRange ran (succeeded called List.mem_cons_self) ?_
      have before (agrees : start.Agrees ∨ Initialized history) : called.before.Agrees :=
        ih agrees fun other member => succeeded other (List.mem_cons_of_mem _ member)
      obtain agrees | ⟨later, initial, same, write⟩ := first
      · exact .inl (before (.inl agrees))
      · cases later with
        | nil =>
            obtain ⟨rfl, rfl⟩ := List.cons.inj same
            exact .inr write
        | cons latest later =>
            obtain ⟨rfl, rfl⟩ := List.cons.inj same
            exact .inl (before (.inr ⟨later, initial, rfl, write⟩))

/-- A run is sound if and only if the shadow agreed with the chip outside the mask of each masked
write that succeeded.
-/
theorem r82xxWrites_sound_iff (room : 2 ≤ environment.config.maxI2cMsgLen.toNat)
    {history : List Called} (ran : Ran environment start history last)
    : RunSound environment start history last ↔ ∀ called ∈ history, called.MaskAgrees := by
  have calls
      : (∀ called ∈ history, called.Sound environment)
        ↔ ∀ called ∈ history, called.MaskAgrees :=
    forall₂_congr fun called member =>
      Called.sound_iff room (ran.made called member).1 (ran.made called member).2
  rw [← calls]
  exact ⟨fun sound => sound.calls, fun sound => ⟨sound, Ran.agrees room ran⟩⟩

/-- A driver of a tuner whose registers are all zero, and its configuration. -/
def zeroBus : Bus R82xxPriv := ⟨fun _ => 0, 0, ⟨fun _ => 0, false⟩⟩

def smallConfig : R82xxConfig := ⟨28800000, .r820t, 2, false⟩

/-- A write of register 0x06, and one of its upper half. -/
theorem r82xxWrites_sound_halves
    : RunSound (.obliging smallConfig) zeroBus
        [⟨.writeRegMask 0x06 0x80 0xf0, zeroBus.wrote 0x06 [0x32],
            (zeroBus.wrote 0x06 [0x32]).wrote 0x06 [0x82], .ok ()⟩,
          ⟨.writeReg 0x06 0x32, zeroBus, zeroBus.wrote 0x06 [0x32], .ok ()⟩]
        ((zeroBus.wrote 0x06 [0x32]).wrote 0x06 [0x82]) := by
  have room : 2 ≤ (Environment.Bus.obliging smallConfig).config.maxI2cMsgLen.toNat := by decide
  have first : Ran (.obliging smallConfig) zeroBus
      [⟨.writeReg 0x06 0x32, zeroBus, zeroBus.wrote 0x06 [0x32], .ok ()⟩]
      (zeroBus.wrote 0x06 [0x32]) :=
    .call .start (by decide) rfl
  refine (r82xxWrites_sound_iff room (.call first (by decide) rfl)).mpr ?_
  intro called member
  obtain rfl | earlier := List.mem_cons.mp member
  · rintro - _ _ _ ⟨⟩
    decide
  · obtain rfl := List.mem_singleton.mp earlier
    rintro - _ _ _ ⟨⟩

/-- An environment where the first transfer fails. -/
def failsFirst : Environment.Bus R82xxConfig where
  config := smallConfig
  returns number len := if number = 0 then -7 else Int32.ofNat len
  reads _ _ := 0

/-- The bus after a write of register 0x05 that failed. -/
def failedBus : Bus R82xxPriv := { zeroBus.shadows 0x05 [0x60] with transfers := 1 }

/-- A write of register 0x05 fails, and the masked write after it changes bits outside its mask. -/
theorem r82xxWrites_unmasked
    : ¬ ∀ (environment : Environment.Bus R82xxConfig) (start last : Bus R82xxPriv)
          (history : List Called),
        2 ≤ environment.config.maxI2cMsgLen.toNat
        → Ran environment start history last
        → RunSound environment start history last := by
  intro sound
  have room : 2 ≤ failsFirst.config.maxI2cMsgLen.toNat := by decide
  have first : Ran failsFirst zeroBus
      [⟨.writeReg 0x05 0x60, zeroBus, failedBus, .error (-7)⟩] failedBus :=
    .call .start (by decide) rfl
  have second : Ran failsFirst zeroBus
      [⟨.writeRegMask 0x05 0x10 0x10, failedBus, failedBus.wrote 0x05 [0x70], .ok ()⟩,
        ⟨.writeReg 0x05 0x60, zeroBus, failedBus, .error (-7)⟩]
      (failedBus.wrote 0x05 [0x70]) :=
    .call first (by decide) rfl
  have masked := ((sound _ _ _ _ room second).calls _ List.mem_cons_self).masked rfl _ _ _ rfl
  revert masked
  decide

end Shadows

end RtlTcpAndro.Tuners
