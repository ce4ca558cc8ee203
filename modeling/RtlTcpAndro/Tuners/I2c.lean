import RtlTcpAndro.Faults.Triples

/-! The bus between the drivers of the tuners and the registers of a tuner. What a transfer
returns, and what is read, is chosen by the environment.
-/

namespace RtlTcpAndro.Tuners

open RtlTcpAndro.Faults

/-- The configuration of a driver, and for the transfer of a number what it returns, given the
bytes it is to move, and the bytes that it reads.
-/
structure Environment.Bus (κ : Type) where
  config : κ
  returns : Nat → Nat → Int32
  reads : Nat → Nat → UInt8

/-- The registers of a tuner, the number of transfers made and what its driver keeps. -/
structure Bus (δ : Type) where
  registers : UInt8 → UInt8
  transfers : Nat
  driver : δ

/-- A function of a driver. An error that it returns is negative. -/
abbrev Driver (κ δ : Type) := Program (Environment.Bus κ) (Bus δ) Int32

variable {κ δ : Type}

/-- The registers after a message of consecutive values. -/
def stored (registers : UInt8 → UInt8) (reg : UInt8) (val : List UInt8) : UInt8 → UInt8 :=
  fun other => (val[(other - reg).toNat]?).getD (registers other)

/-- `rtlsdr_i2c_write_fn`, of a register and the values from there on. A tuner stores what was
transferred whole.
-/
def rtlsdrI2cWriteFn (reg : UInt8) (val : List UInt8) : Driver κ δ Int32 := do
  let number := (← get).transfers
  let rc := (← read).returns number (val.length + 1)
  modify fun bus => { bus with transfers := bus.transfers + 1 }
  if rc = Int32.ofNat (val.length + 1) then
    modify fun bus => { bus with registers := stored bus.registers reg val }
  return rc

/-- `rtlsdr_i2c_read_fn` -/
def rtlsdrI2cReadFn (len : Nat) : Driver κ δ (Int32 × (Nat → UInt8)) := do
  let number := (← get).transfers
  modify fun bus => { bus with transfers := bus.transfers + 1 }
  let environment ← read
  return (environment.returns number len, environment.reads number)

/-- The bus after a message: a tuner stores what was transferred whole. -/
def Bus.sent (bus : Bus δ) (environment : Environment.Bus κ) (reg : UInt8) (val : List UInt8)
    : Bus δ :=
  {
    bus with
    transfers := bus.transfers + 1
    registers :=
      if environment.returns bus.transfers (val.length + 1) = Int32.ofNat (val.length + 1) then
        stored bus.registers reg val
      else bus.registers
  }

/-- Every transfer moves all its bytes. -/
def Environment.Bus.Moves (environment : Environment.Bus κ) : Prop :=
  ∀ number len, environment.returns number len = Int32.ofNat len

/-- An environment where every transfer moves all its bytes, and those read are zero. -/
def Environment.Bus.obliging (config : κ) : Environment.Bus κ where
  config := config
  returns _ len := Int32.ofNat len
  reads _ _ := 0

variable {environment : Environment.Bus κ}

/-- A message to a tuner always returns what some transfer of its bytes returns. Witness: the
transfer of the number that the bus has counted up to.
-/
theorem rtlsdrI2cWriteFn_returns (reg : UInt8) (val : List UInt8)
    : (rtlsdrI2cWriteFn reg val : Driver κ δ Int32).Returns environment
        (fun rc => ∃ number, rc = environment.returns number (val.length + 1)) := by
  refine .bind Program.get_returns fun bus _ => ?_
  refine .bind Program.read_returns fun _ same => ?_
  subst same
  refine .bind Program.modify_returns fun _ _ => ?_
  split
  · exact .bind Program.modify_returns fun _ _ => .pure ⟨bus.transfers, rfl⟩
  · exact .pure ⟨bus.transfers, rfl⟩

/-- A read from a tuner always returns what some transfer of its length returns, with the
bytes of that transfer. Witness: the transfer of the number that the bus has counted up to.
-/
theorem rtlsdrI2cReadFn_returns (len : Nat)
    : (rtlsdrI2cReadFn len : Driver κ δ _).Returns environment
        (fun answer => ∃ number,
          answer = (environment.returns number len, environment.reads number)) := by
  refine .bind Program.get_returns fun bus _ => ?_
  refine .bind Program.modify_returns fun _ _ => ?_
  refine .bind Program.read_returns fun _ same => ?_
  subst same
  exact .pure ⟨bus.transfers, rfl⟩

section Leads

variable {fails : Int32 → Bus δ → Prop} {bus : Bus δ}

/-- A message leads wherever its answer leads on the bus after it, which is the exact
condition. Witness: the parts of the program one by one, with and without the store.
-/
theorem rtlsdrI2cWriteFn_leads {returns : Int32 → Bus δ → Prop} (reg : UInt8) (val : List UInt8)
    : (rtlsdrI2cWriteFn reg val : Driver κ δ Int32).Leads environment returns fails bus
      ↔ returns (environment.returns bus.transfers (val.length + 1))
          (bus.sent environment reg val) := by
  unfold rtlsdrI2cWriteFn Bus.sent
  simp only [Program.leads_bind, Program.leads_get, Program.leads_read, Program.leads_modify]
  split
  · simp only [Program.leads_bind, Program.leads_modify, Program.leads_pure]
  · simp only [Program.leads_pure]

/-- A read leads wherever its answer and its bytes lead on a bus with one transfer more, which
is the exact condition. Witness: the parts of the program one by one.
-/
theorem rtlsdrI2cReadFn_leads {returns : Int32 × (Nat → UInt8) → Bus δ → Prop} (len : Nat)
    : (rtlsdrI2cReadFn len : Driver κ δ _).Leads environment returns fails bus
      ↔ returns (environment.returns bus.transfers len, environment.reads bus.transfers)
          { bus with transfers := bus.transfers + 1 } := by
  unfold rtlsdrI2cReadFn
  simp only [Program.leads_bind, Program.leads_get, Program.leads_read, Program.leads_modify,
    Program.leads_pure]

end Leads

-----------------------------------------------------------------------------------------
-- What is left as it was
-----------------------------------------------------------------------------------------

section Frames

variable {spared : UInt8 → Prop} {α β : Type}

/-- Whatever the transfers return, a program leaves some registers as they were. It fails only
where a transfer does.
-/
def Spares (program : Driver κ δ α) (environment : Environment.Bus κ)
    (spared : UInt8 → Prop)
    : Prop :=
  ∀ bus, program.Leads environment
    (fun _ later => ∀ reg, spared reg → later.registers reg = bus.registers reg)
    (fun _ later =>
      (∀ reg, spared reg → later.registers reg = bus.registers reg) ∧ ¬ environment.Moves)
    bus

/-- A value leaves every register as it was and does not fail, by reflexivity. -/
theorem Spares.pure {value : α} : Spares (Pure.pure value : Driver κ δ α) environment spared :=
  fun _ => Program.leads_pure.mpr fun _ _ => rfl

/-- A sequence spares the registers that both of its parts spare. Witness: the equations of
the two are chained, also where the second part fails.
-/
theorem Spares.bind {first : Driver κ δ α} {rest : α → Driver κ δ β}
    (before : Spares first environment spared)
    (next : ∀ value, Spares (rest value) environment spared)
    : Spares (first >>= rest) environment spared := by
  intro bus
  refine Program.leads_bind.mpr ((before bus).weaken ?_ fun _ _ failed => failed)
  intro value between kept
  refine (next value between).weaken ?_ ?_
  · intro _ later same reg chosen
    exact (same reg chosen).trans (kept reg chosen)
  · rintro _ later ⟨same, failed⟩
    exact ⟨fun reg chosen => (same reg chosen).trans (kept reg chosen), failed⟩

/-- An update of the bus that leaves some registers as they were spares these, and it does not
fail.
-/
theorem Spares.modify {update : Bus δ → Bus δ}
    (same : ∀ bus reg, spared reg → (update bus).registers reg = bus.registers reg)
    : Spares (modify update : Driver κ δ PUnit) environment spared :=
  fun bus => Program.leads_modify.mpr (same bus)

/-- A value that is stored at a register is found there. Witness: the offset of the register
from itself is zero.
-/
theorem stored_self (registers : UInt8 → UInt8) (reg val : UInt8)
    : stored registers reg [val] reg = val := by
  unfold stored
  rw [UInt8.sub_self]
  rfl

/-- A value that is stored at a register leaves every other one alone. Witness: the offset of
another one is not zero, and the message has no further value.
-/
theorem stored_other {registers : UInt8 → UInt8} {reg other val : UInt8} (differs : other ≠ reg)
    : stored registers reg [val] other = registers other := by
  unfold stored
  cases offset : (other - reg).toNat with
  | zero =>
      have none : other - reg = 0 := UInt8.toNat_inj.mp offset
      refine absurd ?_ differs
      rw [← UInt8.sub_add_cancel other reg, none, UInt8.zero_add]
  | succ more => rfl

end Frames

end RtlTcpAndro.Tuners
