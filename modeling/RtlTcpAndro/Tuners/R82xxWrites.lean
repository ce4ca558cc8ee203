import RtlTcpAndro.Registers.Masks
import RtlTcpAndro.Tuners.R82xxLoops

/-! What the writes of `tuner_r82xx.c` send, and what they leave in the chip and in its shadow,
which is stored before the first message is sent.
-/

namespace RtlTcpAndro.Tuners

open RtlTcpAndro.Faults
open RtlTcpAndro.Registers

-----------------------------------------------------------------------------------------
-- Messages
-----------------------------------------------------------------------------------------

/-- Messages that carry the values of a register and of those after it: as many of them as fit in
each, and the rest in the last.
-/
inductive Consecutive (size : Nat) : UInt8 → List UInt8 → List (UInt8 × List UInt8) → Prop
  | last {reg : UInt8} {val : List UInt8} (fits : val.length ≤ size)
    : Consecutive size reg val [(reg, val)]
  | more {reg : UInt8} {first rest : List UInt8} {messages : List (UInt8 × List UInt8)}
      (full : first.length = size) (left : rest ≠ [])
      (next : Consecutive size (reg + UInt8.ofNat size) rest messages)
    : Consecutive size reg (first ++ rest) ((reg, first) :: messages)

/-- Messages sent one after the other, until one is not moved whole. -/
def sendMessages : List (UInt8 × List UInt8) → R82xx Unit
  | [] => return ()
  | (reg, val) :: rest => do
      let rc ← rtlsdrI2cWriteFn reg val
      Program.require (rc = Int32.ofNat (val.length + 1)) (if rc < 0 then rc else -1)
      sendMessages rest

/-- The values that fit in a message. -/
def messageSize (config : R82xxConfig) : Nat := (config.maxI2cMsgLen - 1).toNat

section Messages

variable {environment : Environment.Bus R82xxConfig}

/-- A bus that carries two bytes has room for one value beside the register. Witness: the
subtraction does not wrap.
-/
theorem messageSize_pos (room : 2 ≤ environment.config.maxI2cMsgLen.toNat)
    : 0 < messageSize environment.config := by
  have one : (1 : UInt32) ≤ environment.config.maxI2cMsgLen :=
    UInt32.le_iff_toNat_le.mpr (Nat.le_of_succ_le room)
  rw [messageSize, UInt32.toNat_sub_of_le _ _ one]
  exact Nat.le_sub_of_add_le room

/-- One round sends a message of what is left and goes on with the rest. Witness: by
definition.
-/
theorem writeMessages_eq (rounds : Nat) (reg : UInt8) (val : List UInt8)
    : writeMessages (rounds + 1) reg val environment
      = (do
          let size := min val.length (messageSize environment.config)
          let rc ← rtlsdrI2cWriteFn reg (val.take size)
          Program.require (rc = Int32.ofNat (size + 1)) (if rc < 0 then rc else -1)
          if size < val.length then
            writeMessages rounds (reg + UInt8.ofNat size) (val.drop size)
          : R82xx Unit) environment :=
  rfl

/-- A program and what goes on from it in an environment. -/
theorem bind_at {α β : Type} (first : R82xx α) (rest : α → R82xx β)
    : (first >>= rest) environment = first environment >>= fun value => rest value environment :=
  rfl

/-- The loop of `r82xx_write` sends consecutive messages. By induction on its rounds. -/
theorem writeMessages_sends (room : 2 ≤ environment.config.maxI2cMsgLen.toNat) {rounds : Nat}
    {reg : UInt8} {val : List UInt8} (enough : val.length < rounds)
    : ∃ messages,
        Consecutive (messageSize environment.config) reg val messages
        ∧ writeMessages rounds reg val environment = sendMessages messages environment := by
  induction rounds generalizing reg val with
  | zero => exact absurd enough (Nat.not_lt_zero _)
  | succ rounds ih =>
      have positive := messageSize_pos room
      rw [writeMessages_eq]
      by_cases fits : val.length ≤ messageSize environment.config
      · refine ⟨[(reg, val)], .last fits, ?_⟩
        rw [Nat.min_eq_left fits]
        simp only [List.take_length, Nat.lt_irrefl, if_false]
        rfl
      · have long := Nat.lt_of_not_le fits
        have fewer : (val.drop (messageSize environment.config)).length < rounds := by
          rw [List.length_drop]
          omega
        obtain ⟨messages, consecutive, sent⟩ :=
          @ih (reg + UInt8.ofNat (messageSize environment.config)) _ fewer
        have full : (val.take (messageSize environment.config)).length
            = messageSize environment.config :=
          List.length_take_of_le (Nat.le_of_lt long)
        refine ⟨(reg, val.take (messageSize environment.config)) :: messages, ?_, ?_⟩
        · have left : val.drop (messageSize environment.config) ≠ [] := by
            rw [Ne, List.drop_eq_nil_iff]
            exact fits
          have parts := Consecutive.more full left consecutive
          rwa [List.take_append_drop] at parts
        · rw [Nat.min_eq_right (Nat.le_of_lt long), sendMessages, full]
          simp only [long, if_true, bind_at, sent]

/-- Messages that follow one another store what one message would, for at most 256 values. -/
theorem stored_append {registers : UInt8 → UInt8} {reg : UInt8} {first rest : List UInt8}
    (named : first.length + rest.length ≤ 256)
    : stored (stored registers reg first) (reg + UInt8.ofNat first.length) rest
      = stored registers reg (first ++ rest) := by
  funext other
  have near : (other - reg).toNat = (256 - reg.toNat + other.toNat) % 256 := UInt8.toNat_sub _ _
  have far : (other - (reg + UInt8.ofNat first.length)).toNat
      = (256 - (reg.toNat + first.length % 256) % 256 + other.toNat) % 256 := by
    rw [UInt8.toNat_sub, UInt8.toNat_add, UInt8.toNat_ofNat']
  have here := other.toNat_lt
  have start := reg.toNat_lt
  unfold stored
  by_cases early : (other - reg).toNat < first.length
  · have late : rest.length ≤ (other - (reg + UInt8.ofNat first.length)).toNat := by omega
    rw [List.getElem?_eq_none late, List.getElem?_append_left early]
    rfl
  · have within : (other - (reg + UInt8.ofNat first.length)).toNat
        = (other - reg).toNat - first.length := by
      omega
    rw [within, List.getElem?_append_right (Nat.le_of_not_lt early),
      List.getElem?_eq_none (Nat.le_of_not_lt early)]
    rfl

/-- A single value goes out in one message. Witness: a second message would need a second
value.
-/
theorem Consecutive.single {size : Nat} {reg val : UInt8} {messages : List (UInt8 × List UInt8)}
    (consecutive : Consecutive size reg [val] messages) (positive : 0 < size)
    : messages = [(reg, [val])] := by
  generalize same : [val] = values at consecutive
  cases consecutive with
  | last => rfl
  | more full left next =>
      have lengths := congrArg List.length same
      rw [List.length_append, List.length_singleton] at lengths
      have rest := List.length_pos_iff.mpr left
      omega

/-- Storing no values changes nothing. Witness: by definition. -/
theorem stored_nil (registers : UInt8 → UInt8) (reg : UInt8)
    : stored registers reg [] = registers :=
  rfl

/-- Of consecutive messages a first part is moved, which is all of them where none fails. By
induction on the messages.
-/
theorem sendMessages_leads {size : Nat} {reg : UInt8} {val : List UInt8}
    {messages : List (UInt8 × List UInt8)} (consecutive : Consecutive size reg val messages)
    (named : val.length ≤ 256) (bus : Bus R82xxPriv)
    : (sendMessages messages).Leads environment
        (fun _ later =>
          later.registers = stored bus.registers reg val
          ∧ later.transfers = bus.transfers + messages.length
          ∧ later.driver = bus.driver)
        (fun _ later =>
          (∃ moved, later.registers = stored bus.registers reg (val.take moved))
          ∧ later.driver = bus.driver
          ∧ ¬ environment.Moves)
        bus := by
  induction consecutive generalizing bus with
  | @last reg val fits =>
      refine Program.leads_bind.mpr ((rtlsdrI2cWriteFn_leads reg val).mpr ?_)
      refine Program.leads_bind.mpr
        (Program.leads_require.mpr ⟨fun whole => Program.leads_pure.mpr ?_, fun failed => ?_⟩)
      · exact ⟨if_pos whole, rfl, rfl⟩
      · exact ⟨⟨0, if_neg failed⟩, rfl, fun moves => failed (moves _ _)⟩
  | @more reg first rest messages full left next ih =>
      rw [List.length_append] at named
      refine Program.leads_bind.mpr ((rtlsdrI2cWriteFn_leads reg first).mpr ?_)
      refine Program.leads_bind.mpr
        (Program.leads_require.mpr ⟨fun whole => ?_, fun failed => ?_⟩)
      · have moved : (bus.sent environment reg first).registers = stored bus.registers reg first :=
          if_pos whole
        have joined (part : List UInt8) (fewer : part.length ≤ rest.length)
            : stored (bus.sent environment reg first).registers (reg + UInt8.ofNat size) part
              = stored bus.registers reg (first ++ part) := by
          rw [moved, ← full]
          exact stored_append (by omega)
        refine (ih (by omega) (bus.sent environment reg first)).weaken ?_ ?_
        · rintro _ later ⟨registers, transfers, driver⟩
          refine ⟨registers.trans (joined rest (Nat.le_refl _)), ?_, driver⟩
          rw [transfers, List.length_cons]
          change bus.transfers + 1 + _ = _
          omega
        · rintro _ later ⟨⟨count, registers⟩, driver, failed⟩
          refine ⟨⟨first.length + count, ?_⟩, driver, failed⟩
          rw [registers, joined _ (List.length_take_le' _ _), List.take_length_add_append]
      · exact ⟨⟨0, if_neg failed⟩, rfl, fun moves => failed (moves _ _)⟩

end Messages

-----------------------------------------------------------------------------------------
-- Writes
-----------------------------------------------------------------------------------------

/-- The shadow after values are stored in it. -/
def shadowed (regs : Nat → UInt8) (reg : UInt8) (val : List UInt8) : Nat → UInt8 :=
  fun i =>
    let r := reg.toNat - regShadowStart
    let len := min (val.length - (regShadowStart - reg.toNat)) (numRegs - r)
    if r ≤ i ∧ i < r + len then val.getD (i - r) 0 else regs i

/-- The bus after values are stored in the shadow. -/
def Bus.shadows (bus : Bus R82xxPriv) (reg : UInt8) (val : List UInt8) : Bus R82xxPriv :=
  { bus with driver := { bus.driver with regs := shadowed bus.driver.regs reg val } }

/-- The bus after values are written with one message. -/
def Bus.wrote (bus : Bus R82xxPriv) (reg : UInt8) (val : List UInt8) : Bus R82xxPriv :=
  {
    bus.shadows reg val with
    registers := stored bus.registers reg val
    transfers := bus.transfers + 1
  }

/-- A value written is the register's. Witness: `stored_self`. -/
theorem Bus.wrote_self (bus : Bus R82xxPriv) (reg val : UInt8)
    : (bus.wrote reg [val]).registers reg = val :=
  stored_self _ _ _

/-- The other registers keep theirs. Witness: `stored_other`. -/
theorem Bus.wrote_other {bus : Bus R82xxPriv} {reg other val : UInt8} (differs : other ≠ reg)
    : (bus.wrote reg [val]).registers other = bus.registers other :=
  stored_other differs

section Writes

variable {environment : Environment.Bus R82xxConfig}

/-- Storing values in the shadow leads to that shadow and cannot fail. Witness: it is one
change of the state.
-/
theorem shadowStore_leads {returns : Unit → Bus R82xxPriv → Prop}
    {fails : Int32 → Bus R82xxPriv → Prop} {bus : Bus R82xxPriv} (reg : UInt8)
    (val : List UInt8)
    : (shadowStore reg val).Leads environment returns fails bus
      ↔ returns () (bus.shadows reg val) :=
  Program.leads_modify

/-- A write shadows all its values and sends consecutive messages. -/
theorem r82xxWrite_sends (room : 2 ≤ environment.config.maxI2cMsgLen.toNat) (reg : UInt8)
    (val : List UInt8)
    : ∃ messages,
        Consecutive (messageSize environment.config) reg val messages
        ∧ r82xxWrite reg val environment
          = (do
              shadowStore reg val
              sendMessages messages) environment := by
  obtain ⟨messages, consecutive, sent⟩ :=
    writeMessages_sends room (Nat.lt_succ_self val.length)
  refine ⟨messages, consecutive, ?_⟩
  rw [r82xxWrite]
  simp only [bind_at, sent]

/-- A write that succeeds leaves all its values in the chip, and one that fails the first of
them. Both leave all of them in the shadow.
-/
theorem r82xxWrite_leads (room : 2 ≤ environment.config.maxI2cMsgLen.toNat) (reg : UInt8)
    {val : List UInt8} (named : val.length ≤ 256) (bus : Bus R82xxPriv)
    : (r82xxWrite reg val).Leads environment
        (fun _ later =>
          later.registers = stored bus.registers reg val
          ∧ later.driver = (bus.shadows reg val).driver)
        (fun _ later =>
          (∃ moved, later.registers = stored bus.registers reg (val.take moved))
          ∧ later.driver = (bus.shadows reg val).driver
          ∧ ¬ environment.Moves)
        bus := by
  obtain ⟨messages, consecutive, sent⟩ := r82xxWrite_sends room reg val
  rw [Program.Leads, sent]
  refine Program.leads_bind.mpr ((shadowStore_leads reg val).mpr ?_)
  refine (sendMessages_leads consecutive named (bus.shadows reg val)).weaken ?_ ?_
  · rintro _ later ⟨registers, -, driver⟩
    exact ⟨registers, driver⟩
  · exact fun _ later failed => failed

/-- One value is written with one message. -/
theorem r82xxWriteReg_leads (room : 2 ≤ environment.config.maxI2cMsgLen.toNat) (reg val : UInt8)
    (bus : Bus R82xxPriv)
    : (r82xxWriteReg reg val).Leads environment
        (fun _ later => later = bus.wrote reg [val])
        (fun _ later =>
          later.registers = bus.registers
          ∧ later.driver = (bus.shadows reg [val]).driver
          ∧ ¬ environment.Moves)
        bus := by
  obtain ⟨messages, consecutive, sent⟩ := r82xxWrite_sends room reg [val]
  rw [Program.Leads, r82xxWriteReg, sent, consecutive.single (messageSize_pos room)]
  refine Program.leads_bind.mpr ((shadowStore_leads reg [val]).mpr ?_)
  refine Program.leads_bind.mpr ((rtlsdrI2cWriteFn_leads reg [val]).mpr ?_)
  refine Program.leads_bind.mpr
    (Program.leads_require.mpr ⟨fun whole => Program.leads_pure.mpr ?_, fun failed => ?_⟩)
  · rw [Bus.sent, if_pos whole]
    rfl
  · exact ⟨if_neg failed, rfl, fun moves => failed (moves _ _)⟩

/-- A masked write writes the shadow with the bits of the mask taken from the value. -/
theorem r82xxWriteRegMask_leads (room : 2 ≤ environment.config.maxI2cMsgLen.toNat)
    {reg : UInt8} (shadowed : Shadowed reg) (val bitMask : UInt8) (bus : Bus R82xxPriv)
    : (r82xxWriteRegMask reg val bitMask).Leads environment
        (fun _ later =>
          later
          = bus.wrote reg [merge (bus.driver.regs (reg.toNat - regShadowStart)) val bitMask])
        (fun _ later =>
          later.registers = bus.registers
          ∧ later.driver
            = (bus.shadows reg
              [merge (bus.driver.regs (reg.toNat - regShadowStart)) val bitMask]).driver
          ∧ ¬ environment.Moves)
        bus := by
  refine Program.leads_bind.mpr (Program.leads_bind.mpr (Program.leads_require.mpr ⟨?_, ?_⟩))
  · intro _
    refine Program.leads_bind.mpr (Program.leads_get.mpr (Program.leads_pure.mpr ?_))
    exact r82xxWriteReg_leads room reg _ bus
  · exact fun failed => absurd shadowed failed

/-- What is read are the answers of the second transfer, each with its bits reversed. -/
theorem r82xxRead_leads (reg : UInt8) (len : Nat) (bus : Bus R82xxPriv)
    : (r82xxRead reg len).Leads environment
        (fun data later =>
          data = (fun i => r82xxBitrev (environment.reads (bus.transfers + 1) i))
          ∧ later = { bus with transfers := bus.transfers + 2 })
        (fun _ later =>
          later.registers = bus.registers
          ∧ later.driver = bus.driver
          ∧ ¬ environment.Moves)
        bus := by
  have same : bus.sent environment reg [] = { bus with transfers := bus.transfers + 1 } := by
    unfold Bus.sent
    rw [stored_nil, ite_self]
  refine Program.leads_bind.mpr ((rtlsdrI2cWriteFn_leads reg []).mpr ?_)
  rw [same]
  refine Program.leads_bind.mpr (Program.leads_require.mpr ⟨fun _ => ?_, fun failed => ?_⟩)
  · refine Program.leads_bind.mpr ((rtlsdrI2cReadFn_leads len).mpr ?_)
    refine Program.leads_bind.mpr
      (Program.leads_require.mpr ⟨fun _ => Program.leads_pure.mpr ⟨rfl, rfl⟩, fun failed => ?_⟩)
    exact ⟨rfl, rfl, fun moves => failed (moves _ _)⟩
  · exact ⟨rfl, rfl, fun moves => failed (moves _ _)⟩

variable {spared : UInt8 → Prop}

/-- A masked write spares every register but its own. Witness: its contract on success; on
failure no register changes.
-/
theorem r82xxWriteRegMask_spares (room : 2 ≤ environment.config.maxI2cMsgLen.toNat)
    {reg : UInt8} (shadowed : Shadowed reg) (taken : ¬ spared reg) (val bitMask : UInt8)
    : Spares (r82xxWriteRegMask reg val bitMask) environment spared := by
  intro bus
  refine (r82xxWriteRegMask_leads room shadowed val bitMask bus).weaken ?_ ?_
  · rintro _ _ rfl other chosen
    exact Bus.wrote_other fun same => taken (same ▸ chosen)
  · rintro _ later ⟨registers, -, failed⟩
    exact ⟨fun other _ => by rw [registers], failed⟩

/-- A write of one register spares every other. Witness: its contract on success; on failure no
register changes.
-/
theorem r82xxWriteReg_spares (room : 2 ≤ environment.config.maxI2cMsgLen.toNat) {reg : UInt8}
    (taken : ¬ spared reg) (val : UInt8)
    : Spares (r82xxWriteReg reg val) environment spared := by
  intro bus
  refine (r82xxWriteReg_leads room reg val bus).weaken ?_ ?_
  · rintro _ _ rfl other chosen
    exact Bus.wrote_other fun same => taken (same ▸ chosen)
  · rintro _ later ⟨registers, -, failed⟩
    exact ⟨fun other _ => by rw [registers], failed⟩

/-- A read spares every register. Witness: its contract, whether or not the transfer moves. -/
theorem r82xxRead_spares (reg : UInt8) (len : Nat)
    : Spares (r82xxRead reg len) environment spared := by
  intro bus
  refine (r82xxRead_leads reg len bus).weaken ?_ ?_
  · rintro _ _ ⟨-, rfl⟩ other _
    rfl
  · rintro _ later ⟨registers, -, failed⟩
    exact ⟨fun other _ => by rw [registers], failed⟩

end Writes

end RtlTcpAndro.Tuners
