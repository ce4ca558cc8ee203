import RtlTcpAndro.Registers.Patches
import RtlTcpAndro.Registers.Views

/-! The EEPROM of the receiver, which `rtlsdr_write_eeprom` and `rtlsdr_read_eeprom` access byte by
byte. Where transfers move their bytes it is a memory of which the cells that change are programmed
once; whatever fails, a cell holds what it held or what it was to hold.
-/

namespace RtlTcpAndro.RtlSdrDevice.EepromDriver

open RtlTcpAndro.Registers

-----------------------------------------------------------------------------------------
-- The chip
-----------------------------------------------------------------------------------------

/-- The cells of a 24C02, the address that it reads next and, history, how often each cell was
programmed and the number of transfers made.
-/
structure Eeprom where
  cells : UInt8 → UInt8
  next : UInt8
  wear : UInt8 → Nat
  transfers : Nat

/-- The chip after a message: an address, and a byte that is to be stored there. -/
def Eeprom.receive (chip : Eeprom) : List UInt8 → Eeprom
  | [addr] => { chip with next := addr }
  | [addr, byte] =>
      { chip with
        cells := Function.update chip.cells addr byte
        next := addr + 1
        wear := Function.update chip.wear addr (chip.wear addr + 1) }
  | _ => chip

/-- What the transfer of a number returns, given the bytes it is to move, whether one that does not
move them reaches the chip, and what it then leaves in the array that is read to.
-/
structure Environment.Eeprom where
  returns : Nat → Nat → Int32
  reaches : Nat → Bool
  leaves : Nat → Option UInt8

/-- A transfer has its effect on the chip. -/
def Environment.Eeprom.acts (environment : Environment.Eeprom) (number len : Nat) : Bool :=
  environment.returns number len == Int32.ofNat len || environment.reaches number

/-- From a transfer on, all move their bytes. -/
def Environment.Eeprom.MovesFrom (environment : Environment.Eeprom) (first : Nat) : Prop :=
  ∀ number, first ≤ number → ∀ len, environment.returns number len = Int32.ofNat len

/-- The chip after a message was sent. -/
def Eeprom.sent (chip : Eeprom) (environment : Environment.Eeprom) (array : List UInt8) : Eeprom :=
  let chip' := { chip with transfers := chip.transfers + 1 }
  if environment.acts chip.transfers array.length then chip'.receive array else chip'

/-- The chip after a byte was asked for. -/
def Eeprom.asked (chip : Eeprom) (environment : Environment.Eeprom) : Eeprom where
  cells := chip.cells
  next := if environment.acts chip.transfers 1 then chip.next + 1 else chip.next
  wear := chip.wear
  transfers := chip.transfers + 1

/-- What a byte that was asked for is, of which the array held another. -/
def Eeprom.answer (chip : Eeprom) (environment : Environment.Eeprom) (byte : UInt8) : UInt8 :=
  if environment.returns chip.transfers 1 = 1 then chip.cells chip.next
  else (environment.leaves chip.transfers).getD byte

/-- A function that accesses the chip. -/
abbrev EepromAccess := ReaderT Environment.Eeprom (StateM Eeprom)

/-- `rtlsdr_write_array`, with `EEPROM_ADDR` -/
def eepromWriteArray (array : List UInt8) : EepromAccess Int32 := do
  let environment ← read
  let chip ← get
  set (chip.sent environment array)
  return environment.returns chip.transfers array.length

/-- `rtlsdr_read_array` of one byte, with `EEPROM_ADDR`, and what the byte then is. -/
def eepromReadArray (byte : UInt8) : EepromAccess (Int32 × UInt8) := do
  let environment ← read
  let chip ← get
  set (chip.asked environment)
  return (environment.returns chip.transfers 1, chip.answer environment byte)

-----------------------------------------------------------------------------------------
-- The functions
-----------------------------------------------------------------------------------------

/-- The loop of `rtlsdr_write_eeprom`, with `cmd[1]` and the bytes that are left. -/
def writeCells (addr cmd : UInt8) : List UInt8 → EepromAccess Int32
  | [] => return 0
  | byte :: rest => do
      let _ ← eepromWriteArray [addr]
      let (_, cmd) ← eepromReadArray cmd
      if cmd = byte then writeCells (addr + 1) cmd rest
      else
        let r ← eepromWriteArray [addr, byte]
        if r ≠ 2 then return -3
        writeCells (addr + 1) byte rest

/-- `rtlsdr_write_eeprom`, with what `cmd[1]` is before it is set. -/
def rtlsdrWriteEeprom (cmd : UInt8) (data : List UInt8) (offset : UInt8) : EepromAccess Int32 :=
  if 256 < data.length + offset.toNat then return -2
  else writeCells offset cmd data

/-- The loop of `rtlsdr_read_eeprom`, with the bytes that are left to read. -/
def readCells (r : Int32) : List UInt8 → EepromAccess (Int32 × List UInt8)
  | [] => return (r, [])
  | byte :: rest => do
      let (r, byte) ← eepromReadArray byte
      if r < 0 then return (-3, byte :: rest)
      let (r, others) ← readCells r rest
      return (r, byte :: others)

/-- `rtlsdr_read_eeprom`, and what it leaves in the array. -/
def rtlsdrReadEeprom (data : List UInt8) (offset : UInt8) : EepromAccess (Int32 × List UInt8) := do
  if 256 < data.length + offset.toNat then return (-2, data)
  let r ← eepromWriteArray [offset]
  if r < 0 then return (-3, data)
  readCells r data

/-- A call of one of them. -/
inductive EepromCall
  | write (cmd : UInt8) (data : List UInt8) (offset : UInt8)
  | read (data : List UInt8) (offset : UInt8)
  deriving DecidableEq, Repr

/-- What a call returns, and what is in the array after it. -/
def EepromCall.program : EepromCall → EepromAccess (Int32 × List UInt8)
  | .write cmd data offset => do
      let r ← rtlsdrWriteEeprom cmd data offset
      return (r, data)
  | .read data offset => rtlsdrReadEeprom data offset

-----------------------------------------------------------------------------------------
-- What the EEPROM is for
-----------------------------------------------------------------------------------------

/-- A memory, and how often each of its cells was programmed. -/
structure EepromImage where
  cells : UInt8 → UInt8
  wear : UInt8 → Nat

/-- A memory with other contents, for which only the cells that change are programmed. -/
def EepromImage.become (image : EepromImage) (cells : UInt8 → UInt8) : EepromImage where
  cells := cells
  wear addr := image.wear addr + if cells addr = image.cells addr then 0 else 1

/-- What a call does to a memory. -/
def EepromCall.spec : EepromCall → StateM EepromImage (Int32 × List UInt8)
  | .write _ data offset => do
      if 256 < data.length + offset.toNat then return (-2, data)
      modify fun image => image.become (patched image.cells offset data)
      return (0, data)
  | .read data offset => do
      if 256 < data.length + offset.toNat then return (-2, data)
      return (1, cellsFrom (← get).cells offset data.length)

/-- The memory that a chip has. -/
def Eeprom.image (chip : Eeprom) : EepromImage := ⟨chip.cells, chip.wear⟩

/-- A memory with a cell programmed. -/
def EepromImage.program (image : EepromImage) (addr byte : UInt8) : EepromImage where
  cells := Function.update image.cells addr byte
  wear := Function.update image.wear addr (image.wear addr + 1)

-----------------------------------------------------------------------------------------
-- Rounds
-----------------------------------------------------------------------------------------

/-- Both transfers that look at a cell move their byte. -/
def Environment.Eeprom.Looks (environment : Environment.Eeprom) (number : Nat) : Prop :=
  environment.returns number 1 = 1 ∧ environment.returns (number + 1) 1 = 1

section Rounds

variable {environment : Environment.Eeprom} {chip : Eeprom} {addr byte cmd : UInt8}

/-- The chip after a cell was looked at. -/
def Eeprom.lookedAt (chip : Eeprom) (environment : Environment.Eeprom) (addr : UInt8) : Eeprom :=
  (chip.sent environment [addr]).asked environment

/-- What `cmd[1]` then is. -/
def Eeprom.seen (chip : Eeprom) (environment : Environment.Eeprom) (addr cmd : UInt8) : UInt8 :=
  (chip.sent environment [addr]).answer environment cmd

/-- Selecting a cell changes nothing in the memory. Witness: a message of one byte stores
none.
-/
theorem image_sent_select : (chip.sent environment [addr]).image = chip.image := by
  unfold Eeprom.sent
  dsimp only
  split <;> rfl

/-- A message sent is one transfer. Witness: whether or not it moves, and whatever it stores.
-/
@[simp] theorem transfers_sent (array : List UInt8)
    : (chip.sent environment array).transfers = chip.transfers + 1 := by
  unfold Eeprom.sent
  dsimp only
  split
  · unfold Eeprom.receive
    split <;> rfl
  · rfl

/-- A look at a cell changes nothing. -/
theorem image_lookedAt : (chip.lookedAt environment addr).image = chip.image :=
  image_sent_select

/-- Looking at a cell is two transfers. Witness: the selecting one, then the reading one. -/
theorem transfers_lookedAt : (chip.lookedAt environment addr).transfers = chip.transfers + 2 :=
  congrArg (· + 1) (transfers_sent [addr])

/-- What is seen is what the cell holds, if both transfers move their byte. -/
theorem seen_of_looks (looks : environment.Looks chip.transfers)
    : chip.seen environment addr cmd = chip.cells addr := by
  have acts : environment.acts chip.transfers 1 = true := by
    simp [Environment.Eeprom.acts, looks.1]
  have selected : chip.sent environment [addr]
      = { chip with transfers := chip.transfers + 1, next := addr } :=
    if_pos acts
  rw [Eeprom.seen, Eeprom.answer, transfers_sent, if_pos looks.2, selected]

/-- A cell is programmed or, if not all bytes move, may be left. -/
theorem image_sent_program
    : (chip.sent environment [addr, byte]).image = chip.image.program addr byte
      ∨ environment.returns chip.transfers 2 ≠ 2
        ∧ (chip.sent environment [addr, byte]).image = chip.image := by
  unfold Eeprom.sent
  dsimp only
  split
  next acts => exact .inl rfl
  next lost =>
      refine .inr ⟨fun whole => lost ?_, rfl⟩
      change environment.acts chip.transfers 2 = true
      simp [Environment.Eeprom.acts, whole]

/-- A round of the loop. -/
theorem writeCells_cons (rest : List UInt8)
    : writeCells addr cmd (byte :: rest) environment chip
      = if chip.seen environment addr cmd = byte then
          writeCells (addr + 1) (chip.seen environment addr cmd) rest environment
            (chip.lookedAt environment addr)
        else if environment.returns (chip.transfers + 2) 2 = 2 then
          writeCells (addr + 1) byte rest environment
            ((chip.lookedAt environment addr).sent environment [addr, byte])
        else (-3, (chip.lookedAt environment addr).sent environment [addr, byte]) := by
  change (if chip.seen environment addr cmd = byte then _ else _ : EepromAccess Int32) environment
    (chip.lookedAt environment addr) = _
  split
  · rfl
  · change (if environment.returns (chip.lookedAt environment addr).transfers 2 ≠ 2 then _
      else _ : EepromAccess Int32) environment _ = _
    rw [transfers_lookedAt]
    split
    next short => rfl
    next whole => exact (if_pos (Decidable.not_not.mp whole)).symm

/-- What a round leaves: a cell that holds the byte already, or one that is programmed, and else an
error.
-/
theorem writeCells_round (rest : List UInt8)
    : (∃ between cmd',
        writeCells addr cmd (byte :: rest) environment chip
          = writeCells (addr + 1) cmd' rest environment between
        ∧ chip.transfers + 2 ≤ between.transfers
        ∧ (between.image = chip.image
            ∧ (environment.Looks chip.transfers → chip.cells addr = byte)
          ∨ between.image = chip.image.program addr byte
            ∧ (environment.Looks chip.transfers → chip.cells addr ≠ byte)))
      ∨ ∃ later,
        writeCells addr cmd (byte :: rest) environment chip = (-3, later)
        ∧ environment.returns (chip.transfers + 2) 2 ≠ 2
        ∧ (later.image = chip.image ∨ later.image = chip.image.program addr byte) := by
  rw [writeCells_cons]
  split
  next same =>
      refine .inl ⟨_, _, rfl, Nat.le_of_eq transfers_lookedAt.symm, .inl ⟨image_lookedAt, ?_⟩⟩
      exact fun looks => (seen_of_looks looks).symm.trans same
  next differs =>
      have programmed
          := @image_sent_program environment (chip.lookedAt environment addr) addr byte
      rw [image_lookedAt, transfers_lookedAt] at programmed
      split
      next whole =>
          refine .inl ⟨_, _, rfl, ?_, .inr ⟨?_, ?_⟩⟩
          · rw [transfers_sent, transfers_lookedAt]
            exact Nat.le_succ _
          · exact programmed.resolve_right fun lost => lost.1 whole
          · exact fun looks held => differs ((seen_of_looks looks).trans held)
      next short => exact .inr ⟨_, rfl, short, programmed.symm.imp_left And.right⟩

end Rounds

-----------------------------------------------------------------------------------------
-- Where transfers move their bytes
-----------------------------------------------------------------------------------------

section Moves

variable {environment : Environment.Eeprom} {chip : Eeprom} {addr : UInt8} {data : List UInt8}

/-- Transfers that move from one point on move from any later one. Witness: transitivity. -/
theorem Environment.Eeprom.MovesFrom.later {first number : Nat}
    (moves : environment.MovesFrom first) (late : first ≤ number)
    : environment.MovesFrom number :=
  fun other later => moves other (Nat.le_trans late later)

/-- With transfers that move, a cell can be looked at. Witness: the two transfers of the look.
-/
theorem Environment.Eeprom.MovesFrom.looks {number : Nat} (moves : environment.MovesFrom number)
    : environment.Looks number :=
  ⟨moves number (Nat.le_refl _) 1, moves (number + 1) (Nat.le_succ _) 1⟩

/-- The cells that are written after another one do not wear it. -/
theorem EepromImage.become_cons {image : EepromImage} {byte : UInt8} (fits : data.length ≤ 255)
    (differs : image.cells addr ≠ byte)
    : (image.program addr byte).become (patched (image.program addr byte).cells (addr + 1) data)
      = image.become (patched image.cells addr (byte :: data)) := by
  refine congrArg (EepromImage.mk _) (funext fun other => ?_)
  change Function.update image.wear addr (image.wear addr + 1) other
      + (if patched (Function.update image.cells addr byte) (addr + 1) data other
          = Function.update image.cells addr byte other then 0 else 1)
    = image.wear other
      + if patched (Function.update image.cells addr byte) (addr + 1) data other
          = image.cells other then 0 else 1
  by_cases same : other = addr
  · subst same
    rw [patched_before fits, Function.update_self, Function.update_self, if_pos rfl,
      if_neg (Ne.symm differs)]
  · rw [Function.update_of_ne same, Function.update_of_ne same]

/-- The loop writes all bytes and programs the cells that change. By induction on the bytes that
are left.
-/
theorem writeCells_moves (cmd : UInt8) (fits : data.length ≤ 256)
    (moves : environment.MovesFrom chip.transfers)
    : ∃ later,
        writeCells addr cmd data environment chip = (0, later)
        ∧ later.image = chip.image.become (patched chip.cells addr data)
        ∧ chip.transfers ≤ later.transfers := by
  induction data generalizing addr cmd chip with
  | nil =>
      refine ⟨chip, rfl, congrArg (EepromImage.mk _) (funext fun other => ?_), Nat.le_refl _⟩
      change chip.wear other
        = chip.wear other + if chip.cells other = chip.cells other then 0 else 1
      rw [if_pos rfl, Nat.add_zero]
  | cons byte rest ih =>
      have fewer : rest.length ≤ 255 := Nat.le_of_succ_le_succ fits
      obtain ⟨between, cmd', ran, late, left⟩ | ⟨_, _, short, _⟩ :=
        @writeCells_round environment chip addr byte cmd rest
      · obtain ⟨later, ended, image, late'⟩ :=
          @ih between (addr + 1) cmd' (Nat.le_succ_of_le fewer)
            (moves.later (Nat.le_of_add_right_le late))
        refine ⟨later, ran.trans ended, ?_, Nat.le_of_add_right_le (Nat.le_trans late late')⟩
        obtain ⟨same, held⟩ | ⟨programmed, differs⟩ := left
        · have kept : Function.update chip.cells addr byte = chip.cells := by
            rw [← held moves.looks]
            exact Function.update_eq_self ..
          have cells : between.cells = chip.cells := congrArg EepromImage.cells same
          rw [image, same, patched, kept, cells]
        · have cells : between.cells = (chip.image.program addr byte).cells :=
            congrArg EepromImage.cells programmed
          rw [image, programmed, cells]
          exact EepromImage.become_cons fewer (differs moves.looks)
      · exact absurd (moves (chip.transfers + 2) (Nat.le_add_right _ _) 2) short

/-- The loop reads the cells one after the other. By induction on the bytes that are left. -/
theorem readCells_moves (r : Int32) (moves : environment.MovesFrom chip.transfers)
    : ∃ later,
        readCells r data environment chip
          = ((if data = [] then r else 1, cellsFrom chip.cells chip.next data.length), later)
        ∧ later.image = chip.image
        ∧ chip.transfers ≤ later.transfers := by
  induction data generalizing r chip with
  | nil => exact ⟨chip, rfl, rfl, Nat.le_refl _⟩
  | cons byte rest ih =>
      have whole : environment.returns chip.transfers 1 = 1 := moves _ (Nat.le_refl _) 1
      have acts : environment.acts chip.transfers 1 = true := by
        simp [Environment.Eeprom.acts, whole]
      have next : (chip.asked environment).next = chip.next + 1 := if_pos acts
      have answer : chip.answer environment byte = chip.cells chip.next := if_pos whole
      obtain ⟨later, ran, image, late⟩ :=
        @ih (chip.asked environment) 1 (moves.later (Nat.le_succ _))
      refine ⟨later, ?_, image, Nat.le_of_succ_le late⟩
      rw [next] at ran
      change (if environment.returns chip.transfers 1 < 0 then _ else _
        : EepromAccess (Int32 × List UInt8)) environment (chip.asked environment) = _
      rw [whole, if_neg (by decide)]
      change (((readCells 1 rest environment (chip.asked environment)).1.1, _ :: _), _) = _
      rw [ran, answer]
      cases rest <;> rfl

end Moves

-----------------------------------------------------------------------------------------
-- The refinement
-----------------------------------------------------------------------------------------

/-- What is seen of a chip whose transfers move their bytes. -/
def eepromView (environment : Environment.Eeprom) : View Eeprom EepromImage where
  ready chip := environment.MovesFrom chip.transfers
  shown := Eeprom.image
  kept _ _ := True
  refl _ := trivial
  trans _ _ := trivial

section Refinement

variable {environment : Environment.Eeprom} {cmd offset : UInt8} {data : List UInt8}

/-- More cells than there are after the offset are an error. -/
theorem eepromCall_large (large : 256 < data.length + offset.toNat)
    : (EepromCall.write cmd data offset).program = (return (-2, data))
      ∧ (EepromCall.write cmd data offset).spec = (return (-2, data))
      ∧ (EepromCall.read data offset).program = (return (-2, data))
      ∧ (EepromCall.read data offset).spec = (return (-2, data)) := by
  refine ⟨?_, if_pos large, if_pos large, if_pos large⟩
  change (rtlsdrWriteEeprom cmd data offset >>= _) = _
  rw [rtlsdrWriteEeprom, if_pos large]
  rfl

/-- A write that fits the memory refines the patch of its cells. Witness: the run of the loop,
compared with the patched image.
-/
theorem eepromWrite_refines (fits : ¬ 256 < data.length + offset.toNat)
    : (eepromView environment).Refines environment (EepromCall.write cmd data offset).program
        (EepromCall.write cmd data offset).spec := by
  intro chip moves
  have spec : (EepromCall.write cmd data offset).spec
      = (do
          modify fun image => image.become (patched image.cells offset data)
          return (0, data)) :=
    if_neg fits
  obtain ⟨later, ran, image, late⟩ :=
    @writeCells_moves environment chip offset data cmd (by omega) moves
  refine ⟨later, ?_, moves.later late, ?_, trivial⟩
  · change (((rtlsdrWriteEeprom cmd data offset environment chip).1, data),
      (rtlsdrWriteEeprom cmd data offset environment chip).2) = _
    rw [rtlsdrWriteEeprom, if_neg fits, ran, spec]
    rfl
  · rw [spec]
    exact image

/-- A read that fits the memory refines the copy of its cells. Witness: the selecting
transfer, then the reads in order.
-/
theorem eepromRead_refines (fits : ¬ 256 < data.length + offset.toNat)
    : (eepromView environment).Refines environment (EepromCall.read data offset).program
        (EepromCall.read data offset).spec := by
  intro chip moves
  have spec : (EepromCall.read data offset).spec
      = (do return (1, cellsFrom (← get).cells offset data.length)) :=
    if_neg fits
  have whole : environment.returns chip.transfers 1 = 1 := moves _ (Nat.le_refl _) 1
  have acts : environment.acts chip.transfers 1 = true := by
    simp [Environment.Eeprom.acts, whole]
  have selected : chip.sent environment [offset]
      = { chip with transfers := chip.transfers + 1, next := offset } :=
    if_pos acts
  obtain ⟨later, ran, image, late⟩ :=
    @readCells_moves environment (chip.sent environment [offset]) data 1
      (moves.later (by rw [transfers_sent]; exact Nat.le_succ _))
  rw [transfers_sent] at late
  refine ⟨later, ?_, moves.later (Nat.le_of_succ_le late), ?_, trivial⟩
  · change rtlsdrReadEeprom data offset environment chip = _
    rw [rtlsdrReadEeprom, if_neg fits, spec]
    change (if environment.returns chip.transfers 1 < 0 then _ else _
      : EepromAccess (Int32 × List UInt8)) environment (chip.sent environment [offset]) = _
    rw [whole, if_neg (by decide)]
    change readCells (environment.returns chip.transfers 1) data environment _ = _
    rw [whole, ran, selected]
    cases data <;> rfl
  · rw [spec]
    exact image.trans image_sent_select

/-- Every call refines its effect on the image, those beyond the memory included. Witness: the
call's two forms, and whether it fits.
-/
theorem eepromCall_refines (call : EepromCall)
    : (eepromView environment).Refines environment call.program call.spec := by
  cases call with
  | write cmd data offset =>
      by_cases large : 256 < data.length + offset.toNat
      · obtain ⟨program, spec, _, _⟩ := @eepromCall_large cmd offset data large
        rw [program, spec]
        exact .pure
      · exact eepromWrite_refines large
  | read data offset =>
      by_cases large : 256 < data.length + offset.toNat
      · obtain ⟨_, _, program, spec⟩ := @eepromCall_large 0 offset data large
        rw [program, spec]
        exact .pure
      · exact eepromRead_refines large

end Refinement

/-- Over any sequence of calls, where the transfers move their bytes, the chip is a memory: calls
return what it returns, and program only the cells that change.
-/
theorem eeprom_refines_image (environment : Environment.Eeprom) (calls : List EepromCall)
    : (eepromView environment).Refines environment (calls.mapM EepromCall.program)
        (calls.mapM EepromCall.spec) :=
  View.Refines.all (fun _ => eepromCall_refines _) calls

-----------------------------------------------------------------------------------------
-- Where transfers fail
-----------------------------------------------------------------------------------------

/-- At an address a memory is as it was, or it was programmed once, to what was asked for. -/
def EepromImage.Touched (before after : EepromImage) (addr : UInt8) (asked : Option UInt8) : Prop :=
  after.cells addr = before.cells addr ∧ after.wear addr = before.wear addr
  ∨ asked = some (after.cells addr) ∧ after.wear addr = before.wear addr + 1

/-- The byte that a call is to store at an address. -/
def EepromCall.asked (addr : UInt8) : EepromCall → Option UInt8
  | .write _ data offset =>
      if 256 < data.length + offset.toNat then none else data[(addr - offset).toNat]?
  | .read _ _ => none

section Failures

variable {environment : Environment.Eeprom} {chip : Eeprom} {before between after : EepromImage}
  {addr other byte cmd : UInt8} {data : List UInt8} {asked : Option UInt8}

/-- A memory left alone is touched as any request for the cell allows. Witness: the first
disjunct.
-/
theorem EepromImage.Touched.refl : before.Touched before addr asked :=
  .inl ⟨rfl, rfl⟩

/-- Where nothing is asked for, a memory is as it was. -/
theorem EepromImage.Touched.trans_none (first : before.Touched between addr asked)
    (next : between.Touched after addr none)
    : before.Touched after addr asked := by
  obtain ⟨cells, wear⟩ | ⟨wrong, _⟩ := next
  · unfold EepromImage.Touched
    rwa [cells, wear]
  · cases wrong

/-- A step that leaves the cell alone can precede any other. Witness: cells and wear are those
before it.
-/
theorem EepromImage.Touched.none_trans (first : before.Touched between addr none)
    (next : between.Touched after addr asked)
    : before.Touched after addr asked := by
  obtain ⟨cells, wear⟩ | ⟨wrong, _⟩ := first
  · unfold EepromImage.Touched
    rwa [← cells, ← wear]
  · cases wrong

/-- A cell that is programmed was asked for, and no other is touched. -/
theorem EepromImage.touched_program
    : before.Touched (before.program addr byte) other
        (if other = addr then some byte else none) := by
  by_cases same : other = addr
  · subst same
    refine .inr ⟨?_, Function.update_self ..⟩
    rw [if_pos rfl]
    exact congrArg some (Function.update_self other byte before.cells).symm
  · exact .inl ⟨Function.update_of_ne same .., Function.update_of_ne same ..⟩

/-- Whatever fails, the loop programs a cell once at most. By induction on the bytes that are
left.
-/
theorem writeCells_touched (cmd : UInt8) (fits : data.length ≤ 256)
    : chip.image.Touched (writeCells addr cmd data environment chip).2.image other
        data[(other - addr).toNat]? := by
  induction data generalizing addr cmd chip with
  | nil => exact .refl
  | cons byte rest ih =>
      have fewer : rest.length ≤ 255 := Nat.le_of_succ_le_succ fits
      -- The round touches its own cell, those after it the others.
      have joined {image final : EepromImage}
          (round : chip.image.Touched image other (if other = addr then some byte else none))
          (others : image.Touched final other rest[(other - (addr + 1)).toNat]?)
          : chip.image.Touched final other (byte :: rest)[(other - addr).toNat]? := by
        by_cases same : other = addr
        · subst same
          rw [sub_succ_toNat, List.getElem?_eq_none fewer] at others
          rw [if_pos rfl] at round
          rw [sub_toNat_eq_zero_iff.mpr rfl]
          exact round.trans_none others
        · rw [if_neg same] at round
          rw [sub_toNat_succ same]
          exact round.none_trans others
      have nothing (image : EepromImage)
          : image.Touched image other rest[(other - (addr + 1)).toNat]? :=
        .refl
      obtain ⟨between, cmd', ran, _, left⟩ | ⟨later, ran, _, left⟩ :=
        @writeCells_round environment chip addr byte cmd rest
      · rw [ran]
        refine joined ?_ (ih cmd' (Nat.le_succ_of_le fewer))
        obtain ⟨same, _⟩ | ⟨programmed, _⟩ := left
        · rw [same]
          exact .refl
        · rw [programmed]
          exact EepromImage.touched_program
      · rw [ran]
        obtain same | programmed := left
        · rw [same]
          exact .refl
        · rw [programmed]
          exact joined EepromImage.touched_program (nothing _)

/-- Reading touches nothing. By induction on the bytes that are left. -/
theorem readCells_image (r : Int32)
    : (readCells r data environment chip).2.image = chip.image := by
  induction data generalizing r chip with
  | nil => rfl
  | cons byte rest ih =>
      change ((if environment.returns chip.transfers 1 < 0 then _ else _
        : EepromAccess (Int32 × List UInt8)) environment (chip.asked environment)).2.image = _
      split
      · rfl
      · exact ih _

/-- A call touches a cell as its request for that cell says, whatever fails. Witness: the
write's loop cell by cell; a read changes nothing.
-/
theorem eepromCall_touched (call : EepromCall)
    : chip.image.Touched (call.program environment chip).2.image addr (call.asked addr) := by
  cases call with
  | write cmd data offset =>
      change chip.image.Touched (rtlsdrWriteEeprom cmd data offset environment chip).2.image addr
        (if 256 < data.length + offset.toNat then none else data[(addr - offset).toNat]?)
      unfold rtlsdrWriteEeprom
      split
      · exact .refl
      · exact writeCells_touched cmd (by omega)
  | read data offset =>
      have same : (rtlsdrReadEeprom data offset environment chip).2.image = chip.image := by
        unfold rtlsdrReadEeprom
        split
        · rfl
        · change ((if environment.returns chip.transfers 1 < 0 then _ else _
            : EepromAccess (Int32 × List UInt8)) environment
              (chip.sent environment [offset])).2.image = _
          split
          · exact image_sent_select
          · exact (readCells_image _).trans image_sent_select
      change chip.image.Touched (rtlsdrReadEeprom data offset environment chip).2.image addr none
      rw [same]
      exact .refl

/-- Whatever fails in a sequence of calls, a cell holds what it held or what a call was to store
there, and it was programmed at most as often as calls were to store something there. By induction
on the calls.
-/
theorem eeprom_holds_asked (environment : Environment.Eeprom) (calls : List EepromCall)
    (chip : Eeprom) (addr : UInt8)
    : let later := (calls.mapM EepromCall.program environment chip).2
      (later.cells addr = chip.cells addr
        ∨ ∃ call ∈ calls, call.asked addr = some (later.cells addr))
      ∧ later.wear addr ≤ chip.wear addr + calls.countP fun call => (call.asked addr).isSome := by
  induction calls generalizing chip with
  | nil => exact ⟨.inl rfl, Nat.le_refl _⟩
  | cons call rest ih =>
      rw [List.mapM_cons]
      obtain ⟨cells, wear⟩ := ih (call.program environment chip).2
      have touched := @eepromCall_touched environment chip addr call
      change _ ∧ (rest.mapM EepromCall.program environment (call.program environment chip).2).2.wear
        addr ≤ _
      rw [List.countP_cons]
      obtain ⟨same, worn⟩ | ⟨asked, worn⟩ := touched
      · have worn : (call.program environment chip).2.wear addr = chip.wear addr := worn
        refine ⟨cells.imp (fun kept => kept.trans same) ?_, by omega⟩
        exact fun ⟨other, member, stored⟩ => ⟨other, List.mem_cons_of_mem _ member, stored⟩
      · have worn : (call.program environment chip).2.wear addr = chip.wear addr + 1 := worn
        refine ⟨.inr ?_, by simp only [asked, Option.isSome_some, if_true]; omega⟩
        obtain kept | ⟨other, member, stored⟩ := cells
        · exact ⟨call, List.mem_cons_self, asked.trans (congrArg some kept.symm)⟩
        · exact ⟨other, List.mem_cons_of_mem _ member, stored⟩

/-- Where every look at a cell succeeds, the loop writes a number of the bytes, all of them if it
returns no error. By induction on the bytes that are left.
-/
theorem writeCells_firstPart (cmd : UInt8) (looks : ∀ number, environment.Looks number)
    : ∃ count,
        (writeCells addr cmd data environment chip).2.cells
          = patched chip.cells addr (data.take count)
        ∧ ((writeCells addr cmd data environment chip).1 = 0 ∧ count = data.length
          ∨ (writeCells addr cmd data environment chip).1 = -3) := by
  induction data generalizing addr cmd chip with
  | nil => exact ⟨0, rfl, .inl ⟨rfl, rfl⟩⟩
  | cons byte rest ih =>
      obtain ⟨between, cmd', ran, _, left⟩ | ⟨later, ran, _, left⟩ :=
        @writeCells_round environment chip addr byte cmd rest
      · have written : between.cells = Function.update chip.cells addr byte := by
          obtain ⟨same, held⟩ | ⟨programmed, _⟩ := left
          · rw [← held (looks _)]
            exact (congrArg EepromImage.cells same).trans (Function.update_eq_self ..).symm
          · exact congrArg EepromImage.cells programmed
        obtain ⟨count, cells, returned⟩ := @ih between (addr + 1) cmd'
        refine ⟨count + 1, ?_, ?_⟩
        · rw [ran, cells, written]
          rfl
        · rw [ran]
          exact returned.imp_left fun done => ⟨done.1, congrArg (· + 1) done.2⟩
      · rw [ran]
        obtain same | programmed := left
        · exact ⟨0, congrArg EepromImage.cells same, .inr rfl⟩
        · exact ⟨1, congrArg EepromImage.cells programmed, .inr rfl⟩

end Failures

/-- Where every look at a cell succeeds, but some cells cannot be programmed, `rtlsdr_write_eeprom`
leaves the cells as if it had written the data up to some byte, and all of them if it returns no
error; called again when transfers move their bytes, it writes the rest, and the data are read back.
-/
theorem rtlsdrWriteEeprom_recovers (environment environment' : Environment.Eeprom)
    (cmd cmd' : UInt8) (data buffer : List UInt8) (offset : UInt8) (chip : Eeprom)
    (looks : ∀ number, environment.Looks number) (fits : data.length + offset.toNat ≤ 256)
    (size : buffer.length = data.length)
    : let (r, later) := rtlsdrWriteEeprom cmd data offset environment chip
      (∃ count,
        later.cells = patched chip.cells offset (data.take count)
        ∧ (r = 0 → data.take count = data))
      ∧ (environment'.MovesFrom later.transfers
        → ∃ final,
            rtlsdrWriteEeprom cmd' data offset environment' later = (0, final)
            ∧ final.cells = patched chip.cells offset data
            ∧ (rtlsdrReadEeprom buffer offset environment' final).1 = (1, data)) := by
  have size' : data.length ≤ 256 := by omega
  have ran (cmd : UInt8) : rtlsdrWriteEeprom cmd data offset = writeCells offset cmd data :=
    if_neg (Nat.not_lt.mpr fits)
  rw [ran]
  obtain ⟨count, cells, returned⟩ := @writeCells_firstPart environment chip offset data cmd looks
  refine ⟨⟨count, cells, fun none => ?_⟩, fun moves => ?_⟩
  · obtain ⟨_, all⟩ | failed := returned
    · rw [all, List.take_length]
    · exact absurd (none.symm.trans failed) (by decide)
  · obtain ⟨final, ended, image, late⟩ :=
      @writeCells_moves environment' _ offset data cmd' size' moves
    have written : final.cells = patched chip.cells offset data := by
      rw [← patched_take size' count, ← cells]
      exact congrArg EepromImage.cells image
    refine ⟨final, (congrFun₂ (ran cmd') _ _).trans ended, written, ?_⟩
    have fits' : ¬ 256 < buffer.length + offset.toNat := by omega
    obtain ⟨_, read, _⟩ :=
      @eepromRead_refines environment' offset buffer fits' final (moves.later late)
    have shown : (EepromCall.read buffer offset).spec final.image
        = ((1, cellsFrom final.cells offset buffer.length), final.image) :=
      congrFun (if_neg fits') final.image
    change ((EepromCall.read buffer offset).program environment' final).1 = _
    rw [read]
    change ((EepromCall.read buffer offset).spec final.image).1 = _
    rw [shown, written, size, cellsFrom_patched size']

/-- A chip that was never programmed. -/
def Eeprom.blank : Eeprom := ⟨fun _ => 0xff, 0, fun _ => 0, 0⟩

/-- Transfers that move their bytes, those to program a cell only if they may. -/
def Environment.Eeprom.programming (may : Bool) : Environment.Eeprom where
  returns _ len := if len = 2 ∧ may = false then -9 else Int32.ofNat len
  reaches _ := false
  leaves _ := none

/-- The first two bytes of the EEPROM, which it refuses at first. -/
theorem rtlsdrWriteEeprom_recovers_refused
    : let refused :=
        (rtlsdrWriteEeprom 0 [0x28, 0x32] 0 (.programming false) Eeprom.blank).2
      ∃ final,
        rtlsdrWriteEeprom 0 [0x28, 0x32] 0 (.programming true) refused = (0, final)
        ∧ final.cells = patched Eeprom.blank.cells 0 [0x28, 0x32]
        ∧ (rtlsdrReadEeprom [0, 0] 0 (.programming true) final).1 = (1, [0x28, 0x32]) := by
  refine (rtlsdrWriteEeprom_recovers (.programming false) (.programming true) 0 0 [0x28, 0x32]
    [0, 0] 0 Eeprom.blank (fun _ => ⟨rfl, rfl⟩) (by decide) rfl).2 fun _ _ len => ?_
  exact if_neg fun refused => Bool.noConfusion refused.2

end RtlTcpAndro.RtlSdrDevice.EepromDriver
