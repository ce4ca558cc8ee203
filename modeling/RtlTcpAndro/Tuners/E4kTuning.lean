import RtlTcpAndro.Tuners.E4k
import RtlTcpAndro.Tuners.E4kPll

/-! The tuning of the E4000, as `tuner_e4k.c` programs its registers. What the calls that access
registers return is dropped on the way, all but the last, and a register that could not be read is
taken for one whose bits are set.
-/

namespace RtlTcpAndro.Tuners

open RtlTcpAndro.Registers

-----------------------------------------------------------------------------------------
-- The driver
-----------------------------------------------------------------------------------------

/-- `enum e4k_band` -/
inductive E4kBand
  | vhf2
  | vhf3
  | uhf
  | l
  deriving DecidableEq, Repr

def E4kBand.toUInt8 : E4kBand → UInt8
  | .vhf2 => 0
  | .vhf3 => 1
  | .uhf => 2
  | .l => 3

/-- The registers of `enum e4k_reg` that are tuned. -/
def e4kRegSynth1 : UInt8 := 0x07
def e4kRegSynth3 : UInt8 := 0x09
def e4kRegSynth4 : UInt8 := 0x0a
def e4kRegSynth5 : UInt8 := 0x0b
def e4kRegSynth7 : UInt8 := 0x0d
def e4kRegFilt1 : UInt8 := 0x10
def e4kRegBias : UInt8 := 0x78

/-- `E4K_SYNTH1_PLL_LOCK` -/
def e4kSynth1PllLock : UInt8 := 0x01

/-- Which transfers move their bytes, and whether the tuner says that its loop is locked. -/
structure Environment.E4k where
  moves : Nat → Bool
  locked : Bool

/-- The fields of a `struct e4k_state` that tuning reads, with the tuner, and, history, what the
calls that accessed its registers returned, the last of them first.
-/
structure E4kState where
  chip : E4kChip
  band : E4kBand
  vco : E4kPllParams
  returned : List Int32

/-- A function of the driver. -/
abbrev E4kDriver := ReaderT Environment.E4k (StateM E4kState)

/-- A call that accesses registers. -/
def called (call : E4k Int32) : E4kDriver Int32 := fun environment state =>
  let (rc, chip) := call environment.moves state.chip
  (rc, { state with chip := chip, returned := rc :: state.returned })

/-- The tuner sets its lock bit by itself. -/
def E4kChip.settled (chip : E4kChip) (locked : Bool) : E4kChip :=
  { chip with
    registers := fun reg =>
      if reg = e4kRegSynth1 then
        merge (chip.registers reg) (if locked then e4kSynth1PllLock else 0) e4kSynth1PllLock
      else chip.registers reg }

def settle : E4kDriver Unit := fun environment state =>
  ((), { state with chip := state.chip.settled environment.locked })

-----------------------------------------------------------------------------------------
-- Filters
-----------------------------------------------------------------------------------------

/-- `unsigned_delta` -/
def unsignedDelta (a b : UInt32) : UInt32 := if b < a then a - b else b - a

/-- `rf_filt_center_uhf` -/
def rfFiltCenterUhf : List UInt32 :=
  [mhz 360, mhz 380, mhz 405, mhz 425, mhz 450, mhz 475, mhz 505, mhz 540, mhz 575, mhz 615,
    mhz 670, mhz 720, mhz 760, mhz 840, mhz 890, mhz 970]

/-- `rf_filt_center_l` -/
def rfFiltCenterL : List UInt32 :=
  [mhz 1300, mhz 1320, mhz 1360, mhz 1410, mhz 1445, mhz 1460, mhz 1490, mhz 1530, mhz 1560,
    mhz 1590, mhz 1640, mhz 1660, mhz 1680, mhz 1700, mhz 1720, mhz 1750]

/-- The rest of the loop of `closest_arr_idx`, with `best_delta`, `bi` and `i`. -/
def closestFrom (freq : UInt32) : List UInt32 → UInt32 → Nat → Nat → Nat
  | [], _, bi, _ => bi
  | center :: rest, bestDelta, bi, i =>
      let delta := unsignedDelta freq center
      if delta < bestDelta then closestFrom freq rest delta i (i + 1)
      else closestFrom freq rest bestDelta bi (i + 1)

/-- `closest_arr_idx` -/
def closestArrIdx (arr : List UInt32) (freq : UInt32) : Nat :=
  closestFrom freq arr 0xffffffff 0 0

/-- `choose_rf_filter` -/
def chooseRfFilter (band : E4kBand) (freq : UInt32) : Int32 :=
  match band with
  | .vhf2 => 0
  | .vhf3 => 0
  | .uhf => Int32.ofNat (closestArrIdx rfFiltCenterUhf freq)
  | .l => Int32.ofNat (closestArrIdx rfFiltCenterL freq)

/-- `e4k_rf_filter_set` -/
def e4kRfFilterSet : E4kDriver Int32 := do
  let state ← get
  let rc := chooseRfFilter state.band state.vco.flo
  if rc < 0 then return rc
  called (e4kRegSetMask e4kRegFilt1 0xf rc.toUInt32.toUInt8)

-----------------------------------------------------------------------------------------
-- Tuning
-----------------------------------------------------------------------------------------

/-- The bias of a band. -/
def E4kBand.bias : E4kBand → UInt8
  | .vhf2 => 3
  | .vhf3 => 3
  | .uhf => 3
  | .l => 0

/-- `e4k_band_set` -/
def e4kBandSet (band : E4kBand) : E4kDriver Int32 := do
  let _ ← called (e4kRegWrite e4kRegBias band.bias)
  let _ ← called (e4kRegSetMask e4kRegSynth1 0x06 0)
  let rc ← called (e4kRegSetMask e4kRegSynth1 0x06 (band.toUInt8 <<< 1))
  if 0 ≤ rc then modify fun state => { state with band := band }
  return rc

/-- The band of a frequency. -/
def bandOf (flo : UInt32) : E4kBand :=
  if flo < mhz 140 then .vhf2
  else if flo < mhz 350 then .vhf3
  else if flo < mhz 1135 then .uhf
  else .l

/-- `e4k_tune_params` -/
def e4kTuneParams (p : E4kPllParams) : E4kDriver UInt32 := do
  let _ ← called (e4kRegWrite e4kRegSynth7 p.rIdx)
  let _ ← called (e4kRegWrite e4kRegSynth3 p.z)
  let _ ← called (e4kRegWrite e4kRegSynth4 (p.x &&& 0xff).toUInt8)
  let _ ← called (e4kRegWrite e4kRegSynth5 (p.x >>> 8).toUInt8)
  modify fun state => { state with vco := p }
  let _ ← e4kBandSet (bandOf p.flo)
  let _ ← e4kRfFilterSet
  return p.flo

/-- `e4k_tune_freq`. The parameters are all computed if there is a frequency. -/
def e4kTuneFreq (freq : UInt32) : E4kDriver Int32 := do
  let (rc, p) := e4kComputePllParams .zero (← get).vco.fosc freq
  if rc = 0 then return -22
  let _ ← e4kTuneParams p
  settle
  let rc := (← called (e4kRegRead e4kRegSynth1)).toUInt32
  if rc &&& 0x01 = 0 then return -1
  return 0

-----------------------------------------------------------------------------------------
-- What tuning accesses
-----------------------------------------------------------------------------------------

/-- A call that programs a register. -/
inductive E4kAccess
  | write (reg val : UInt8)
  | setMask (reg mask val : UInt8)

def E4kAccess.call : E4kAccess → E4k Int32
  | .write reg val => e4kRegWrite reg val
  | .setMask reg mask val => e4kRegSetMask reg mask val

/-- What calls return, the last of them first, and the chip they leave. -/
def accessAll (environment : Nat → Bool) : List E4kAccess → E4kChip → List Int32 × E4kChip
  | [], chip => ([], chip)
  | access :: rest, chip =>
      let (rc, later) := access.call environment chip
      let (returned, last) := accessAll environment rest later
      (returned ++ [rc], last)

/-- The calls that program the synthesizer. -/
def synthAccesses (p : E4kPllParams) : List E4kAccess :=
  [.write e4kRegSynth7 p.rIdx, .write e4kRegSynth3 p.z,
    .write e4kRegSynth4 (p.x &&& 0xff).toUInt8, .write e4kRegSynth5 (p.x >>> 8).toUInt8]

/-- The calls that program the band. -/
def bandAccesses (band : E4kBand) : List E4kAccess :=
  [.write e4kRegBias band.bias, .setMask e4kRegSynth1 0x06 0,
    .setMask e4kRegSynth1 0x06 (band.toUInt8 <<< 1)]

/-- The call that programs the filter of a band. -/
def filterAccess (p : E4kPllParams) (band : E4kBand) : E4kAccess :=
  .setMask e4kRegFilt1 0xf (chooseRfFilter band p.flo).toUInt32.toUInt8

/-- The calls of a tuning up to the filter. -/
def bandedAccesses (p : E4kPllParams) : List E4kAccess :=
  synthAccesses p ++ bandAccesses (bandOf p.flo)

/-- The calls of a tuning, where the filter is that of a band. -/
def tuneAccesses (p : E4kPllParams) (band : E4kBand) : List E4kAccess :=
  bandedAccesses p ++ [filterAccess p band]

/-- The bits of a register that tuning does not program: those outside the fields of the band and
of the filter, but not the lock bit, which is the tuner's own.
-/
def tuneKept (reg : UInt8) : UInt8 :=
  if reg = e4kRegSynth1 then 0xf8
  else if reg = e4kRegFilt1 then 0xf0
  else if reg ∈ [e4kRegSynth3, e4kRegSynth4, e4kRegSynth5, e4kRegSynth7, e4kRegBias] then 0
  else 0xff

/-- What tuning does not program is as it was. -/
def Kept (before after : E4kChip) : Prop :=
  ∀ reg, after.registers reg &&& tuneKept reg = before.registers reg &&& tuneKept reg

/-- Calls were acknowledged, and what they do not program is as it was. -/
structure Programmed (before : E4kChip) (outcome : List Int32 × E4kChip) : Prop where
  acknowledged : ∀ rc ∈ outcome.1, 0 ≤ rc
  kept : Kept before outcome.2

/-- A tuning that happened: its calls programmed their fields and nothing else, and then the
register with the lock bit was read.
-/
def E4kTuned (before after : E4kState) : Prop :=
  ∃ returned,
    after.returned
      = (after.chip.registers e4kRegSynth1).toUInt32.toInt32 :: (returned ++ before.returned)
    ∧ Programmed before.chip (returned, after.chip)

-----------------------------------------------------------------------------------------
-- When the accesses fit
-----------------------------------------------------------------------------------------

section Transfers

variable (environment : Nat → Bool) (chip : E4kChip)

/-- Whether the transfer after a number of others moves its bytes. -/
def E4kChip.reaches (count : Nat) : Bool := chip.repeater && environment (chip.transfers + count)

/-- Whether a register can be read. -/
def E4kChip.answers : Bool := chip.reaches environment 0 && chip.reaches environment 1

/-- The chip after a read. -/
def E4kChip.afterRead : E4kChip := chip.transferred (if chip.reaches environment 0 then 2 else 1)

/-- What a masked write takes for the register, all bits set if it cannot be read. -/
def E4kChip.shown (reg : UInt8) : UInt8 :=
  if chip.answers environment then chip.registers reg else 0xff

/-- A call can do what it is to do: its write reaches the tuner, and what it takes for the
register has the bits that tuning keeps, unless there is nothing to write.
-/
def E4kAccess.Fits : E4kAccess → Prop
  | .write _ _ => chip.reaches environment 0 = true
  | .setMask reg mask val =>
      chip.shown environment reg &&& mask = val
      ∨ (chip.afterRead environment).reaches environment 0 = true
        ∧ chip.shown environment reg &&& tuneKept reg = chip.registers reg &&& tuneKept reg

end Transfers

/-- Each call fits in the state that the ones before it leave. -/
def AccessesFit (environment : Nat → Bool) : List E4kAccess → E4kChip → Prop
  | [], _ => True
  | access :: rest, chip =>
      access.Fits environment chip
      ∧ AccessesFit environment rest (access.call environment chip).2

/-- The calls of a tuning fit, and so does the read of the lock bit, unless the frequency is
refused or the loop does not lock.
-/
def TuneFits (freq : UInt32) (environment : Environment.E4k) (before : E4kState) : Prop :=
  let (rc, p) := e4kComputePllParams .zero before.vco.fosc freq
  rc = 0
  ∨ (e4kTuneParams p environment before).2.chip.answers environment.moves = true
    ∧ (environment.locked = true
      → AccessesFit environment.moves (tuneAccesses p (bandOf p.flo)) before.chip)

-----------------------------------------------------------------------------------------
-- One access
-----------------------------------------------------------------------------------------

section Transfers

variable {environment : Nat → Bool} {chip : E4kChip}

/-- A transfer is counted, and moves if the repeater is on and the environment lets it, by
computation.
-/
theorem i2cTransfer_eq
    : i2cTransfer environment chip = (chip.reaches environment 0, chip.transferred 1) := rfl

/-- A write stores its value if its transfer moves and returns -1 otherwise. Witness: both
answers of the transfer.
-/
theorem e4kRegWrite_eq (reg val : UInt8)
    : e4kRegWrite reg val environment chip
      = if chip.reaches environment 0 then (0, (chip.transferred 1).stored reg val)
        else (-1, chip.transferred 1) := by
  rw [e4kRegWrite, e4k_bind i2cTransfer_eq]
  cases chip.reaches environment 0 <;> rfl

/-- A read returns the register if both of its transfers move and -1 otherwise. Witness: the
answers of the first, and after it of the second.
-/
theorem e4kRegRead_eq (reg : UInt8)
    : e4kRegRead reg environment chip
      = (if chip.answers environment then (chip.registers reg).toUInt32.toInt32 else -1,
          chip.afterRead environment) := by
  rw [e4kRegRead, e4k_bind i2cTransfer_eq, E4kChip.answers, E4kChip.afterRead]
  cases chip.reaches environment 0 with
  | false => rfl
  | true =>
      have again : (chip.transferred 1).reaches environment 0 = chip.reaches environment 1 := rfl
      rw [if_pos rfl, e4k_bind i2cTransfer_eq, again]
      cases chip.reaches environment 1 <;> rfl

/-- A masked write takes -1 for a register that could not be read. Witness: narrowed to a
byte, it has all bits set.
-/
theorem shown_eq (reg : UInt8)
    : (if chip.answers environment then (chip.registers reg).toUInt32.toInt32
        else -1).toUInt32.toUInt8
      = chip.shown environment reg := by
  rw [E4kChip.shown]
  cases chip.answers environment with
  | false => rw [if_neg Bool.false_ne_true, if_neg Bool.false_ne_true]; decide
  | true => simp

/-- A masked write writes what it merges into what it was shown, unless that has the bits
already. Witness: the read, and the test of its bits.
-/
theorem e4kRegSetMask_eq (reg mask val : UInt8)
    : e4kRegSetMask reg mask val environment chip
      = if chip.shown environment reg &&& mask = val then (0, chip.afterRead environment)
        else
          e4kRegWrite reg (merge (chip.shown environment reg) val mask) environment
            (chip.afterRead environment) := by
  rw [e4kRegSetMask, e4k_bind (e4kRegRead_eq reg), shown_eq]
  by_cases found : chip.shown environment reg &&& mask = val
  · rw [if_pos found, if_pos found]
    rfl
  · rw [if_neg found, if_neg found]
    rfl

/-- An access programs fields that tuning does not keep. -/
def E4kAccess.Within : E4kAccess → Prop
  | .write reg _ => tuneKept reg = 0
  | .setMask reg mask _ => tuneKept reg &&& mask = 0

/-- A chip after accesses, which can only set bits of those that tuning keeps. -/
def Raised (before after : E4kChip) : Prop :=
  ∀ reg, before.registers reg &&& tuneKept reg &&& after.registers reg
    = before.registers reg &&& tuneKept reg

/-- What is kept has lost no bit, register by register. -/
theorem Kept.raised {before after : E4kChip} (kept : Kept before after) : Raised before after := by
  intro reg
  have same := kept reg
  grind

/-- What is shown of a register has the bits of the register: it is the register, or all bits
are set.
-/
theorem shown_raises (reg : UInt8)
    : chip.registers reg &&& chip.shown environment reg = chip.registers reg := by
  rw [E4kChip.shown]
  split
  next => exact UInt8.and_self
  next => exact UInt8.and_neg_one

/-- The register that is stored to holds the value. -/
theorem E4kChip.stored_self (reg val : UInt8)
    : (chip.stored reg val).registers reg = val :=
  if_pos rfl

/-- Storing to a register leaves the others alone. -/
theorem E4kChip.stored_other {reg other : UInt8} (val : UInt8) (apart : other ≠ reg)
    : (chip.stored reg val).registers other = chip.registers other :=
  if_neg apart

/-- A write keeps what it does not program exactly if the value has those bits of the
register. Witness: the register itself decides, and the others are left alone.
-/
theorem stored_kept_iff {reg val : UInt8}
    : Kept chip (chip.stored reg val)
      ↔ val &&& tuneKept reg = chip.registers reg &&& tuneKept reg := by
  constructor
  · intro kept
    have here := kept reg
    rwa [E4kChip.stored_self] at here
  · intro same other
    by_cases here : other = reg
    · rw [here, E4kChip.stored_self, same]
    · rw [E4kChip.stored_other val here]

/-- A write is acknowledged and keeps what is not programmed exactly if its transfer moves and
its value has those bits of the register.
-/
theorem e4kRegWrite_fits_iff {reg val : UInt8}
    : 0 ≤ (e4kRegWrite reg val environment chip).1
          ∧ Kept chip (e4kRegWrite reg val environment chip).2
      ↔ chip.reaches environment 0 = true
        ∧ val &&& tuneKept reg = chip.registers reg &&& tuneKept reg := by
  rw [e4kRegWrite_eq]
  cases chip.reaches environment 0 with
  | false =>
      have negative : ¬ (0 : Int32) ≤ -1 := by decide
      exact iff_of_false (fun fits => negative fits.1) (by simp)
  | true =>
      have positive : (0 : Int32) ≤ 0 := by decide
      exact and_congr (iff_of_true positive rfl) stored_kept_iff

/-- A write loses no bit of what is not programmed where its value has them, and one that
fails loses none at all.
-/
theorem e4kRegWrite_raised {reg val : UInt8}
    (raises
      : chip.registers reg &&& tuneKept reg &&& val = chip.registers reg &&& tuneKept reg)
    : Raised chip (e4kRegWrite reg val environment chip).2 := by
  intro other
  rw [e4kRegWrite_eq]
  cases chip.reaches environment 0 with
  | false => exact (Kept.raised fun _ => rfl) other
  | true =>
      change chip.registers other &&& tuneKept other &&& (chip.stored reg val).registers other = _
      by_cases here : other = reg
      · rw [here, E4kChip.stored_self, raises]
      · rw [E4kChip.stored_other val here]
        exact (Kept.raised fun _ => rfl) other

/-- A call fits exactly if its transfers move, or the bits it finds make it need none of them.
Witness: a masked write keeps outside its mask what is shown of the register.
-/
theorem E4kAccess.call_fits_iff {access : E4kAccess} (within : access.Within)
    : 0 ≤ (access.call environment chip).1 ∧ Kept chip (access.call environment chip).2
      ↔ access.Fits environment chip := by
  cases access with
  | write reg val =>
      have none : tuneKept reg = 0 := within
      refine e4kRegWrite_fits_iff.trans (and_iff_left ?_)
      rw [none, UInt8.and_zero, UInt8.and_zero]
  | setMask reg mask val =>
      change 0 ≤ (e4kRegSetMask reg mask val environment chip).1
          ∧ Kept chip (e4kRegSetMask reg mask val environment chip).2
        ↔ _ ∨ _
      rw [e4kRegSetMask_eq]
      by_cases found : chip.shown environment reg &&& mask = val
      · have positive : (0 : Int32) ≤ 0 := by decide
        rw [if_pos found]
        exact iff_of_true ⟨positive, fun _ => rfl⟩ (.inl found)
      · rw [if_neg found, or_iff_right found, ← merge_and_of_disjoint within]
        exact e4kRegWrite_fits_iff

/-- A call loses no bit of what is not programmed. Witness: what it is shown of a register has
the bits of the register, so what it writes has them too.
-/
theorem E4kAccess.call_raised {access : E4kAccess} (within : access.Within)
    : Raised chip (access.call environment chip).2 := by
  cases access with
  | write reg val =>
      have none : tuneKept reg = 0 := within
      refine e4kRegWrite_raised ?_
      rw [none, UInt8.and_zero, UInt8.zero_and]
  | setMask reg mask val =>
      change Raised chip (e4kRegSetMask reg mask val environment chip).2
      rw [e4kRegSetMask_eq]
      by_cases found : chip.shown environment reg &&& mask = val
      · rw [if_pos found]
        exact Kept.raised fun _ => rfl
      · rw [if_neg found]
        refine @e4kRegWrite_raised environment (chip.afterRead environment) _ _ ?_
        calc chip.registers reg &&& tuneKept reg &&& merge (chip.shown environment reg) val mask
            = chip.registers reg
                &&& (merge (chip.shown environment reg) val mask &&& tuneKept reg) := by
              rw [UInt8.and_assoc, UInt8.and_comm (tuneKept reg)]
          _ = chip.registers reg &&& (chip.shown environment reg &&& tuneKept reg) := by
              rw [merge_and_of_disjoint within]
          _ = chip.registers reg &&& tuneKept reg := by
              rw [← UInt8.and_assoc, shown_raises]

end Transfers

-----------------------------------------------------------------------------------------
-- A list of accesses
-----------------------------------------------------------------------------------------

/-- Bits that are lost neither by a first nor by a second part are not lost. -/
theorem Raised.trans {first second third : E4kChip} (earlier : Raised first second)
    (later : Raised second third)
    : Raised first third := by
  intro reg
  have left := earlier reg
  have right := later reg
  grind

/-- What a first and a second part keep is kept. -/
theorem Kept.trans {first second third : E4kChip} (earlier : Kept first second)
    (later : Kept second third)
    : Kept first third :=
  fun reg => (later reg).trans (earlier reg)

/-- What was set on the way is still set, so that it is all as before only if nothing was set.
Witness: bit by bit, for each register.
-/
theorem Kept.of_raised {first second third : E4kChip} (earlier : Raised first second)
    (later : Raised second third) (kept : Kept first third)
    : Kept first second ∧ Kept second third := by
  have same : Kept first second := by
    intro reg
    have left := earlier reg
    have right := later reg
    have ends := kept reg
    grind
  exact ⟨same, fun reg => (kept reg).trans (same reg).symm⟩

variable {environment : Nat → Bool}

/-- Calls in a row lose no bit of what is not programmed, by induction on the calls. -/
theorem accessAll_raised {accesses : List E4kAccess} {chip : E4kChip}
    (within : ∀ access ∈ accesses, access.Within)
    : Raised chip (accessAll environment accesses chip).2 := by
  induction accesses generalizing chip with
  | nil => exact Kept.raised fun _ => rfl
  | cons access rest ih =>
      have here := within access List.mem_cons_self
      exact (E4kAccess.call_raised here).trans
        (ih fun later member => within later (List.mem_cons_of_mem access member))

/-- Calls program their fields and nothing else exactly if each fits where it is made.
Witness: by induction on the calls; bits that one of them sets are never cleared by a later
one.
-/
theorem accessAll_programmed_iff {accesses : List E4kAccess} {chip : E4kChip}
    (within : ∀ access ∈ accesses, access.Within)
    : Programmed chip (accessAll environment accesses chip)
      ↔ AccessesFit environment accesses chip := by
  induction accesses generalizing chip with
  | nil =>
      exact iff_of_true ⟨fun rc member => absurd member List.not_mem_nil, fun _ => rfl⟩ trivial
  | cons access rest ih =>
      have here := within access List.mem_cons_self
      have others := fun later member => within later (List.mem_cons_of_mem access member)
      rw [AccessesFit, ← E4kAccess.call_fits_iff here, ← ih others]
      constructor
      · rintro ⟨acknowledged, kept⟩
        obtain ⟨first, remaining⟩ :=
          Kept.of_raised (E4kAccess.call_raised here) (accessAll_raised others) kept
        exact ⟨⟨acknowledged _ (List.mem_append_right _ (List.mem_singleton_self _)), first⟩,
          fun rc member => acknowledged rc (List.mem_append_left _ member), remaining⟩
      · rintro ⟨⟨positive, first⟩, acknowledged, remaining⟩
        refine ⟨fun rc member => ?_, first.trans remaining⟩
        rcases List.mem_append.mp member with later | now
        · exact acknowledged rc later
        · exact (List.mem_singleton.mp now) ▸ positive

/-- The calls after a first one are made on the chip that it leaves, by computation. -/
theorem accessAll_cons (access : E4kAccess) (rest : List E4kAccess) (chip : E4kChip)
    : accessAll environment (access :: rest) chip
      = ((accessAll environment rest (access.call environment chip).2).1
            ++ [(access.call environment chip).1],
          (accessAll environment rest (access.call environment chip).2).2) :=
  rfl

/-- The calls of a second list are made on the chip that those of the first leave, by
induction on the first.
-/
theorem accessAll_append (first second : List E4kAccess) (chip : E4kChip)
    : accessAll environment (first ++ second) chip
      = ((accessAll environment second (accessAll environment first chip).2).1
            ++ (accessAll environment first chip).1,
          (accessAll environment second (accessAll environment first chip).2).2) := by
  induction first generalizing chip with
  | nil => exact Prod.ext (List.append_nil _).symm rfl
  | cons access rest ih =>
      rw [List.cons_append, accessAll_cons, accessAll_cons, ih, List.append_assoc]

/-- Calls fit where those of the first part do, and those of the second on the chip they
leave. Witness: by induction on the first part.
-/
theorem accessesFit_append {first second : List E4kAccess} {chip : E4kChip}
    : AccessesFit environment (first ++ second) chip
      ↔ AccessesFit environment first chip
        ∧ AccessesFit environment second (accessAll environment first chip).2 := by
  induction first generalizing chip with
  | nil => exact (and_iff_right trivial).symm
  | cons access rest ih =>
      rw [List.cons_append, AccessesFit, AccessesFit, ih, and_assoc]
      rfl

-----------------------------------------------------------------------------------------
-- Tuning
-----------------------------------------------------------------------------------------

section Runs

variable {α β : Type} {environment : Environment.E4k} {state : E4kState}

/-- Where the run of a first part is known, the sequence is the rest on the value and the
state it leaves.
-/
theorem driver_bind {first : E4kDriver α} {rest : α → E4kDriver β} {value : α}
    {later : E4kState} (ran : first environment state = (value, later))
    : (first >>= rest) environment state = rest value environment later := by
  change rest (first environment state).1 environment (first environment state).2 = _
  rw [ran]

/-- An update of the state runs to the updated state, by computation. -/
theorem driver_modify (update : E4kState → E4kState)
    : (modify update : E4kDriver PUnit) environment state = (.unit, update state) :=
  rfl

/-- A call runs on the chip, and what it returned is recorded, by computation. -/
theorem called_run (call : E4k Int32)
    : called call environment state
      = ((call environment.moves state.chip).1,
          { state with
            chip := (call environment.moves state.chip).2
            returned := (call environment.moves state.chip).1 :: state.returned }) :=
  rfl

/-- The index of the closest center is one of the table, by induction on what is left of it.
-/
theorem closestFrom_lt {freq : UInt32} {arr : List UInt32} {bestDelta : UInt32} {bi i size : Nat}
    (chosen : bi < size) (inside : i + arr.length ≤ size)
    : closestFrom freq arr bestDelta bi i < size := by
  induction arr generalizing bestDelta bi i with
  | nil => exact chosen
  | cons center rest ih =>
      rw [List.length_cons] at inside
      rw [closestFrom]
      split
      next => exact ih (by omega) (by omega)
      next => exact ih chosen (by omega)

/-- There is a filter for every band and frequency. Witness: the tables of the two bands that
have filters are of sixteen entries each, and the other bands take the first one.
-/
theorem chooseRfFilter_not_neg (band : E4kBand) (freq : UInt32)
    : ¬ chooseRfFilter band freq < 0 := by
  have listed {arr : List UInt32} (size : arr.length = 16)
      : ¬ Int32.ofNat (closestArrIdx arr freq) < 0 := by
    have few : closestArrIdx arr freq < 16 := closestFrom_lt (by omega) (by omega)
    rw [Int32.lt_iff_toInt_lt, Int32.toInt_ofNat_of_lt (by omega)]
    exact Int.not_lt.mpr (Int.natCast_nonneg _)
  have least : ¬ (0 : Int32) < 0 := by decide
  cases band with
  | vhf2 => exact least
  | vhf3 => exact least
  | uhf => exact listed rfl
  | l => exact listed rfl

/-- Setting the filter is one masked write, since a filter is always found. -/
theorem e4kRfFilterSet_run
    : e4kRfFilterSet environment state
      = called (filterAccess state.vco state.band).call environment state := by
  have positive := chooseRfFilter_not_neg state.band state.vco.flo
  rw [e4kRfFilterSet]
  change (if chooseRfFilter state.band state.vco.flo < 0 then _ else _ : E4kDriver Int32)
    environment state = _
  rw [if_neg positive]
  rfl

/-- The band is stored if its calls are acknowledged. Witness: the calls in order, each of
which may return early.
-/
theorem e4kBandSet_run (band : E4kBand)
    : ∃ rc stored,
        e4kBandSet band environment state
          = (rc,
              { state with
                chip := (accessAll environment.moves (bandAccesses band) state.chip).2
                band := stored
                returned :=
                  (accessAll environment.moves (bandAccesses band) state.chip).1
                    ++ state.returned })
        ∧ ((∀ rc ∈ (accessAll environment.moves (bandAccesses band) state.chip).1, 0 ≤ rc)
          → stored = band) := by
  rw [e4kBandSet, driver_bind (called_run _), driver_bind (called_run _),
    driver_bind (called_run _)]
  split
  next => exact ⟨_, band, rfl, fun _ => rfl⟩
  next refused =>
    exact ⟨_, state.band, rfl, fun acknowledged =>
      absurd (acknowledged _ List.mem_cons_self) refused⟩

/-- The state after the synthesizer is programmed. -/
def E4kState.synthesized (state : E4kState) (environment : Environment.E4k) (p : E4kPllParams)
    : E4kState :=
  { state with
    chip := (accessAll environment.moves (synthAccesses p) state.chip).2
    vco := p
    returned := (accessAll environment.moves (synthAccesses p) state.chip).1 ++ state.returned }

/-- The parameters are programmed on the synthesizer first and kept, and band and filter are
set after that. Witness: the calls for the synthesizer run one by one.
-/
theorem e4kTuneParams_synthesized (p : E4kPllParams)
    : e4kTuneParams p environment state
      = (do
          let _ ← e4kBandSet (bandOf p.flo)
          let _ ← e4kRfFilterSet
          return p.flo : E4kDriver UInt32) environment (state.synthesized environment p) := by
  rw [e4kTuneParams, driver_bind (called_run _), driver_bind (called_run _),
    driver_bind (called_run _), driver_bind (called_run _), driver_bind (driver_modify _)]
  rfl

/-- The parameters are programmed by their calls, the filter for the band that is stored.
Witness: the synthesizer, the band and the filter in a row.
-/
theorem e4kTuneParams_run (p : E4kPllParams)
    : ∃ band,
        (e4kTuneParams p environment state).2
          = { chip := (accessAll environment.moves (tuneAccesses p band) state.chip).2
              band := band
              vco := p
              returned :=
                (accessAll environment.moves (tuneAccesses p band) state.chip).1
                  ++ state.returned }
        ∧ ((∀ rc ∈ (accessAll environment.moves (bandedAccesses p) state.chip).1, 0 ≤ rc)
          → band = bandOf p.flo) := by
  obtain ⟨rc, band, ran, stored⟩ :=
    @e4kBandSet_run environment (state.synthesized environment p) (bandOf p.flo)
  rw [e4kTuneParams_synthesized, driver_bind ran,
    driver_bind (e4kRfFilterSet_run.trans (called_run _))]
  refine ⟨band, ?_, fun acknowledged => stored fun rc member => acknowledged rc ?_⟩
  · rw [tuneAccesses, bandedAccesses, accessAll_append, accessAll_append]
    simp only [E4kState.synthesized]
    generalize accessAll environment.moves (synthAccesses p) state.chip = synth
    generalize accessAll environment.moves (bandAccesses (bandOf p.flo)) synth.2 = bands
    simp only [List.append_assoc]
    rfl
  · rw [bandedAccesses, accessAll_append]
    exact List.mem_append_left _ member

end Runs

/-- The calls that tune write nothing but their own fields, by evaluation of their masks. -/
theorem tuneAccesses_within {p : E4kPllParams} {band : E4kBand}
    : ∀ access ∈ tuneAccesses p band, access.Within := by
  simp only [tuneAccesses, bandedAccesses, synthAccesses, bandAccesses, filterAccess,
    List.cons_append, List.nil_append, List.forall_mem_cons, List.not_mem_nil, false_implies,
    implies_true, E4kAccess.Within]
  decide

/-- The calls up to the band write nothing but their own fields; they are a first part of
those that tune.
-/
theorem bandedAccesses_within {p : E4kPllParams}
    : ∀ access ∈ bandedAccesses p, access.Within :=
  fun access member =>
    @tuneAccesses_within p .l access (List.mem_append_left _ member)

/-- The lock bit is the tuner's own, so that no other bit is changed when it settles. Witness:
the register of the bit, and the others.
-/
theorem settled_kept (chip : E4kChip) (locked : Bool) : Kept chip (chip.settled locked) := by
  intro reg
  by_cases here : reg = e4kRegSynth1
  · have apart : tuneKept e4kRegSynth1 &&& e4kSynth1PllLock = 0 := by decide
    simp only [E4kChip.settled, here, if_true]
    exact merge_and_of_disjoint apart
  · simp only [E4kChip.settled, if_neg here]

/-- The lock bit is what the tuner says, by merging it under its own mask. -/
theorem settled_locked (chip : E4kChip) (locked : Bool)
    : (chip.settled locked).registers e4kRegSynth1 &&& e4kSynth1PllLock
      = if locked then e4kSynth1PllLock else 0 := by
  have inside
      : ∀ locked : Bool,
          (if locked then e4kSynth1PllLock else 0) &&& e4kSynth1PllLock
          = if locked then e4kSynth1PllLock else 0 := by
    decide
  exact merge_and_mask.trans (inside locked)

/-- What the check of the lock reads from a chip. -/
def lockRead (environment : Nat → Bool) (chip : E4kChip) : Int32 :=
  if chip.answers environment then (chip.registers e4kRegSynth1).toUInt32.toInt32 else -1

section Runs

variable {freq : UInt32} {environment : Environment.E4k} {before : E4kState} {rc : UInt32}
  {p : E4kPllParams}

/-- A frequency without parameters is refused with `-EINVAL`, and nothing is done. -/
theorem e4kTuneFreq_refused (computed : e4kComputePllParams .zero before.vco.fosc freq = (0, p))
    : e4kTuneFreq freq environment before = (-22, before) := by
  have unread : (get : E4kDriver E4kState) environment before = (before, before) := rfl
  rw [e4kTuneFreq, driver_bind unread, computed]
  rfl

/-- The loop is checked after the parameters are programmed. Witness: the parameters as they
were computed, their calls, and the read of the lock bit.
-/
theorem e4kTuneFreq_run (computed : e4kComputePllParams .zero before.vco.fosc freq = (rc, p))
    (accepted : rc ≠ 0) {programmed : E4kState}
    (ran : (e4kTuneParams p environment before).2 = programmed)
    : e4kTuneFreq freq environment before
      = let chip := programmed.chip.settled environment.locked
        let rc := lockRead environment.moves chip
        (if rc.toUInt32 &&& 0x01 = 0 then -1 else 0,
          { programmed with
            chip := chip.afterRead environment.moves
            returned := rc :: programmed.returned }) := by
  have unread : (get : E4kDriver E4kState) environment before = (before, before) := rfl
  have tuned
      : e4kTuneParams p environment before
        = ((e4kTuneParams p environment before).1, programmed) :=
    Prod.ext rfl ran
  have settles
      : settle environment programmed
        = ((), { programmed with chip := programmed.chip.settled environment.locked }) :=
    rfl
  rw [e4kTuneFreq, driver_bind unread, computed]
  change (if rc = 0 then _ else _ : E4kDriver Int32) environment before = _
  rw [if_neg accepted, driver_bind tuned, driver_bind settles, driver_bind (called_run _),
    e4kRegRead_eq]
  change (if (lockRead environment.moves (programmed.chip.settled environment.locked)).toUInt32
        &&& 0x01 = 0
      then pure (-1) else pure 0 : E4kDriver Int32) environment _ = _
  split
  next unlocked => exact Prod.ext (if_pos unlocked).symm rfl
  next locked => exact Prod.ext (if_neg locked).symm rfl

end Runs

/-- A register that is read shows whether the loop is locked, one that is not shows it locked.
Witness: -1 has the lock bit set.
-/
theorem lockRead_unlocked_iff {environment : Nat → Bool} {chip : E4kChip} {locked : Bool}
    : (lockRead environment (chip.settled locked)).toUInt32 &&& 0x01 = 0
      ↔ chip.answers environment = true ∧ locked = false := by
  have same : (chip.settled locked).answers environment = chip.answers environment := rfl
  rw [lockRead, same]
  cases chip.answers environment with
  | false =>
      have failed : ¬ (-1 : Int32).toUInt32 &&& 0x01 = 0 := by decide
      exact iff_of_false failed fun answered => Bool.false_ne_true answered.1
  | true =>
      have bit := congrArg UInt8.toUInt32 (settled_locked chip locked)
      rw [UInt8.toUInt32_and] at bit
      rw [if_pos rfl, UInt32.toUInt32_toInt32, and_iff_right rfl]
      change _ &&& e4kSynth1PllLock.toUInt32 = 0 ↔ _
      rw [bit]
      clear same bit
      revert locked
      decide

/-- A failed read is no content of a register. Witness: a byte is not negative. -/
theorem lockRead_read_iff {environment : Nat → Bool} {chip : E4kChip}
    : lockRead environment chip = (chip.registers e4kRegSynth1).toUInt32.toInt32
      ↔ chip.answers environment = true := by
  rw [lockRead]
  cases chip.answers environment with
  | true => exact iff_of_true (if_pos rfl) rfl
  | false =>
      refine iff_of_false (fun same => ?_) Bool.false_ne_true
      rw [if_neg Bool.false_ne_true] at same
      have content := congrArg (fun number => number.toUInt32.toUInt8) same
      simp only [UInt32.toUInt32_toInt32, UInt8.toUInt8_toUInt32] at content
      rw [← content] at same
      revert same
      decide

/-- The read of the lock bit and the calls before it decide about a tuning. Witness: the
settling of the bit changes none of what the calls program.
-/
theorem tuned_iff {environment : Nat → Bool} {before : E4kState} {programmed : E4kState}
    {returned : List Int32} {locked : Bool}
    (calls : programmed.returned = returned ++ before.returned)
    : E4kTuned before
        { programmed with
          chip := (programmed.chip.settled locked).afterRead environment
          returned :=
            lockRead environment (programmed.chip.settled locked) :: programmed.returned }
      ↔ programmed.chip.answers environment = true
        ∧ Programmed before.chip (returned, programmed.chip) := by
  rw [calls]
  constructor
  · rintro ⟨others, same, acknowledged, kept⟩
    injection same with checked earlier
    obtain rfl := List.append_cancel_right earlier
    have answered : (programmed.chip.settled locked).answers environment = true :=
      lockRead_read_iff.mp checked
    refine ⟨answered, acknowledged, fun reg => ?_⟩
    exact (settled_kept programmed.chip locked reg).symm.trans (kept reg)
  · rintro ⟨answered, acknowledged, kept⟩
    have checked : (programmed.chip.settled locked).answers environment = true := answered
    refine ⟨returned, congrArg (· :: _) (lockRead_read_iff.mpr checked), acknowledged, ?_⟩
    exact kept.trans (settled_kept programmed.chip locked)

/-- Tuning reports what happened exactly if every call fits, or the tuning is refused or shown not
to lock.
-/
theorem e4kTuneFreq_reports_iff (freq : UInt32) (environment : Environment.E4k)
    (before : E4kState)
    : ((e4kTuneFreq freq environment before).1 = 0
        → E4kTuned before (e4kTuneFreq freq environment before).2)
      ↔ TuneFits freq environment before := by
  rw [TuneFits]
  cases computed : e4kComputePllParams .zero before.vco.fosc freq with
  | mk rc p =>
  by_cases refused : rc = 0
  case pos =>
    subst refused
    rw [e4kTuneFreq_refused computed]
    have failed : ¬ (-22 : Int32) = 0 := by decide
    exact iff_of_true (fun succeeded => absurd succeeded failed) (.inl rfl)
  case neg =>
    obtain ⟨band, ran, stored⟩ := @e4kTuneParams_run environment before p
    have banded
        : AccessesFit environment.moves (bandedAccesses p) before.chip → band = bandOf p.flo :=
      fun fits => stored ((accessAll_programmed_iff bandedAccesses_within).mpr fits).acknowledged
    have sameBand
        : AccessesFit environment.moves (tuneAccesses p band) before.chip
          ↔ AccessesFit environment.moves (tuneAccesses p (bandOf p.flo)) before.chip := by
      rw [tuneAccesses, tuneAccesses, accessesFit_append, accessesFit_append]
      exact and_congr_right fun fits => by rw [banded fits]
    have calls := congrArg E4kState.returned ran
    have chip := congrArg E4kState.chip ran
    rw [e4kTuneFreq_run computed refused rfl]
    dsimp only
    generalize (e4kTuneParams p environment before).2 = programmed at calls chip ⊢
    dsimp only at calls chip
    rw [tuned_iff calls, chip, accessAll_programmed_iff tuneAccesses_within, sameBand, ← chip,
      or_iff_right refused]
    have failed : ¬ (-1 : Int32) = 0 := by decide
    rw [ite_eq_right_iff, lockRead_unlocked_iff]
    cases programmed.chip.answers environment.moves <;> cases environment.locked
      <;> simp [failed]

/-- A tuner of a 28.8 MHz clock, whose registers are zero. -/
def E4kState.idle : E4kState :=
  { chip := { E4kChip.zero with repeater := true }
    band := .vhf2
    vco := { E4kPllParams.zero with fosc := 28800000 }
    returned := [] }

/-- The divider of 100 MHz does not reach the tuner, and 0 is returned. -/
theorem e4kTuneFreq_drops_failure
    : ¬ ((e4kTuneFreq 100000000 ⟨fun number => number != 0, true⟩ .idle).1 = 0
        → E4kTuned .idle (e4kTuneFreq 100000000 ⟨fun number => number != 0, true⟩ .idle).2) := by
  intro reports
  obtain ⟨returned, same, programmed⟩ := reports (by decide)
  have failed
      : (-1 : Int32)
        ∈ (e4kTuneFreq 100000000 ⟨fun number => number != 0, true⟩ .idle).2.returned.tail := by
    decide
  rw [same, List.tail_cons] at failed
  rcases List.mem_append.mp failed with here | earlier
  · have negative : ¬ (0 : Int32) ≤ -1 := by decide
    exact negative (programmed.acknowledged _ here)
  · exact List.not_mem_nil earlier

end RtlTcpAndro.Tuners
