import RtlTcpAndro.RtlSdrDevice.Tuning

/-! What the functions that tune leave alone: the crystals, the correction and the rate of the
device, and all registers of the demodulator but those of the repeater and of the intermediate
frequency.
-/

namespace RtlTcpAndro.RtlSdrDevice

/-- The registers of page 1 that tuning writes: the one of the repeater and those of the
intermediate frequency.
-/
def retunedRegisters : List UInt16 := [0x01, 0x19, 0x1a, 0x1b]

/-- Nothing but the tuning is different. -/
structure Retuned (before after : Radio) : Prop where
  rtlXtal : after.settings.rtlXtal = before.settings.rtlXtal
  tunXtal : after.settings.tunXtal = before.settings.tunXtal
  corr : after.settings.corr = before.settings.corr
  rate : after.settings.rate = before.settings.rate
  calls : before.chip.calls ≤ after.chip.calls
  registers
    : ∀ addr, addr ∉ retunedRegisters → after.chip.demod 1 addr = before.chip.demod 1 addr

/-- A device that nothing was done to is retuned, by reflexivity of every field; the registers
of the demodulator are those it had.
-/
theorem Retuned.refl (radio : Radio) : Retuned radio radio :=
  ⟨rfl, rfl, rfl, rfl, le_refl _, fun _ _ => rfl⟩

/-- Tuning twice in a row is tuning: what neither of the two changes is unchanged after both.
Witness: the equations of the two are chained field by field, and the counts of calls are
ordered.
-/
theorem Retuned.trans {before between after : Radio} (first : Retuned before between)
    (second : Retuned between after)
    : Retuned before after where
  rtlXtal := second.rtlXtal.trans first.rtlXtal
  tunXtal := second.tunXtal.trans first.tunXtal
  corr := second.corr.trans first.corr
  rate := second.rate.trans first.rate
  calls := first.calls.trans second.calls
  registers addr other := (second.registers addr other).trans (first.registers addr other)

/-- A computation that does nothing but tune, whatever the environment answers. -/
def Tuning.Retunes {α : Type} (tuning : Tuning α) : Prop :=
  ∀ environment radio, Retuned radio (tuning environment radio).2

section Retunes

variable {α β : Type}

/-- A sequence of computations that only tune does nothing but tune, by transitivity through
the device that the first part leaves, whatever value it hands on.
-/
theorem Tuning.Retunes.bind {first : Tuning α} {rest : α → Tuning β} (retunes : first.Retunes)
    (next : ∀ value, (rest value).Retunes)
    : (first >>= rest).Retunes :=
  fun environment radio =>
    (retunes environment radio).trans (next _ environment (first environment radio).2)

/-- A value changes no device at all, so every environment leaves it retuned by reflexivity.
-/
theorem Tuning.Retunes.pure {value : α} : (Pure.pure value : Tuning α).Retunes :=
  fun _ radio => .refl radio

/-- Reading a setting changes no device at all, so every environment leaves it retuned by
reflexivity.
-/
theorem setting_retunes (field : Settings → α) : (setting field).Retunes :=
  fun _ radio => .refl radio

/-- An update of the settings only tunes where it spares the crystals, the correction and the
rate. Witness: the equation of the four settings is split into its parts; the chip is not
touched.
-/
theorem change_retunes {update : Settings → Settings}
    (spares : ∀ settings,
      ((update settings).rtlXtal, (update settings).tunXtal, (update settings).corr,
          (update settings).rate)
        = (settings.rtlXtal, settings.tunXtal, settings.corr, settings.rate))
    : (change update).Retunes := by
  intro _ radio
  have same := spares radio.settings
  simp only [Prod.mk.injEq] at same
  obtain ⟨rtlXtal, tunXtal, corr, rate⟩ := same
  exact ⟨rtlXtal, tunXtal, corr, rate, le_refl _, fun _ _ => rfl⟩

end Retunes

/-- A write of one byte changes no other register of the page. Witness: the values written
from an address on are the byte at that address, so another address reads what it held.
-/
theorem demod_written_of_ne (chip : Chip) (page : UInt8) {addr other : UInt16} (val : UInt16)
    (apart : other ≠ addr)
    : (chip.written page addr val 1).demod page other = chip.demod page other := by
  simp [Chip.written, apart]

/-- A write of one byte to a register that belongs to the tuning only tunes. Witness: a
transfer that fails leaves the registers alone, and one that moves changes none outside of the
list.
-/
theorem rtlsdrDemodWriteReg_retunes {addr : UInt16} (listed : addr ∈ retunedRegisters)
    (val : UInt16)
    : (rtlsdrDemodWriteReg 1 addr val 1).Retunes := by
  intro environment radio
  unfold rtlsdrDemodWriteReg
  change Retuned radio
    ((if environment.transfers radio.chip.calls = true then _ else _ : Tuning Int32)
      environment _).2
  split
  · refine ⟨rfl, rfl, rfl, rfl, Nat.le_succ _, fun other unlisted => ?_⟩
    exact demod_written_of_ne _ 1 val fun same => unlisted (same ▸ listed)
  · exact ⟨rfl, rfl, rfl, rfl, Nat.le_succ _, fun _ _ => rfl⟩

/-- Switching the repeater, on or off, only tunes: its register is the first of those that
tuning writes.
-/
theorem rtlsdrSetI2cRepeater_retunes (on : Bool) : (rtlsdrSetI2cRepeater on).Retunes :=
  .bind (rtlsdrDemodWriteReg_retunes (by decide) _) fun _ => .pure

/-- A request to the tuner only tunes: it counts as a call and changes neither the settings
nor the demodulator. Witness: the number of the call is taken, and the environment is read.
-/
theorem askTuner_retunes (call : TunerCall) : (askTuner call).Retunes := by
  refine .bind (fun _ radio => ⟨rfl, rfl, rfl, rfl, Nat.le_succ _, fun _ _ => rfl⟩) fun _ => ?_
  exact .bind (fun _ radio => .refl radio) fun _ => .pure

/-- What only tunes still does between switching the repeater on and off again. Witness: the
three parts in sequence, the value of the middle one handed on.
-/
theorem repeating_retunes {tuning : Tuning Int32} (retunes : tuning.Retunes)
    : (repeating tuning).Retunes := by
  refine .bind (rtlsdrSetI2cRepeater_retunes true) fun _ => ?_
  refine .bind retunes fun _ => ?_
  exact .bind (rtlsdrSetI2cRepeater_retunes false) fun _ => .pure

/-- A function of the tuner, with the repeater switched around it, only tunes; it is a request
that is repeated.
-/
theorem callTuner_retunes (call : TunerCall) : (callTuner call).Retunes :=
  repeating_retunes (askTuner_retunes call)

/-- Setting the intermediate frequency only tunes. Witness: the frequency is kept as a
setting, and the three registers that are written belong to the tuning.
-/
theorem rtlsdrSetIfFreq_retunes (freq : UInt32) : (rtlsdrSetIfFreq freq).Retunes := by
  refine .bind (change_retunes fun _ => rfl) fun _ => ?_
  refine .bind (setting_retunes _) fun _ => ?_
  refine .bind (rtlsdrDemodWriteReg_retunes (by decide) _) fun _ => ?_
  refine .bind (rtlsdrDemodWriteReg_retunes (by decide) _) fun _ => ?_
  exact .bind (rtlsdrDemodWriteReg_retunes (by decide) _) fun _ => .pure

/-- Tuning to a frequency only tunes, by direct sampling as with a tuner. Witness: either
branch ends with the frequency as a setting, which none of the four spared ones is.
-/
theorem rtlsdrSetCenterFreq_retunes (freq : UInt32) : (rtlsdrSetCenterFreq freq).Retunes := by
  refine .bind (setting_retunes id) fun settings => ?_
  have marks (r : Int32)
      : (do
          change fun settings => settings.withFreq (if r = 0 then freq else 0)
          return r : Tuning Int32).Retunes :=
    .bind (change_retunes fun _ => rfl) fun _ => .pure
  split
  · exact .bind (rtlsdrSetIfFreq_retunes freq) marks
  · split
    · refine .bind (change_retunes fun _ => rfl) fun _ => ?_
      exact .bind (callTuner_retunes _) marks
    · exact .bind .pure marks

/-- Setting the bandwidth of a tuner only tunes, also where an R82xx asks for another
intermediate frequency and is tuned again. Witness: each branch is a sequence of calls that
do.
-/
theorem setTunerBw_retunes (bw : Int32) : (setTunerBw bw).Retunes := by
  refine .bind (setting_retunes id) fun settings => ?_
  refine .bind (askTuner_retunes _) fun r => ?_
  split
  · split
    · exact .pure
    · refine .bind (rtlsdrSetIfFreq_retunes _) fun r => ?_
      split
      · exact .pure
      · exact .bind (setting_retunes _) fun _ => rtlsdrSetCenterFreq_retunes _
  · exact .pure

/-- The bandwidth, with the repeater switched around all of what it takes, only tunes. -/
theorem tunerSetBw_retunes (bw : Int32) : (tunerSetBw bw).Retunes :=
  repeating_retunes (setTunerBw_retunes bw)

/-- Offset tuning only tunes, whether it is refused, sets the offset or tunes to the frequency
again. Witness: the branches of the function one by one.
-/
theorem rtlsdrSetOffsetTuning_retunes (on : Int32) : (rtlsdrSetOffsetTuning on).Retunes := by
  refine .bind (setting_retunes id) fun settings => ?_
  have retunes (r : Int32)
      : (if settings.offsetFor on < settings.freq then do
          return r ||| (← rtlsdrSetCenterFreq settings.freq)
        else return r : Tuning Int32).Retunes := by
    split
    · exact .bind (rtlsdrSetCenterFreq_retunes _) fun _ => .pure
    · exact .pure
  split
  · exact .pure
  · split
    · exact .pure
    · refine .bind (change_retunes fun _ => rfl) fun _ => ?_
      refine .bind (rtlsdrSetIfFreq_retunes _) fun r => ?_
      by_cases supported : settings.tunerType.supported = true
      · rw [if_pos supported]
        exact .bind (tunerSetBw_retunes _) fun _ => retunes r
      · rw [if_neg supported]
        exact retunes r

/-- The bandwidth that goes with the sample rate only tunes; it is set where there is a tuner
and left alone elsewhere.
-/
theorem setRateBandwidth_retunes : setRateBandwidth.Retunes := by
  refine .bind (setting_retunes id) fun settings => ?_
  split
  · exact .bind (tunerSetBw_retunes _) fun _ => .pure
  · exact .pure

-----------------------------------------------------------------------------------------
-- Writes
-----------------------------------------------------------------------------------------

/-- A part of the radio that is the same after a computation, whatever the environment answers.
-/
def Tuning.Preserves {α β : Type} (tuning : Tuning α) (part : Radio → β) : Prop :=
  ∀ environment radio, part (tuning environment radio).2 = part radio

section Preserves

variable {α β γ : Type} {part : Radio → γ} {environment : Environment.Radio} {radio : Radio}

/-- A sequence preserves a part of the device that both of its parts preserve, by transitivity
through the device between them.
-/
theorem Tuning.Preserves.bind {first : Tuning α} {rest : α → Tuning β}
    (preserves : first.Preserves part) (next : ∀ value, (rest value).Preserves part)
    : (first >>= rest).Preserves part :=
  fun environment radio =>
    (next _ environment (first environment radio).2).trans (preserves environment radio)

/-- A value preserves every part of the device, by reflexivity. -/
theorem Tuning.Preserves.pure {value : α} : (Pure.pure value : Tuning α).Preserves part :=
  fun _ _ => rfl

/-- Reading a setting preserves every part of the device, by reflexivity. -/
theorem setting_preserves (field : Settings → α) : (setting field).Preserves part :=
  fun _ _ => rfl

/-- Where the run of a first part is known, the sequence is the rest on the value and the
device it leaves.
-/
theorem Tuning.bind_run {first : Tuning α} {rest : α → Tuning β} {value : α} {later : Radio}
    (ran : first environment radio = (value, later))
    : (first >>= rest) environment radio = rest value environment later := by
  change rest (first environment radio).1 environment (first environment radio).2 = _
  rw [ran]

/-- A radio after one more call. -/
def Radio.called (radio : Radio) : Radio :=
  { radio with chip := { radio.chip with calls := radio.chip.calls + 1 } }

/-- A radio after a write to a register. -/
def Radio.written (radio : Radio) (page : UInt8) (addr val : UInt16) (len : UInt8) : Radio :=
  { radio.called with chip := radio.called.chip.written page addr val len }

/-- The whole run of a write: the register is stored where the transfer moves, and the call is
counted either way. Witness: both branches of the function compute.
-/
theorem rtlsdrDemodWriteReg_run (page : UInt8) (addr val : UInt16) (len : UInt8)
    : rtlsdrDemodWriteReg page addr val len environment radio
      = if environment.transfers radio.chip.calls then (0, radio.written page addr val len)
        else (-1, radio.called) := by
  unfold rtlsdrDemodWriteReg
  change (if environment.transfers radio.chip.calls = true then _ else _ : Tuning Int32)
    environment radio.called = _
  split <;> rfl

/-- A write preserves a part of the device that neither the stored value nor the number of
calls changes. Witness: a transfer that moves leaves the one, a transfer that fails the other.
-/
theorem rtlsdrDemodWriteReg_preserves {page : UInt8} {addr val : UInt16} {len : UInt8}
    (called : ∀ radio : Radio, part radio.called = part radio)
    (written : ∀ radio : Radio, part (radio.written page addr val len) = part radio)
    : (rtlsdrDemodWriteReg page addr val len).Preserves part := by
  intro environment radio
  rw [rtlsdrDemodWriteReg_run]
  split
  · exact written radio
  · exact called radio

end Preserves

end RtlTcpAndro.RtlSdrDevice
