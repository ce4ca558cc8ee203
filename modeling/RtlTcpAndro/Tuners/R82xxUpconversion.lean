import RtlTcpAndro.RtlSdrDevice.Doubles
import RtlTcpAndro.Tuners.R82xxInputs
import RtlTcpAndro.Tuners.R82xxPll

/-! The upconverter of the dongles that have one, and the input that it feeds. The oscillator is
moved below 28.8 MHz, and the input is selected up to it.
-/

namespace RtlTcpAndro.Tuners

open RtlTcpAndro.Faults
open RtlTcpAndro.RtlSdrDevice

/-- The dongles that upconvert. -/
def R82xxTunerConfig.Upconverts (config : R82xxTunerConfig) : Prop :=
  config.blogV4 = true ∨ config.blogV4L = true

/-- From a bus, `r82xx_set_freq` has the multiplexer and then the loop set to a frequency, whatever
sets them, and goes on with the inputs.
-/
def SetsLo (environment : Environment.Bus R82xxTunerConfig) (freq : UInt32)
    (bus : Bus R82xxTunerPriv) (lo : UInt32)
    : Prop :=
  ∀ setMux setPll : UInt32 → R82xxTuner Unit,
    setFreqBy setMux setPll freq environment bus
    = (do
        setMux lo
        setPll lo
        selectInputIfLocked environment.config freq) environment bus

/-- The registers of the loop are those that a frequency is programmed with, after the tuner has
said of its fine tuning what an answer has. The crystal is one that the loop can be computed with.
-/
def HoldsLo (config : R82xxTunerConfig) (answer : Nat → UInt8) (registers : UInt8 → UInt8)
    (lo : UInt32)
    : Prop :=
  ∀ divider state,
    LoopFits config.xtal
    → calculateDivider ((lo + 500) / 1000) = .ok divider
    → calculateSdm ((config.xtal + 500) / 1000) (vcoFraction config.xtal lo divider.mixDiv)
      = .ok state
    → PllRegisters registers
        (tunedDivNum divider.divNum (vcoPowerRef config.toR82xxConfig) (vcoFineTune answer))
        (vcoNint config.xtal lo divider.mixDiv) state.sdm

/-- A run of `r82xx_set_freq` sets the multiplexer and the loop to a frequency and to no other, and
leaves the registers of the loop as that frequency has them.
-/
structure TunesLo (environment : Environment.Bus R82xxTunerConfig) (freq : UInt32)
    (bus later : Bus R82xxTunerPriv) (lo : UInt32)
    : Prop where
  sets : SetsLo environment freq bus lo
  runs
    : ∃ muxed tuned,
        r82xxSetMux lo environment bus = .ok (.ok (), muxed)
        ∧ tuner (r82xxSetPll lo) environment muxed = .ok (.ok (), tuned)
        ∧ selectInputIfLocked environment.config freq environment tuned = .ok (.ok (), later)
  holds : HoldsLo environment.config (environment.reads (bus.transfers + 10)) later.registers lo

/-- The oscillator is set to the frequency moved by that of the upconverter, over the intermediate
frequency that the driver has.
-/
def AddsOffset (environment : Environment.Bus R82xxTunerConfig) (freq : UInt32)
    (bus later : Bus R82xxTunerPriv)
    : Prop :=
  TunesLo environment freq bus later (freq + 28800000 + bus.driver.intFreq)

/-- The input that the upconverter feeds is selected, and the tracking filter is bypassed. -/
structure SelectsHf (bus : Bus R82xxTunerPriv) : Prop where
  band : bus.driver.input = hf
  multiplexer : bus.registers 0x1a &&& 0xc3 = 0x40
  filter : bus.registers 0x1b = 0x00

-----------------------------------------------------------------------------------------
-- The frequency of the oscillator
-----------------------------------------------------------------------------------------

section Oscillator

variable {environment : Environment.Bus R82xxTunerConfig} {freq lo : UInt32}
  {bus later : Bus R82xxTunerPriv}

/-- `r82xx_set_freq` has one frequency set, which is `lo_freq`. Witness: a function that returns the
frequency as its error when it is to set the loop shows which one it was given.
-/
theorem setsLo_iff
    : SetsLo environment freq bus lo ↔ lo = loFreq environment.config freq bus.driver.intFreq := by
  constructor
  · intro sets
    have shown := sets (fun _ => pure ()) fun asked => throw asked.toInt32
    change (.ok (.error (loFreq environment.config freq bus.driver.intFreq).toInt32, bus)
      : Faulty (Except Int32 Unit × Bus R82xxTunerPriv)) = .ok (.error lo.toInt32, bus) at shown
    have same := Except.error.inj (Prod.mk.inj (Except.ok.inj shown)).1
    exact (congrArg Int32.toUInt32 same).symm
  · rintro rfl setMux setPll
    rfl

/-- A function that writes registers keeps those that it spares. -/
theorem tuner_spares {α : Type} {program : R82xx α} {spared : UInt8 → Prop}
    (spares : Spares program environment.inner spared) (start : Bus R82xxTunerPriv)
    : (tuner program).Keeps environment
        (fun bus => ∀ reg, spared reg → bus.registers reg = start.registers reg) := by
  intro bus same
  refine Program.permits_zoom.mpr ((spares bus.inner).permits.weaken ?_ ?_)
  · exact fun _ _ kept reg chosen => (kept reg chosen).trans (same reg chosen)
  · exact fun _ _ failed reg chosen => (failed.1 reg chosen).trans (same reg chosen)

variable (room : 2 ≤ environment.config.maxI2cMsgLen.toNat)

include room

/-- Bypassing the tracking filter spares the registers of the loop. Witness: it writes registers
0x1a and 0x1b only.
-/
theorem bypassTrackingFilter_spares (band : UInt8)
    : Spares (bypassTrackingFilter band) environment.inner IsPllRegister := by
  unfold bypassTrackingFilter
  split
  · refine .bind (r82xxWriteRegMask_spares room (by decide) (by decide) _ _) fun _ => ?_
    exact r82xxWriteReg_spares room (by decide) 0x00
  · exact .pure

/-- Switching between the inputs keeps the registers of the loop. Witness: it writes registers
0x05, 0x06 and 0x17, and what bypasses the tracking filter.
-/
theorem selectInput_keepsLoop (freq : UInt32) (start : Bus R82xxTunerPriv)
    : (selectInput environment.config freq).Keeps environment
        (fun bus => ∀ reg, IsPllRegister reg → bus.registers reg = start.registers reg) := by
  have masked {reg : UInt8} (shadowed : Shadowed reg) (taken : ¬ IsPllRegister reg)
      (val bitMask : UInt8)
      : Spares (r82xxWriteRegMask reg val bitMask) environment.inner IsPllRegister :=
    r82xxWriteRegMask_spares room shadowed taken val bitMask
  have antenna (cable1 air : UInt8)
      : Spares
          (do
            r82xxWriteRegMask 0x05 cable1 0x40
            r82xxWriteRegMask 0x05 air 0x20)
          environment.inner IsPllRegister :=
    .bind (masked (by decide) (by decide) _ _) fun _ => masked (by decide) (by decide) _ _
  unfold selectInput
  split
  · refine .bind (tuner_spares (.bind (masked (by decide) (by decide) _ _) fun _ =>
      bypassTrackingFilter_spares room _) start) fun _ => .bind .get fun _ => ?_
    split
    · refine .bind (.modify fun _ same => same) fun _ => ?_
      refine .bind (tuner_spares (masked (by decide) (by decide) _ _) start) fun _ => ?_
      exact .bind (.modify fun _ same => same) fun _ => tuner_spares (antenna _ _) start
    · exact .pure
  · split
    · refine .bind (tuner_spares (bypassTrackingFilter_spares room _) start) fun _ =>
        .bind .get fun _ => ?_
      split
      · refine .bind (.modify fun _ same => same) fun _ => ?_
        exact .bind (.modify fun _ same => same) fun _ => tuner_spares (antenna _ _) start
      · exact .pure
    · refine .bind .read fun _ => .bind .get fun _ => ?_
      split
      · refine .bind (.modify fun _ same => same) fun _ => ?_
        exact tuner_spares (masked (by decide) (by decide) _ _) start
      · exact .pure

/-- Once the multiplexer is set, a run that returns zero leaves the registers of the loop as the
frequency has them. Witness: `r82xxSetPll_leads` after the six transfers of the multiplexer; what
selects the input keeps the registers.
-/
theorem holdsLo_of_ran {muxed tuned : Bus R82xxTunerPriv}
    (mux : r82xxSetMux lo environment bus = .ok (.ok (), muxed))
    (pll : tuner (r82xxSetPll lo) environment muxed = .ok (.ok (), tuned))
    (selected
      : selectInputIfLocked environment.config freq environment tuned = .ok (.ok (), later))
    : HoldsLo environment.config (environment.reads (bus.transfers + 10)) later.registers lo := by
  intro divider state fits found counted
  have taken : muxed.transfers = bus.transfers + 6 :=
    (r82xxSetMux_takes room lo bus _ muxed mux).1 () rfl
  have answer : muxed.inner.transfers + 4 = bus.transfers + 10 := by
    change muxed.transfers + 4 = _
    rw [taken]
  have leads :=
    @r82xxSetPll_leads environment.inner room fits lo divider state found counted muxed.inner
  rw [answer] at leads
  have programs : (tuner (r82xxSetPll lo)).Permits environment
      (fun _ tuned =>
        PllRegisters tuned.registers
          (tunedDivNum divider.divNum (vcoPowerRef environment.config.toR82xxConfig)
            (vcoFineTune (environment.reads (bus.transfers + 10))))
          (vcoNint environment.config.xtal lo divider.mixDiv) state.sdm)
      (fun _ _ => True) muxed :=
    Program.permits_zoom.mpr
      (leads.permits.weaken (fun _ _ programmed => programmed.2) fun _ _ _ => trivial)
  have programmed := (programs _ tuned pll).1 () rfl
  have keeps : (selectInputIfLocked environment.config freq).Keeps environment
      (fun bus => ∀ reg, IsPllRegister reg → bus.registers reg = tuned.registers reg) := by
    refine .bind .get fun _ => ?_
    split
    · exact selectInput_keepsLoop room freq tuned
    · exact .pure
  exact programmed.congr ((keeps tuned (fun _ _ => rfl) _ later selected).1 () rfl)

/-- A run that returns zero sets the oscillator to `lo_freq` and to no other frequency. Witness:
the states between the functions that it calls one after the other.
-/
theorem tunesLo_iff (ran : r82xxSetFreq freq environment bus = .ok (.ok (), later))
    : TunesLo environment freq bus later lo
      ↔ lo = loFreq environment.config freq bus.driver.intFreq := by
  rw [← setsLo_iff]
  constructor
  · exact fun tunes => tunes.sets
  · intro sets
    rw [r82xxSetFreq, sets] at ran
    obtain ⟨_, muxed, mux, ran⟩ := Program.ok_of_bind_ok ran
    obtain ⟨_, tuned, pll, ran⟩ := Program.ok_of_bind_ok ran
    exact ⟨sets, ⟨muxed, tuned, mux, pll, ran⟩, holdsLo_of_ran room mux pll ran⟩

end Oscillator

-----------------------------------------------------------------------------------------
-- The offset and the input
-----------------------------------------------------------------------------------------

section Upconversion

variable {environment : Environment.Bus R82xxTunerConfig} {config : R82xxTunerConfig}
  {freq : UInt32}

/-- The threshold that is written as 28.8 MHz. -/
theorem mhzDouble_threshold : mhzDouble 28.8 = ((28800000 : Nat) : ℚ) := by
  decide +kernel

/-- With an upconverter the frequency is shifted by 28.8 MHz below that frequency, and is left
from there on. Witness: the sum is exact as a double.
-/
theorem upconvertFreq_eq (upconverts : config.Upconverts)
    : upconvertFreq config freq
      = if freq.toNat < 28800000 then freq + 28800000 else freq := by
  have bound := freq.toNat_lt
  have small : freq.toNat + 28800000 < 2 ^ 53 := by omega
  have sum : truncate (toDouble (freq.toNat + ((28800000 : Nat) : ℚ)))
      = (freq.toNat : ℤ) + 28800000 := by
    rw [← Nat.cast_add, toDouble_natCast small, ← Int.cast_natCast, truncate_intCast]
    exact Nat.cast_add _ _
  have word : UInt32.ofInt (freq.toNat : ℤ) = freq := by
    have reduced : ((freq.toNat : ℤ) % 2 ^ 32).toNat = freq.toNat := by omega
    rw [UInt32.ofInt, reduced, UInt32.ofNat_toNat]
  have offset : UInt32.ofInt 28800000 = 28800000 := by decide
  have chosen : config.blogV4 = true ∨ config.blogV4L = true := upconverts
  unfold upconvertFreq
  rw [if_pos chosen, mhzDouble_threshold, sum, UInt32.ofInt_add, word, offset]
  simp only [Nat.cast_lt]

/-- A run that returns zero moves the oscillator below the threshold. Witness: it sets `lo_freq` and
nothing else, and 28.8 MHz is not zero modulo the word.
-/
theorem addsOffset_iff (room : 2 ≤ environment.config.maxI2cMsgLen.toNat)
    (upconverts : environment.config.Upconverts) {bus later : Bus R82xxTunerPriv}
    (ran : r82xxSetFreq freq environment bus = .ok (.ok (), later))
    : AddsOffset environment freq bus later ↔ freq.toNat < 28800000 := by
  unfold AddsOffset
  rw [tunesLo_iff room ran, loFreq, upconvertFreq_eq upconverts, UInt32.add_left_inj]
  split
  next below => exact iff_of_true rfl below
  next above =>
    refine iff_of_false (fun same => ?_) above
    have zero := UInt32.add_eq_left.mp same
    cases zero

/-- The lowest band ends with the threshold. -/
theorem inputFor_eq_hf_iff (upconverts : config.Upconverts)
    : inputFor config freq = hf ↔ freq.toNat ≤ 28800000 := by
  have threshold : (freq.toNat : ℚ) ≤ mhzDouble 28.8 ↔ freq.toNat ≤ 28800000 := by
    rw [mhzDouble_threshold, Nat.cast_le]
  unfold inputFor
  split
  · unfold blogV4Band
    rw [← threshold]
    split
    next lowest => exact iff_of_true rfl lowest
    next higher =>
      refine iff_of_false ?_ higher
      split <;> decide
  next other =>
    rw [if_pos (upconverts.resolve_left other), blogV4LBand, ← threshold]
    split
    next lowest => exact iff_of_true rfl lowest
    next higher => exact iff_of_false (by decide) higher

/-- The input that the upconverter feeds is selected up to the threshold. -/
theorem selectsHf_iff (room : 2 ≤ environment.config.maxI2cMsgLen.toNat)
    (upconverts : environment.config.Upconverts) {bus later : Bus R82xxTunerPriv}
    (locks : Locks environment.reads (bus.transfers + 16))
    (ran : r82xxSetFreq freq environment bus = .ok (.ok (), later))
    : SelectsHf later ↔ freq.toNat ≤ 28800000 := by
  have switches : environment.config.Switches :=
    upconverts.elim .inl fun blogV4L => .inr (.inl blogV4L)
  rw [← inputFor_eq_hf_iff upconverts]
  obtain ⟨-, tuned⟩ | ⟨free, -⟩ :=
    (r82xxSetFreq_tunes room switches freq bus _ later ran).1 () rfl
  · rw [← tuned.band]
    constructor
    · exact fun selects => selects.band
    · intro lowest
      obtain ⟨multiplexer, filter⟩ := tuned.bypasses (tuned.band.symm.trans lowest)
      have whole := filter.chip
      refine ⟨lowest, multiplexer.chip, ?_⟩
      rw [← whole]
      exact UInt8.and_neg_one.symm
  · exact absurd locks free

/-- Where the loop locks and `r82xx_set_freq` returns zero, the oscillator is moved exactly when the
input of the upconverter is selected, at every frequency but the threshold. Witness: the one is so
below the threshold, the other up to it.
-/
theorem r82xxSetFreq_upconverts_iff (room : 2 ≤ environment.config.maxI2cMsgLen.toNat)
    (upconverts : environment.config.Upconverts) {bus later : Bus R82xxTunerPriv}
    (locks : Locks environment.reads (bus.transfers + 16))
    (ran : r82xxSetFreq freq environment bus = .ok (.ok (), later))
    : (AddsOffset environment freq bus later ↔ SelectsHf later)
      ↔ freq ≠ 28800000 := by
  have threshold : freq = 28800000 ↔ freq.toNat = 28800000 :=
    UInt32.toNat_inj.symm
  rw [addsOffset_iff room upconverts ran, selectsHf_iff room upconverts locks ran, Ne, threshold]
  omega

/-- A Blog V4 whose loop is always locked, and its driver after the tuner was initialized. -/
def lockedBlogV4 : Environment.Bus R82xxTunerConfig :=
  { lockedBut none with config := { r828dConfig with blogV4 := true } }

def readyTuner : Bus R82xxTunerPriv :=
  {
    freshTuner with
    driver := { freshTuner.driver with intFreq := 3570000, xtalCapSel := .high0p, initDone := true }
  }

/-- The tuner of the runs below reports a lock at every read. Witness: the bit of the byte it
answers.
-/
theorem lockedBlogV4_locks (number : Nat) : Locks lockedBlogV4.reads number :=
  .inl (show r82xxBitrev 0xff &&& 0x40 ≠ 0 by decide)

/-- Whether a run has returned zero. -/
def returnsZero : Faulty (Except Int32 Unit × Bus R82xxTunerPriv) → Bool
  | .ok (.ok (), _) => true
  | _ => false

/-- A run that returns 0 returned without a fault. Witness: the only branch in which the test
holds.
-/
theorem exists_of_returnsZero {run : Faulty (Except Int32 Unit × Bus R82xxTunerPriv)}
    (zero : returnsZero run = true)
    : ∃ later, run = .ok (.ok (), later) := by
  unfold returnsZero at zero
  split at zero
  next later => exact ⟨later, rfl⟩
  next => cases zero

/-- A short wave frequency: the oscillator is moved, and the input of the upconverter is selected.
-/
theorem r82xxSetFreq_upconverts_7MHz
    : ∃ later,
        r82xxSetFreq 7000000 lockedBlogV4 readyTuner = .ok (.ok (), later)
        ∧ AddsOffset lockedBlogV4 7000000 readyTuner later
        ∧ SelectsHf later := by
  have room : 2 ≤ lockedBlogV4.config.maxI2cMsgLen.toNat := by decide
  obtain ⟨later, ran⟩ := @exists_of_returnsZero (r82xxSetFreq 7000000 lockedBlogV4 readyTuner)
    (by decide +kernel)
  have together := (r82xxSetFreq_upconverts_iff room (.inl rfl) (lockedBlogV4_locks _) ran).mpr
    (by decide)
  have moved : AddsOffset lockedBlogV4 7000000 readyTuner later :=
    (addsOffset_iff room (.inl rfl) ran).mpr (by decide)
  exact ⟨later, ran, moved, together.mp moved⟩

/-- At 28.8 MHz the input of the upconverter is selected, and the oscillator is not moved. -/
theorem r82xxSetFreq_unmoved
    : ¬ ∀ (environment : Environment.Bus R82xxTunerConfig) (bus later : Bus R82xxTunerPriv)
          (freq : UInt32),
        2 ≤ environment.config.maxI2cMsgLen.toNat
        → environment.config.Upconverts
        → environment.Moves
        → Locks environment.reads (bus.transfers + 16)
        → r82xxSetFreq freq environment bus = .ok (.ok (), later)
        → (AddsOffset environment freq bus later ↔ SelectsHf later) := by
  intro agrees
  have room : 2 ≤ lockedBlogV4.config.maxI2cMsgLen.toNat := by decide
  obtain ⟨later, ran⟩ := @exists_of_returnsZero (r82xxSetFreq 28800000 lockedBlogV4 readyTuner)
    (by decide +kernel)
  have moves : lockedBlogV4.Moves := fun _ _ => rfl
  have same := agrees _ _ _ _ room (.inl rfl) moves (lockedBlogV4_locks _) ran
  rw [addsOffset_iff room (.inl rfl) ran,
    selectsHf_iff room (.inl rfl) (lockedBlogV4_locks _) ran] at same
  exact absurd (same.mpr (by decide)) (by decide)

end Upconversion

end RtlTcpAndro.Tuners
