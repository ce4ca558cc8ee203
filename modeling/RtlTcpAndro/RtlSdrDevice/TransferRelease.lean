import Mathlib.Order.Interval.Finset.Nat
import RtlTcpAndro.RtlSdrDevice.Transfers

/-! How `rtlsdr_read_async` ends: the loop that cancels one transfer after the other and handles
the events after each, up to `_rtlsdr_free_async_buffers`, which gives the memory of all of them
back.
-/

namespace RtlTcpAndro.RtlSdrDevice

open RtlTcpAndro.Interleaving RtlTcpAndro.SdrTcp

-----------------------------------------------------------------------------------------
-- State and steps
-----------------------------------------------------------------------------------------

/-- The reading thread with `status` of each transfer; the transfers that libusb cancels and that
have not completed since; `i` of the loop that cancels, and whether that loop is at the events
after a transfer.
-/
structure Releasing where
  transfers : Transfers
  statuses : Nat → TransferStatus
  cancelling : Finset Nat
  i : Nat
  handling : Bool

namespace Releasing

/-- libusb knows no transfer of this number that it could still cancel: the transfer is not in
flight, or it is being cancelled. `libusb_cancel_transfer` then returns
`LIBUSB_ERROR_NOT_FOUND`.
-/
def NotFound (releasing : Releasing) (number : Nat) : Prop :=
  number ∉ releasing.transfers.inFlight ∨ number ∈ releasing.cancelling

instance decidableNotFound (releasing : Releasing) (number : Nat)
    : Decidable (releasing.NotFound number) :=
  inferInstanceAs (Decidable (_ ∨ _))

/-- The loop that cancels. It passes over a transfer whose status is
`LIBUSB_TRANSFER_CANCELLED`; the environment gives the result of cancelling another one.
-/
def cancelStep (bufNum : UInt32) (releasing : Releasing) (nextStatus : AsyncStatus) (r : Int)
    (reply : Reply) : Option Releasing :=
  if releasing.i < (xferBufNum bufNum).toNat then
    if releasing.statuses releasing.i = .cancelled then
      some { releasing with i := releasing.i + 1, handling := false }
    else
      match reply with
      | .value result =>
          if 0 ≤ result ∧ releasing.NotFound releasing.i then none
          else
            (releasing.transfers.readStep (.cancelTransfers nextStatus r) (.value result)).map
              (fun transfers =>
                { releasing with
                  transfers
                  cancelling :=
                    if 0 ≤ result then insert releasing.i releasing.cancelling
                    else releasing.cancelling
                  i := releasing.i + 1
                  handling := true })
      | _ => none
  else
    (releasing.transfers.readStep (.cancelTransfers nextStatus r) .none).map
      (fun transfers => { releasing with transfers, handling := false })

/-- The reading thread is inside of `libusb_handle_events_timeout_completed`. -/
def handlesEvents (releasing : Releasing) : Bool :=
  match releasing.transfers.progress with
  | .point (.cancelTransfers ..) => releasing.handling
  | .point pos => pos.handlesEvents
  | .returned _ => false

/-- The reading thread goes on. -/
def readStep (bufNum : UInt32) (releasing : Releasing) (reply : Reply) : Option Releasing :=
  match releasing.transfers.progress with
  | .point (.cancelTransfers nextStatus r) => releasing.cancelStep bufNum nextStatus r reply
  | _ =>
      (releasing.transfers.step bufNum (.read reply)).map
        (fun transfers => { releasing with transfers, i := 0, handling := false })

/-- One step. Transfers complete where the reading thread handles events. -/
def step (bufNum : UInt32) (releasing : Releasing) : TransferEvent → Option Releasing
  | .read reply => releasing.readStep bufNum reply
  | .complete number status resubmitted =>
      if releasing.handlesEvents then
        (releasing.transfers.step bufNum (.complete number status resubmitted)).map
          (fun transfers =>
            { releasing with
              transfers
              statuses := Function.update releasing.statuses number status
              cancelling := releasing.cancelling.erase number })
      else none
  | event =>
      (releasing.transfers.step bufNum event).map
        (fun transfers => { releasing with transfers })

/-- `rtlsdr_read_async` is called; `libusb_alloc_transfer` clears the statuses. -/
def initial : Releasing := ⟨.initial, fun _ => .completed, ∅, 0, false⟩

end Releasing

/-- A call of `rtlsdr_read_async` up to its end. -/
def releaseReading (bufNum : UInt32) : System Releasing TransferEvent where
  initial releasing := releasing = .initial
  step := Releasing.step bufNum

namespace Releasing

/-- `rtlsdr_read_async` comes to `_rtlsdr_free_async_buffers`. -/
def Releases (releasing : Releasing) : Prop :=
  ∃ nextStatus r, releasing.transfers.progress = .point (.storeNextStatus nextStatus r)

/-- Waiting for events succeeds or is interrupted, unless nothing is in flight; what libusb
refuses to cancel is not in flight; and a loop over all transfers of a lost device leaves none of
them in flight.
-/
def Drains (bufNum : UInt32) (releasing : Releasing) : TransferEvent → Prop
  | .read reply =>
      match releasing.transfers.progress with
      | .point (.handleEvents _) =>
          match reply with
          | .value r =>
              0 ≤ r ∨ r = libusbErrorInterrupted ∨ releasing.transfers.inFlight = ∅
          | _ => True
      | .point (.cancelTransfers ..) =>
          if releasing.i < (xferBufNum bufNum).toNat then
            match reply with
            | .value result => 0 ≤ result ∨ releasing.i ∉ releasing.transfers.inFlight
            | _ => True
          else
            releasing.transfers.device.devLost = true → releasing.transfers.inFlight = ∅
      | _ => True
  | _ => True

/-- libusb works: waiting for events succeeds, it cancels what it has not been told to cancel
before, and no device is lost.
-/
def Works (releasing : Releasing) : TransferEvent → Prop
  | .read (.value result) =>
      match releasing.transfers.progress with
      | .point (.handleEvents _) => 0 ≤ result
      | .point (.cancelTransfers ..) => 0 ≤ result ∨ releasing.NotFound releasing.i
      | _ => True
  | .submit r => 0 ≤ r
  | .complete _ status _ => status = .completed ∨ status = .cancelled
  | _ => True

end Releasing

-----------------------------------------------------------------------------------------
-- Transfers in flight are among those submitted
-----------------------------------------------------------------------------------------

/-- `rtlsdr_read_async` has not left its first loop. -/
def ReadPoint.unsubmitted : ReadPoint → Bool
  | .testInactive | .storeRunning | .clearCancel | .submit => true
  | _ => false

section Numbering

variable {bufNum : UInt32} {transfers next : Transfers}

/-- A read uses some buffers. Witness: the number asked for, or the default in place of zero.
-/
theorem xferBufNum_pos (bufNum : UInt32) : 0 < (xferBufNum bufNum).toNat := by
  unfold xferBufNum
  split
  next some_ => exact UInt32.lt_iff_toNat_lt.mp some_
  next => decide

namespace Transfers

/-- What is in flight was submitted by the first loop, which submits each transfer once. -/
structure Numbered (bufNum : UInt32) (transfers : Transfers) : Prop where
  submitted : ∀ number ∈ transfers.inFlight, number < transfers.next
  next_le : transfers.next ≤ (xferBufNum bufNum).toNat
  unsubmitted
    : ∀ pos,
        transfers.progress = .point pos
        → pos.unsubmitted = true
        → transfers.next < (xferBufNum bufNum).toNat

/-- A step of `rtlsdr_read_async` outside of its first loop submits nothing, and does not enter
that loop.
-/
theorem readStep_keeps {pos : ReadPoint} {reply : Reply}
    (fired : transfers.readStep pos reply = some next)
    : next.inFlight = transfers.inFlight ∧ next.next = transfers.next := by
  obtain ⟨moved, -, rfl⟩ := Option.map_eq_some_iff.mp fired
  exact ⟨rfl, rfl⟩

end Transfers

/-- A point of the first loop comes from a point of it. -/
theorem rtlsdrReadAsync_unsubmitted {device after : Device} {reply : Reply}
    {pos next : ReadPoint} (moved : rtlsdrReadAsync device reply pos = some (after, .point next))
    (unsubmitted : next.unsubmitted = true)
    : pos.unsubmitted = true := by
  cases pos with
  | testInactive | storeRunning | clearCancel | submit => rfl
  | storeNextStatus nextStatus r => cases moved
  | handleEvents nextStatus =>
      cases reply with
      | value r =>
          cases moved
          split at unsubmitted
          · exact unsubmitted
          · split at unsubmitted <;> exact unsubmitted
      | _ => cases moved
  | cancelTransfers nextStatus r =>
      cases reply with
      | value r =>
          cases moved
          exact unsubmitted
      | _ =>
          cases moved
          split at unsubmitted <;> exact unsubmitted
  | loop nextStatus r | testCanceling nextStatus r =>
      cases moved
      split at unsubmitted <;> exact unsubmitted
  | _ =>
      cases moved
      exact unsubmitted

namespace Transfers

/-- A step of the reader keeps the transfers numbered. Witness: it submits none, and reaches
no point before the submissions.
-/
theorem Numbered.read {pos : ReadPoint} {reply : Reply}
    (numbered : transfers.Numbered bufNum) (point : transfers.progress = .point pos)
    (fired : transfers.readStep pos reply = some next)
    : next.Numbered bufNum := by
  obtain ⟨⟨after, progress⟩, moved, rfl⟩ := Option.map_eq_some_iff.mp fired
  refine ⟨numbered.submitted, numbered.next_le, fun later same unsubmitted => ?_⟩
  cases same
  exact numbered.unsubmitted pos point (rtlsdrReadAsync_unsubmitted moved unsubmitted)

/-- Submitting the next transfer keeps the transfers numbered. Witness: its number is the next
one, and there was room for it.
-/
theorem Numbered.submit {r : Int} (numbered : transfers.Numbered bufNum)
    (point : transfers.progress = .point .submit)
    (fired : transfers.submitStep bufNum r = some next)
    : next.Numbered bufNum := by
  unfold submitStep at fired
  split at fired
  · exact numbered.read point fired
  · have room := numbered.unsubmitted .submit point rfl
    have submitted
        : ∀ number ∈ insert transfers.next transfers.inFlight, number < transfers.next + 1 := by
      intro number member
      rcases Finset.mem_insert.mp member with rfl | before
      · exact Nat.lt_succ_self _
      · exact Nat.lt_succ_of_lt (numbered.submitted number before)
    simp only [] at fired
    split at fired
    next more =>
      cases fired
      exact ⟨submitted, room, fun _ _ _ => more⟩
    next =>
      obtain ⟨⟨after, progress⟩, moved, rfl⟩ := Option.map_eq_some_iff.mp fired
      refine ⟨submitted, room, fun later same unsubmitted => ?_⟩
      cases moved
      cases same
      split at unsubmitted <;> cases unsubmitted

/-- A step of the first loop submits the next transfer or none. -/
theorem submitStep_inFlight {r : Int} (fired : transfers.submitStep bufNum r = some next)
    : (next.next = transfers.next ∧ next.inFlight = transfers.inFlight)
      ∨ (next.next = transfers.next + 1
        ∧ next.inFlight = insert transfers.next transfers.inFlight) := by
  unfold submitStep at fired
  split at fired
  · exact .inl (readStep_keeps fired).symm
  · simp only [] at fired
    split at fired
    · cases fired
      exact .inr ⟨rfl, rfl⟩
    · exact .inr (readStep_keeps fired).symm

/-- A callback submits its own transfer at most, and only one that completed. -/
theorem libusbCallback_inFlight (transfers : Transfers) (number : Nat) (status : TransferStatus)
    (resubmitted : Bool)
    : (transfers.libusbCallback bufNum number status resubmitted).inFlight
      = if status = .completed ∧ resubmitted = true then insert number transfers.inFlight
        else transfers.inFlight := by
  obtain ⟨gives, -, inFlight⟩ | ⟨-, -, inFlight⟩ :=
    libusbCallback_cases bufNum transfers number status resubmitted
  · rw [inFlight, if_neg (fun completed => gives.1 completed.1)]
  · exact inFlight

/-- A completion submits no new number. Witness: it resubmits the one that completed, or none.
-/
theorem libusbCallback_next (transfers : Transfers) (number : Nat) (status : TransferStatus)
    (resubmitted : Bool)
    : (transfers.libusbCallback bufNum number status resubmitted).next = transfers.next := by
  unfold libusbCallback
  split
  · rfl
  · split
    · simp only []
      split <;> rfl
    · rfl

/-- What a completed transfer leaves in flight was so before; a transfer with another status than
success is not in flight anymore.
-/
theorem complete_cases {number : Nat} {status : TransferStatus} {resubmitted : Bool}
    (fired : transfers.step bufNum (.complete number status resubmitted) = some next)
    : number ∈ transfers.inFlight
      ∧ next.inFlight ⊆ transfers.inFlight
      ∧ (status ≠ .completed → number ∉ next.inFlight)
      ∧ next.progress = transfers.progress
      ∧ next.next = transfers.next := by
  obtain ⟨flies, moved⟩ := Option.ite_none_right_eq_some.mp fired
  cases moved
  refine ⟨flies, ?_, ?_, libusbCallback_progress _ _ _, libusbCallback_next _ _ _ _⟩
  · rw [libusbCallback_inFlight]
    split
    · exact Finset.insert_subset flies (Finset.erase_subset _ _)
    · exact Finset.erase_subset _ _
  · intro other
    rw [libusbCallback_inFlight, if_neg (fun completed => other completed.1)]
    exact Finset.notMem_erase _ _

/-- A step beside the reader keeps the transfers numbered when none is new in flight. Witness:
the numbers in flight before it.
-/
theorem Numbered.aside (numbered : transfers.Numbered bufNum)
    (fewer : next.inFlight ⊆ transfers.inFlight) (progress : next.progress = transfers.progress)
    (same : next.next = transfers.next)
    : next.Numbered bufNum := by
  refine ⟨fun number flies => ?_, ?_, fun pos point unsubmitted => ?_⟩
  · rw [same]
    exact numbered.submitted number (fewer flies)
  · rw [same]
    exact numbered.next_le
  · rw [same]
    exact numbered.unsubmitted pos (progress ▸ point) unsubmitted

end Transfers

end Numbering

-----------------------------------------------------------------------------------------
-- A loop that finds nothing to cancel leaves nothing in flight
-----------------------------------------------------------------------------------------

section Draining

variable {bufNum : UInt32} {releasing next : Releasing}

namespace Releasing

/-- What holds in every run: a cancelled transfer was submitted and is not in flight. -/
structure Accounted (bufNum : UInt32) (releasing : Releasing) : Prop where
  numbered : releasing.transfers.Numbered bufNum
  active : releasing.transfers.Active
  cancelled
    : ∀ number,
        releasing.statuses number = .cancelled
        → number < releasing.transfers.next ∧ number ∉ releasing.transfers.inFlight

/-- What the loop that cancels has passed is not in flight, as long as it has found nothing to
cancel; and it is left with nothing in flight.
-/
structure Drained (releasing : Releasing) : Prop where
  passed
    : ∀ r,
        releasing.transfers.progress = .point (.cancelTransfers .inactive r)
        → ∀ number < releasing.i, number ∉ releasing.transfers.inFlight
  left
    : ∀ nextStatus r,
        releasing.transfers.progress = .point (.flush nextStatus r)
          ∨ releasing.transfers.progress = .point (.storeNextStatus nextStatus r)
        → releasing.transfers.inFlight = ∅

/-- A step that keeps the program point leaves at most what was in flight. -/
theorem Drained.aside (drained : releasing.Drained)
    (fewer : next.transfers.inFlight ⊆ releasing.transfers.inFlight)
    (progress : next.transfers.progress = releasing.transfers.progress)
    (same : next.i = releasing.i)
    : next.Drained := by
  constructor
  case passed =>
    intro r point number before flies
    rw [progress] at point
    rw [same] at before
    exact drained.passed r point number before (fewer flies)
  case left =>
    intro nextStatus r point
    rw [progress] at point
    exact Finset.subset_empty.mp (drained.left nextStatus r point ▸ fewer)

/-- A step elsewhere than at the loop that cancels. -/
theorem read_cases {reply : Reply}
    (elsewhere
      : ∀ nextStatus r,
          releasing.transfers.progress ≠ .point (.cancelTransfers nextStatus r))
    (fired : releasing.readStep bufNum reply = some next)
    : releasing.transfers.step bufNum (.read reply) = some next.transfers
      ∧ next.statuses = releasing.statuses
      ∧ next.i = 0 := by
  have fired
      : (releasing.transfers.step bufNum (.read reply)).map
          (fun transfers => { releasing with transfers, i := 0, handling := false })
        = some next := by
    unfold readStep at fired
    split at fired
    next nextStatus r point => exact absurd point (elsewhere nextStatus r)
    next => exact fired
  obtain ⟨transfers, moved, rfl⟩ := Option.map_eq_some_iff.mp fired
  exact ⟨moved, rfl, rfl⟩

/-- A step at the loop that cancels. -/
theorem readStep_cancels {nextStatus : AsyncStatus} {r : Int} {reply : Reply}
    (point : releasing.transfers.progress = .point (.cancelTransfers nextStatus r))
    : releasing.readStep bufNum reply = releasing.cancelStep bufNum nextStatus r reply := by
  unfold readStep
  rw [point]

/-- The loop that cancels passes over a transfer, comes to the next one with a result, or is
through.
-/
theorem cancelStep_cases {nextStatus : AsyncStatus} {r : Int} {reply : Reply}
    (fired : releasing.cancelStep bufNum nextStatus r reply = some next)
    : (releasing.i < (xferBufNum bufNum).toNat
        ∧ releasing.statuses releasing.i = .cancelled
        ∧ next = { releasing with i := releasing.i + 1, handling := false })
      ∨ (releasing.i < (xferBufNum bufNum).toNat
        ∧ ∃ result transfers,
            reply = .value result
            ∧ (0 ≤ result → ¬ releasing.NotFound releasing.i)
            ∧ releasing.transfers.readStep (.cancelTransfers nextStatus r) (.value result)
              = some transfers
            ∧ next
              = { releasing with
                  transfers
                  cancelling :=
                    if 0 ≤ result then insert releasing.i releasing.cancelling
                    else releasing.cancelling
                  i := releasing.i + 1
                  handling := true })
      ∨ ((xferBufNum bufNum).toNat ≤ releasing.i
        ∧ ∃ transfers,
            releasing.transfers.readStep (.cancelTransfers nextStatus r) .none = some transfers
            ∧ next = { releasing with transfers, handling := false }) := by
  unfold cancelStep at fired
  split at fired
  next inside =>
    split at fired
    next cancelled => exact .inl ⟨inside, cancelled, (Option.some.inj fired).symm⟩
    next =>
      cases reply with
      | value result =>
          simp only [] at fired
          split at fired
          · cases fired
          · next known =>
            obtain ⟨transfers, moved, rfl⟩ := Option.map_eq_some_iff.mp fired
            exact .inr (.inl ⟨inside, result, transfers, rfl,
              fun accepted notFound => known ⟨accepted, notFound⟩, moved, rfl⟩)
      | _ => cases fired
  next outside =>
    obtain ⟨transfers, moved, rfl⟩ := Option.map_eq_some_iff.mp fired
    exact .inr (.inr ⟨Nat.le_of_not_lt outside, transfers, moved, rfl⟩)

/-- Each step keeps the account. -/
theorem Accounted.step (accounted : releasing.Accounted bufNum) {event : TransferEvent}
    (fired : releasing.step bufNum event = some next)
    : next.Accounted bufNum := by
  cases event with
  | submit r =>
      obtain ⟨transfers, moved, rfl⟩ := Option.map_eq_some_iff.mp fired
      have active := Transfers.active_step accounted.active moved
      obtain ⟨point, moved⟩ := Option.ite_none_right_eq_some.mp moved
      refine ⟨accounted.numbered.submit point moved, active, fun number cancelled => ?_⟩
      obtain ⟨before, rests⟩ := accounted.cancelled number cancelled
      obtain same | ⟨more, inFlight⟩ := Transfers.submitStep_inFlight moved
      · rw [same.1, same.2]
        exact ⟨before, rests⟩
      · rw [more, inFlight, Finset.mem_insert, not_or]
        exact ⟨Nat.lt_succ_of_lt before, Nat.ne_of_lt before, rests⟩
  | read reply =>
      by_cases loops
          : ∃ nextStatus r,
              releasing.transfers.progress = .point (.cancelTransfers nextStatus r)
      · obtain ⟨nextStatus, r, point⟩ := loops
        have stepped {reply : Reply} {transfers : Transfers}
            (moved
              : releasing.transfers.readStep (.cancelTransfers nextStatus r) reply
                = some transfers)
            (cancelling : Finset Nat) (i : Nat) (handling : Bool)
            : Accounted bufNum ⟨transfers, releasing.statuses, cancelling, i, handling⟩ := by
          obtain ⟨inFlight, same⟩ := Transfers.readStep_keeps moved
          refine ⟨accounted.numbered.read point moved,
            Transfers.active_readStep (accounted.active _ point) moved,
            fun number cancelled => ?_⟩
          rw [inFlight, same]
          exact accounted.cancelled number cancelled
        obtain ⟨-, -, rfl⟩ | ⟨-, _, transfers, -, -, moved, rfl⟩ | ⟨-, transfers, moved, rfl⟩ :=
          cancelStep_cases ((readStep_cancels point).symm.trans fired)
        · exact ⟨accounted.numbered, accounted.active, accounted.cancelled⟩
        · exact stepped moved _ _ _
        · exact stepped moved _ _ _
      · obtain ⟨reads, statuses, -⟩ :=
          read_cases (fun nextStatus r at_ => loops ⟨nextStatus, r, at_⟩) fired
        obtain ⟨pos, point, -, moved⟩ := Transfers.read_cases reads
        obtain ⟨inFlight, same⟩ := Transfers.readStep_keeps moved
        refine ⟨accounted.numbered.read point moved,
          Transfers.active_readStep (accounted.active pos point) moved, ?_⟩
        rw [statuses, inFlight, same]
        exact accounted.cancelled
  | complete number status resubmitted =>
      obtain ⟨-, completed⟩ := Option.ite_none_right_eq_some.mp fired
      obtain ⟨transfers, moved, rfl⟩ := Option.map_eq_some_iff.mp completed
      obtain ⟨flies, fewer, rests, progress, same⟩ := Transfers.complete_cases moved
      refine ⟨accounted.numbered.aside fewer progress same,
        Transfers.active_step accounted.active moved, fun other cancelled => ?_⟩
      have cancelled : Function.update releasing.statuses number status other = .cancelled :=
        cancelled
      rw [same]
      by_cases self : other = number
      · subst self
        rw [Function.update_self] at cancelled
        exact ⟨accounted.numbered.submitted other flies,
          rests (cancelled ▸ (by decide : TransferStatus.cancelled ≠ .completed))⟩
      · rw [Function.update_of_ne self] at cancelled
        obtain ⟨before, absent⟩ := accounted.cancelled other cancelled
        exact ⟨before, fun flies => absent (fewer flies)⟩
  | cancel =>
      cases fired
      exact ⟨accounted.numbered.aside (Finset.Subset.refl _) rfl rfl,
        Transfers.active_step accounted.active
          (show releasing.transfers.step bufNum .cancel = some _ from rfl),
        accounted.cancelled⟩

/-- Where nothing is left to do for a point, nothing is in flight. -/
theorem Drained.elsewhere
    (passes
      : ∀ r, releasing.transfers.progress = .point (.cancelTransfers .inactive r) → releasing.i = 0)
    (leaves
      : ∀ nextStatus r,
          releasing.transfers.progress = .point (.flush nextStatus r)
            ∨ releasing.transfers.progress = .point (.storeNextStatus nextStatus r)
          → releasing.transfers.inFlight = ∅)
    : releasing.Drained :=
  ⟨fun r point number before => absurd (passes r point ▸ before) (Nat.not_lt_zero number), leaves⟩

/-- A step outside of the loop that cancels comes to the end of `rtlsdr_read_async` with nothing
in flight.
-/
theorem Drained.read {pos : ReadPoint} {reply : Reply} (accounted : releasing.Accounted bufNum)
    (drained : releasing.Drained) (drains : releasing.Drains bufNum (.read reply))
    (elsewhere : ∀ nextStatus r, pos ≠ .cancelTransfers nextStatus r)
    (point : releasing.transfers.progress = .point pos)
    (moved : releasing.transfers.readStep pos reply = some next.transfers) (restarts : next.i = 0)
    : next.Drained := by
  obtain ⟨⟨after, progress⟩, reads, same⟩ := Option.map_eq_some_iff.mp moved
  have inFlight := (Transfers.readStep_keeps moved).1
  refine .elsewhere (fun _ _ => restarts) fun nextStatus r ends => ?_
  have reaches : progress = .point (.flush nextStatus r)
      ∨ progress = .point (.storeNextStatus nextStatus r) := by
    rwa [← same] at ends
  rw [inFlight]
  unfold Drains at drains
  rw [point] at drains
  cases pos with
  | cancelTransfers before result => exact absurd rfl (elsewhere before result)
  | flush before result => exact drained.left before result (.inl point)
  | loop before result =>
      have active := accounted.active _ point rfl
      simp only [rtlsdrReadAsync, if_pos active] at reads
      cases reads
      obtain ends | ends := reaches <;> cases ends
  | handleEvents before =>
      cases reply with
      | value result =>
          simp only [rtlsdrReadAsync] at reads
          obtain works | interrupted | idle := drains
          · cases reads
            split at reaches
            · obtain ends | ends := reaches <;> cases ends
            · rw [if_neg (Int.not_lt.mpr works)] at reaches
              obtain ends | ends := reaches <;> cases ends
          · rw [if_pos interrupted] at reads
            cases reads
            obtain ends | ends := reaches <;> cases ends
          · exact idle
      | _ => cases reads
  | testInactive =>
      simp only [rtlsdrReadAsync] at reads
      split at reads <;> cases reads <;> obtain ends | ends := reaches <;> cases ends
  | submit =>
      cases reply with
      | value result =>
          cases reads
          obtain ends | ends := reaches <;> split at ends <;> cases ends
      | _ => cases reads
  | testCanceling before result =>
      cases reads
      obtain ends | ends := reaches <;> split at ends <;> cases ends
  | storeRunning | clearCancel | storeSubmitFailed | storeNextStatus =>
      cases reads
      obtain ends | ends := reaches <;> cases ends

/-- A step of the loop that cancels. -/
theorem Drained.cancelStep {nextStatus : AsyncStatus} {r : Int} {reply : Reply}
    (accounted : releasing.Accounted bufNum) (drained : releasing.Drained)
    (drains : releasing.Drains bufNum (.read reply))
    (point : releasing.transfers.progress = .point (.cancelTransfers nextStatus r))
    (fired : releasing.cancelStep bufNum nextStatus r reply = some next)
    : next.Drained := by
  unfold Drains at drains
  rw [point] at drains
  obtain ⟨-, cancelled, rfl⟩ | ⟨inside, result, transfers, rfl, -, moved, rfl⟩
    | ⟨outside, transfers, moved, rfl⟩ := cancelStep_cases fired
  · constructor
    case passed =>
      intro result same number before
      rcases Nat.lt_succ_iff_lt_or_eq.mp before with earlier | rfl
      · exact drained.passed result same number earlier
      · exact (accounted.cancelled _ cancelled).2
    case left => exact drained.left
  · cases moved
    constructor
    case passed =>
      intro later same number before
      simp only [if_pos inside] at drains
      obtain ⟨nothing, -⟩ := ReadPoint.cancelTransfers.inj (Progress.point.inj same)
      have refused : result < 0 ∧ nextStatus = .inactive := by
        split at nothing
        next negative => exact ⟨negative, nothing⟩
        next => cases nothing
      rcases Nat.lt_succ_iff_lt_or_eq.mp before with earlier | rfl
      · exact drained.passed r (refused.2 ▸ point) number earlier
      · exact drains.resolve_left (Int.not_le.mpr refused.1)
    case left =>
      intro later other ends
      obtain ends | ends := ends <;> cases ends
  · cases moved
    constructor
    case passed =>
      intro later same
      simp only [] at same
      split at same <;> cases same
    case left =>
      intro later other ends
      simp only [if_neg (Nat.not_lt.mpr outside)] at drains
      have idle : releasing.transfers.device.devLost = true ∨ nextStatus = .inactive := by
        by_contra none
        simp only [if_neg none] at ends
        obtain ends | ends := ends <;> cases ends
      rcases idle with lost | rfl
      · exact drains lost
      · refine Finset.eq_empty_of_forall_notMem fun number flies => ?_
        have before := Nat.lt_of_lt_of_le (accounted.numbered.submitted number flies)
          (Nat.le_trans accounted.numbered.next_le outside)
        exact drained.passed r point number before flies

/-- Each step that drains keeps the transfers drained. -/
theorem Drained.step (accounted : releasing.Accounted bufNum) (drained : releasing.Drained)
    {event : TransferEvent} (drains : releasing.Drains bufNum event)
    (fired : releasing.step bufNum event = some next)
    : next.Drained := by
  cases event with
  | submit r =>
      obtain ⟨transfers, moved, rfl⟩ := Option.map_eq_some_iff.mp fired
      obtain ⟨point, moved⟩ := Option.ite_none_right_eq_some.mp moved
      obtain ⟨-, reaches⟩ := Transfers.submitStep_cases moved
      refine .elsewhere (fun result ends => ?_) fun nextStatus result ends => ?_
      · obtain same | failed | ⟨more, -⟩ := reaches
        · cases (same.trans point).symm.trans ends
        · cases failed.symm.trans ends
        · cases more.symm.trans ends
      · obtain same | failed | ⟨more, -⟩ := reaches
        · obtain ends | ends := ends <;> cases (same.trans point).symm.trans ends
        · obtain ends | ends := ends <;> cases failed.symm.trans ends
        · obtain ends | ends := ends <;> cases more.symm.trans ends
  | read reply =>
      by_cases loops
          : ∃ nextStatus r,
              releasing.transfers.progress = .point (.cancelTransfers nextStatus r)
      · obtain ⟨nextStatus, r, point⟩ := loops
        exact drained.cancelStep accounted drains point
          ((readStep_cancels point).symm.trans fired)
      · obtain ⟨reads, -, restarts⟩ :=
          read_cases (fun nextStatus r at_ => loops ⟨nextStatus, r, at_⟩) fired
        obtain ⟨pos, point, -, moved⟩ := Transfers.read_cases reads
        refine drained.read accounted drains (fun nextStatus r same => ?_) point moved restarts
        exact loops ⟨nextStatus, r, point.trans (congrArg _ same)⟩
  | complete number status resubmitted =>
      obtain ⟨-, completed⟩ := Option.ite_none_right_eq_some.mp fired
      obtain ⟨transfers, moved, rfl⟩ := Option.map_eq_some_iff.mp completed
      obtain ⟨-, fewer, -, progress, -⟩ := Transfers.complete_cases moved
      exact drained.aside fewer progress rfl
  | cancel =>
      cases fired
      exact drained.aside (Finset.Subset.refl _) rfl rfl

/-- Before the read nothing is in flight, and all is accounted for. Witness: no buffer is
numbered yet.
-/
theorem Accounted.initial : Accounted bufNum .initial := by
  refine ⟨⟨nofun, Nat.zero_le _, fun _ _ _ => xferBufNum_pos bufNum⟩, ?_, nofun⟩
  intro pos point entered
  cases point
  cases entered

/-- A run of steps that drain comes to `_rtlsdr_free_async_buffers` with nothing in flight. -/
theorem inFlight_of_drains {schedule : List TransferEvent} {finish : Releasing}
    (heeded
      : (releaseReading bufNum).Heeded (Drains bufNum) .initial schedule finish)
    (releases : finish.Releases)
    : finish.transfers.inFlight = ∅ := by
  have kept := heeded.preserves (fun releasing => releasing.Accounted bufNum ∧ releasing.Drained)
    ⟨.initial, .elsewhere (fun _ _ => rfl) fun _ _ _ => rfl⟩
    fun _ _ _ known drains fired => ⟨known.1.step fired, known.2.step known.1 drains fired⟩
  obtain ⟨nextStatus, r, point⟩ := releases
  exact kept.2.left nextStatus r (.inr point)

end Releasing

end Draining

-----------------------------------------------------------------------------------------
-- A second loop may find transfers that are still being cancelled
-----------------------------------------------------------------------------------------

section Stopping

variable {bufNum : UInt32}

namespace Releasing

/-- libusb works, and transfers drain. -/
def WorksAndDrains (bufNum : UInt32) (releasing : Releasing) (event : TransferEvent) : Prop :=
  releasing.Works event ∧ releasing.Drains bufNum event

/-- The first loop submits the transfers that are left, by induction on their number. -/
theorem submits (before rest : Nat) (all : before + (rest + 1) = (xferBufNum bufNum).toNat)
    : (releaseReading bufNum).Heeded (WorksAndDrains bufNum)
        ⟨⟨⟨.running, false, false, false⟩, .point .submit, before, 0, .range before⟩,
          fun _ => .completed, ∅, 0, false⟩
        (List.replicate (rest + 1) (.submit 0))
        ⟨⟨⟨.running, false, false, false⟩, .point (.loop .inactive 0),
            (xferBufNum bufNum).toNat, 0, .range (xferBufNum bufNum).toNat⟩,
          fun _ => .completed, ∅, 0, false⟩ := by
  induction rest generalizing before with
  | zero =>
      refine .cons ⟨Int.le_refl 0, trivial⟩ ?_ .nil
      simp [releaseReading, step, Transfers.step, Transfers.submitStep, Transfers.readStep,
        rtlsdrReadAsync, ← all, Finset.range_add_one]
  | succ rest ih =>
      refine .cons ⟨Int.le_refl 0, trivial⟩ ?_ (ih (before + 1) (by omega))
      have more : before + 1 < (xferBufNum bufNum).toNat := by omega
      simp [releaseReading, step, Transfers.step, Transfers.submitStep, more,
        Finset.range_add_one]

/-- The reading thread in the loop that cancels all transfers. -/
def cancelLoop (bufNum : UInt32) (nextStatus : AsyncStatus) (r : Int)
    (statuses : Nat → TransferStatus) (inFlight cancelling : Finset Nat) (i : Nat)
    (handling : Bool) : Releasing :=
  ⟨⟨⟨.canceling, true, false, false⟩, .point (.cancelTransfers nextStatus r),
      (xferBufNum bufNum).toNat, 0, inFlight⟩,
    statuses, cancelling, i, handling⟩

/-- `rtlsdr_read_async` submits all transfers and is told to cancel, and comes to the loop that
does.
-/
theorem begins_cancelling
    : (releaseReading bufNum).Heeded (WorksAndDrains bufNum) .initial
        ([.read .none, .read .none, .read .none]
          ++ (List.replicate (xferBufNum bufNum).toNat (.submit 0)
            ++ [.cancel, .read .none, .read (.value 0), .read .none]))
        (cancelLoop bufNum .inactive 0 (fun _ => .completed) (.range (xferBufNum bufNum).toNat) ∅ 0
          false) := by
  obtain ⟨rest, all⟩ := Nat.exists_eq_add_one.mpr (xferBufNum_pos bufNum)
  have first := @submits bufNum 0 rest ((Nat.zero_add _).trans all.symm)
  rw [← all] at first
  refine .cons ⟨trivial, trivial⟩ rfl (.cons ⟨trivial, trivial⟩ rfl (.cons ⟨trivial, trivial⟩ rfl
    (first.append ?_)))
  refine .cons ⟨trivial, trivial⟩ rfl (.cons ⟨trivial, trivial⟩ rfl ?_)
  exact .cons ⟨Int.le_refl 0, .inl (Int.le_refl 0)⟩ rfl (.cons ⟨trivial, trivial⟩ rfl .nil)

section Loops

variable {statuses : Nat → TransferStatus} {inFlight cancelling : Finset Nat} {i : Nat}
  {handling : Bool} {r : Int}

/-- A loop that has gone through all transfers drains where the device is not lost. -/
theorem through_drains (nextStatus : AsyncStatus)
    : WorksAndDrains bufNum
        (cancelLoop bufNum nextStatus r statuses inFlight cancelling (xferBufNum bufNum).toNat
          handling)
        (.read .none) :=
  ⟨trivial, by simp [Drains, cancelLoop]⟩

/-- A loop that has cancelled something is gone through again. -/
theorem loops_again
    : (releaseReading bufNum).Heeded (WorksAndDrains bufNum)
        (cancelLoop bufNum .canceling r statuses inFlight cancelling (xferBufNum bufNum).toNat
          handling)
        [.read .none, .read .none, .read (.value 0), .read .none]
        (cancelLoop bufNum .inactive 0 statuses inFlight cancelling 0 false) := by
  have through
      : (releaseReading bufNum).step
          (cancelLoop bufNum .canceling r statuses inFlight cancelling (xferBufNum bufNum).toNat
            handling)
          (.read .none)
        = some
            ⟨⟨⟨.canceling, true, false, false⟩, .point (.loop .canceling r),
                (xferBufNum bufNum).toNat, 0, inFlight⟩,
              statuses, cancelling, (xferBufNum bufNum).toNat, false⟩ := by
    simp [releaseReading, step, readStep, cancelStep, cancelLoop, Transfers.readStep,
      rtlsdrReadAsync]
  refine .cons (through_drains .canceling) through (.cons ⟨trivial, trivial⟩ rfl ?_)
  exact .cons ⟨Int.le_refl 0, .inl (Int.le_refl 0)⟩ rfl (.cons ⟨trivial, trivial⟩ rfl .nil)

/-- A loop that has cancelled nothing is the last one. -/
theorem loops_last
    : (releaseReading bufNum).Heeded (WorksAndDrains bufNum)
        (cancelLoop bufNum .inactive r statuses inFlight cancelling (xferBufNum bufNum).toNat
          handling)
        [.read .none, .read .none]
        ⟨⟨⟨.canceling, true, false, false⟩, .point (.storeNextStatus .inactive r),
            (xferBufNum bufNum).toNat, 0, inFlight⟩,
          statuses, cancelling, 0, false⟩ := by
  have through
      : (releaseReading bufNum).step
          (cancelLoop bufNum .inactive r statuses inFlight cancelling (xferBufNum bufNum).toNat
            handling)
          (.read .none)
        = some
            ⟨⟨⟨.canceling, true, false, false⟩, .point (.flush .inactive r),
                (xferBufNum bufNum).toNat, 0, inFlight⟩,
              statuses, cancelling, (xferBufNum bufNum).toNat, false⟩ := by
    simp [releaseReading, step, readStep, cancelStep, cancelLoop, Transfers.readStep,
      rtlsdrReadAsync]
  exact .cons (through_drains .inactive) through (.cons ⟨trivial, trivial⟩ rfl .nil)

end Loops

-- The number of transfers that are left is what the inductions below are on.

/-- A loop that cancels all transfers in flight, none of which completes meanwhile. -/
theorem cancels_all (before rest : Nat) (nextStatus : AsyncStatus) (handling : Bool)
    (all : before + (rest + 1) = (xferBufNum bufNum).toNat)
    : (releaseReading bufNum).Heeded Works
        (cancelLoop bufNum nextStatus 0 (fun _ => .completed) (.range (xferBufNum bufNum).toNat)
          (.range before) before handling)
        (List.replicate (rest + 1) (.read (.value 0)))
        (cancelLoop bufNum .canceling 0 (fun _ => .completed) (.range (xferBufNum bufNum).toNat)
          (.range (xferBufNum bufNum).toNat) (xferBufNum bufNum).toNat true) := by
  induction rest generalizing before nextStatus handling with
  | zero =>
      refine .cons (.inl (Int.le_refl 0)) ?_ .nil
      simp [releaseReading, step, readStep, cancelStep, cancelLoop, NotFound,
        Transfers.readStep, rtlsdrReadAsync, ← all, Finset.range_add_one]
  | succ rest ih =>
      refine .cons (.inl (Int.le_refl 0)) ?_ (ih (before + 1) .canceling true (by omega))
      have more : before < (xferBufNum bufNum).toNat := by omega
      simp [releaseReading, step, readStep, cancelStep, cancelLoop, NotFound,
        Transfers.readStep, rtlsdrReadAsync, more, Finset.range_add_one]

/-- A loop that is refused all transfers, for they are being cancelled. -/
theorem is_refused (before rest : Nat) (r : Int) (handling : Bool)
    (all : before + (rest + 1) = (xferBufNum bufNum).toNat)
    : (releaseReading bufNum).Heeded Works
        (cancelLoop bufNum .inactive r (fun _ => .completed) (.range (xferBufNum bufNum).toNat)
          (.range (xferBufNum bufNum).toNat) before handling)
        (List.replicate (rest + 1) (.read (.value (-5))))
        (cancelLoop bufNum .inactive (-5) (fun _ => .completed)
          (.range (xferBufNum bufNum).toNat) (.range (xferBufNum bufNum).toNat)
          (xferBufNum bufNum).toNat true) := by
  have cancelling : before ∈ Finset.range (xferBufNum bufNum).toNat :=
    Finset.mem_range.mpr (by omega)
  induction rest generalizing before r handling with
  | zero =>
      refine .cons (.inr (.inr cancelling)) ?_ .nil
      simp [releaseReading, step, readStep, cancelStep, cancelLoop, Transfers.readStep,
        rtlsdrReadAsync, ← all]
  | succ rest ih =>
      refine .cons (.inr (.inr cancelling)) ?_
        (ih (before + 1) (-5) true (by omega) (Finset.mem_range.mpr (by omega)))
      simp [releaseReading, step, readStep, cancelStep, cancelLoop, Transfers.readStep,
        rtlsdrReadAsync, Finset.mem_range.mp cancelling]

/-- The transfers before one are cancelled. -/
def cancelledBefore (before number : Nat) : TransferStatus :=
  if number < before then .cancelled else .completed

/-- Before the first cancellation every transfer has completed. Witness: no number is below
zero.
-/
theorem cancelledBefore_zero : cancelledBefore 0 = fun _ => .completed :=
  funext fun number => if_neg (Nat.not_lt_zero number)

/-- Cancelling the next transfer extends the cancelled ones by one. Witness: the number
itself, then the others.
-/
theorem update_cancelledBefore (before : Nat)
    : Function.update (cancelledBefore before) before .cancelled
      = cancelledBefore (before + 1) := by
  funext number
  by_cases same : number = before
  · rw [same, Function.update_self]
    exact (if_pos (Nat.lt_succ_self before)).symm
  · rw [Function.update_of_ne same]
    have passed : number < before + 1 ↔ number < before := by omega
    simp only [cancelledBefore, passed]

/-- A transfer that is cancelled and completes at once. -/
theorem completes_one (nextStatus : AsyncStatus) (handling : Bool) {before : Nat}
    (more : before < (xferBufNum bufNum).toNat)
    : (releaseReading bufNum).Heeded (WorksAndDrains bufNum)
        (cancelLoop bufNum nextStatus 0 (cancelledBefore before)
          (.Ico before (xferBufNum bufNum).toNat) ∅ before handling)
        [.read (.value 0), .complete before .cancelled false]
        (cancelLoop bufNum .canceling 0 (cancelledBefore (before + 1))
          (.Ico (before + 1) (xferBufNum bufNum).toNat) ∅ (before + 1) true) := by
  have waiting : cancelledBefore before before = .completed :=
    if_neg (Nat.lt_irrefl before)
  have cancelled
      : (releaseReading bufNum).step
          (cancelLoop bufNum nextStatus 0 (cancelledBefore before)
            (.Ico before (xferBufNum bufNum).toNat) ∅ before handling)
          (.read (.value 0))
        = some
            (cancelLoop bufNum .canceling 0 (cancelledBefore before)
              (.Ico before (xferBufNum bufNum).toNat) {before} (before + 1) true) := by
    simp [releaseReading, step, readStep, cancelStep, cancelLoop, NotFound,
      Transfers.readStep, rtlsdrReadAsync, more, waiting]
  have left
      : (Finset.Ico before (xferBufNum bufNum).toNat).erase before
        = Finset.Ico (before + 1) (xferBufNum bufNum).toNat := by
    ext number
    simp only [Finset.mem_erase, Finset.mem_Ico]
    omega
  refine .cons ⟨.inl (Int.le_refl 0), ?_⟩ cancelled (.cons ⟨.inr rfl, trivial⟩ ?_ .nil)
  · simp [Drains, cancelLoop]
  · simp [releaseReading, step, handlesEvents, cancelLoop, Transfers.step, more,
      Transfers.libusbCallback, update_cancelledBefore, left]

/-- A loop that cancels all transfers in flight, each of which completes at once. -/
theorem completes_all (before rest : Nat) (nextStatus : AsyncStatus) (handling : Bool)
    (all : before + (rest + 1) = (xferBufNum bufNum).toNat)
    : ∃ schedule,
        (releaseReading bufNum).Heeded (WorksAndDrains bufNum)
          (cancelLoop bufNum nextStatus 0 (cancelledBefore before)
            (.Ico before (xferBufNum bufNum).toNat) ∅ before handling)
          schedule
          (cancelLoop bufNum .canceling 0 (cancelledBefore (xferBufNum bufNum).toNat) ∅ ∅
            (xferBufNum bufNum).toNat true) := by
  have one := @completes_one bufNum nextStatus handling before (by omega)
  induction rest generalizing before nextStatus handling with
  | zero =>
      rw [show before + 1 = (xferBufNum bufNum).toNat from all, Finset.Ico_self] at one
      exact ⟨_, one⟩
  | succ rest ih =>
      obtain ⟨schedule, later⟩ :=
        ih (before + 1) .canceling true (by omega) (completes_one .canceling true (by omega))
      exact ⟨_, one.append later⟩

/-- A loop over transfers that are cancelled, all of which it passes over. -/
theorem passes_over (before rest : Nat) (all : before + rest = (xferBufNum bufNum).toNat)
    : (releaseReading bufNum).Heeded (WorksAndDrains bufNum)
        (cancelLoop bufNum .inactive 0 (cancelledBefore (xferBufNum bufNum).toNat) ∅ ∅ before
          false)
        (List.replicate rest (.read .none))
        (cancelLoop bufNum .inactive 0 (cancelledBefore (xferBufNum bufNum).toNat) ∅ ∅
          (xferBufNum bufNum).toNat false) := by
  induction rest generalizing before with
  | zero => exact (show before = _ from all) ▸ .nil
  | succ rest ih =>
      have more : before < (xferBufNum bufNum).toNat := by omega
      refine .cons ⟨trivial, ?_⟩ ?_ (ih (before + 1) (by omega))
      · simp [Drains, cancelLoop]
      · simp [releaseReading, step, readStep, cancelStep, cancelLoop, cancelledBefore, more]

/-- Where every transfer completes as it is cancelled, `rtlsdr_read_async` ends. -/
theorem released_drained (bufNum : UInt32)
    : ∃ schedule finish,
        (releaseReading bufNum).Heeded (WorksAndDrains bufNum) .initial schedule finish
        ∧ finish.Releases := by
  obtain ⟨rest, all⟩ := Nat.exists_eq_add_one.mpr (xferBufNum_pos bufNum)
  obtain ⟨schedule, completed⟩ :=
    completes_all 0 rest .inactive false ((Nat.zero_add _).trans all.symm)
  have begun := @begins_cancelling bufNum
  rw [← cancelledBefore_zero, Finset.range_eq_Ico] at begun
  have ended := begun.append (completed.append (loops_again.append
    ((passes_over 0 _ (Nat.zero_add _)).append loops_last)))
  exact ⟨_, _, ended, _, _, rfl⟩

/-- What the first loop cancels may still be in flight when a second one ends. -/
theorem released_inFlight (bufNum : UInt32)
    : ∃ schedule finish,
        (releaseReading bufNum).Heeded Works .initial schedule finish
        ∧ finish.Releases
        ∧ finish.transfers.device.devLost = false
        ∧ finish.transfers.inFlight = .range (xferBufNum bufNum).toNat := by
  obtain ⟨rest, all⟩ := Nat.exists_eq_add_one.mpr (xferBufNum_pos bufNum)
  have same : 0 + (rest + 1) = (xferBufNum bufNum).toNat := (Nat.zero_add _).trans all.symm
  have works (releasing : Releasing) (event : TransferEvent)
      (both : releasing.WorksAndDrains bufNum event) := both.1
  have begun := begins_cancelling.mono works
  have again := begun.append ((cancels_all 0 rest .inactive false same).append
    (loops_again.mono works))
  have ended := again.append ((is_refused 0 rest 0 false same).append (loops_last.mono works))
  exact ⟨_, _, ended, ⟨_, _, rfl⟩, rfl, rfl⟩

end Releasing

/-- The loop that cancels one by one is one of the runs of the transfers. -/
theorem transfers_of_releasing {releasing : Releasing}
    (reachable : (releaseReading bufNum).Reachable releasing)
    : (transferReading bufNum).Reachable releasing.transfers := by
  refine reachable.project (fun start initial => by rw [initial]; rfl) ?_
  intro current event next fired
  cases event with
  | read reply =>
      by_cases loops
          : ∃ nextStatus r,
              current.transfers.progress = .point (.cancelTransfers nextStatus r)
      · obtain ⟨nextStatus, r, point⟩ := loops
        have stepped (reply : Reply)
            : current.transfers.step bufNum (.read reply)
              = current.transfers.readStep (.cancelTransfers nextStatus r) reply := by
          unfold Transfers.step
          rw [point]
        obtain ⟨-, -, rfl⟩ | ⟨-, result, _, -, -, moved, rfl⟩ | ⟨-, transfers, moved, rfl⟩ :=
          Releasing.cancelStep_cases ((Releasing.readStep_cancels point).symm.trans fired)
        · exact .inl rfl
        · exact .inr ⟨.read (.value result), (stepped _).trans moved⟩
        · exact .inr ⟨.read .none, (stepped _).trans moved⟩
      · exact .inr ⟨.read reply,
          (Releasing.read_cases (fun nextStatus r at_ => loops ⟨nextStatus, r, at_⟩) fired).1⟩
  | complete number status resubmitted =>
      obtain ⟨-, completed⟩ := Option.ite_none_right_eq_some.mp fired
      obtain ⟨transfers, moved, rfl⟩ := Option.map_eq_some_iff.mp completed
      exact .inr ⟨.complete number status resubmitted, moved⟩
  | submit r =>
      obtain ⟨transfers, moved, rfl⟩ := Option.map_eq_some_iff.mp fired
      exact .inr ⟨.submit r, moved⟩
  | cancel =>
      cases fired
      exact .inr ⟨.cancel, rfl⟩

/-- For every number of buffers: `rtlsdr_read_async` gives its transfers back with none in flight
whenever its steps drain, which they do in a run that stops as it should; but there is also a run
in which libusb works, no device is lost, and all of them are in flight then.
-/
theorem rtlsdrReadAsync_releases (bufNum : UInt32)
    : (∀ schedule finish,
        (releaseReading bufNum).Heeded (Releasing.Drains bufNum) .initial schedule finish
        → finish.Releases
        → finish.transfers.inFlight = ∅)
      ∧ (∃ schedule finish,
          (releaseReading bufNum).Heeded
              (fun releasing event =>
                releasing.Works event ∧ releasing.Drains bufNum event)
              .initial schedule finish
          ∧ finish.Releases)
      ∧ ∃ schedule finish,
          (releaseReading bufNum).Heeded Releasing.Works .initial schedule finish
          ∧ finish.Releases
          ∧ finish.transfers.device.devLost = false
          ∧ finish.transfers.inFlight = .range (xferBufNum bufNum).toNat :=
  ⟨fun _ _ => Releasing.inFlight_of_drains, Releasing.released_drained bufNum,
    Releasing.released_inFlight bufNum⟩

end Stopping

end RtlTcpAndro.RtlSdrDevice
