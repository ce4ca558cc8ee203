import RtlTcpAndro.RtlSdrDevice.Librtlsdr
import Mathlib.Data.Finset.Basic

/-! The transfers of `rtlsdr_read_async`: each is submitted in turn, completes with some status
and is handed to `_libusb_callback`, which may submit it again.
-/

namespace RtlTcpAndro.RtlSdrDevice

open RtlTcpAndro.Interleaving RtlTcpAndro.SdrTcp

-----------------------------------------------------------------------------------------
-- State
-----------------------------------------------------------------------------------------

/-- The `LIBUSB_TRANSFER_…` statuses. -/
inductive TransferStatus
  | completed
  | error
  | timedOut
  | cancelled
  | stall
  | noDevice
  | overflow
  deriving DecidableEq, Repr

/-- `DEFAULT_BUF_NUMBER` -/
def defaultBufNumber : UInt32 := 15

/-- The `xfer_buf_num` that `rtlsdr_read_async` sets for its `buf_num`. -/
def xferBufNum (bufNum : UInt32) : UInt32 := if 0 < bufNum then bufNum else defaultBufNumber

/-- A device with the thread inside `rtlsdr_read_async`, the number of the transfer that its
first loop is at, the device's `xfer_errors`, and the transfers submitted and not yet completed.
-/
structure Transfers where
  device : Device
  progress : Progress ReadPoint Int
  next : Nat
  xferErrors : UInt32
  inFlight : Finset Nat

/-- What may happen next: `libusb_submit_transfer` returns to the first loop; that thread goes
on; a transfer completes, its callback returns and a submission in it succeeds or fails;
`rtlsdr_cancel_async` runs in another thread or in `dev->cb`.
-/
inductive TransferEvent
  | submit (r : Int)
  | read (reply : Reply)
  | complete (i : Nat) (status : TransferStatus) (resubmitted : Bool)
  | cancel
  deriving DecidableEq, Repr

-----------------------------------------------------------------------------------------
-- Steps
-----------------------------------------------------------------------------------------

/-- `rtlsdr_cancel_async` with no other thread in between. -/
def cancelAsync (device : Device) : Device :=
  if device.asyncStatus = .running then
    { device with asyncStatus := .canceling, asyncCancel := true }
  else device

/-- Run on its own, `rtlsdr_cancel_async` is the one change of the status. Witness: the test
of the status, both ways.
-/
theorem runToReturn_cancelAsync (device : Device)
    : (runToReturn rtlsdrCancelAsync 3 device .testRunning).map Prod.fst
      = some (cancelAsync device) := by
  unfold cancelAsync
  by_cases running : device.asyncStatus = .running
  · simp [runToReturn, rtlsdrCancelAsync, running]
  · simp [runToReturn, rtlsdrCancelAsync, running]

namespace Transfers

/-- `rtlsdr_read_async` goes on with a reply. -/
def readStep (transfers : Transfers) (pos : ReadPoint) (reply : Reply) : Option Transfers :=
  (rtlsdrReadAsync transfers.device reply pos).map
    (fun moved => { transfers with device := moved.1, progress := moved.2 })

/-- The first loop of `rtlsdr_read_async` gets the result of a submission. -/
def submitStep (bufNum : UInt32) (transfers : Transfers) (r : Int) : Option Transfers :=
  if r < 0 then transfers.readStep .submit (.value r)
  else
    let transfers :=
      { transfers with
        next := transfers.next + 1
        inFlight := insert transfers.next transfers.inFlight }
    if transfers.next < (xferBufNum bufNum).toNat then some transfers
    else transfers.readStep .submit (.value r)

/-- `xfer_errors` once a failed transfer is counted. -/
def countedErrors (transfers : Transfers) (status : TransferStatus) : UInt32 :=
  if status = .error then transfers.xferErrors + 1 else transfers.xferErrors

/-- `_libusb_callback` on transfer `i`. -/
def libusbCallback (bufNum : UInt32) (transfers : Transfers) (i : Nat) (status : TransferStatus)
    (resubmitted : Bool) : Transfers :=
  if status = .completed then
    { transfers with
      inFlight := if resubmitted then insert i transfers.inFlight else transfers.inFlight
      xferErrors := 0 }
  else if status ≠ .cancelled then
    let transfers := { transfers with xferErrors := transfers.countedErrors status }
    if xferBufNum bufNum ≤ transfers.xferErrors ∨ status = .noDevice then
      { transfers with device := cancelAsync { transfers.device with devLost := true } }
    else transfers
  else transfers

/-- One step. A callback counts as one step of the thread that handles the event. -/
def step (bufNum : UInt32) (transfers : Transfers) : TransferEvent → Option Transfers
  | .submit r =>
      if transfers.progress = .point .submit then transfers.submitStep bufNum r else none
  | .read reply =>
      match transfers.progress with
      | .point .submit => none
      | .point pos => transfers.readStep pos reply
      | .returned _ => none
  | .complete i status resubmitted =>
      if i ∈ transfers.inFlight then
        some
          ({ transfers with inFlight := transfers.inFlight.erase i }.libusbCallback bufNum i
            status resubmitted)
      else none
  | .cancel => some { transfers with device := cancelAsync transfers.device }

/-- `rtlsdr_read_async` is called on a device that was just opened. -/
def initial : Transfers := ⟨.opened, .point .testInactive, 0, 0, ∅⟩

end Transfers

/-- A call of `rtlsdr_read_async` with its transfers. -/
def transferReading (bufNum : UInt32) : System Transfers TransferEvent where
  initial transfers := transfers = .initial
  step := Transfers.step bufNum

-----------------------------------------------------------------------------------------
-- The loop is never without a transfer
-----------------------------------------------------------------------------------------

/-- `rtlsdr_read_async` is past its first loop. -/
def ReadPoint.submitted : ReadPoint → Bool
  | .loop .. | .handleEvents _ | .testCanceling .. | .cancelTransfers .. | .flush ..
  | .storeNextStatus .. => true
  | _ => false

/-- `rtlsdr_read_async` has stored `RTLSDR_RUNNING` and not yet its next status. -/
def ReadPoint.entered : ReadPoint → Bool
  | .testInactive | .storeRunning => false
  | _ => true

namespace Transfers

/-- The program point is one past the first loop. -/
def looping (transfers : Transfers) : Bool :=
  match transfers.progress with
  | .point pos => pos.submitted
  | .returned _ => false

/-- The status is not `RTLSDR_INACTIVE` while `rtlsdr_read_async` reads. -/
def Active (transfers : Transfers) : Prop :=
  ∀ pos, transfers.progress = .point pos → pos.entered = true
    → transfers.device.asyncStatus ≠ .inactive

/-- After the first loop, a transfer is in flight while the status is `RTLSDR_RUNNING`, and
else the status is `RTLSDR_CANCELING`.
-/
def Supplied (transfers : Transfers) : Prop :=
  transfers.looping = true
  → transfers.device.asyncStatus = .running ∧ transfers.inFlight.Nonempty
    ∨ transfers.device.asyncStatus = .canceling

/-- A callback on a status gives the device up: for `LIBUSB_TRANSFER_NO_DEVICE`, or for a status
other than success and cancellation once `xfer_errors` has reached `xfer_buf_num`.
-/
def givesUp (bufNum : UInt32) (transfers : Transfers) (status : TransferStatus) : Prop :=
  status ≠ .completed
  ∧ status ≠ .cancelled
  ∧ (xferBufNum bufNum ≤ transfers.countedErrors status ∨ status = .noDevice)

/-- A transfer that completes after the first loop while the status is `RTLSDR_RUNNING` is not
the only one in flight, or it is submitted again, or the callback gives the device up.
-/
def Resupplies (bufNum : UInt32) (transfers : Transfers) : TransferEvent → Prop
  | .complete i status resubmitted =>
      transfers.looping = true
      → transfers.device.asyncStatus = .running
      → (transfers.inFlight.erase i).Nonempty
        ∨ (status = .completed ∧ resubmitted = true)
        ∨ transfers.givesUp bufNum status
  | _ => True

end Transfers

instance (bufNum : UInt32) (transfers : Transfers) (status : TransferStatus)
    : Decidable (transfers.givesUp bufNum status) :=
  inferInstanceAs (Decidable (_ ∧ _ ∧ (_ ∨ _)))

instance (bufNum : UInt32) (transfers : Transfers)
    : (event : TransferEvent) → Decidable (transfers.Resupplies bufNum event)
  | .complete i _ _ =>
      have : Decidable (transfers.inFlight.erase i).Nonempty := inferInstance
      inferInstanceAs (Decidable (_ → _ → _ ∨ (_ ∧ _) ∨ _))
  | .submit _ | .read _ | .cancel => inferInstanceAs (Decidable True)

section ReadAsync

variable {device after : Device} {reply : Reply} {pos next : ReadPoint}

/-- A point past the store of `RTLSDR_RUNNING` has a status to leave. -/
theorem rtlsdrReadAsync_active
    (moved : rtlsdrReadAsync device reply pos = some (after, .point next))
    (active : pos.entered = true → device.asyncStatus ≠ .inactive)
    : next.entered = true → after.asyncStatus ≠ .inactive := by
  cases pos with
  | testInactive =>
      simp only [rtlsdrReadAsync] at moved
      split at moved <;> cases moved
      rintro ⟨⟩
  | storeRunning | storeSubmitFailed r =>
      cases moved
      rintro _ ⟨⟩
  | submit | handleEvents nextStatus =>
      cases reply with
      | value r =>
          cases moved
          exact fun _ => active rfl
      | _ => cases moved
  | cancelTransfers nextStatus r =>
      cases reply <;> cases moved <;> exact fun _ => active rfl
  | storeNextStatus nextStatus r => cases moved
  | _ =>
      cases moved
      exact fun _ => active rfl

/-- A point past the first loop comes from one, with the status unchanged, or from the failure
of a submission.
-/
theorem rtlsdrReadAsync_submitted
    (moved : rtlsdrReadAsync device reply pos = some (after, .point next))
    (other : pos ≠ .submit) (submitted : next.submitted = true)
    : after.asyncStatus = .canceling
      ∨ pos.submitted = true ∧ after.asyncStatus = device.asyncStatus := by
  cases pos with
  | submit => exact absurd rfl other
  | testInactive =>
      simp only [rtlsdrReadAsync] at moved
      split at moved <;> cases moved
      cases submitted
  | storeRunning | clearCancel =>
      cases moved
      cases submitted
  | storeSubmitFailed r =>
      cases moved
      exact .inl rfl
  | handleEvents nextStatus =>
      cases reply with
      | value r =>
          cases moved
          exact .inr ⟨rfl, rfl⟩
      | _ => cases moved
  | cancelTransfers nextStatus r => cases reply <;> cases moved <;> exact .inr ⟨rfl, rfl⟩
  | storeNextStatus nextStatus r => cases moved
  | _ =>
      cases moved
      exact .inr ⟨rfl, rfl⟩

end ReadAsync

-----------------------------------------------------------------------------------------
-- Steps keep the loop supplied
-----------------------------------------------------------------------------------------

section Steps

variable {bufNum : UInt32} {transfers next : Transfers}

/-- Cancelling leaves the status canceling, or as it was when no read is running. Witness: the
two branches.
-/
theorem cancelAsync_status {device : Device}
    : (cancelAsync device).asyncStatus = .canceling
      ∨ device.asyncStatus ≠ .running ∧ (cancelAsync device).asyncStatus = device.asyncStatus := by
  unfold cancelAsync
  split
  · exact .inl rfl
  · rename_i stopped
    exact .inr ⟨stopped, rfl⟩

/-- Cancelling a read under way leaves the status canceling. Witness: it is so set, or was so
before.
-/
theorem cancelAsync_of_reading {device : Device}
    (reading : device.asyncStatus = .running ∨ device.asyncStatus = .canceling)
    : (cancelAsync device).asyncStatus = .canceling := by
  unfold cancelAsync
  split
  · rfl
  · rename_i stopped
    exact reading.resolve_left stopped

namespace Transfers

/-- A step of the callback or of a cancel keeps the program point, and the status or moves it to
`RTLSDR_CANCELING`.
-/
theorem Active.aside (active : transfers.Active) (progress : next.progress = transfers.progress)
    (status
      : next.device.asyncStatus = .canceling
        ∨ next.device.asyncStatus = transfers.device.asyncStatus)
    : next.Active := by
  intro pos point entered
  rcases status with canceling | same
  · rw [canceling]
    exact nofun
  · rw [same]
    exact active pos (progress ▸ point) entered

/-- A completion does not move the reader. Witness: it changes transfers and status only. -/
theorem libusbCallback_progress (i : Nat) (status : TransferStatus) (resubmitted : Bool)
    : (transfers.libusbCallback bufNum i status resubmitted).progress = transfers.progress := by
  unfold libusbCallback
  split
  · rfl
  · split
    · simp only []
      split <;> rfl
    · rfl

/-- What `_libusb_callback` does to the status and the transfers. -/
theorem libusbCallback_cases (bufNum : UInt32) (transfers : Transfers) (i : Nat)
    (status : TransferStatus) (resubmitted : Bool)
    : (transfers.givesUp bufNum status
        ∧ (transfers.libusbCallback bufNum i status resubmitted).device
          = cancelAsync { transfers.device with devLost := true }
        ∧ (transfers.libusbCallback bufNum i status resubmitted).inFlight = transfers.inFlight)
      ∨ ¬ transfers.givesUp bufNum status
        ∧ (transfers.libusbCallback bufNum i status resubmitted).device = transfers.device
        ∧ (transfers.libusbCallback bufNum i status resubmitted).inFlight
          = if status = .completed ∧ resubmitted = true then insert i transfers.inFlight
            else transfers.inFlight := by
  unfold libusbCallback givesUp
  by_cases completed : status = .completed
  · rw [if_pos completed]
    exact .inr ⟨fun gives => gives.1 completed, rfl, by simp [completed]⟩
  · rw [if_neg completed]
    by_cases cancelled : status = .cancelled
    · rw [if_neg (not_not.mpr cancelled)]
      exact .inr ⟨fun gives => gives.2.1 cancelled, rfl, by simp [completed]⟩
    · rw [if_pos cancelled]
      simp only []
      split
      · rename_i gives
        exact .inl ⟨⟨completed, cancelled, gives⟩, rfl, rfl⟩
      · rename_i keeps
        exact .inr ⟨fun gives => keeps gives.2.2, rfl, by simp [completed]⟩

/-- A step of the reader keeps a read under way active. Witness: the points it can move to. -/
theorem active_readStep {pos : ReadPoint} {reply : Reply}
    (active : pos.entered = true → transfers.device.asyncStatus ≠ .inactive)
    (fired : transfers.readStep pos reply = some next)
    : next.Active := by
  obtain ⟨⟨after, progress⟩, moved, rfl⟩ := Option.map_eq_some_iff.mp fired
  intro following point entered
  cases point
  exact rtlsdrReadAsync_active moved active entered

/-- A submission leaves the first loop with its transfer in flight, or with a failure. -/
theorem submitStep_cases {r : Int} (fired : transfers.submitStep bufNum r = some next)
    : next.device = transfers.device
      ∧ (next.progress = transfers.progress
        ∨ next.progress = .point (.storeSubmitFailed r)
        ∨ next.progress = .point (.loop .inactive r) ∧ next.inFlight.Nonempty) := by
  unfold submitStep at fired
  split at fired
  · rename_i failed
    simp only [readStep, rtlsdrReadAsync, if_pos failed, Option.map_some] at fired
    cases fired
    exact ⟨rfl, .inr (.inl rfl)⟩
  · rename_i submitted
    simp only [] at fired
    split at fired
    · cases fired
      exact ⟨rfl, .inl rfl⟩
    · simp only [readStep, rtlsdrReadAsync, if_neg submitted, Option.map_some] at fired
      cases fired
      exact ⟨rfl, .inr (.inr ⟨rfl, Finset.insert_nonempty _ _⟩)⟩

/-- A reading thread that is not in its first loop makes a step of `rtlsdr_read_async`. -/
theorem read_cases {reply : Reply} (fired : transfers.step bufNum (.read reply) = some next)
    : ∃ pos,
        transfers.progress = .point pos
        ∧ pos ≠ .submit
        ∧ transfers.readStep pos reply = some next := by
  unfold step at fired
  cases progress : transfers.progress with
  | returned r =>
      rw [progress] at fired
      cases fired
  | point pos =>
      rw [progress] at fired
      refine ⟨pos, rfl, ?_, ?_⟩
      · rintro rfl
        cases fired
      · cases pos <;> first | exact fired | cases fired

/-- Every step keeps a read under way active. Witness: one case per event. -/
theorem active_step (active : transfers.Active) {event : TransferEvent}
    (fired : transfers.step bufNum event = some next)
    : next.Active := by
  cases event with
  | submit r =>
      obtain ⟨point, moved⟩ := Option.ite_none_right_eq_some.mp fired
      obtain ⟨device, -⟩ := submitStep_cases moved
      intro pos _ _
      rw [device]
      exact active .submit point rfl
  | read reply =>
      obtain ⟨pos, progress, -, moved⟩ := read_cases fired
      exact active_readStep (active pos progress) moved
  | complete i status resubmitted =>
      obtain ⟨flies, moved⟩ := Option.ite_none_right_eq_some.mp fired
      cases moved
      refine active.aside (libusbCallback_progress i status resubmitted) ?_
      obtain ⟨-, device, -⟩ | ⟨-, device, -⟩ :=
        libusbCallback_cases bufNum { transfers with inFlight := transfers.inFlight.erase i } i
          status resubmitted
      · rw [device]
        exact cancelAsync_status.imp_right And.right
      · rw [device]
        exact .inr rfl
  | cancel =>
      cases fired
      exact active.aside rfl (cancelAsync_status.imp_right And.right)

/-- A step keeps the loop supplied exactly when what completes is resupplied. -/
theorem supplied_iff (active : transfers.Active) (supplied : transfers.Supplied)
    {event : TransferEvent} (fired : transfers.step bufNum event = some next)
    : next.Supplied ↔ transfers.Resupplies bufNum event := by
  cases event with
  | submit r =>
      refine ⟨fun _ => trivial, fun _ looping => ?_⟩
      obtain ⟨point, moved⟩ := Option.ite_none_right_eq_some.mp fired
      obtain ⟨device, same | failed | ⟨-, flies⟩⟩ := submitStep_cases moved
      · rw [Transfers.looping, same, point] at looping
        cases looping
      · rw [Transfers.looping, failed] at looping
        cases looping
      · rw [device]
        have entered := active .submit point rfl
        cases status : transfers.device.asyncStatus with
        | inactive => exact absurd status entered
        | running => exact .inl ⟨rfl, flies⟩
        | canceling => exact .inr rfl
  | read reply =>
      refine ⟨fun _ => trivial, fun _ looping => ?_⟩
      obtain ⟨pos, progress, other, moved⟩ := read_cases fired
      obtain ⟨⟨after, following⟩, reads, rfl⟩ := Option.map_eq_some_iff.mp moved
      cases following with
      | returned r => cases looping
      | point following =>
          obtain canceling | ⟨before, same⟩ := rtlsdrReadAsync_submitted reads other looping
          · exact .inr canceling
          · have known := supplied (by rw [Transfers.looping, progress]; exact before)
            rwa [← same] at known
  | complete i status resubmitted =>
      obtain ⟨flies, moved⟩ := Option.ite_none_right_eq_some.mp fired
      cases moved
      let taken := { transfers with inFlight := transfers.inFlight.erase i }
      have looping
          : (taken.libusbCallback bufNum i status resubmitted).looping = transfers.looping := by
        rw [Transfers.looping, libusbCallback_progress]
        rfl
      unfold Supplied
      rw [looping]
      obtain ⟨gives, device, -⟩ | ⟨keeps, device, inFlight⟩ :=
        libusbCallback_cases bufNum taken i status resubmitted
      · refine ⟨fun _ _ _ => .inr (.inr gives), fun _ loops => .inr ?_⟩
        rw [device]
        exact cancelAsync_of_reading ((supplied loops).imp_left And.left)
      · rw [device, inFlight]
        constructor
        · intro kept loops running
          obtain ⟨-, flying⟩ | canceling := kept loops
          · by_cases again : status = .completed ∧ resubmitted = true
            · exact .inr (.inl again)
            · rw [if_neg again] at flying
              exact .inl flying
          · exact absurd (running.symm.trans canceling) nofun
        · intro resupplies loops
          obtain ⟨running, -⟩ | canceling := supplied loops
          · refine .inl ⟨running, ?_⟩
            obtain others | again | gives := resupplies loops running
            · split
              · exact Finset.insert_nonempty _ _
              · exact others
            · rw [if_pos again]
              exact Finset.insert_nonempty _ _
            · exact absurd gives keeps
          · exact .inr canceling
  | cancel =>
      refine ⟨fun _ => trivial, fun _ looping => ?_⟩
      cases fired
      exact .inr (cancelAsync_of_reading ((supplied looping).imp_left And.left))

end Transfers

end Steps

-----------------------------------------------------------------------------------------
-- Every run
-----------------------------------------------------------------------------------------

section Runs

variable {bufNum : UInt32} {schedule : List TransferEvent} {finish : Transfers}

/-- A run keeps its loop supplied throughout exactly when every completion is resupplied, for
every number of buffers.
-/
theorem supplied_throughout_iff
    (replayed : (transferReading bufNum).run .initial schedule = some finish)
    : (transferReading bufNum).Throughout Transfers.Supplied .initial schedule
      ↔ (transferReading bufNum).Heeds (Transfers.Resupplies bufNum) .initial schedule := by
  have begins : Transfers.Active .initial := by
    intro pos point entered
    cases point
    cases entered
  exact System.throughout_iff_heeds_of_kept
    (fun _ _ _ active fired => Transfers.active_step active fired)
    (fun _ _ _ active supplied fired => Transfers.supplied_iff active supplied fired)
    replayed begins nofun

/-- The first loop of `rtlsdr_read_async`, up to the wait for events, with every submission a
success.
-/
def submittingSchedule (bufNum : UInt32) : List TransferEvent :=
  [.read .none, .read .none, .read .none]
  ++ List.replicate (xferBufNum bufNum).toNat (.submit 0)
  ++ [.read .none]

/-- Two transfers, one of them lost: the other goes on until the device is gone. -/
theorem supplied_until_no_device
    : (transferReading 2).Throughout Transfers.Supplied .initial
        (submittingSchedule 2
          ++ [.complete 0 .stall false, .complete 1 .completed true,
            .complete 1 .noDevice false]) := by
  have replayed
      : ((transferReading 2).run .initial
            (submittingSchedule 2
              ++ [.complete 0 .stall false, .complete 1 .completed true,
                .complete 1 .noDevice false])).isSome
        = true := by
    decide +kernel
  obtain ⟨finish, replayed⟩ := Option.isSome_iff_exists.mp replayed
  exact (supplied_throughout_iff replayed).mpr (by decide +kernel)

/-- When all fifteen transfers stall, the loop runs on with none in flight. -/
theorem running_without_transfer
    : ¬ ∀ transfers, (transferReading 0).Reachable transfers → transfers.Supplied := by
  intro claim
  have replayed
      : ((transferReading 0).run .initial
            (submittingSchedule 0
              ++ (List.range 15).map (fun i => .complete i .stall false))).map
          (fun transfers =>
            (transfers.looping, transfers.device.asyncStatus, transfers.inFlight))
        = some (true, .running, ∅) := by
    decide +kernel
  obtain ⟨transfers, reachable, seen⟩ := System.exists_reachable_of_run replayed rfl
  simp only [Prod.mk.injEq] at seen
  obtain ⟨looping, running, none⟩ := seen
  obtain ⟨-, flying⟩ | canceling := claim transfers reachable looping
  · rw [none] at flying
    exact Finset.not_nonempty_empty flying
  · rw [running] at canceling
    cases canceling

end Runs

end RtlTcpAndro.RtlSdrDevice
