import RtlTcpAndro.SdrTcp.Programs

/-! The asynchronous reading of `librtlsdr.c`: `rtlsdr_read_async`, `rtlsdr_cancel_async` and
`rtlsdr_close`, one program point before each access to what the threads share. What the USB
library returns is chosen by the environment.
-/

namespace RtlTcpAndro.RtlSdrDevice

open RtlTcpAndro.Interleaving RtlTcpAndro.SdrTcp

/-- `enum rtlsdr_async_status` -/
inductive AsyncStatus
  | inactive
  | canceling
  | running
  deriving DecidableEq, Repr

/-- What the threads share of a `struct rtlsdr_dev`; `freed` once `rtlsdr_close` is through.
A freed device keeps its last contents.
-/
structure Device where
  asyncStatus : AsyncStatus
  asyncCancel : Bool
  devLost : Bool
  freed : Bool
  deriving DecidableEq, Repr

/-- The device that `rtlsdr_open2` returns. -/
def Device.opened : Device := ⟨.inactive, false, false, false⟩

/-- Program points of `rtlsdr_cancel_async` on a device. -/
inductive CancelPoint
  | testRunning
  | storeCanceling
  | storeCancel
  deriving DecidableEq, Repr

/-- `rtlsdr_cancel_async` -/
def rtlsdrCancelAsync (device : Device) : CancelPoint → Device × Progress CancelPoint Int
  | .testRunning =>
      (device,
        if device.asyncStatus = .running then .point .storeCanceling else .returned (-2))
  | .storeCanceling => ({ device with asyncStatus := .canceling }, .point .storeCancel)
  | .storeCancel => ({ device with asyncCancel := true }, .returned 0)

/-- Program points of `rtlsdr_read_async`, with its local `next_status`. The points that call
`libusb_handle_events_timeout_completed` are `handleEvents`, `cancelTransfers` and `flush`.
-/
inductive ReadPoint
  | testInactive
  | storeRunning
  | clearCancel
  | submit
  | storeSubmitFailed (r : Int)
  | loop (nextStatus : AsyncStatus) (r : Int)
  | handleEvents (nextStatus : AsyncStatus)
  | testCanceling (nextStatus : AsyncStatus) (r : Int)
  | cancelTransfers (nextStatus : AsyncStatus) (r : Int)
  | flush (nextStatus : AsyncStatus) (r : Int)
  | storeNextStatus (nextStatus : AsyncStatus) (r : Int)
  deriving DecidableEq, Repr

/-- The points at which transfers can complete or fail. -/
def ReadPoint.handlesEvents : ReadPoint → Bool
  | .handleEvents _ | .cancelTransfers _ _ | .flush _ _ => true
  | _ => false

/-- `LIBUSB_ERROR_INTERRUPTED` -/
def libusbErrorInterrupted : Int := -10

/-- `rtlsdr_read_async`. At `submit` the environment gives the first negative result of
`libusb_submit_transfer`, if any; at `cancelTransfers` it gives the result of cancelling one
more transfer, or tells that none is left to cancel.
-/
def rtlsdrReadAsync (device : Device) (reply : Reply)
    : ReadPoint → Option (Device × Progress ReadPoint Int)
  | .testInactive =>
      if device.asyncStatus ≠ .inactive then some (device, .returned (-2))
      else some (device, .point .storeRunning)
  | .storeRunning => some ({ device with asyncStatus := .running }, .point .clearCancel)
  | .clearCancel => some ({ device with asyncCancel := false }, .point .submit)
  | .submit =>
      match reply with
      | .value r =>
          some (device, .point (if r < 0 then .storeSubmitFailed r else .loop .inactive r))
      | _ => none
  | .storeSubmitFailed r =>
      some ({ device with asyncStatus := .canceling }, .point (.loop .inactive r))
  | .loop nextStatus r =>
      some
        (device,
          .point
            (if device.asyncStatus ≠ .inactive then .handleEvents nextStatus
            else .storeNextStatus nextStatus r))
  | .handleEvents nextStatus =>
      match reply with
      | .value r =>
          some
            (device,
              .point
                (if r = libusbErrorInterrupted then .loop nextStatus r
                else if r < 0 then .storeNextStatus nextStatus r
                else .testCanceling nextStatus r))
      | _ => none
  | .testCanceling nextStatus r =>
      some
        (device,
          .point
            (if device.asyncStatus = .canceling then .cancelTransfers .inactive r
            else .loop nextStatus r))
  | .cancelTransfers nextStatus r =>
      match reply with
      | .value result =>
          some
            (device,
              .point (.cancelTransfers (if result < 0 then nextStatus else .canceling) result))
      | _ =>
          some
            (device,
              .point
                (if device.devLost = true ∨ nextStatus = .inactive then .flush nextStatus r
                else .loop nextStatus r))
  | .flush nextStatus r => some (device, .point (.storeNextStatus nextStatus r))
  | .storeNextStatus nextStatus r =>
      some ({ device with asyncStatus := nextStatus }, .returned r)

/-- Program points of `rtlsdr_close` on a device. -/
inductive ClosePoint
  | testLost
  | wait
  | free
  deriving DecidableEq, Repr

/-- `rtlsdr_close` -/
def rtlsdrClose (device : Device) : ClosePoint → Device × Progress ClosePoint Int
  | .testLost => (device, .point (if device.devLost then .free else .wait))
  | .wait => (device, .point (if device.asyncStatus = .inactive then .free else .wait))
  | .free => ({ device with freed := true }, .returned 0)

/-- `rtlsdr_cancel_async` never leaves a device running that was not. -/
theorem rtlsdrCancelAsync_status {device : Device} {pos : CancelPoint}
    (stopped : device.asyncStatus ≠ .running)
    : (rtlsdrCancelAsync device pos).1.asyncStatus ≠ .running := by
  cases pos with
  | storeCanceling => exact nofun
  | _ => exact stopped

/-- `rtlsdr_close` leaves the status alone. -/
theorem rtlsdrClose_status {device : Device} {pos : ClosePoint}
    (stopped : device.asyncStatus ≠ .running)
    : (rtlsdrClose device pos).1.asyncStatus ≠ .running := by
  cases pos <;> exact stopped

/-- The status that a point of `rtlsdr_read_async` is going to leave behind. -/
def ReadPoint.nextStatus : ReadPoint → AsyncStatus
  | .loop nextStatus _ | .handleEvents nextStatus | .testCanceling nextStatus _
  | .cancelTransfers nextStatus _ | .flush nextStatus _
  | .storeNextStatus nextStatus _ => nextStatus
  | _ => .inactive

/-- `rtlsdr_read_async` has not stored `RTLSDR_RUNNING`. -/
def ReadPoint.unstarted : ReadPoint → Bool
  | .testInactive | .storeRunning => true
  | _ => false

section ReadAsync

variable {device after : Device} {reply : Reply} {pos : ReadPoint}
  {progress : Progress ReadPoint Int}

/-- `next_status` is never `RTLSDR_RUNNING`, and the beginning is not entered again. -/
theorem rtlsdrReadAsync_point {next : ReadPoint}
    (moved : rtlsdrReadAsync device reply pos = some (after, .point next))
    (leaves : pos.nextStatus ≠ .running)
    : next.nextStatus ≠ .running ∧ (next.unstarted = true → pos.unstarted = true) := by
  cases pos with
  | testInactive =>
      simp only [rtlsdrReadAsync] at moved
      split at moved <;> cases moved
      exact ⟨nofun, fun _ => rfl⟩
  | submit =>
      cases reply with
      | value r =>
          cases moved
          split <;> exact ⟨nofun, nofun⟩
      | _ => cases moved
  | handleEvents nextStatus =>
      cases reply with
      | value r =>
          cases moved
          split
          · exact ⟨leaves, nofun⟩
          · split <;> exact ⟨leaves, nofun⟩
      | _ => cases moved
  | testCanceling nextStatus r =>
      cases moved
      split
      · exact ⟨nofun, nofun⟩
      · exact ⟨leaves, nofun⟩
  | cancelTransfers nextStatus r =>
      cases reply with
      | value result =>
          cases moved
          refine ⟨?_, nofun⟩
          simp only [ReadPoint.nextStatus]
          split
          · exact leaves
          · exact nofun
      | _ =>
          cases moved
          split <;> exact ⟨leaves, nofun⟩
  | loop nextStatus r =>
      cases moved
      split <;> exact ⟨leaves, nofun⟩
  | storeNextStatus nextStatus r => cases moved
  | _ =>
      cases moved
      exact ⟨leaves, nofun⟩

/-- Only its store of `RTLSDR_RUNNING` sets a device running. -/
theorem rtlsdrReadAsync_status (moved : rtlsdrReadAsync device reply pos = some (after, progress))
    (stopped : device.asyncStatus ≠ .running) (leaves : pos.nextStatus ≠ .running)
    (other : pos ≠ .storeRunning)
    : after.asyncStatus ≠ .running := by
  cases pos with
  | storeRunning => exact absurd rfl other
  | testInactive =>
      simp only [rtlsdrReadAsync] at moved
      split at moved <;> cases moved <;> exact stopped
  | submit | handleEvents nextStatus =>
      cases reply with
      | value r => cases moved; exact stopped
      | _ => cases moved
  | cancelTransfers nextStatus r => cases reply <;> cases moved <;> exact stopped
  | storeSubmitFailed r => cases moved; exact nofun
  | storeNextStatus nextStatus r => cases moved; exact leaves
  | _ => cases moved; exact stopped

/-- `rtlsdr_read_async` returns from its test of the status or leaves `next_status` behind. -/
theorem rtlsdrReadAsync_returned {r : Int}
    (moved : rtlsdrReadAsync device reply pos = some (after, .returned r))
    (leaves : pos.nextStatus ≠ .running)
    (unstarted : pos.unstarted = true → device.asyncStatus ≠ .running)
    : after.asyncStatus ≠ .running := by
  cases pos with
  | testInactive =>
      simp only [rtlsdrReadAsync] at moved
      split at moved <;> cases moved
      exact unstarted rfl
  | submit | handleEvents nextStatus => cases reply <;> cases moved
  | cancelTransfers nextStatus r => cases reply <;> cases moved
  | storeNextStatus nextStatus r => cases moved; exact leaves
  | _ => cases moved

end ReadAsync

end RtlTcpAndro.RtlSdrDevice
