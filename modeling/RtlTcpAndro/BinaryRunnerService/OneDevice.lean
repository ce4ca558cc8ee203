import RtlTcpAndro.BinaryRunnerService.Programs

/-! The service under events that do not overlap: every method runs to its end before the next
one begins. A start intent is handled with whatever the queue holds at that time, whether or
not a device is open.
-/

namespace RtlTcpAndro.BinaryRunnerService

open RtlTcpAndro.Interleaving

/-- What can happen to the service: `startServer` of `DeviceOpenActivity` sends its start
intent, the system delivers one, the binder and the public methods are called, and an open
device announces that it is ready or closed.
-/
inductive ServiceEvent
  | startServer
  | onStartCommand
  | startWithDevice (request : Request)
  | closeService
  | registerCallback (callback : Nat)
  | onOpen (device : SdrDevice)
  | onClosed (device : SdrDevice)
  deriving DecidableEq, Repr

/-- The service after the whole handling of an event. -/
def Service.handle (service : Service) : ServiceEvent → Option Service
  | .startServer => some { service with startIntents := service.startIntents + 1 }
  | .onStartCommand =>
      if 0 < service.startIntents then
        let service := { service with startIntents := service.startIntents - 1 }
        (runToReturn startWithDevice 8 service .poll).map Prod.fst
      else none
  | .startWithDevice request =>
      (runToReturn localBinderStartWithDevice 8 service (.addWork request)).map Prod.fst
  | .closeService => (runToReturn closeService 8 service .testRunning).map Prod.fst
  | .registerCallback callback => some (registerCallback service callback)
  | .onOpen device => if device ∈ service.opened then some (onOpen service) else none
  | .onClosed device =>
      if device ∈ service.opened then
        let service := { service with opened := service.opened.erase device }
        (runToReturn onClosed 16 service .testDevice).map Prod.fst
      else none

/-- The service and its events. -/
def serviceEvents : System Service ServiceEvent where
  initial service := service = .created
  step := Service.handle

/-- At most one device is open, `isRunning` tells whether one is, and `thisSdrDevice` is it. -/
structure Service.OneDevice (service : Service) : Prop where
  one : service.opened.length ≤ 1
  running : service.isRunning = true ↔ service.opened ≠ []
  device : service.thisSdrDevice = service.opened.head?

/-- A start intent is handled only while no device is open. -/
def Service.startsIdle (service : Service) (event : ServiceEvent) : Prop :=
  event = .onStartCommand → service.opened = []

instance (service : Service) (event : ServiceEvent) : Decidable (service.startsIdle event) :=
  inferInstanceAs (Decidable (_ → _))

/-- The service after a poll of an empty queue. -/
def Service.stopped (service : Service) : Service :=
  { ({ service with isRunning := false }).tell false with statusCallbacks := [] }

/-- The service after the poll of a request. -/
def Service.opening (service : Service) (pair : Request) (rest : List Request) : Service :=
  let running :=
    { service with workQueue := rest, thisSdrDevice := some pair.sdrDevice, isRunning := true }
  { running.tell true with
    started := service.started ++ [pair]
    opened := pair.sdrDevice :: service.opened }

/-- The service after `startWithDevice`. -/
def Service.restarted (service : Service) : Service :=
  match service.workQueue with
  | [] => service.stopped
  | pair :: rest => service.opening pair rest

section Handlers

variable {service next : Service}

/-- With no other party moving, `startWithDevice` ends and never throws. -/
theorem startWithDevice_runs (service : Service)
    : runToReturn startWithDevice 8 service .poll = some (service.restarted, .done) := by
  unfold Service.restarted
  cases queue : service.workQueue with
  | nil => simp [runToReturn, startWithDevice, queue, Service.stopped]
  | cons pair rest =>
      simp [runToReturn, startWithDevice, queue, Service.opening, Service.tell]

/-- `onClosed` gives up the device and does the same. -/
theorem onClosed_runs (service : Service)
    : ∃ names wl,
        runToReturn onClosed 16 service .testDevice
        = some
            (({ service with detached := names, wl := wl, thisSdrDevice := none }).restarted,
              .done) := by
  refine ⟨service.detached ++ [service.thisSdrDevice.map SdrDevice.name],
    if service.wl = .null then .null else .released, ?_⟩
  unfold Service.restarted
  cases device : service.thisSdrDevice <;> cases queue : service.workQueue <;>
    simp [runToReturn, onClosed, startWithDevice, device, queue, Service.stopped,
      Service.opening, Service.tell]

/-- `closeService` leaves the devices to later events. -/
theorem closeService_runs (service : Service)
    : ∃ next ending,
        runToReturn closeService 8 service .testRunning = some (next, ending)
        ∧ next.opened = service.opened
        ∧ next.isRunning = service.isRunning
        ∧ next.thisSdrDevice = service.thisSdrDevice := by
  cases running : service.isRunning <;> cases device : service.thisSdrDevice <;>
    simp [runToReturn, closeService, running, device]

/-- So does `LocalBinder.startWithDevice`. -/
theorem localBinderStartWithDevice_runs (service : Service) (request : Request)
    : ∃ next ending,
        runToReturn localBinderStartWithDevice 8 service (.addWork request)
          = some (next, ending)
        ∧ next.opened = service.opened
        ∧ next.isRunning = service.isRunning
        ∧ next.thisSdrDevice = service.thisSdrDevice := by
  cases running : service.isRunning <;> cases device : service.thisSdrDevice <;>
    simp [runToReturn, localBinderStartWithDevice, closeService, running, device]

/-- An event that leaves the devices alone keeps at most one. -/
theorem Service.OneDevice.kept (one : service.OneDevice) (opened : next.opened = service.opened)
    (running : next.isRunning = service.isRunning)
    (device : next.thisSdrDevice = service.thisSdrDevice)
    : next.OneDevice :=
  ⟨opened ▸ one.one, opened ▸ running ▸ one.running, opened ▸ device ▸ one.device⟩

/-- A restart while nothing is open opens the next request's device, if there is one. -/
theorem Service.OneDevice.restarted (closed : service.opened = [])
    (unset : service.thisSdrDevice = none)
    : service.restarted.OneDevice := by
  unfold Service.restarted
  cases service.workQueue with
  | nil => constructor <;> simp [Service.stopped, Service.tell, closed, unset]
  | cons pair rest => constructor <;> simp [Service.opening, Service.tell, closed]

/-- A restart beside an open device would open another one, or declare the service stopped. -/
theorem Service.closed_of_restarted (one : service.restarted.OneDevice)
    : service.opened = [] := by
  unfold Service.restarted at one
  cases queue : service.workQueue with
  | nil =>
      rw [queue] at one
      have stopped : service.stopped.isRunning = false := rfl
      exact Decidable.not_not.mp (fun busy => by simp [one.running.mpr busy] at stopped)
  | cons pair rest =>
      rw [queue] at one
      have length : (pair.sdrDevice :: service.opened).length ≤ 1 := one.one
      exact List.length_eq_zero_iff.mp (by simpa using length)

/-- An event keeps the service at one device exactly when it is no start intent handled beside
an open device.
-/
theorem Service.oneDevice_iff {event : ServiceEvent} (one : service.OneDevice)
    (fired : service.handle event = some next)
    : next.OneDevice ↔ service.startsIdle event := by
  cases event with
  | onStartCommand =>
      simp only [Service.handle, startWithDevice_runs, Option.map_some] at fired
      split at fired <;> cases fired
      constructor
      · intro kept _
        have closed := Service.closed_of_restarted kept
        exact closed
      · intro idle
        have closed := idle rfl
        exact .restarted closed (one.device.trans (by rw [closed]; rfl))
  | onClosed device =>
      refine ⟨fun _ => nofun, fun _ => ?_⟩
      simp only [Service.handle] at fired
      split at fired
      · rename_i member
        have closed : service.opened.erase device = [] := by
          have one := one.one
          match opened : service.opened with
          | [] => rfl
          | [only] =>
              rw [opened, List.mem_singleton] at member
              simp [member]
          | first :: second :: rest => simp [opened] at one
        obtain ⟨names, wl, runs⟩ :=
          onClosed_runs { service with opened := service.opened.erase device }
        rw [runs] at fired
        cases fired
        exact .restarted closed rfl
      · cases fired
  | startWithDevice request =>
      refine ⟨fun _ => nofun, fun _ => ?_⟩
      obtain ⟨after, ending, runs, opened, running, device⟩ :=
        localBinderStartWithDevice_runs service request
      simp only [Service.handle, runs, Option.map_some] at fired
      cases fired
      exact one.kept opened running device
  | closeService =>
      refine ⟨fun _ => nofun, fun _ => ?_⟩
      obtain ⟨after, ending, runs, opened, running, device⟩ := closeService_runs service
      simp only [Service.handle, runs, Option.map_some] at fired
      cases fired
      exact one.kept opened running device
  | onOpen device =>
      refine ⟨fun _ => nofun, fun _ => ?_⟩
      simp only [Service.handle] at fired
      split at fired <;> cases fired
      exact one.kept rfl rfl rfl
  | startServer | registerCallback callback =>
      refine ⟨fun _ => nofun, fun _ => ?_⟩
      cases fired
      exact one.kept rfl rfl rfl

end Handlers

/-- A run keeps the service at one device throughout exactly when it handles start intents only
while no device is open.
-/
theorem one_device_throughout_iff {schedule : List ServiceEvent} {finish : Service}
    (replayed : serviceEvents.run .created schedule = some finish)
    : serviceEvents.Throughout Service.OneDevice .created schedule
      ↔ serviceEvents.Heeds Service.startsIdle .created schedule :=
  System.throughout_iff_heeds (fun _ _ _ one fired => Service.oneDevice_iff one fired) replayed
    ⟨Nat.zero_le _, by decide, rfl⟩

/-- An activity starts the service and requests a device. -/
def openingSchedule (request : Request) : List ServiceEvent :=
  [.startServer, .onStartCommand, .startWithDevice request]

/-- A second request from the same client replaces the device of the first. -/
theorem one_device_while_replacing
    : serviceEvents.Throughout Service.OneDevice .created
        (openingSchedule .first
          ++ [.onStartCommand, .onOpen Request.first.sdrDevice, .startWithDevice .second,
            .onClosed Request.first.sdrDevice, .closeService,
            .onClosed Request.second.sdrDevice]) := by
  have replayed
      : (serviceEvents.run .created
            (openingSchedule .first
              ++ [.onStartCommand, .onOpen Request.first.sdrDevice, .startWithDevice .second,
                .onClosed Request.first.sdrDevice, .closeService,
                .onClosed Request.second.sdrDevice])).isSome
        = true := by
    decide +kernel
  obtain ⟨finish, replayed⟩ := Option.isSome_iff_exists.mp replayed
  exact (one_device_throughout_iff replayed).mpr (by decide +kernel)

/-- The start intent of a second activity stops the service beside its open device. -/
theorem start_intent_beside_open_device
    : ¬ ∀ service, serviceEvents.Reachable service → service.OneDevice := by
  intro claim
  have replayed
      : (serviceEvents.run .created
            (openingSchedule .first ++ [.onStartCommand, .startServer, .onStartCommand])).map
          (fun service => (service.isRunning, service.opened))
        = some (false, [Request.first.sdrDevice]) := by
    decide +kernel
  obtain ⟨service, reachable, seen⟩ := System.exists_reachable_of_run replayed rfl
  simp only [Prod.mk.injEq] at seen
  have running := (claim service reachable).running.mpr (by rw [seen.2]; exact nofun)
  rw [seen.1] at running
  cases running

end RtlTcpAndro.BinaryRunnerService
