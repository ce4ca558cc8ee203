import Mathlib.Logic.Function.Basic
import RtlTcpAndro.BinaryRunnerService.Programs

/-! Every interleaving of the main thread, which runs `onStartCommand`, the binder and the
public methods of the service one after the other, with the thread of every opened device,
which announces that the device is closed.
-/

namespace RtlTcpAndro.BinaryRunnerService

open RtlTcpAndro.Interleaving

/-- Where the main thread is. After an exception the application is gone; `closeThrew` tells
that `closeService` has called `close` on null.
-/
inductive MainPoint
  | idle
  | onStartCommand (pos : StartPoint)
  | startWithDevice (pos : BinderPoint)
  | closeService (pos : ClosePoint)
  | startThrew
  | closeThrew
  deriving DecidableEq, Repr

/-- Where the thread of an opened device is: the device is open, it announces its end, or the
announcement is over.
-/
inductive DevicePoint
  | serving
  | onClosed (pos : ClosedPoint)
  | ended
  deriving DecidableEq, Repr

/-- The threads over the service. Thread `k` belongs to the `k`-th call of `openAsync`; it
counts only once that call was made.
-/
structure Threads where
  service : Service
  main : MainPoint
  device : Nat → DevicePoint

/-- What may happen next: the main thread begins to handle an event or steps on, or a device
is ready, begins to announce its end, or steps on in the announcement.
-/
inductive ThreadEvent
  | startServer
  | onStartCommand
  | startWithDevice (request : Request)
  | closeService
  | registerCallback (callback : Nat)
  | main
  | onOpen (start : Nat)
  | onClosed (start : Nat)
  | device (start : Nat)
  deriving DecidableEq, Repr

/-- Who runs the private `startWithDevice`. -/
inductive Party
  | main
  | device (start : Nat)
  deriving DecidableEq, Repr

/-- The main thread after a step of `startWithDevice`. -/
def MainPoint.ofStart : Progress StartPoint Ending → MainPoint
  | .point next => .onStartCommand next
  | .returned .done => .idle
  | .returned .thrown => .startThrew

/-- A device's thread after a step of `startWithDevice`. An exception is caught by its `run`,
whose second announcement finds no listener left.
-/
def DevicePoint.ofStart : Progress StartPoint Ending → DevicePoint
  | .point next => .onClosed (.start next)
  | .returned _ => .ended

/-- The threads after a step of `startWithDevice` by a party. -/
def Threads.placed (threads : Threads) (service : Service)
    (progress : Progress StartPoint Ending)
    : Party → Threads
  | .main => { threads with service := service, main := .ofStart progress }
  | .device start =>
      { threads with
        service := service
        device := Function.update threads.device start (.ofStart progress) }

/-- The next step of the main thread. -/
def Threads.mainStep (threads : Threads) : Option Threads :=
  match threads.main with
  | .onStartCommand pos =>
      let (service, progress) := startWithDevice threads.service pos
      some (threads.placed service progress .main)
  | .startWithDevice pos =>
      match localBinderStartWithDevice threads.service pos with
      | (service, .point next) =>
          some { threads with service := service, main := .startWithDevice next }
      | (service, .returned .done) => some { threads with service := service, main := .idle }
      | (service, .returned .thrown) =>
          some { threads with service := service, main := .closeThrew }
  | .closeService pos =>
      match closeService threads.service pos with
      | (service, .point next) =>
          some { threads with service := service, main := .closeService next }
      | (service, .returned .done) => some { threads with service := service, main := .idle }
      | (service, .returned .thrown) =>
          some { threads with service := service, main := .closeThrew }
  | _ => none

/-- The next step of a device's thread in `onClosed`. -/
def Threads.deviceStep (threads : Threads) (start : Nat) : Option Threads :=
  match threads.device start with
  | .onClosed (.start pos) =>
      let (service, progress) := startWithDevice threads.service pos
      some (threads.placed service progress (.device start))
  | .onClosed pos =>
      match onClosed threads.service pos with
      | (service, .point next) =>
          some
            { threads with
              service := service
              device := Function.update threads.device start (.onClosed next) }
      | (service, .returned _) =>
          some
            { threads with
              service := service
              device := Function.update threads.device start .ended }
  | _ => none

/-- One choice of the scheduler. -/
def Threads.step (threads : Threads) : ThreadEvent → Option Threads
  | .startServer =>
      if threads.main = .idle then
        let service := { threads.service with startIntents := threads.service.startIntents + 1 }
        some { threads with service := service }
      else none
  | .onStartCommand =>
      if threads.main = .idle ∧ 0 < threads.service.startIntents then
        let service := { threads.service with startIntents := threads.service.startIntents - 1 }
        some { threads with service := service, main := .onStartCommand .poll }
      else none
  | .startWithDevice request =>
      if threads.main = .idle then
        some { threads with main := .startWithDevice (.addWork request) }
      else none
  | .closeService =>
      if threads.main = .idle then some { threads with main := .closeService .testRunning }
      else none
  | .registerCallback callback =>
      if threads.main = .idle then
        some { threads with service := registerCallback threads.service callback }
      else none
  | .main => threads.mainStep
  | .onOpen start =>
      if start < threads.service.started.length ∧ threads.device start = .serving then
        some { threads with service := onOpen threads.service }
      else none
  | .onClosed start =>
      match threads.service.started[start]? with
      | some request =>
          if threads.device start = .serving then
            let opened := threads.service.opened.erase request.sdrDevice
            some
              { threads with
                service := { threads.service with opened := opened }
                device := Function.update threads.device start (.onClosed .testDevice) }
          else none
      | none => none
  | .device start => threads.deviceStep start

/-- The threads around a new service. -/
def Threads.initial : Threads where
  service := .created
  main := .idle
  device := fun _ => .serving

/-- The service and the threads that use it. -/
def serviceThreads : System Threads ThreadEvent where
  initial threads := threads = .initial
  step := Threads.step

/-- The request that was polled and is not opened yet. -/
def StartPoint.pair : StartPoint → Option Request
  | .storeDevice pair | .checkDevice pair | .announceRunning pair | .storeRunning pair
  | .tellRunning pair | .addOnStatusListener pair | .openAsync pair => some pair
  | _ => none

/-- The request whose device is stored in `thisSdrDevice`. -/
def StartPoint.stored : StartPoint → Option Request
  | .storeDevice _ => none
  | pos => pos.pair

/-- The queue was not found empty: it is still polled, or a device still opened. -/
def StartPoint.polls : StartPoint → Bool
  | .announceNotRunning | .tellNotRunning | .clearCallbacks => false
  | _ => true

/-- Where a party is in the private `startWithDevice`. -/
def Threads.starting (threads : Threads) : Party → Option StartPoint
  | .main =>
      match threads.main with
      | .onStartCommand pos => some pos
      | _ => none
  | .device start =>
      match threads.device start with
      | .onClosed (.start pos) => some pos
      | _ => none

/-- The position in `closeService`. -/
def MainPoint.closing : MainPoint → Option ClosePoint
  | .closeService pos | .startWithDevice (.closeService pos) => some pos
  | _ => none

/-- The requests, and the start intents for them, are the same. -/
structure Service.SameRequests (service after : Service) : Prop where
  queued : after.queued = service.queued
  workQueue : after.workQueue = service.workQueue
  started : after.started = service.started
  startIntents : after.startIntents = service.startIntents

/-- The requests and the device are the same. -/
structure Service.SameDevice (service after : Service) : Prop
    extends service.SameRequests after where
  thisSdrDevice : after.thisSdrDevice = service.thisSdrDevice

/-- What a step of `startWithDevice` does to requests. -/
inductive StartEffect (service : Service)
    : StartPoint → Service → Progress StartPoint Ending → Prop
  | empty (head : service.workQueue = [])
    : StartEffect service .poll service (.point .announceNotRunning)
  | takes {pair rest} (head : service.workQueue = pair :: rest)
    : StartEffect service .poll { service with workQueue := rest }
        (.point (.storeDevice pair))
  | stores {pair}
    : StartEffect service (.storeDevice pair)
        { service with thisSdrDevice := some pair.sdrDevice } (.point (.checkDevice pair))
  | passes {pos after next} (same : service.SameDevice after)
    (pair : next.pair = pos.pair) (stored : next.stored = pos.stored)
    (polls : next.polls = pos.polls) (unpolled : pos ≠ .poll)
    : StartEffect service pos after (.point next)
  | ends {after} (same : service.SameDevice after)
    : StartEffect service .clearCallbacks after (.returned .done)
  | throws {pos pair} (stored : pos.stored = some pair) (unset : service.thisSdrDevice = none)
    : StartEffect service pos service (.returned .thrown)
  | opens {pair device} (set : service.thisSdrDevice = some device)
    : StartEffect service (.openAsync pair)
        { service with
          started := service.started ++ [⟨device, pair.arguments⟩]
          opened := device :: service.opened }
        (.returned .done)

/-- Every step of `startWithDevice` has one of these effects. -/
theorem startWithDevice_effect {service after : Service} {pos : StartPoint}
    {progress : Progress StartPoint Ending}
    (moved : startWithDevice service pos = (after, progress))
    : StartEffect service pos after progress := by
  have same (told isRunning statusCallbacks) :
      service.SameDevice
        { service with
          told := told
          isRunning := isRunning
          statusCallbacks := statusCallbacks } :=
    ⟨⟨rfl, rfl, rfl, rfl⟩, rfl⟩
  cases pos with
  | poll =>
      simp only [startWithDevice] at moved
      split at moved <;> rename_i head <;> cases moved
      · exact .empty head
      · exact .takes head
  | announceNotRunning | tellNotRunning | storeRunning pair | tellRunning pair =>
      cases moved
      exact .passes (same _ _ _) rfl rfl rfl nofun
  | clearCallbacks =>
      cases moved
      exact .ends (same _ _ _)
  | storeDevice pair =>
      cases moved
      exact .stores
  | checkDevice pair | announceRunning pair | addOnStatusListener pair =>
      cases moved
      split
      · rename_i unset
        exact .throws rfl unset
      · exact .passes ⟨⟨rfl, rfl, rfl, rfl⟩, rfl⟩ rfl rfl rfl nofun
  | openAsync pair =>
      simp only [startWithDevice] at moved
      split at moved <;> rename_i device <;> cases moved
      · exact .throws rfl device
      · exact .opens device

/-- The event of a party's step. -/
def Party.event : Party → ThreadEvent
  | .main => .main
  | .device start => .device start

/-- The effect of an enabled choice, one constructor for each way the requests can move. -/
inductive Threads.Fires (threads : Threads) : ThreadEvent → Threads → Prop
  | unseen {event after} (same : threads.service.SameDevice after)
    : threads.Fires event { threads with service := after }
  | intends {event}
    (outside : threads.main = .idle ∨ threads.main = .startWithDevice .startService)
    : threads.Fires event
        { threads with
          service :=
            { threads.service with startIntents := threads.service.startIntents + 1 }
          main := .idle }
  | delivers {event} (outside : threads.main = .idle)
    : threads.Fires event
        { threads with
          service :=
            { threads.service with startIntents := threads.service.startIntents - 1 }
          main := .onStartCommand .poll }
  | begins {event main} (outside : threads.main = .idle)
    (position
      : (∃ request, main = .startWithDevice (.addWork request))
        ∨ main = .closeService .testRunning)
    : threads.Fires event { threads with main := main }
  | adds {event request} (position : threads.main = .startWithDevice (.addWork request))
    : threads.Fires event
        { threads with
          service :=
            { threads.service with
              workQueue := threads.service.workQueue ++ [request]
              queued := threads.service.queued ++ [request] }
          main := .startWithDevice .testRunning }
  | asks (position : threads.main = .startWithDevice .testRunning)
    : threads.Fires .main
        { threads with
          main :=
            .startWithDevice
              (if threads.service.isRunning then .closeService .testRunning
              else .startService) }
  | tests {main} (position : threads.main.closing = some .testRunning)
    (following
      : threads.service.isRunning = true ∧ main.closing = some .close ∨ main = .idle)
    : threads.Fires .main { threads with main := main }
  | closed {event after} (position : threads.main.closing = some .close)
    (same : threads.service.SameDevice after)
    : threads.Fires event { threads with service := after, main := .idle }
  | closeThrows {event main} (position : threads.main.closing = some .close)
    (unset : threads.service.thisSdrDevice = none)
    : threads.Fires event { threads with main := main }
  | announces {event start after} (exists_ : start < threads.service.started.length)
    (serving : threads.device start = .serving) (same : threads.service.SameDevice after)
    : threads.Fires event
        { threads with
          service := after
          device := Function.update threads.device start (.onClosed .testDevice) }
  | detaches {event start pos after next} (position : threads.device start = .onClosed pos)
    (same : threads.service.SameDevice after)
    (before : ∀ inner, pos ≠ .start inner)
    (following : ∀ inner, next = .start inner → inner = .poll)
    (named : next = .readName → threads.service.thisSdrDevice ≠ none)
    : threads.Fires event
        { threads with
          service := after
          device := Function.update threads.device start (.onClosed next) }
  | nameThrows {event start} (position : threads.device start = .onClosed .readName)
    (unset : threads.service.thisSdrDevice = none)
    : threads.Fires event
        { threads with device := Function.update threads.device start .ended }
  | clears {start} (position : threads.device start = .onClosed .clearDevice)
    : threads.Fires (.device start)
        { threads with
          service := { threads.service with thisSdrDevice := none }
          device := Function.update threads.device start (.onClosed .releaseWakeLock) }
  | starts {party pos after progress} (position : threads.starting party = some pos)
    (effect : StartEffect threads.service pos after progress)
    : threads.Fires party.event (threads.placed after progress party)

/-- The steps of the main thread, by cases on its position. -/
theorem Threads.fires_of_mainStep {threads next : Threads}
    (fired : threads.mainStep = some next)
    : threads.Fires .main next := by
  unfold Threads.mainStep at fired
  split at fired
  · rename_i pos position
    cases fired
    exact @Threads.Fires.starts threads .main _ _ _ (by rw [Threads.starting, position])
      (startWithDevice_effect rfl)
  · rename_i pos position
    cases pos with
    | addWork request =>
        cases fired
        exact .adds position
    | testRunning =>
        cases fired
        exact .asks position
    | startService =>
        cases fired
        exact .intends (.inr position)
    | closeService pos =>
        have closing : threads.main.closing = some pos := by rw [position]; rfl
        cases pos with
        | testRunning =>
            cases running : threads.service.isRunning <;>
              simp only [localBinderStartWithDevice, closeService, running] at fired <;>
              cases fired
            · exact .tests closing (.inr rfl)
            · exact .tests closing (.inl ⟨running, rfl⟩)
        | close =>
            cases device : threads.service.thisSdrDevice <;>
              simp only [localBinderStartWithDevice, closeService, device] at fired <;>
              cases fired
            · exact .closeThrows closing device
            · exact .closed closing ⟨⟨rfl, rfl, rfl, rfl⟩, device.symm⟩
  · rename_i pos position
    have closing : threads.main.closing = some pos := by rw [position]; rfl
    cases pos with
    | testRunning =>
        cases running : threads.service.isRunning <;>
          simp only [closeService, running] at fired <;> cases fired
        · exact .tests closing (.inr rfl)
        · exact .tests closing (.inl ⟨running, rfl⟩)
    | close =>
        cases device : threads.service.thisSdrDevice <;>
          simp only [closeService, device] at fired <;> cases fired
        · exact .closeThrows closing device
        · exact .closed closing ⟨⟨rfl, rfl, rfl, rfl⟩, device.symm⟩
  · cases fired

/-- The steps of a device's thread in `onClosed`, by cases on its position. -/
theorem Threads.fires_of_deviceStep {threads next : Threads} {start : Nat}
    (fired : threads.deviceStep start = some next)
    : threads.Fires (.device start) next := by
  unfold Threads.deviceStep at fired
  split at fired
  · rename_i pos position
    cases fired
    exact @Threads.Fires.starts threads (.device start) _ _ _
      (by rw [Threads.starting, position]) (startWithDevice_effect rfl)
  · rename_i pos before position
    cases pos with
    | testDevice =>
        cases device : threads.service.thisSdrDevice <;>
          simp only [onClosed, device] at fired <;> cases fired
        · exact .detaches position ⟨⟨rfl, rfl, rfl, rfl⟩, rfl⟩ nofun nofun nofun
        · exact .detaches position ⟨⟨rfl, rfl, rfl, rfl⟩, rfl⟩ nofun nofun
            (fun _ => by rw [device]; exact nofun)
    | readName =>
        cases device : threads.service.thisSdrDevice <;>
          simp only [onClosed, device] at fired <;> cases fired
        · exact .nameThrows position device
        · exact .detaches position ⟨⟨rfl, rfl, rfl, rfl⟩, rfl⟩ nofun nofun nofun
    | sendBroadcast name =>
        cases fired
        exact .detaches position ⟨⟨rfl, rfl, rfl, rfl⟩, rfl⟩ nofun nofun nofun
    | clearDevice =>
        cases fired
        exact .clears position
    | releaseWakeLock =>
        cases fired
        exact .detaches position ⟨⟨rfl, rfl, rfl, rfl⟩, rfl⟩ nofun
          (fun inner same => by cases same; rfl) nofun
    | start inner => exact absurd rfl (before inner)
  · cases fired

/-- Everything an enabled choice can do. Witness: each event's branch of `Threads.step`. -/
theorem Threads.step_cases {threads next : Threads} {event : ThreadEvent}
    (fired : threads.step event = some next)
    : threads.Fires event next := by
  cases event with
  | main => exact Threads.fires_of_mainStep fired
  | device start => exact Threads.fires_of_deviceStep fired
  | onOpen start =>
      simp only [Threads.step] at fired
      split at fired <;> cases fired
      exact .unseen ⟨⟨rfl, rfl, rfl, rfl⟩, rfl⟩
  | onClosed start =>
      simp only [Threads.step] at fired
      split at fired
      · rename_i request found
        split at fired <;> cases fired
        rename_i serving
        exact .announces (List.getElem?_eq_some_iff.mp found).choose serving
          ⟨⟨rfl, rfl, rfl, rfl⟩, rfl⟩
      · cases fired
  | startServer =>
      simp only [Threads.step] at fired
      split at fired <;> rename_i idle <;> cases fired
      have intends := @Threads.Fires.intends threads .startServer (.inl idle)
      rwa [← idle] at intends
  | onStartCommand =>
      simp only [Threads.step] at fired
      split at fired <;> rename_i idle <;> cases fired
      exact .delivers idle.1
  | startWithDevice request =>
      simp only [Threads.step] at fired
      split at fired <;> rename_i idle <;> cases fired
      exact .begins idle (.inl ⟨request, rfl⟩)
  | closeService =>
      simp only [Threads.step] at fired
      split at fired <;> rename_i idle <;> cases fired
      exact .begins idle (.inr rfl)
  | registerCallback callback =>
      simp only [Threads.step] at fired
      split at fired <;> cases fired
      exact .unseen ⟨⟨rfl, rfl, rfl, rfl⟩, rfl⟩

end RtlTcpAndro.BinaryRunnerService
