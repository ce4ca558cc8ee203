import RtlTcpAndro.Interleaving.Schedule
import RtlTcpAndro.SdrDriverTools.SdrTcpArguments

/-! The methods of `BinaryRunnerService` as programs: one program point before each access to
a field and before each synchronized block.
-/

namespace RtlTcpAndro.BinaryRunnerService

open RtlTcpAndro.Interleaving
open RtlTcpAndro.SdrDriverTools (SdrTcpArguments)

-----------------------------------------------------------------------------------------
-- The service
-----------------------------------------------------------------------------------------

/-- A `SdrDevice`: which object it is, and what its `getName` returns. -/
structure SdrDevice where
  object : Nat
  name : String
  deriving DecidableEq, Repr

/-- A pair of the `workQueue`: a request to open a device. -/
structure Request where
  sdrDevice : SdrDevice
  arguments : SdrTcpArguments
  deriving DecidableEq, Repr

/-- The field `wl`. -/
inductive WakeLock
  | null
  | held
  | released
  deriving DecidableEq, Repr

/-- The fields of a `BinaryRunnerService`, its callbacks told apart by number, and what others
see of it: the start intents whose `onStartCommand` is still to come, the requests that were
queued, the calls of `openAsync` in their order, the devices whose `onClosed` is still to come,
the calls of `close`, what the callbacks were told, and the broadcasts of
`ACTION_SDR_DEVICE_DETACHED` with their `EXTRA_DEVICE_NAME`.
-/
structure Service where
  isRunning : Bool
  thisSdrDevice : Option SdrDevice
  workQueue : List Request
  statusCallbacks : List Nat
  wl : WakeLock
  startIntents : Nat
  queued : List Request
  started : List Request
  opened : List SdrDevice
  closes : List SdrDevice
  told : List (Nat × Bool)
  detached : List (Option String)
  deriving DecidableEq, Repr

/-- The service after its construction. -/
def Service.created : Service where
  isRunning := false
  thisSdrDevice := none
  workQueue := []
  statusCallbacks := []
  wl := .null
  startIntents := 0
  queued := []
  started := []
  opened := []
  closes := []
  told := []
  detached := []

/-- The synchronized loops that call `onServerRunning` or `onServerNotRunning`. -/
def Service.tell (service : Service) (running : Bool) : Service :=
  let told := service.statusCallbacks.map (fun callback => (callback, running))
  { service with told := service.told ++ told }

/-- How a method ends. A method that meets null where `Check` or a call refuses it throws. -/
inductive Ending
  | done
  | thrown
  deriving DecidableEq, Repr

-----------------------------------------------------------------------------------------
-- startWithDevice
-----------------------------------------------------------------------------------------

/-- Program points of the private `startWithDevice`, with its local `pair`. The test of
`isRunning` that only decides on a line of the log has none.
-/
inductive StartPoint
  | poll
  | announceNotRunning
  | tellNotRunning
  | clearCallbacks
  | storeDevice (pair : Request)
  | checkDevice (pair : Request)
  | announceRunning (pair : Request)
  | storeRunning (pair : Request)
  | tellRunning (pair : Request)
  | addOnStatusListener (pair : Request)
  | openAsync (pair : Request)
  deriving DecidableEq, Repr

/-- `startWithDevice` -/
def startWithDevice (service : Service) : StartPoint → Service × Progress StartPoint Ending
  | .poll =>
      match service.workQueue with
      | [] => (service, .point .announceNotRunning)
      | pair :: rest => ({ service with workQueue := rest }, .point (.storeDevice pair))
  | .announceNotRunning => ({ service with isRunning := false }, .point .tellNotRunning)
  | .tellNotRunning => (service.tell false, .point .clearCallbacks)
  | .clearCallbacks =>
      -- `stopSelf` lets the system end a service that nobody is bound to
      ({ service with statusCallbacks := [] }, .returned .done)
  | .storeDevice pair =>
      ({ service with thisSdrDevice := some pair.sdrDevice }, .point (.checkDevice pair))
  | .checkDevice pair =>
      (service,
        if service.thisSdrDevice = none then .returned .thrown
        else .point (.announceRunning pair))
  | .announceRunning pair =>
      -- the argument of `announceRunning`, which asks it for its name
      (service,
        if service.thisSdrDevice = none then .returned .thrown
        else .point (.storeRunning pair))
  | .storeRunning pair => ({ service with isRunning := true }, .point (.tellRunning pair))
  | .tellRunning pair => (service.tell true, .point (.addOnStatusListener pair))
  | .addOnStatusListener pair =>
      (service,
        if service.thisSdrDevice = none then .returned .thrown else .point (.openAsync pair))
  | .openAsync pair =>
      match service.thisSdrDevice with
      | none => (service, .returned .thrown)
      | some device =>
          ({ service with
              started := service.started ++ [⟨device, pair.arguments⟩]
              opened := device :: service.opened }, .returned .done)

-----------------------------------------------------------------------------------------
-- The status listener
-----------------------------------------------------------------------------------------

/-- Program points of `onClosed`; its exception only reaches the log. -/
inductive ClosedPoint
  | testDevice
  | readName
  | sendBroadcast (name : Option String)
  | clearDevice
  | releaseWakeLock
  | start (pos : StartPoint)
  deriving DecidableEq, Repr

/-- `onClosed` -/
def onClosed (service : Service) : ClosedPoint → Service × Progress ClosedPoint Ending
  | .testDevice =>
      (service,
        .point (if service.thisSdrDevice = none then .sendBroadcast none else .readName))
  | .readName =>
      (service,
        match service.thisSdrDevice with
        | none => .returned .thrown
        | some device => .point (.sendBroadcast (some device.name)))
  | .sendBroadcast name =>
      ({ service with detached := service.detached ++ [name] }, .point .clearDevice)
  | .clearDevice => ({ service with thisSdrDevice := none }, .point .releaseWakeLock)
  | .releaseWakeLock =>
      ({ service with wl := if service.wl = .null then .null else .released },
        .point (.start .poll))
  | .start pos =>
      match startWithDevice service pos with
      | (service, .point next) => (service, .point (.start next))
      | (service, .returned ending) => (service, .returned ending)

/-- `onOpen`, which acquires the wake lock. -/
def onOpen (service : Service) : Service := { service with wl := .held }

-----------------------------------------------------------------------------------------
-- closeService and the binder
-----------------------------------------------------------------------------------------

/-- Program points of `closeService`. -/
inductive ClosePoint
  | testRunning
  | close
  deriving DecidableEq, Repr

/-- `closeService` -/
def closeService (service : Service) : ClosePoint → Service × Progress ClosePoint Ending
  | .testRunning =>
      (service, if service.isRunning then .point .close else .returned .done)
  | .close =>
      match service.thisSdrDevice with
      | none => (service, .returned .thrown)
      | some device => ({ service with closes := service.closes ++ [device] }, .returned .done)

/-- Program points of `LocalBinder.startWithDevice`. -/
inductive BinderPoint
  | addWork (request : Request)
  | testRunning
  | startService
  | closeService (pos : ClosePoint)
  deriving DecidableEq, Repr

/-- `LocalBinder.startWithDevice` -/
def localBinderStartWithDevice (service : Service)
    : BinderPoint → Service × Progress BinderPoint Ending
  | .addWork request =>
      ({ service with
          workQueue := service.workQueue ++ [request]
          queued := service.queued ++ [request] }, .point .testRunning)
  | .testRunning =>
      (service,
        .point (if service.isRunning then .closeService .testRunning else .startService))
  | .startService =>
      ({ service with startIntents := service.startIntents + 1 }, .returned .done)
  | .closeService pos =>
      match closeService service pos with
      | (service, .point next) => (service, .point (.closeService next))
      | (service, .returned ending) => (service, .returned ending)

/-- `LocalBinder.registerCallback`, one synchronized block. -/
def registerCallback (service : Service) (callback : Nat) : Service :=
  { service with
    statusCallbacks :=
      if callback ∈ service.statusCallbacks then service.statusCallbacks
      else service.statusCallbacks ++ [callback]
    told := service.told ++ [(callback, service.isRunning)] }

/-- Requests to open a first and a second dongle. -/
def Request.first : Request := ⟨⟨0, "rtl-sdr /dev/bus/usb/001/002"⟩, .local1234⟩
def Request.second : Request := ⟨⟨1, "rtl-sdr /dev/bus/usb/001/003"⟩, .local1234⟩

end RtlTcpAndro.BinaryRunnerService
