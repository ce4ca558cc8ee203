import RtlTcpAndro.SdrDriverTools.AsyncFuture

/-! The class `UsbPermissionObtainer`: a receiver for each outstanding request, all of them
registered for one action.
-/

namespace RtlTcpAndro.SdrDriverTools

/-- `ACTION_USB_PERMISSION` -/
def actionUsbPermission : String := "com.android.example.USB_PERMISSION"

/-- What the `UsbManager` answers at one time; null is `none`. -/
structure UsbManager (δ C : Type) where
  hasPermission : δ → Bool
  openDevice : δ → Option C

/-- An intent with its extras `EXTRA_DEVICE` and `EXTRA_PERMISSION_GRANTED`. -/
structure Intent (δ : Type) where
  action : String
  device : δ
  permissionGranted : Bool
  deriving DecidableEq, Repr

/-- An outstanding request: its device, its future, and whether its receiver is registered. -/
structure PermissionRequest (δ C : Type) where
  usbDevice : δ
  task : AsyncFuture C
  registered : Bool
  deriving DecidableEq, Repr

/-- `registerNewBroadcastReceiver` with a new future. -/
def registerNewBroadcastReceiver {δ C : Type} (usbDevice : δ) : PermissionRequest δ C :=
  ⟨usbDevice, .new, true⟩

/-- An `ACTION_USB_PERMISSION` broadcast, and the manager while it is delivered. -/
structure Broadcast (δ C : Type) where
  device : δ
  permissionGranted : Bool
  manager : UsbManager δ C

def Broadcast.intent {δ C : Type} (broadcast : Broadcast δ C) : Intent δ :=
  ⟨actionUsbPermission, broadcast.device, broadcast.permissionGranted⟩

section Receivers

variable {δ C : Type} [DecidableEq δ]

/-- `onReceive`; `none` is an exception. -/
def PermissionRequest.onReceive (request : PermissionRequest δ C) (manager : UsbManager δ C)
    (intent : Intent δ)
    : Option (PermissionRequest δ C) := do
  if actionUsbPermission = intent.action then
    if request.task.isDone then
      return request
    if intent.device = request.usbDevice then
      let task ←
        if intent.permissionGranted then
          if ¬ manager.hasPermission intent.device then request.task.setDone none
          else request.task.setDone (manager.openDevice intent.device)
        else request.task.setDone none
      return { request with task, registered := false }
    else
      let task ← request.task.setDone none
      return { request with task }
  else
    let task ← request.task.setDone none
    return { request with task }

/-- A broadcast reaches every registered receiver. -/
def deliver (requests : List (PermissionRequest δ C)) (broadcast : Broadcast δ C)
    : Option (List (PermissionRequest δ C)) :=
  requests.mapM fun request =>
    if request.registered then request.onReceive broadcast.manager broadcast.intent
    else some request

/-- What a broadcast says about a device: an open connection or null. -/
def Broadcast.connection (broadcast : Broadcast δ C) (usbDevice : δ) : Option C :=
  if broadcast.device = usbDevice
      ∧ broadcast.permissionGranted = true
      ∧ broadcast.manager.hasPermission usbDevice = true then
    broadcast.manager.openDevice usbDevice
  else none

/-- A request after a broadcast. -/
def PermissionRequest.answered (request : PermissionRequest δ C) (broadcast : Broadcast δ C)
    : PermissionRequest δ C :=
  if request.task.isDone then request
  else
    { request with
      task := ⟨broadcast.connection request.usbDevice, true⟩
      registered := decide (broadcast.device ≠ request.usbDevice) }

/-- A pending request has its receiver. -/
def PermissionRequest.Awaits (request : PermissionRequest δ C) : Prop :=
  request.task.isDone = false → request.registered = true

section Deliveries

variable {request : PermissionRequest δ C}

/-- A future that is not done takes the object. Witness: the test of `ready`. -/
theorem AsyncFuture.setDone_of_pending {future : AsyncFuture C} (pending : future.isDone = false)
    (object : Option C)
    : future.setDone object = some ⟨object, true⟩ := by
  have unready : ¬ future.ready = true := by
    simpa [AsyncFuture.isDone] using pending
  rw [AsyncFuture.setDone, if_neg unready]

/-- A receiver throws nothing at a broadcast of its action. -/
theorem PermissionRequest.onReceive_eq (awaits : request.Awaits) (broadcast : Broadcast δ C)
    : (if request.registered then request.onReceive broadcast.manager broadcast.intent
        else some request)
      = some (request.answered broadcast) := by
  cases done : request.task.isDone with
  | true =>
      have kept : request.answered broadcast = request := if_pos done
      rw [kept]
      split
      · simp [onReceive, Broadcast.intent, done]
      · rfl
  | false =>
      have stores := AsyncFuture.setDone_of_pending done
      have registered := awaits done
      rw [if_pos registered]
      by_cases same : broadcast.device = request.usbDevice
      · cases granted : broadcast.permissionGranted <;>
          cases permitted : broadcast.manager.hasPermission request.usbDevice <;>
          simp [onReceive, answered, Broadcast.intent, Broadcast.connection, done, same, granted,
            permitted, stores]
      · simp [onReceive, answered, Broadcast.intent, Broadcast.connection, done, same, stores,
          registered]

/-- A request still pending after a broadcast still has its receiver. Witness: a broadcast
leaves no request pending.
-/
theorem PermissionRequest.Awaits.answered (awaits : request.Awaits) (broadcast : Broadcast δ C)
    : (request.answered broadcast).Awaits := by
  unfold PermissionRequest.answered
  split
  · exact awaits
  · exact nofun

/-- A completed future is not completed again, whatever is broadcast. -/
theorem PermissionRequest.foldl_answered (done : request.task.isDone = true)
    (broadcasts : List (Broadcast δ C))
    : broadcasts.foldl answered request = request := by
  induction broadcasts with
  | nil => rfl
  | cons broadcast rest ih =>
      have kept : request.answered broadcast = request := if_pos done
      rw [List.foldl_cons, kept, ih]

/-- A broadcast answers each request on its own, by induction on the requests. -/
theorem deliver_eq {requests : List (PermissionRequest δ C)}
    (awaits : ∀ request ∈ requests, request.Awaits) (broadcast : Broadcast δ C)
    : deliver requests broadcast
      = some (requests.map fun request => request.answered broadcast) := by
  induction requests with
  | nil => rfl
  | cons request rest ih =>
      have first := request.onReceive_eq (awaits request List.mem_cons_self) broadcast
      have others := ih fun other member => awaits other (List.mem_cons_of_mem _ member)
      rw [deliver] at others ⊢
      rw [List.mapM_cons, first, others]
      rfl

/-- No delivery throws, and each request is answered on its own, by induction on the
broadcasts.
-/
theorem foldlM_deliver (requests : List (PermissionRequest δ C))
    (awaits : ∀ request ∈ requests, request.Awaits) (broadcasts : List (Broadcast δ C))
    : broadcasts.foldlM deliver requests
      = some (requests.map fun request => broadcasts.foldl PermissionRequest.answered request) := by
  induction broadcasts generalizing requests with
  | nil => simp
  | cons broadcast rest ih =>
      have kept
          : ∀ request ∈ requests.map fun request => request.answered broadcast,
            request.Awaits := by
        intro request member
        obtain ⟨before, earlier, rfl⟩ := List.mem_map.mp member
        exact (awaits before earlier).answered broadcast
      rw [List.foldlM_cons, deliver_eq awaits broadcast]
      simp only [Option.bind_eq_bind, Option.bind_some]
      rw [ih _ kept, List.map_map]
      rfl

/-- A receiver stays registered while only other devices are answered. -/
theorem PermissionRequest.registered_of_others (registered : request.registered = true)
    {broadcasts : List (Broadcast δ C)}
    (others : ∀ broadcast ∈ broadcasts, broadcast.device ≠ request.usbDevice)
    : (broadcasts.foldl answered request).registered = true := by
  induction broadcasts generalizing request with
  | nil => exact registered
  | cons broadcast rest ih =>
      have other := others broadcast List.mem_cons_self
      have later := fun next member => others next (List.mem_cons_of_mem broadcast member)
      rw [List.foldl_cons]
      cases done : request.task.isDone with
      | true =>
          have kept : request.answered broadcast = request := if_pos done
          rw [kept]
          exact ih registered later
      | false =>
          have pending : ¬ request.task.isDone = true := by
            simp [done]
          have answered
              : request.answered broadcast
                = { request with
                    task := ⟨broadcast.connection request.usbDevice, true⟩
                    registered := decide (broadcast.device ≠ request.usbDevice) } :=
            if_neg pending
          rw [answered]
          exact ih (by simpa using other) later

end Deliveries

/-- Each outstanding future is completed once, by the first broadcast about any device: with an
open connection if that broadcast is about its own device, grants access and the manager
confirms it, and with null otherwise. A first broadcast about its own device unregisters its
receiver, and broadcasts about other devices leave it registered.
-/
theorem permission_by_first_broadcast (devices : List δ) (broadcasts : List (Broadcast δ C))
    : ∃ requests,
        broadcasts.foldlM deliver (devices.map registerNewBroadcastReceiver) = some requests
        ∧ requests.length = devices.length
        ∧ ∀ (i : Nat) (usbDevice : δ),
            devices[i]? = some usbDevice
            → ∃ request,
                requests[i]? = some request
                ∧ (broadcasts = [] → request = registerNewBroadcastReceiver usbDevice)
                ∧ (∀ first rest,
                  broadcasts = first :: rest
                  → request.task = ⟨first.connection usbDevice, true⟩
                    ∧ (first.device = usbDevice → request.registered = false))
                ∧ ((∀ broadcast ∈ broadcasts, broadcast.device ≠ usbDevice)
                  → request.registered = true) := by
  have awaits
      : ∀ request ∈ devices.map (registerNewBroadcastReceiver : δ → PermissionRequest δ C),
        request.Awaits := by
    intro request member
    obtain ⟨usbDevice, -, rfl⟩ := List.mem_map.mp member
    exact fun _ => rfl
  have registered (usbDevice : δ)
      : (registerNewBroadcastReceiver usbDevice : PermissionRequest δ C).registered = true := rfl
  refine ⟨_, foldlM_deliver _ awaits broadcasts, by simp, fun i usbDevice found => ?_⟩
  refine ⟨broadcasts.foldl PermissionRequest.answered (registerNewBroadcastReceiver usbDevice),
    by simp [found], ?_, ?_, ?_⟩
  · rintro rfl
    rfl
  · rintro first rest rfl
    rw [List.foldl_cons, PermissionRequest.foldl_answered (by rfl)]
    refine ⟨rfl, fun same => ?_⟩
    simp [PermissionRequest.answered, registerNewBroadcastReceiver, AsyncFuture.new,
      AsyncFuture.isDone, same]
  · exact PermissionRequest.registered_of_others (registered usbDevice)

end Receivers

/-- A manager that gives access to every device. -/
def openManager : UsbManager Nat Nat := ⟨fun _ => true, fun usbDevice => some usbDevice⟩

/-- An answer about one device completes the request for another one. -/
theorem permission_for_other_device
    : ¬ ∀ (devices : List Nat) (broadcasts : List (Broadcast Nat Nat))
          (requests : List (PermissionRequest Nat Nat)),
        devices.Nodup
        → (∀ broadcast ∈ broadcasts, broadcast.device ∈ devices)
        → broadcasts.foldlM deliver (devices.map registerNewBroadcastReceiver) = some requests
        → ∀ request ∈ requests,
            match broadcasts.find? (fun broadcast => broadcast.device = request.usbDevice) with
            | some first => request.task = ⟨first.connection request.usbDevice, true⟩
            | none => request.task.isDone = false ∧ request.registered = true := by
  intro claim
  have wrong : (⟨none, true⟩ : AsyncFuture Nat) = ⟨some 0, true⟩ :=
    claim [0, 1] [⟨1, true, openManager⟩, ⟨0, true, openManager⟩]
      [⟨0, ⟨none, true⟩, true⟩, ⟨1, ⟨some 1, true⟩, false⟩] (by decide)
      (by decide) rfl ⟨0, ⟨none, true⟩, true⟩ List.mem_cons_self
  cases wrong

end RtlTcpAndro.SdrDriverTools
