import Mathlib.Data.List.Forall2
import RtlTcpAndro.BinaryRunnerService.OneDevice
import RtlTcpAndro.BinaryRunnerService.Threads

/-! Every run of whole events is an interleaving of the threads, one in which no handler is
disturbed before it returns: what the service does under the former it does under the latter.
-/

namespace RtlTcpAndro.BinaryRunnerService

open RtlTcpAndro.Interleaving

-----------------------------------------------------------------------------------------
-- Handlers that are not disturbed
-----------------------------------------------------------------------------------------

/-- The main thread after a step of `LocalBinder.startWithDevice`. -/
def MainPoint.ofBinder : Progress BinderPoint Ending → MainPoint
  | .point next => .startWithDevice next
  | .returned .done => .idle
  | .returned .thrown => .closeThrew

/-- The main thread after a step of `closeService`. -/
def MainPoint.ofClose : Progress ClosePoint Ending → MainPoint
  | .point next => .closeService next
  | .returned .done => .idle
  | .returned .thrown => .closeThrew

/-- A device's thread after a step of `onClosed`. -/
def DevicePoint.ofClosed : Progress ClosedPoint Ending → DevicePoint
  | .point next => .onClosed next
  | .returned _ => .ended

/-- An undisturbed `onStartCommand` is a run of the threads. -/
theorem Threads.leads_of_start (threads : Threads) (service : Service)
    : serviceThreads.Leads
        { threads with service := service, main := .onStartCommand .poll }
        { threads with service := service.restarted, main := .idle } :=
  System.leads_of_runToReturn
    (fun service progress => threads.placed service progress .main)
    (fun _ _ => ⟨.main, rfl⟩) (startWithDevice_runs service)

/-- An undisturbed `LocalBinder.startWithDevice` is a run of the threads. -/
theorem Threads.leads_of_binder (threads : Threads) {service finish : Service}
    {request : Request}
    (ran
      : runToReturn localBinderStartWithDevice 8 service (.addWork request)
        = some (finish, .done))
    : serviceThreads.Leads
        { threads with service := service, main := .startWithDevice (.addWork request) }
        { threads with service := finish, main := .idle } := by
  refine System.leads_of_runToReturn
    (fun service progress =>
      { threads with service := service, main := MainPoint.ofBinder progress })
    ?_ ran
  intro service pos
  refine ⟨.main, ?_⟩
  simp only [serviceThreads, Threads.step, Threads.mainStep, MainPoint.ofBinder]
  split <;> rename_i moved <;> rw [moved]

/-- An undisturbed `closeService` is a run of the threads. -/
theorem Threads.leads_of_close (threads : Threads) {service finish : Service}
    (ran : runToReturn closeService 8 service .testRunning = some (finish, .done))
    : serviceThreads.Leads
        { threads with service := service, main := .closeService .testRunning }
        { threads with service := finish, main := .idle } := by
  refine System.leads_of_runToReturn
    (fun service progress =>
      { threads with service := service, main := MainPoint.ofClose progress })
    ?_ ran
  intro service pos
  refine ⟨.main, ?_⟩
  simp only [serviceThreads, Threads.step, Threads.mainStep, MainPoint.ofClose]
  split <;> rename_i moved <;> rw [moved]

/-- An undisturbed `onClosed` is a run of the threads. -/
theorem Threads.leads_of_closed (threads : Threads) {start : Nat} {service finish : Service}
    {ending : Ending}
    (ran : runToReturn onClosed 16 service .testDevice = some (finish, ending))
    : serviceThreads.Leads
        { threads with
          service := service
          device := Function.update threads.device start (.onClosed .testDevice) }
        { threads with
          service := finish
          device := Function.update threads.device start .ended } := by
  refine System.leads_of_runToReturn
    (fun service progress =>
      { threads with
        service := service
        device := Function.update threads.device start (DevicePoint.ofClosed progress) })
    ?_ ran
  intro service pos
  refine ⟨.device start, ?_⟩
  simp only [serviceThreads, Threads.step, Threads.deviceStep, Function.update_self,
    DevicePoint.ofClosed]
  cases pos with
  | start inner =>
      simp only [onClosed, Threads.placed, Function.update_idem]
      split <;> rename_i moved <;> rw [moved] <;> rfl
  | _ =>
      dsimp only
      split <;> rename_i moved <;> rw [moved] <;> simp only [Function.update_idem]

-----------------------------------------------------------------------------------------
-- Between events
-----------------------------------------------------------------------------------------

/-- The thread of a call of `openAsync` serves its device. -/
def Threads.Serves (threads : Threads) (start : Nat) (device : SdrDevice) : Prop :=
  threads.device start = .serving
  ∧ (threads.service.started[start]?).map Request.sdrDevice = some device

/-- No handler is in progress, and the open devices are those whose threads serve them. -/
structure Threads.Rests (threads : Threads) : Prop where
  main : threads.main = .idle
  unstarted : ∀ start, threads.service.started.length ≤ start → threads.device start = .serving
  serving
    : ∃ starts, starts.Nodup ∧ List.Forall₂ threads.Serves starts threads.service.opened

/-- A service that runs has a device, so that no method throws. -/
def Service.Provided (service : Service) : Prop :=
  service.isRunning = true → service.thisSdrDevice ≠ none

/-- A member of a list that is related to another list: it and its counterpart can be left
out. By induction on the relation.
-/
theorem forall₂_erase {α β : Type} [DecidableEq β] {related : α → β → Prop} {left : List α}
    {right : List β} (all : List.Forall₂ related left right) {value : β} (member : value ∈ right)
    : ∃ chosen rest,
        left.Perm (chosen :: rest)
        ∧ related chosen value
        ∧ List.Forall₂ related rest (right.erase value) := by
  induction all with
  | nil => cases member
  | @cons first head left right holds all ih =>
      by_cases same : head = value
      · subst same
        rw [List.erase_cons_head]
        exact ⟨first, left, .rfl, holds, all⟩
      · rw [List.erase_cons_tail (by simpa using same)]
        obtain ⟨chosen, rest, perm, found, others⟩ :=
          ih ((List.mem_cons.mp member).resolve_left (fun equal => same equal.symm))
        exact ⟨chosen, first :: rest, (perm.cons first).trans (.swap ..), found,
          .cons holds others⟩

section Rests

variable {threads : Threads} {service : Service}

/-- A thread that serves was started. -/
theorem Threads.Serves.started {start : Nat} {device : SdrDevice}
    (serves : threads.Serves start device)
    : start < threads.service.started.length := by
  obtain ⟨request, found, -⟩ := Option.map_eq_some_iff.mp serves.2
  exact (List.getElem?_eq_some_iff.mp found).choose

/-- A change of the service that leaves the devices alone. -/
theorem Threads.Rests.kept (rests : threads.Rests)
    (started : service.started = threads.service.started)
    (opened : service.opened = threads.service.opened)
    : ({ threads with service := service } : Threads).Rests := by
  obtain ⟨main, unstarted, starts, nodup, serving⟩ := rests
  refine ⟨main, ?_, starts, nodup, ?_⟩
  · intro start later
    exact unstarted start (started ▸ later)
  · unfold Threads.Serves at serving ⊢
    rw [started, opened]
    exact serving

/-- An open device closes: its thread ends, the others rest. -/
theorem Threads.Rests.closed (rests : threads.Rests) {device : SdrDevice}
    (member : device ∈ threads.service.opened)
    : ∃ start,
        threads.Serves start device
        ∧ ({ threads with
              service :=
                { threads.service with opened := threads.service.opened.erase device }
              device := Function.update threads.device start .ended } : Threads).Rests := by
  obtain ⟨main, unstarted, starts, nodup, serving⟩ := rests
  obtain ⟨start, rest, perm, serves, others⟩ := forall₂_erase serving member
  have distinct := List.nodup_cons.mp (perm.nodup nodup)
  refine ⟨start, serves, main, ?_, rest, distinct.2, ?_⟩
  · intro other later
    have begun := serves.started
    dsimp only at later ⊢
    rw [Function.update_of_ne (by omega)]
    exact unstarted other later
  · have kept := (List.forall₂_and_left rest _).mpr ⟨fun _ member => member, others⟩
    refine kept.imp ?_
    intro other device both
    have other_ : other ≠ start := by
      intro same
      exact distinct.1 (same ▸ both.1)
    refine ⟨?_, both.2.2⟩
    dsimp only
    rw [Function.update_of_ne other_]
    exact both.2.1

/-- A restart leaves the devices alone or adds one with a thread of its own. -/
theorem Threads.Rests.restarted (rests : threads.Rests)
    (started : service.started = threads.service.started)
    (opened : service.opened = threads.service.opened)
    : ({ threads with service := service.restarted } : Threads).Rests := by
  replace rests := rests.kept started opened
  unfold Service.restarted
  cases service.workQueue with
  | nil => exact rests.kept rfl rfl
  | cons pair rest =>
      obtain ⟨main, unstarted, starts, nodup, serving⟩ := rests
      refine ⟨main, ?_, service.started.length :: starts, ?_, .cons ⟨?_, ?_⟩ ?_⟩
      · intro start later
        refine unstarted start (Nat.le_of_succ_le ?_)
        simpa [Service.opening] using later
      · refine List.nodup_cons.mpr ⟨?_, nodup⟩
        intro member
        have begun := serving.imp (fun _ _ serves => And.intro serves.started serves)
        exact Nat.lt_irrefl _ (((List.forall₂_and_left starts _).mp begun).1 _ member)
      · exact unstarted _ (Nat.le_refl _)
      · simp [Service.opening]
      · refine serving.imp ?_
        intro start device serves
        refine ⟨serves.1, ?_⟩
        simpa [Service.opening, List.getElem?_append_left serves.started] using serves.2

end Rests

/-- A restart runs exactly when it has a device. -/
theorem Service.Provided.restarted (service : Service) : service.restarted.Provided := by
  unfold Service.restarted Service.Provided
  cases service.workQueue with
  | nil => exact nofun
  | cons pair rest => exact fun _ => nofun

/-- The binder never throws while a service that runs has a device. -/
theorem Service.Provided.binder {service : Service} (provided : service.Provided)
    (request : Request)
    : ∃ next,
        runToReturn localBinderStartWithDevice 8 service (.addWork request)
          = some (next, .done)
        ∧ next.opened = service.opened
        ∧ next.started = service.started
        ∧ next.Provided := by
  unfold Service.Provided at provided ⊢
  cases running : service.isRunning <;> cases device : service.thisSdrDevice <;>
    simp_all [runToReturn, localBinderStartWithDevice, closeService]

/-- Neither does `closeService`. -/
theorem Service.Provided.close {service : Service} (provided : service.Provided)
    : ∃ next,
        runToReturn closeService 8 service .testRunning = some (next, .done)
        ∧ next.opened = service.opened
        ∧ next.started = service.started
        ∧ next.Provided := by
  unfold Service.Provided at provided ⊢
  cases running : service.isRunning <;> cases device : service.thisSdrDevice <;>
    simp_all [runToReturn, closeService]

/-- The threads between two events of a service. -/
structure Service.Between (service : Service) (threads : Threads) : Prop where
  same : threads.service = service
  rests : threads.Rests
  provided : service.Provided

/-- Every event is a run of the threads from rest to rest. -/
theorem Service.Between.handled {service next : Service} {event : ServiceEvent}
    {threads : Threads} (between : service.Between threads)
    (fired : service.handle event = some next)
    : ∃ after, serviceThreads.Leads threads after ∧ next.Between after := by
  obtain ⟨rfl, rests, provided⟩ := between
  have idle := rests.main
  cases event with
  | startServer =>
      cases fired
      have moved : serviceThreads.step threads .startServer = some _ := if_pos idle
      exact ⟨_, .step .refl moved, rfl, rests.kept rfl rfl, provided⟩
  | onStartCommand =>
      simp only [Service.handle, startWithDevice_runs, Option.map_some] at fired
      split at fired <;> cases fired
      rename_i intended
      have moved : serviceThreads.step threads .onStartCommand = some _ :=
        if_pos ⟨idle, intended⟩
      refine ⟨_, (System.Leads.refl.step moved).trans (threads.leads_of_start _), rfl, ?_,
        .restarted _⟩
      rw [← idle]
      exact rests.restarted rfl rfl
  | startWithDevice request =>
      obtain ⟨after, runs, opened, started, kept⟩ := provided.binder request
      simp only [Service.handle, runs, Option.map_some] at fired
      cases fired
      have moved : serviceThreads.step threads (.startWithDevice request) = some _ :=
        if_pos idle
      have later := threads.leads_of_binder runs
      refine ⟨_, (System.Leads.refl.step moved).trans later, rfl, ?_, kept⟩
      rw [← idle]
      exact rests.kept started opened
  | closeService =>
      obtain ⟨after, runs, opened, started, kept⟩ := provided.close
      simp only [Service.handle, runs, Option.map_some] at fired
      cases fired
      have moved : serviceThreads.step threads .closeService = some _ := if_pos idle
      have later := threads.leads_of_close runs
      refine ⟨_, (System.Leads.refl.step moved).trans later, rfl, ?_, kept⟩
      rw [← idle]
      exact rests.kept started opened
  | registerCallback callback =>
      cases fired
      have moved : serviceThreads.step threads (.registerCallback callback) = some _ :=
        if_pos idle
      exact ⟨_, .step .refl moved, rfl, rests.kept rfl rfl, provided⟩
  | onOpen device =>
      simp only [Service.handle] at fired
      split at fired <;> cases fired
      rename_i member
      obtain ⟨start, serves, -⟩ := rests.closed member
      have moved : serviceThreads.step threads (.onOpen start) = some _ :=
        if_pos ⟨serves.started, serves.1⟩
      exact ⟨_, .step .refl moved, rfl, rests.kept rfl rfl, provided⟩
  | onClosed device =>
      simp only [Service.handle] at fired
      split at fired
      · rename_i member
        obtain ⟨start, serves, rest⟩ := rests.closed member
        obtain ⟨request, found, same⟩ := Option.map_eq_some_iff.mp serves.2
        obtain ⟨names, wl, runs⟩ :=
          onClosed_runs { threads.service with opened := threads.service.opened.erase device }
        rw [runs] at fired
        cases fired
        have moved
            : serviceThreads.step threads (.onClosed start)
              = some
                  { threads with
                    service :=
                      { threads.service with opened := threads.service.opened.erase device }
                    device := Function.update threads.device start (.onClosed .testDevice) } := by
          simp only [serviceThreads, Threads.step, found, serves.1, if_pos, same]
        refine ⟨_, (System.Leads.refl.step moved).trans (threads.leads_of_closed runs), rfl, ?_,
          .restarted _⟩
        exact rest.restarted rfl rfl
      · cases fired

/-- Whatever happens under whole events happens in the interleaving of the threads, with no
handler in progress.
-/
theorem handled_events_interleaved {service : Service}
    (reachable : serviceEvents.Reachable service)
    : ∃ threads, serviceThreads.Reachable threads ∧ service.Between threads := by
  refine reachable.simulated serviceThreads (fun service threads => service.Between threads) ?_ ?_
  · intro start initial
    subst initial
    exact ⟨.initial, rfl, rfl, ⟨rfl, fun _ _ => rfl, [], .nil, .nil⟩, nofun⟩
  · intro current event next image between fired
    exact between.handled fired

end RtlTcpAndro.BinaryRunnerService
