import RtlTcpAndro.BinaryRunnerService.Threads
import RtlTcpAndro.Interleaving.Dispatch

/-! The queue of the service as a desk: a thread holds the request that it has polled until it
calls `openAsync`.
-/

namespace RtlTcpAndro.BinaryRunnerService

open RtlTcpAndro.Interleaving

/-- The requests of the service and who holds one. -/
def Threads.desk (threads : Threads) : Desk Party Request where
  queued := threads.service.queued
  pending := threads.service.workQueue
  started := threads.service.started
  holds party := (threads.starting party).bind StartPoint.pair

/-- Where a party is after a step of `startWithDevice`. -/
def StartPoint.ofProgress : Progress StartPoint Ending → Option StartPoint
  | .point next => some next
  | .returned _ => none

/-- A stored request is in hand. -/
theorem StartPoint.pair_of_stored {pos : StartPoint} {pair : Request}
    (stored : pos.stored = some pair)
    : pos.pair = some pair := by
  cases pos with
  | storeDevice => cases stored
  | _ => exact stored

/-- A step of `startWithDevice` moves its party only. -/
theorem Threads.starting_placed (threads : Threads) (after : Service)
    (progress : Progress StartPoint Ending) (party : Party)
    : (threads.placed after progress party).starting
      = Function.update threads.starting party (StartPoint.ofProgress progress) := by
  funext other
  by_cases same : other = party
  · subst same
    rw [Function.update_self]
    cases other with
    | main =>
        cases progress with
        | point next => rfl
        | returned ending => cases ending <;> rfl
    | device start =>
        simp only [Threads.starting, Threads.placed, Function.update_self]
        cases progress <;> rfl
  · rw [Function.update_of_ne same]
    cases party with
    | main =>
        cases other with
        | main => exact absurd rfl same
        | device start => rfl
    | device start =>
        cases other with
        | main => rfl
        | device index =>
            have different : index ≠ start := fun equal => same (by rw [equal])
            simp only [Threads.starting, Threads.placed, Function.update_of_ne different]

/-- The desk after a step of `startWithDevice`. -/
theorem Threads.desk_placed (threads : Threads) (after : Service)
    (progress : Progress StartPoint Ending) (party : Party)
    : (threads.placed after progress party).desk
      = { queued := after.queued
          pending := after.workQueue
          started := after.started
          holds :=
            Function.update threads.desk.holds party
              ((StartPoint.ofProgress progress).bind StartPoint.pair) } := by
  have service : (threads.placed after progress party).service = after := by
    cases party <;> rfl
  simp only [Threads.desk, Threads.starting_placed, service, Desk.mk.injEq, true_and]
  funext other
  by_cases same : other = party
  · rw [same, Function.update_self, Function.update_self]
  · rw [Function.update_of_ne same, Function.update_of_ne same]

section Desk

variable {threads : Threads} {pos : StartPoint} {after : Service}
  {progress : Progress StartPoint Ending}

/-- The main thread's position in `startWithDevice`. -/
theorem Threads.main_of_starting
    (position : threads.starting .main = some pos)
    : threads.main = .onStartCommand pos := by
  simp only [Threads.starting] at position
  split at position <;> cases position
  assumption

/-- A device's thread in `startWithDevice`. -/
theorem Threads.device_of_starting {start : Nat}
    (position : threads.starting (.device start) = some pos)
    : threads.device start = .onClosed (.start pos) := by
  simp only [Threads.starting] at position
  split at position <;> cases position
  assumption

/-- Nothing is taken from the desk by moves outside of `startWithDevice`, or up to its poll. -/
theorem Threads.desk_moved {next : Threads}
    (queued : next.service.queued = threads.service.queued)
    (workQueue : next.service.workQueue = threads.service.workQueue)
    (started : next.service.started = threads.service.started)
    (entered
      : ∀ party pos,
          next.starting party = some pos → pos = .poll ∨ threads.starting party = some pos)
    (kept
      : ∀ party pos, threads.starting party = some pos → next.starting party = some pos)
    : next.desk = threads.desk := by
  simp only [Threads.desk, queued, workQueue, started, Desk.mk.injEq, true_and]
  funext party
  cases before : threads.starting party with
  | some pos => rw [kept party pos before]
  | none =>
      cases position : next.starting party with
      | none => rfl
      | some pos =>
          rcases entered party pos position with rfl | same
          · rfl
          · rw [before] at same
            cases same

/-- A step of `startWithDevice` never clears the device. -/
theorem StartEffect.set {service : Service}
    (effect : StartEffect service pos after progress) (set : service.thisSdrDevice ≠ none)
    : after.thisSdrDevice ≠ none := by
  cases effect with
  | stores => exact nofun
  | passes same | ends same => exact same.thisSdrDevice ▸ set
  | _ => exact set

/-- A step of `startWithDevice` starts one request at most. -/
theorem StartEffect.started_le {service : Service}
    (effect : StartEffect service pos after progress)
    : service.started.length ≤ after.started.length := by
  cases effect with
  | passes same | ends same => exact Nat.le_of_eq (by rw [same.started])
  | opens => simp
  | _ => exact Nat.le_refl _

/-- The two places from which `closeService` is run. -/
theorem MainPoint.main_of_closing {main : MainPoint} {pos : ClosePoint}
    (closing : main.closing = some pos)
    : main = .closeService pos ∨ main = .startWithDevice (.closeService pos) := by
  cases main with
  | closeService inner =>
      cases closing
      exact .inl rfl
  | startWithDevice inner =>
      cases inner <;> cases closing
      exact .inr rfl
  | _ => cases closing

end Desk

end RtlTcpAndro.BinaryRunnerService
