import Mathlib.Data.List.Basic
import RtlTcpAndro.Interleaving.Schedule

/-! The class `AsyncFuture`: one `setDone` among any calls of `get()`.
`get()` waits whether or not the result is there, and it returns what is there when it wakes.
-/

namespace RtlTcpAndro.SdrDriverTools

open RtlTcpAndro.Interleaving

/-- The fields that `locker` guards; null is `none`. -/
structure AsyncFuture (V : Type) where
  object : Option V
  ready : Bool
  deriving DecidableEq, Repr

namespace AsyncFuture

variable {V : Type} (future : AsyncFuture V)

/-- A new future. -/
def new : AsyncFuture V := ⟨none, false⟩

/-- `isDone` -/
def isDone : Bool := future.ready

/-- What `setDone` stores; `none` is the exception of its `isTrue`. -/
def setDone (object : Option V) : Option (AsyncFuture V) :=
  if future.ready then none else some { object, ready := true }

end AsyncFuture

/-- A future and the calls of `get()`: the wait set of `locker`, the calls that have left it and
re-acquire the monitor, and the calls that have returned with what they returned.
-/
structure FutureCalls (κ V : Type) where
  future : AsyncFuture V
  waiting : List κ
  woken : List κ
  returned : List (κ × Option V)
  deriving DecidableEq, Repr

/-- The monitor's steps: a `get()` begins to wait; `setDone` runs and notifies a waiting call if
there is one; a call wakes without a notification; a woken call returns.
-/
inductive FutureEvent (κ : Type)
  | get (call : κ)
  | setDone (notified : Option κ)
  | wake (call : κ)
  | resume (call : κ)
  deriving DecidableEq, Repr

namespace FutureCalls

variable {κ V : Type} [DecidableEq κ] (calls : FutureCalls κ V)

/-- A new future that nobody waits for. -/
def new : FutureCalls κ V := ⟨.new, [], [], []⟩

/-- A waiting call leaves the wait set. -/
def wake (call : κ) : Option (FutureCalls κ V) :=
  if call ∈ calls.waiting then
    some { calls with waiting := calls.waiting.erase call, woken := call :: calls.woken }
  else none

/-- `locker.notify()` wakes one of the waiting calls, any of them. -/
def notify : Option κ → Option (FutureCalls κ V)
  | some call => calls.wake call
  | none => if calls.waiting = [] then some calls else none

/-- One step of a monitor whose `setDone` is called with `value`. -/
def step (value : Option V) : FutureEvent κ → Option (FutureCalls κ V)
  | .get call => some { calls with waiting := call :: calls.waiting }
  | .setDone notified => do
      let future ← calls.future.setDone value
      { calls with future }.notify notified
  | .wake call => calls.wake call
  | .resume call =>
      if call ∈ calls.woken then
        some
          { calls with
            woken := calls.woken.erase call
            returned := (call, calls.future.object) :: calls.returned }
      else none

/-- Every call that has returned did so after `setDone` and with its value, and nobody waits for
a notification that has been given.
-/
structure Delivers (value : Option V) : Prop where
  returned : ∀ entry ∈ calls.returned, calls.future.isDone = true ∧ entry.2 = value
  served : calls.future.isDone = true → calls.waiting = []

/-- A call begins to wait before `setDone`, no two wait when `setDone` runs, and a woken call
returns after it.
-/
def timely : FutureEvent κ → Prop
  | .get _ => calls.future.isDone = false
  | .setDone _ => calls.waiting.length ≤ 1
  | .wake _ => True
  | .resume _ => calls.future.isDone = true

instance (event : FutureEvent κ) : Decidable (calls.timely event) := by
  cases event <;> unfold timely <;> infer_instance

end FutureCalls

/-- One `setDone(value)` among any calls of `get()`. -/
def futureCalls {κ V : Type} [DecidableEq κ] (value : Option V)
    : System (FutureCalls κ V) (FutureEvent κ) where
  initial start := start = .new
  step calls := calls.step value

section Steps

variable {κ V : Type} [DecidableEq κ] {value : Option V} {calls next : FutureCalls κ V}

/-- A call that wakes was waiting; the future and the returned calls stay as they are.
Witness: the test of the step.
-/
theorem FutureCalls.wake_eq_some {call : κ} (woke : calls.wake call = some next)
    : call ∈ calls.waiting
      ∧ next.waiting = calls.waiting.erase call
      ∧ next.future = calls.future
      ∧ next.returned = calls.returned := by
  unfold wake at woke
  split at woke <;> cases woke
  exact ⟨by assumption, rfl, rfl, rfl⟩

/-- A notification leaves nobody waiting exactly when at most one call has waited. -/
theorem FutureCalls.notify_eq_some {notified : Option κ}
    (woke : calls.notify notified = some next)
    : (next.waiting = [] ↔ calls.waiting.length ≤ 1)
      ∧ next.future = calls.future
      ∧ next.returned = calls.returned := by
  cases notified with
  | none =>
      simp only [notify] at woke
      split at woke <;> cases woke
      rename_i nobody
      simp [nobody]
  | some call =>
      obtain ⟨member, waiting, future, returned⟩ := wake_eq_some woke
      refine ⟨?_, future, returned⟩
      rw [waiting, ← List.length_eq_zero_iff, List.length_erase_of_mem member]
      omega

/-- The step of `setDone` runs once, and leaves what was returned. -/
theorem FutureCalls.setDone_eq_some {notified : Option κ}
    (fired : calls.step value (.setDone notified) = some next)
    : calls.future.isDone = false
      ∧ next.future = ⟨value, true⟩
      ∧ (next.waiting = [] ↔ calls.waiting.length ≤ 1)
      ∧ next.returned = calls.returned := by
  obtain ⟨future, stored, woke⟩ := Option.bind_eq_some_iff.mp fired
  obtain ⟨waiting, same, returned⟩ := notify_eq_some woke
  unfold AsyncFuture.setDone at stored
  split at stored <;> cases stored
  rename_i unready
  exact ⟨by simpa [AsyncFuture.isDone] using unready, same, waiting, returned⟩

/-- A future that is done holds the value of its `setDone`. -/
theorem FutureCalls.holds_value {event : FutureEvent κ}
    (kept : calls.future.isDone = true → calls.future.object = value)
    (fired : calls.step value event = some next)
    : next.future.isDone = true → next.future.object = value := by
  cases event with
  | get call =>
      cases fired
      exact kept
  | setDone notified =>
      obtain ⟨-, future, -⟩ := setDone_eq_some fired
      rw [future]
      exact fun _ => rfl
  | wake call =>
      obtain ⟨-, -, future, -⟩ := wake_eq_some fired
      rwa [future]
  | resume call =>
      simp only [step] at fired
      split at fired <;> cases fired
      exact kept

/-- A step keeps the deliveries right exactly when it is timely, by cases on the step. -/
theorem FutureCalls.delivers_iff_timely {event : FutureEvent κ}
    (kept : calls.future.isDone = true → calls.future.object = value)
    (delivers : calls.Delivers value) (fired : calls.step value event = some next)
    : next.Delivers value ↔ calls.timely event := by
  cases event with
  | get call =>
      cases fired
      constructor
      · intro after
        cases done : calls.future.isDone with
        | false => exact done
        | true => cases after.served done
      · intro undone
        refine ⟨delivers.returned, fun done => ?_⟩
        cases undone.symm.trans done
  | setDone notified =>
      obtain ⟨undone, future, waiting, returned⟩ := setDone_eq_some fired
      constructor
      · intro after
        exact waiting.mp (after.served (by rw [future]; rfl))
      · intro alone
        refine ⟨fun entry member => ?_, fun _ => waiting.mpr alone⟩
        rw [returned] at member
        cases undone.symm.trans (delivers.returned entry member).1
  | wake call =>
      obtain ⟨member, waiting, future, returned⟩ := wake_eq_some fired
      refine ⟨fun _ => trivial, fun _ => ⟨?_, fun done => ?_⟩⟩
      · rw [future, returned]
        exact delivers.returned
      · rw [future] at done
        rw [delivers.served done] at member
        cases member
  | resume call =>
      simp only [step] at fired
      split at fired <;> cases fired
      constructor
      · intro after
        exact (after.returned _ List.mem_cons_self).1
      · intro done
        refine ⟨fun entry member => ?_, delivers.served⟩
        obtain rfl | earlier := List.mem_cons.mp member
        · exact ⟨done, kept done⟩
        · exact delivers.returned entry earlier

/-- Every `get()` delivers the value of the one `setDone`, after it and without being left behind,
exactly in the runs whose steps are all timely.
-/
theorem future_delivers_iff {schedule : List (FutureEvent κ)} {finish : FutureCalls κ V}
    (replayed : (futureCalls value).run .new schedule = some finish)
    : (futureCalls value).Throughout (fun calls => calls.Delivers value) .new schedule
      ↔ (futureCalls value).Heeds FutureCalls.timely .new schedule := by
  have preserved (calls : FutureCalls κ V) (event : FutureEvent κ) (next : FutureCalls κ V)
      (kept : calls.future.isDone = true → calls.future.object = value)
      (fired : (futureCalls value).step calls event = some next)
      : next.future.isDone = true → next.future.object = value :=
    FutureCalls.holds_value kept fired
  have begins : (FutureCalls.new : FutureCalls κ V).Delivers value := by
    refine ⟨fun entry member => ?_, nofun⟩
    cases member
  exact System.throughout_iff_heeds_of_kept preserved
    (fun _ _ _ kept delivers fired => FutureCalls.delivers_iff_timely kept delivers fired)
    replayed nofun begins

end Steps

/-- A `get()` that waits before `setDone` returns its value. -/
theorem future_delivers_to_waiting
    : (futureCalls (some 7)).Throughout (fun calls : FutureCalls Nat Nat => calls.Delivers (some 7))
        .new [.get 0, .setDone (some 0), .resume 0] := by
  have replayed
      : (futureCalls (some 7)).run (FutureCalls.new : FutureCalls Nat Nat)
          [.get 0, .setDone (some 0), .resume 0]
        = some ⟨⟨some 7, true⟩, [], [], [(0, some 7)]⟩ := by
    decide
  exact (future_delivers_iff replayed).mpr (by decide)

/-- A `get()` that begins after `setDone` waits for ever. -/
theorem get_after_setDone_waits
    : ¬ ∀ (schedule : List (FutureEvent Nat)) (finish : FutureCalls Nat Nat),
        (futureCalls (some 7)).run .new schedule = some finish
        → (futureCalls (some 7)).Throughout (fun calls => calls.Delivers (some 7)) .new
            schedule := by
  intro claim
  have replayed
      : (futureCalls (some 7)).run (FutureCalls.new : FutureCalls Nat Nat) [.setDone none, .get 0]
        = some ⟨⟨some 7, true⟩, [0], [], []⟩ := by
    decide
  have throughout := claim _ _ replayed
  have last := (throughout.2 _ rfl).2 _ rfl
  cases FutureCalls.Delivers.served last rfl

end RtlTcpAndro.SdrDriverTools
