/-! Schedules replayed over partial atomic steps.
A choice names the party that moves and what its environment answers; it fires one atomic
step or is not enabled. Nothing here depends on what the parties compute.
-/

namespace RtlTcpAndro.Interleaving

-----------------------------------------------------------------------------------------
-- Systems, replay and reachability
-----------------------------------------------------------------------------------------

/-- Parties interleaved over one state: the states a run may start in, and the effect of
one choice of the scheduler (`none` when that choice is not enabled).
-/
structure System (σ ε : Type) where
  initial : σ → Prop
  step : σ → ε → Option σ

namespace System

variable {σ ε : Type} {system : System σ ε}

/-- Replay a finite schedule, failing at the first choice that is not enabled. -/
def run (system : System σ ε) : σ → List ε → Option σ
  | state, [] => some state
  | state, choice :: rest =>
      (system.step state choice).bind (fun next => system.run next rest)

/-- `finish` lies on a run from `start`. -/
inductive Leads (system : System σ ε) (start : σ) : σ → Prop
  | refl : system.Leads start start
  | step {current next choice} (before : system.Leads start current)
    (fired : system.step current choice = some next)
    : system.Leads start next

/-- A state some run from an initial state reaches. -/
def Reachable (system : System σ ε) (state : σ) : Prop :=
  ∃ start, system.initial start ∧ system.Leads start state

/-- The runs all of whose steps meet `allowed`, a condition on the state before the step
and the choice taken there.
-/
def restrict (system : System σ ε) (allowed : σ → ε → Prop)
    [∀ state choice, Decidable (allowed state choice)]
    : System σ ε where
  initial := system.initial
  step state choice := if allowed state choice then system.step state choice else none

/-- Runs compose, by induction on the second one. -/
theorem Leads.trans {start middle finish : σ} (first : system.Leads start middle)
    (second : system.Leads middle finish)
    : system.Leads start finish := by
  induction second with
  | refl => exact first
  | step _ fired ih => exact ih.step fired

/-- A successful replay is a run, by induction on the schedule. -/
theorem leads_of_run {start finish : σ} {schedule : List ε}
    (replayed : system.run start schedule = some finish)
    : system.Leads start finish := by
  induction schedule generalizing start with
  | nil =>
      cases replayed
      exact .refl
  | cons choice rest ih =>
      obtain ⟨next, fired, later⟩ := Option.bind_eq_some_iff.mp replayed
      exact (Leads.refl.step fired).trans (ih later)

/-- Where every choice is enabled, every schedule is replayed to its end, by induction on the
schedule.
-/
theorem exists_run_of_total (total : ∀ state choice, (system.step state choice).isSome)
    (start : σ) (schedule : List ε)
    : ∃ finish, system.run start schedule = some finish := by
  induction schedule generalizing start with
  | nil => exact ⟨start, rfl⟩
  | cons choice rest ih =>
      obtain ⟨next, fired⟩ := Option.isSome_iff_exists.mp (total start choice)
      obtain ⟨finish, later⟩ := ih next
      exact ⟨finish, Option.bind_eq_some_iff.mpr ⟨next, fired, later⟩⟩

/-- A replay from an initial state ends in a reachable state. -/
theorem reachable_of_run {start finish : σ} {schedule : List ε}
    (initial : system.initial start) (replayed : system.run start schedule = some finish)
    : system.Reachable finish :=
  ⟨start, initial, leads_of_run replayed⟩

/-- Reachability extends along a run. -/
theorem Reachable.leads {state finish : σ} (reachable : system.Reachable state)
    (later : system.Leads state finish)
    : system.Reachable finish := by
  obtain ⟨start, initial, before⟩ := reachable
  exact ⟨start, initial, before.trans later⟩

/-- Observing a replay: when the observation of its last state is known, so is a reachable
state with that observation.
-/
theorem exists_reachable_of_run {start : σ} {schedule : List ε} {α : Type} {observe : σ → α}
    {seen : α} (replayed : (system.run start schedule).map observe = some seen)
    (initial : system.initial start)
    : ∃ finish, system.Reachable finish ∧ observe finish = seen := by
  obtain ⟨finish, ended, observed⟩ := Option.map_eq_some_iff.mp replayed
  exact ⟨finish, reachable_of_run initial ended, observed⟩

-----------------------------------------------------------------------------------------
-- Invariants over whole runs
-----------------------------------------------------------------------------------------

/-- What every step preserves holds along a whole run, by induction on the run. -/
theorem Leads.preserves {start finish : σ} {holds : σ → Prop}
    (later : system.Leads start finish) (first : holds start)
    (step
      : ∀ current choice next,
          holds current → system.step current choice = some next → holds next)
    : holds finish := by
  induction later with
  | refl => exact first
  | step _ fired ih => exact step _ _ _ ih fired

/-- The induction rule for interleavings: an assertion that holds initially and survives
every step from a reachable state holds in every reachable state. The step may use what is
already known of reachable states.
-/
theorem Reachable.invariant {state : σ} (reachable : system.Reachable state)
    (holds : σ → Prop)
    (first : ∀ start, system.initial start → holds start)
    (step
      : ∀ current choice next,
          system.Reachable current
          → holds current
          → system.step current choice = some next
          → holds next)
    : holds state := by
  obtain ⟨start, initial, later⟩ := reachable
  induction later with
  | refl => exact first start initial
  | step before fired ih => exact step _ _ _ ⟨start, initial, before⟩ ih fired

/-- An assertion at every state of a replay. -/
def Throughout (system : System σ ε) (holds : σ → Prop) : σ → List ε → Prop
  | state, [] => holds state
  | state, choice :: rest =>
      holds state ∧ ∀ next ∈ system.step state choice, system.Throughout holds next rest

/-- A condition at every choice of a replay. -/
def Heeds (system : System σ ε) (allowed : σ → ε → Prop) : σ → List ε → Prop
  | _, [] => True
  | state, choice :: rest =>
      allowed state choice ∧ ∀ next ∈ system.step state choice, system.Heeds allowed next rest

instance decidableHeeds (allowed : σ → ε → Prop)
    [∀ state choice, Decidable (allowed state choice)]
    : (state : σ) → (schedule : List ε) → Decidable (system.Heeds allowed state schedule)
  | _, [] => inferInstanceAs (Decidable True)
  | state, choice :: rest =>
      have : ∀ next, Decidable (system.Heeds allowed next rest) :=
        fun next => decidableHeeds allowed next rest
      inferInstanceAs
        (Decidable
          (allowed state choice
            ∧ ∀ next ∈ system.step state choice, system.Heeds allowed next rest))

/-- A replay that starts with an assertion keeps it throughout. -/
theorem Throughout.head {holds : σ → Prop} {state : σ} {schedule : List ε}
    (throughout : system.Throughout holds state schedule)
    : holds state := by
  cases schedule with
  | nil => exact throughout
  | cons => exact throughout.1

/-- Where the condition on a choice is exactly what preserves the assertion, a replay keeps
the assertion throughout exactly when all its choices meet the condition. By induction on the
schedule.
-/
theorem throughout_iff_heeds {holds : σ → Prop} {allowed : σ → ε → Prop}
    (exact_
      : ∀ state choice next,
          holds state
          → system.step state choice = some next
          → (holds next ↔ allowed state choice))
    {start finish : σ} {schedule : List ε}
    (replayed : system.run start schedule = some finish) (first : holds start)
    : system.Throughout holds start schedule ↔ system.Heeds allowed start schedule := by
  induction schedule generalizing start with
  | nil => exact ⟨fun _ => trivial, fun _ => first⟩
  | cons choice rest ih =>
      obtain ⟨next, fired, later⟩ := Option.bind_eq_some_iff.mp replayed
      have only (other : σ) (moved : system.step start choice = some other) : other = next :=
        Option.some.inj (moved.symm.trans fired)
      constructor
      · intro throughout
        have kept := (throughout.2 next fired).head
        refine ⟨(exact_ start choice next first fired).mp kept, ?_⟩
        intro other moved
        rw [only other moved]
        exact (ih later kept).mp (throughout.2 next fired)
      · intro heeds
        have kept := (exact_ start choice next first fired).mpr heeds.1
        refine ⟨first, ?_⟩
        intro other moved
        rw [only other moved]
        exact (ih later kept).mpr (heeds.2 next fired)

/-- What every step preserves can be assumed at every state of a replay, by induction on the
schedule.
-/
theorem throughout_and_iff {kept holds : σ → Prop}
    (preserved
      : ∀ state choice next, kept state → system.step state choice = some next → kept next)
    {start : σ} {schedule : List ε} (first : kept start)
    : system.Throughout (fun state => kept state ∧ holds state) start schedule
      ↔ system.Throughout holds start schedule := by
  induction schedule generalizing start with
  | nil => exact and_iff_right first
  | cons choice rest ih =>
      have later (next : σ) (moved : next ∈ system.step start choice) :=
        ih (preserved start choice next first moved)
      constructor
      · intro throughout
        exact ⟨throughout.1.2, fun next moved =>
          (later next moved).mp (throughout.2 next moved)⟩
      · intro throughout
        exact ⟨⟨first, throughout.1⟩, fun next moved =>
          (later next moved).mpr (throughout.2 next moved)⟩

/-- As `throughout_iff_heeds`, where the condition on a choice is exact at the states that meet
a preserved assertion.
-/
theorem throughout_iff_heeds_of_kept {kept holds : σ → Prop} {allowed : σ → ε → Prop}
    (preserved
      : ∀ state choice next, kept state → system.step state choice = some next → kept next)
    (exact_
      : ∀ state choice next,
          kept state
          → holds state
          → system.step state choice = some next
          → (holds next ↔ allowed state choice))
    {start finish : σ} {schedule : List ε}
    (replayed : system.run start schedule = some finish) (first : kept start)
    (begins : holds start)
    : system.Throughout holds start schedule ↔ system.Heeds allowed start schedule := by
  rw [← throughout_and_iff preserved first]
  refine throughout_iff_heeds (fun state choice next known fired => ?_) replayed ⟨first, begins⟩
  rw [← exact_ state choice next known.1 known.2 fired]
  exact and_iff_right (preserved state choice next known.1 fired)

/-- A replay to its last state with a condition met by every choice. -/
structure Heeded (system : System σ ε) (allowed : σ → ε → Prop) (start : σ) (schedule : List ε)
    (finish : σ) : Prop where
  replayed : system.run start schedule = some finish
  heeds : system.Heeds allowed start schedule

section Heeded

variable {allowed : σ → ε → Prop} {start middle finish : σ} {schedule later : List ε}

/-- The empty schedule heeds every condition. Witness: it makes no choice. -/
theorem Heeded.nil : system.Heeded allowed start [] start := ⟨rfl, trivial⟩

/-- A choice that meets the condition and fires can precede a schedule that heeds it. Witness:
the step has one result.
-/
theorem Heeded.cons {choice : ε} (meets : allowed start choice)
    (fired : system.step start choice = some middle)
    (rest : system.Heeded allowed middle later finish)
    : system.Heeded allowed start (choice :: later) finish := by
  refine ⟨?_, meets, fun next moved => ?_⟩
  · rw [run, fired]
    exact rest.replayed
  · cases fired.symm.trans moved
    exact rest.heeds

/-- Such replays compose, by induction on the first. -/
theorem Heeded.append (first : system.Heeded allowed start schedule middle)
    (second : system.Heeded allowed middle later finish)
    : system.Heeded allowed start (schedule ++ later) finish := by
  obtain ⟨replayed, heeds⟩ := first
  induction schedule generalizing start with
  | nil =>
      cases replayed
      exact second
  | cons choice rest ih =>
      obtain ⟨next, fired, goes⟩ := Option.bind_eq_some_iff.mp replayed
      exact .cons heeds.1 fired (ih goes (heeds.2 next fired))

/-- A schedule that heeds a condition heeds every weaker one. Witness: induction on the
schedule.
-/
theorem Heeded.mono {other : σ → ε → Prop}
    (heeded : system.Heeded allowed start schedule finish)
    (weaker : ∀ state choice, allowed state choice → other state choice)
    : system.Heeded other start schedule finish := by
  obtain ⟨replayed, heeds⟩ := heeded
  induction schedule generalizing start with
  | nil => exact ⟨replayed, trivial⟩
  | cons choice rest ih =>
      obtain ⟨next, fired, goes⟩ := Option.bind_eq_some_iff.mp replayed
      exact .cons (weaker start choice heeds.1) fired (ih goes (heeds.2 next fired))

/-- What the choices that meet the condition preserve holds at the end, by induction on the
schedule.
-/
theorem Heeded.preserves (heeded : system.Heeded allowed start schedule finish)
    (holds : σ → Prop) (first : holds start)
    (step
      : ∀ state choice next,
          holds state
          → allowed state choice
          → system.step state choice = some next
          → holds next)
    : holds finish := by
  obtain ⟨replayed, heeds⟩ := heeded
  induction schedule generalizing start with
  | nil =>
      cases replayed
      exact first
  | cons choice rest ih =>
      obtain ⟨next, fired, goes⟩ := Option.bind_eq_some_iff.mp replayed
      exact ih (step start choice next first heeds.1 fired) goes (heeds.2 next fired)

end Heeded

-----------------------------------------------------------------------------------------
-- Restricted runs and projections
-----------------------------------------------------------------------------------------

variable {allowed : σ → ε → Prop} [∀ state choice, Decidable (allowed state choice)]

/-- A restricted step is an allowed step of the system. -/
theorem restrict_step_iff {state next : σ} {choice : ε}
    : (system.restrict allowed).step state choice = some next
      ↔ allowed state choice ∧ system.step state choice = some next := by
  simp only [restrict]
  split <;> simp_all

/-- Restricting the steps reaches no new state. -/
theorem Reachable.of_restrict {state : σ} (reachable : (system.restrict allowed).Reachable state)
    : system.Reachable state := by
  obtain ⟨start, initial, later⟩ := reachable
  refine ⟨start, initial, later.preserves .refl ?_⟩
  intro current choice next before fired
  exact before.step (restrict_step_iff.mp fired).2

/-- Where each step of one system is answered by a run of another that keeps the two related,
so is every run. Witness: induction on the run of the first system.
-/
theorem Reachable.simulated {τ δ : Type} {state : σ} (reachable : system.Reachable state)
    (target : System τ δ) (relates : σ → τ → Prop)
    (first : ∀ start, system.initial start → ∃ image, target.initial image ∧ relates start image)
    (step
      : ∀ current choice next image,
          relates current image
          → system.step current choice = some next
          → ∃ after, target.Leads image after ∧ relates next after)
    : ∃ image, target.Reachable image ∧ relates state image := by
  refine reachable.invariant (fun state => ∃ image, target.Reachable image ∧ relates state image)
    ?_ ?_
  · intro start initial
    obtain ⟨image, begun, related⟩ := first start initial
    exact ⟨image, ⟨image, begun, .refl⟩, related⟩
  · intro current choice next _ known fired
    obtain ⟨image, reached, related⟩ := known
    obtain ⟨after, later, kept⟩ := step current choice next image related fired
    exact ⟨after, reached.leads later, kept⟩

/-- A projection under which each step of one system is at most one step of another carries
reachable states to reachable states.
-/
theorem Reachable.project {τ δ : Type} {target : System τ δ} {project : σ → τ} {state : σ}
    (reachable : system.Reachable state)
    (first : ∀ start, system.initial start → target.initial (project start))
    (step
      : ∀ current choice next,
          system.step current choice = some next
          → project next = project current
            ∨ ∃ image, target.step (project current) image = some (project next))
    : target.Reachable (project state) := by
  obtain ⟨image, reached, rfl⟩ :=
    reachable.simulated target (fun state image => project state = image)
      (fun start initial => ⟨project start, first start initial, rfl⟩)
      (by
        intro current choice next image related fired
        subst related
        rcases step current choice next fired with same | ⟨choice, moved⟩
        · exact ⟨project current, .refl, same⟩
        · exact ⟨project next, .step .refl moved, rfl⟩)
  exact reached

end System

-----------------------------------------------------------------------------------------
-- Program points
-----------------------------------------------------------------------------------------

/-- A thread inside a function is at one of the function's program points, or the function
has returned.
-/
inductive Progress (π ρ : Type)
  | point (next : π)
  | returned (result : ρ)
  deriving DecidableEq, Repr

/-- Run a function from a program point to its return with no other party moving, giving up
after `fuel` steps.
-/
def runToReturn {σ π ρ : Type} (step : σ → π → σ × Progress π ρ)
    : Nat → σ → π → Option (σ × ρ)
  | 0, _, _ => none
  | fuel + 1, state, current =>
      match step state current with
      | (next, .point following) => runToReturn step fuel next following
      | (next, .returned result) => some (next, result)

/-- A function that one party runs to its return while no other party moves is a run of the
system, by induction on the number of its steps.
-/
theorem System.leads_of_runToReturn {σ τ ε π ρ : Type} {system : System τ ε}
    {step : σ → π → σ × Progress π ρ} (place : σ → Progress π ρ → τ)
    (moves
      : ∀ state current,
          ∃ choice,
            system.step (place state (.point current)) choice
            = some (place (step state current).1 (step state current).2))
    {fuel : Nat} {state finish : σ} {current : π} {result : ρ}
    (ran : runToReturn step fuel state current = some (finish, result))
    : system.Leads (place state (.point current)) (place finish (.returned result)) := by
  induction fuel generalizing state current with
  | zero => cases ran
  | succ fuel ih =>
      obtain ⟨choice, moved⟩ := moves state current
      have first := System.Leads.refl.step moved
      simp only [runToReturn] at ran
      split at ran <;> rename_i next following stepped <;> rw [stepped] at first
      · exact first.trans (ih ran)
      · cases ran
        exact first

end RtlTcpAndro.Interleaving
