import RtlTcpAndro.Registers.Fields

/-! Programs on a state of which a view shows a part: they refine programs on what it shows, if they
return the same, lead to what these lead to, and keep what the view does not show. Nothing here
depends on what the programs do.
-/

namespace RtlTcpAndro.Registers

variable {ρ σ τ α β : Type}

/-- A view of states that are ready, with a relation for what it does not show. -/
structure View (σ τ : Type) where
  ready : σ → Prop
  shown : σ → τ
  kept : σ → σ → Prop
  refl : ∀ state, kept state state
  trans : ∀ {first second third}, kept first second → kept second third → kept first third

/-- In an environment a program does to what a view shows what another program does. -/
def View.Refines (view : View σ τ) (environment : ρ) (program : ReaderT ρ (StateM σ) α)
    (spec : StateM τ α)
    : Prop :=
  ∀ state,
    view.ready state
    → ∃ later,
        program environment state = ((spec (view.shown state)).1, later)
        ∧ view.ready later
        ∧ view.shown later = (spec (view.shown state)).2
        ∧ view.kept state later

namespace View.Refines

variable {view : View σ τ} {environment : ρ}

/-- Returning a value refines returning it. Witness: the state is the one before. -/
theorem pure {value : α}
    : view.Refines environment (Pure.pure value) (Pure.pure value) :=
  fun state ready => ⟨state, rfl, ready, rfl, view.refl state⟩

/-- Programs in sequence refine what they refine, in sequence. Witness: what the view shows
after the first is where the second begins; what it does not show is kept twice.
-/
theorem bind {first : ReaderT ρ (StateM σ) α} {rest : α → ReaderT ρ (StateM σ) β}
    {spec : StateM τ α} {goes : α → StateM τ β} (refines : view.Refines environment first spec)
    (next
      : ∀ shown, view.Refines environment (rest (spec shown).1) (goes (spec shown).1))
    : view.Refines environment (first >>= rest) (spec >>= goes) := by
  intro state ready
  obtain ⟨between, ran, ready, shown, kept⟩ := refines state ready
  obtain ⟨later, ended, ready, shown', kept'⟩ := next (view.shown state) between ready
  refine ⟨later, ?_, ready, ?_, view.trans kept kept'⟩
  · change rest (first environment state).1 environment (first environment state).2 = _
    rw [ran, ended, shown]
    rfl
  · rw [shown', shown]
    rfl

/-- A program that acts on what is shown and returns a value. -/
theorem seq {first : ReaderT ρ (StateM σ) α} {rest : α → ReaderT ρ (StateM σ) β}
    {action : StateM τ Unit} {value : α} {goes : StateM τ β}
    (refines
      : view.Refines environment first
          (do
            action
            return value))
    (next : view.Refines environment (rest value) goes)
    : view.Refines environment (first >>= rest)
        (do
          action
          goes) :=
  @bind _ _ _ _ _ _ _ _ rest _ (fun _ => goes) refines fun _ => next

/-- A program that does not act on what is shown. -/
theorem skip {first : ReaderT ρ (StateM σ) α} {rest : α → ReaderT ρ (StateM σ) β} {value : α}
    {goes : StateM τ β} (refines : view.Refines environment first (return value))
    (next : view.Refines environment (rest value) goes)
    : view.Refines environment (first >>= rest) goes :=
  @bind _ _ _ _ _ _ _ _ rest _ (fun _ => goes) refines fun _ => next

/-- Programs one after the other refine what each of them refines. By induction on them. -/
theorem all {ι : Type} {program : ι → ReaderT ρ (StateM σ) α} {spec : ι → StateM τ α}
    (refines : ∀ call, view.Refines environment (program call) (spec call)) (calls : List ι)
    : view.Refines environment (calls.mapM program) (calls.mapM spec) := by
  induction calls with
  | nil => exact pure
  | cons call rest ih =>
      rw [List.mapM_cons, List.mapM_cons]
      exact bind (refines call) fun _ => bind ih fun _ => pure

end View.Refines

-----------------------------------------------------------------------------------------
-- Parts
-----------------------------------------------------------------------------------------

/-- A run of steps, some of which move a part of the state and the others leave it alone, is for
that part a run of those that move it. By induction on the steps.
-/
theorem foldl_part {ι : Type} {related : σ → τ → Prop} {step : σ → α → σ} {act : τ → ι → τ}
    {moves : α → Option ι} {events : List α}
    (moved
      : ∀ event ∈ events,
          ∀ {state part action},
            related state part
            → moves event = some action
            → related (step state event) (act part action))
    (still
      : ∀ event ∈ events,
          ∀ {state part},
            related state part → moves event = none → related (step state event) part)
    {state : σ} {part : τ} (start : related state part)
    : related (events.foldl step state) ((events.filterMap moves).foldl act part) := by
  induction events generalizing state part with
  | nil => exact start
  | cons event rest ih =>
      obtain ⟨moved, later⟩ := List.forall_mem_cons.mp moved
      obtain ⟨still, later'⟩ := List.forall_mem_cons.mp still
      rw [List.foldl_cons]
      cases found : moves event with
      | none =>
          rw [List.filterMap_cons_none found]
          exact ih later later' (still start found)
      | some action =>
          rw [List.filterMap_cons_some found]
          exact ih later later' (moved start found)

-----------------------------------------------------------------------------------------
-- Layouts
-----------------------------------------------------------------------------------------

/-- A field set to a value. -/
def setField {ι : Type} [DecidableEq ι] (i : ι) (val : UInt8) : StateM (ι → UInt8) Unit :=
  modify fun values => Function.update values i val

/-- A program on the values of fields is concerned with those of a part: it leaves the other fields
alone, and what it does does not depend on them.
-/
structure Within {ι : Type} (part : ι → Bool) (program : StateM (ι → UInt8) α) : Prop where
  kept : ∀ values i, part i = false → (program values).2 i = values i
  same
    : ∀ values other,
        (∀ i, part i = true → values i = other i)
        → (program values).1 = (program other).1
          ∧ ∀ i, part i = true → (program values).2 i = (program other).2 i

namespace Within

variable {ι : Type} {part : ι → Bool}

/-- Returning a value is concerned with no field. Witness: the fields are those before. -/
theorem pure {value : α} : Within part (Pure.pure value : StateM (ι → UInt8) α) :=
  ⟨fun _ _ _ => rfl, fun _ _ same => ⟨rfl, same⟩⟩

/-- Programs in sequence are concerned with a part if each is. Witness: the first returns the
same value, so the same program follows.
-/
theorem bind {first : StateM (ι → UInt8) α} {rest : α → StateM (ι → UInt8) β}
    (within : Within part first) (next : ∀ value, Within part (rest value))
    : Within part (first >>= rest) where
  kept values i outside :=
    ((next _).kept _ i outside).trans (within.kept values i outside)
  same values other agree := by
    obtain ⟨returned, between⟩ := within.same values other agree
    have later := (next (first values).1).same _ _ between
    change (rest (first values).1 (first values).2).1 = (rest (first other).1 (first other).2).1
      ∧ ∀ i, part i = true →
          (rest (first values).1 (first values).2).2 i = (rest (first other).1 (first other).2).2 i
    rw [← returned]
    exact later

/-- Setting a field of the part is concerned with the part. Witness: the fields outside it are
others than the one updated.
-/
theorem setField [DecidableEq ι] {i : ι} (inside : part i = true) (val : UInt8)
    : Within part (setField i val) where
  kept values j outside := by
    have apart : j ≠ i := fun same => by rw [same, inside] at outside; cases outside
    exact Function.update_of_ne apart val values
  same values other agree := by
    refine ⟨rfl, fun j within => ?_⟩
    change Function.update values i val j = Function.update other i val j
    rw [Function.update_apply, Function.update_apply, agree j within]

end Within

end RtlTcpAndro.Registers
