import RtlTcpAndro.Faults.Triples

/-! What holds where programs end, for programs that may fault, and programs that run on a part of
a state. Nothing here depends on what the programs compute.
-/

namespace RtlTcpAndro.Faults.Program

variable {ρ σ ε α β : Type}

/-- If a program ends from a state, an assertion allows its result and the state that it leaves, or
another one its error and that state.
-/
def Permits (program : Program ρ σ ε α) (environment : ρ) (returns : α → σ → Prop)
    (fails : ε → σ → Prop) (state : σ)
    : Prop :=
  ∀ outcome later,
    program environment state = .ok (outcome, later)
    → (∀ value, outcome = .ok value → returns value later)
      ∧ ∀ error, outcome = .error error → fails error later

section Rules

variable {environment : ρ} {state : σ} {returns returns' : α → σ → Prop}
  {fails fails' : ε → σ → Prop}

/-- Of a program that returned, exactly what holds of its value and the state it left is
permitted, since no other end is possible.
-/
theorem permits_of_ok {program : Program ρ σ ε α} {value : α} {later : σ}
    (ran : program environment state = .ok (.ok value, later))
    : program.Permits environment returns fails state ↔ returns value later := by
  constructor
  · intro permits
    exact (permits _ later ran).1 value rfl
  · intro holds outcome last ended
    rw [ran] at ended
    cases ended
    refine ⟨?_, ?_⟩
    · rintro _ ⟨⟩
      exact holds
    · rintro _ ⟨⟩

/-- Of a program that returned an error, exactly what holds of the error and the state it left
is permitted, since no other end is possible.
-/
theorem permits_of_error {program : Program ρ σ ε α} {error : ε} {later : σ}
    (ran : program environment state = .ok (.error error, later))
    : program.Permits environment returns fails state ↔ fails error later := by
  constructor
  · intro permits
    exact (permits _ later ran).2 error rfl
  · intro holds outcome last ended
    rw [ran] at ended
    cases ended
    refine ⟨?_, ?_⟩
    · rintro _ ⟨⟩
    · rintro _ ⟨⟩
      exact holds

/-- A program that faults permits everything: it has no end. -/
theorem permits_of_fault {program : Program ρ σ ε α} {fault : Fault}
    (ran : program environment state = .error fault)
    : program.Permits environment returns fails state := by
  intro outcome later ended
  rw [ran] at ended
  cases ended

/-- A program that leads somewhere permits what it leads to. Witness: its only end is the one
that it leads to.
-/
theorem Leads.permits {program : Program ρ σ ε α}
    (leads : program.Leads environment returns fails state)
    : program.Permits environment returns fails state := by
  obtain ⟨outcome, later, ran, returned, failed⟩ := leads
  intro outcome' later' ran'
  rw [ran] at ran'
  cases ran'
  exact ⟨returned, failed⟩

/-- A sequence permits an assertion exactly if its first part permits that the rest does.
Witness: the ends of the first part, a fault, an error and a value.
-/
theorem permits_bind {first : Program ρ σ ε α} {rest : α → Program ρ σ ε β}
    {returns : β → σ → Prop}
    : (first >>= rest).Permits environment returns fails state
      ↔ first.Permits environment
          (fun value => (rest value).Permits environment returns fails) fails state := by
  cases ran : first environment state with
  | error fault =>
      have faulted : (first >>= rest) environment state = .error fault := by
        change (first environment state >>= fun outcome => _) = _
        rw [ran]
        rfl
      exact iff_of_true (permits_of_fault faulted) (permits_of_fault ran)
  | ok result =>
      obtain ⟨value | error, between⟩ := result
      · exact (permits_of_error (bind_of_error ran)).trans (permits_of_error ran).symm
      · rw [permits_of_ok ran]
        unfold Permits
        rw [bind_of_ok ran]

/-- What is asserted of the end may be weakened, of the value and of the error alike. -/
theorem Permits.weaken {program : Program ρ σ ε α}
    (permits : program.Permits environment returns fails state)
    (returned : ∀ value later, returns value later → returns' value later)
    (failed : ∀ error later, fails error later → fails' error later)
    : program.Permits environment returns' fails' state := by
  intro outcome later ran
  obtain ⟨value, error⟩ := permits outcome later ran
  exact ⟨fun result same => returned result later (value result same),
    fun result same => failed result later (error result same)⟩

/-- Two assertions that a program permits are permitted together, since both are about the
same end.
-/
theorem Permits.both {program : Program ρ σ ε α}
    (left : program.Permits environment returns fails state)
    (right : program.Permits environment returns' fails' state)
    : program.Permits environment (fun value later => returns value later ∧ returns' value later)
        (fun error later => fails error later ∧ fails' error later) state := by
  intro outcome later ran
  obtain ⟨value, error⟩ := left outcome later ran
  obtain ⟨value', error'⟩ := right outcome later ran
  exact ⟨fun result same => ⟨value result same, value' result same⟩,
    fun result same => ⟨error result same, error' result same⟩⟩

/-- The assertion that holds always is permitted by every program. -/
theorem Permits.trivial {program : Program ρ σ ε α}
    : program.Permits environment (fun _ _ => True) (fun _ _ => True) state :=
  fun _ _ _ => ⟨fun _ _ => True.intro, fun _ _ => True.intro⟩

/-- A value permits exactly what holds of it in the state it finds. -/
@[simp] theorem permits_pure {value : α}
    : (pure value : Program ρ σ ε α).Permits environment returns fails state
      ↔ returns value state :=
  permits_of_ok rfl

/-- Reading the environment permits exactly what holds of the environment in the state it
finds.
-/
@[simp] theorem permits_read {returns : ρ → σ → Prop}
    : (read : Program ρ σ ε ρ).Permits environment returns fails state
      ↔ returns environment state :=
  permits_of_ok rfl

/-- Reading the state permits exactly what holds of the state it finds. -/
@[simp] theorem permits_get {returns : σ → σ → Prop}
    : (get : Program ρ σ ε σ).Permits environment returns fails state ↔ returns state state :=
  permits_of_ok rfl

/-- An update of the state permits exactly what holds of the updated state. -/
@[simp] theorem permits_modify {update : σ → σ} {returns : PUnit → σ → Prop}
    : (modify update : Program ρ σ ε PUnit).Permits environment returns fails state
      ↔ returns ⟨⟩ (update state) :=
  permits_of_ok rfl

/-- A check permits exactly what holds where it goes on, if it holds, and of its error
otherwise. Witness: the two branches of the check.
-/
theorem permits_require {holds : Prop} [Decidable holds] {error : ε} {returns : Unit → σ → Prop}
    : (require holds error : Program ρ σ ε Unit).Permits environment returns fails state
      ↔ (holds → returns () state) ∧ (¬ holds → fails error state) := by
  unfold require
  split
  next known => simp [known]
  next failed =>
    refine (permits_of_error rfl).trans ?_
    simp [failed]

/-- A computation that may fault permits what holds of its value in the state it finds; a
fault permits it too.
-/
theorem permits_lift {computation : Faulty α}
    (holds : ∀ value, computation = .ok value → returns value state)
    : (liftM computation : Program ρ σ ε α).Permits environment returns fails state := by
  cases computation with
  | error fault => exact permits_of_fault rfl
  | ok value => exact (permits_of_ok rfl).mpr (holds value rfl)

/-- A program whose error is a result. -/
def attempt (program : Program ρ σ ε α) : Program ρ σ ε (Except ε α) := fun environment state =>
  (program environment state).map fun (outcome, later) => (.ok outcome, later)

/-- A program whose error is caught permits exactly what it permits of values and errors as
results. Witness: its ends, a fault, an error and a value.
-/
theorem permits_attempt {program : Program ρ σ ε α} {returns : Except ε α → σ → Prop}
    : program.attempt.Permits environment returns fails state
      ↔ program.Permits environment (fun value => returns (.ok value))
          (fun error => returns (.error error)) state := by
  cases ran : program environment state with
  | error fault =>
      have faulted : program.attempt environment state = .error fault := by
        rw [attempt, ran]
        rfl
      exact iff_of_true (permits_of_fault faulted) (permits_of_fault ran)
  | ok result =>
      obtain ⟨outcome, later⟩ := result
      have ended : program.attempt environment state = .ok (.ok outcome, later) := by
        rw [attempt, ran]
        rfl
      cases outcome with
      | error error => rw [permits_of_ok ended, permits_of_error ran]
      | ok value => rw [permits_of_ok ended, permits_of_ok ran]

end Rules

-----------------------------------------------------------------------------------------
-- Programs on a part of a state
-----------------------------------------------------------------------------------------

section Zoom

variable {ρ' σ' : Type} {view : ρ' → ρ} {part : σ' → σ} {replace : σ → σ' → σ'}

/-- A program that runs on a part of a state, in what it sees of an environment. -/
def zoom (view : ρ' → ρ) (part : σ' → σ) (replace : σ → σ' → σ') (program : Program ρ σ ε α)
    : Program ρ' σ' ε α :=
  fun environment state =>
    (program (view environment) (part state)).map fun (outcome, later) =>
      (outcome, replace later state)

variable {program : Program ρ σ ε α} {environment : ρ'} {state : σ'}
  {returns : α → σ' → Prop} {fails : ε → σ' → Prop}

/-- A program on a part of a state permits exactly what it permits of that part, put back into
the whole. Witness: its ends, a fault, an error and a value.
-/
theorem permits_zoom
    : (program.zoom view part replace).Permits environment returns fails state
      ↔ program.Permits (view environment) (fun value later => returns value (replace later state))
          (fun error later => fails error (replace later state)) (part state) := by
  cases ran : program (view environment) (part state) with
  | error fault =>
      have faulted : program.zoom view part replace environment state = .error fault := by
        rw [zoom, ran]
        rfl
      exact iff_of_true (permits_of_fault faulted) (permits_of_fault ran)
  | ok result =>
      obtain ⟨outcome, later⟩ := result
      have ended : program.zoom view part replace environment state
          = .ok (outcome, replace later state) := by
        rw [zoom, ran]
        rfl
      cases outcome with
      | error error => rw [permits_of_error ended, permits_of_error ran]
      | ok value => rw [permits_of_ok ended, permits_of_ok ran]

end Zoom

-----------------------------------------------------------------------------------------
-- What programs keep
-----------------------------------------------------------------------------------------

/-- What a program keeps wherever it ends. -/
def Keeps (program : Program ρ σ ε α) (environment : ρ) (kept : σ → Prop) : Prop :=
  ∀ state, kept state → program.Permits environment (fun _ => kept) (fun _ => kept) state

section Keeps

variable {environment : ρ} {kept kept' : σ → Prop} {first : Program ρ σ ε α}
  {rest : α → Program ρ σ ε β}

/-- A sequence keeps what both of its parts keep, also where one returns an error. Witness:
the rest runs on a state in which it still holds.
-/
theorem Keeps.bind (before : first.Keeps environment kept)
    (next : ∀ value, (rest value).Keeps environment kept)
    : (first >>= rest).Keeps environment kept := by
  intro state holds
  refine permits_bind.mpr ((before state holds).weaken ?_ fun _ _ failed => failed)
  exact fun value between holds => next value between holds

/-- A value keeps every assertion about the state. -/
theorem Keeps.pure {value : α} : (Pure.pure value : Program ρ σ ε α).Keeps environment kept :=
  fun _ holds => permits_pure.mpr holds

/-- Reading the environment keeps every assertion about the state. -/
theorem Keeps.read : (MonadReader.read : Program ρ σ ε ρ).Keeps environment kept :=
  fun _ holds => permits_read.mpr holds

/-- Reading the state keeps every assertion about it. -/
theorem Keeps.get : (MonadState.get : Program ρ σ ε σ).Keeps environment kept :=
  fun _ holds => permits_get.mpr holds

/-- An update keeps an assertion that holds of the updated state wherever it held before. -/
theorem Keeps.modify {update : σ → σ} (updated : ∀ state, kept state → kept (update state))
    : (modify update : Program ρ σ ε PUnit).Keeps environment kept :=
  fun state holds => permits_modify.mpr (updated state holds)

/-- A check keeps every assertion about the state, whether it goes on or returns its error. -/
theorem Keeps.require {holds : Prop} [Decidable holds] {error : ε}
    : (require holds error : Program ρ σ ε Unit).Keeps environment kept :=
  fun _ before => permits_require.mpr ⟨fun _ => before, fun _ => before⟩

/-- A computation that may fault keeps every assertion about the state. -/
theorem Keeps.lift {computation : Faulty α}
    : (liftM computation : Program ρ σ ε α).Keeps environment kept :=
  fun _ holds => permits_lift fun _ _ => holds

/-- Two assertions that a program keeps are kept together, since both are about the state at
the same end.
-/
theorem Keeps.both (left : first.Keeps environment kept) (right : first.Keeps environment kept')
    : first.Keeps environment (fun state => kept state ∧ kept' state) :=
  fun state holds => (left state holds.1).both (right state holds.2)

/-- What is kept on a condition that does not depend on the state. Witness: with the condition
it is kept, and without it there is nothing to keep.
-/
theorem Keeps.implied {condition : Prop} (keeps : condition → first.Keeps environment kept)
    : first.Keeps environment (fun state => condition → kept state) := by
  intro state holds
  by_cases known : condition
  · exact (keeps known state (holds known)).weaken (fun _ _ later _ => later)
      fun _ _ later _ => later
  · exact Permits.trivial.weaken (fun _ _ _ holds => absurd holds known)
      fun _ _ _ holds => absurd holds known

end Keeps

end RtlTcpAndro.Faults.Program
