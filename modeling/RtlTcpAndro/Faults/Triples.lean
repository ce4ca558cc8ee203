import RtlTcpAndro.Faults.Program

/-! What programs do to their states: from a state a program ends in states that one assertion
allows with its result, or another with its error. Nothing here depends on what the programs
compute.
-/

namespace RtlTcpAndro.Faults.Program

variable {ρ σ ε α β : Type}

/-- From a state a program ends, with a result and a state that an assertion allows, or with an
error and a state that another one allows.
-/
def Leads (program : Program ρ σ ε α) (environment : ρ) (returns : α → σ → Prop)
    (fails : ε → σ → Prop) (state : σ)
    : Prop :=
  ∃ outcome later,
    program environment state = .ok (outcome, later)
    ∧ (∀ value, outcome = .ok value → returns value later)
    ∧ ∀ error, outcome = .error error → fails error later

section Rules

variable {environment : ρ} {state : σ} {returns returns' : α → σ → Prop}
  {fails fails' : ε → σ → Prop}

/-- A program that returned leads exactly to what holds of its value and of the state it left.
Witness: a program has one end.
-/
theorem leads_of_ok {program : Program ρ σ ε α} {value : α} {later : σ}
    (ran : program environment state = .ok (.ok value, later))
    : program.Leads environment returns fails state ↔ returns value later := by
  constructor
  · rintro ⟨outcome, last, ended, returned, -⟩
    rw [ran] at ended
    cases ended
    exact returned value rfl
  · intro holds
    refine ⟨.ok value, later, ran, ?_, ?_⟩
    · rintro _ ⟨⟩
      exact holds
    · rintro _ ⟨⟩

/-- A program that returned an error leads exactly to what holds of the error and of the state
it left. Witness: a program has one end.
-/
theorem leads_of_error {program : Program ρ σ ε α} {error : ε} {later : σ}
    (ran : program environment state = .ok (.error error, later))
    : program.Leads environment returns fails state ↔ fails error later := by
  constructor
  · rintro ⟨outcome, last, ended, -, failed⟩
    rw [ran] at ended
    cases ended
    exact failed error rfl
  · intro holds
    refine ⟨.error error, later, ran, ?_, ?_⟩
    · rintro _ ⟨⟩
    · rintro _ ⟨⟩
      exact holds

/-- A sequence leads to an assertion exactly if its first part leads to where the rest does.
Witness: the ends of the first part, a fault, an error and a value.
-/
theorem leads_bind {first : Program ρ σ ε α} {rest : α → Program ρ σ ε β}
    {returns : β → σ → Prop}
    : (first >>= rest).Leads environment returns fails state
      ↔ first.Leads environment
          (fun value => (rest value).Leads environment returns fails) fails state := by
  constructor
  · rintro ⟨outcome, later, ended, returned, failed⟩
    cases ran : first environment state with
    | error fault =>
        change (first environment state >>= fun outcome => _) = _ at ended
        rw [ran] at ended
        cases ended
    | ok result =>
        obtain ⟨value | error, between⟩ := result
        · rw [bind_of_error ran] at ended
          cases ended
          exact (leads_of_error ran).mpr (failed _ rfl)
        · rw [bind_of_ok ran] at ended
          exact (leads_of_ok ran).mpr ⟨outcome, later, ended, returned, failed⟩
  · rintro ⟨outcome, between, ran, returned, failed⟩
    cases outcome with
    | error error => exact (leads_of_error (bind_of_error ran)).mpr (failed error rfl)
    | ok value =>
        obtain ⟨last, later, ended, holds⟩ := returned value rfl
        exact ⟨last, later, (bind_of_ok ran).trans ended, holds⟩

/-- What is asserted of the end may be weakened, of the value and of the error alike. -/
theorem Leads.weaken {program : Program ρ σ ε α}
    (leads : program.Leads environment returns fails state)
    (returned : ∀ value later, returns value later → returns' value later)
    (failed : ∀ error later, fails error later → fails' error later)
    : program.Leads environment returns' fails' state := by
  obtain ⟨outcome, later, ran, value, error⟩ := leads
  exact ⟨outcome, later, ran, fun result same => returned result later (value result same),
    fun result same => failed result later (error result same)⟩

/-- Two assertions that a program leads to hold together, since a program has one end. -/
theorem Leads.both {program : Program ρ σ ε α}
    (left : program.Leads environment returns fails state)
    (right : program.Leads environment returns' fails' state)
    : program.Leads environment (fun value later => returns value later ∧ returns' value later)
        (fun error later => fails error later ∧ fails' error later) state := by
  obtain ⟨outcome, later, ran, value, error⟩ := left
  obtain ⟨outcome', later', ran', value', error'⟩ := right
  rw [ran] at ran'
  cases ran'
  exact ⟨outcome, later, ran, fun result same => ⟨value result same, value' result same⟩,
    fun result same => ⟨error result same, error' result same⟩⟩

/-- What holds wherever a program leads holds, since the program ends somewhere. Witness: its
end, a value or an error.
-/
theorem Leads.elim {program : Program ρ σ ε α} {conclusion : Prop}
    (leads : program.Leads environment returns fails state)
    (returned : ∀ value later, returns value later → conclusion)
    (failed : ∀ error later, fails error later → conclusion)
    : conclusion := by
  obtain ⟨value | error, later, -, returns, fails⟩ := leads
  · exact failed value later (fails value rfl)
  · exact returned error later (returns error rfl)

/-- A value leads exactly to what holds of it in the state it finds. -/
@[simp] theorem leads_pure {value : α}
    : (pure value : Program ρ σ ε α).Leads environment returns fails state
      ↔ returns value state :=
  leads_of_ok rfl

/-- An error leads exactly to what holds of it in the state it finds. -/
@[simp] theorem leads_throw {error : ε}
    : (throw error : Program ρ σ ε α).Leads environment returns fails state
      ↔ fails error state :=
  leads_of_error rfl

/-- Reading the environment leads exactly to what holds of the environment in the state it
finds.
-/
@[simp] theorem leads_read {returns : ρ → σ → Prop}
    : (read : Program ρ σ ε ρ).Leads environment returns fails state
      ↔ returns environment state :=
  leads_of_ok rfl

/-- Reading the state leads exactly to what holds of the state it finds. -/
@[simp] theorem leads_get {returns : σ → σ → Prop}
    : (get : Program ρ σ ε σ).Leads environment returns fails state ↔ returns state state :=
  leads_of_ok rfl

/-- An update leads exactly to what holds of the updated state. -/
@[simp] theorem leads_modify {update : σ → σ} {returns : PUnit → σ → Prop}
    : (modify update : Program ρ σ ε PUnit).Leads environment returns fails state
      ↔ returns ⟨⟩ (update state) :=
  leads_of_ok rfl

/-- A check leads exactly to what holds where it goes on, if it holds, and to what holds of
its error otherwise. Witness: the two branches of the check.
-/
theorem leads_require {holds : Prop} [Decidable holds] {error : ε} {returns : Unit → σ → Prop}
    : (require holds error : Program ρ σ ε Unit).Leads environment returns fails state
      ↔ (holds → returns () state) ∧ (¬ holds → fails error state) := by
  unfold require
  split
  next known => simp [known]
  next failed => simp [failed]

/-- A computation with a known value leads exactly to what holds of the value in the state it
finds.
-/
theorem leads_lift {computation : Faulty α} {value : α} (ran : computation = .ok value)
    : (liftM computation : Program ρ σ ε α).Leads environment returns fails state
      ↔ returns value state := by
  subst ran
  exact leads_of_ok rfl

end Rules

end RtlTcpAndro.Faults.Program
