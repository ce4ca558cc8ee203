/-! Programs over a state that answers come from: they may return early with an error, which keeps
the state, or fault, from where nothing goes on. Nothing here depends on what the programs
compute.
-/

namespace RtlTcpAndro.Faults

-----------------------------------------------------------------------------------------
-- Computations that may fault
-----------------------------------------------------------------------------------------

/-- What no computation goes on from: a division by zero, and a loop that has not ended after
the rounds it was given.
-/
inductive Fault
  | divisionByZero
  | endless
  deriving DecidableEq, Repr

/-- A computation that may fault. -/
abbrev Faulty := Except Fault

/-- Integer division. -/
def divide {α : Type} [Div α] [OfNat α 0] [DecidableEq α] (dividend divisor : α) : Faulty α :=
  if divisor = 0 then throw .divisionByZero else pure (dividend / divisor)

/-- A `while` loop, whose body may leave it. -/
def whileLoop {α : Type} (going : α → Bool) (body : α → Faulty (ForInStep α))
    : Nat → α → Faulty α
  | 0, state => if going state then throw .endless else pure state
  | rounds + 1, state =>
      if going state then do
        match ← body state with
        | .yield next => whileLoop going body rounds next
        | .done last => pure last
      else pure state

/-- A computation that has a result goes on with it. -/
theorem ok_bind {α β : Type} {value : α} {rest : α → Faulty β}
    : ((.ok value : Faulty α) >>= rest) = rest value :=
  rfl

section Faulty

variable {α : Type} [Div α] [OfNat α 0] [DecidableEq α] {dividend divisor : α}

/-- A division by anything but zero has the quotient as its result. -/
theorem divide_of_ne (nonzero : divisor ≠ 0) : divide dividend divisor = .ok (dividend / divisor) :=
  if_neg nonzero

/-- A division by zero faults. -/
theorem divide_zero : divide dividend 0 = .error .divisionByZero :=
  if_pos rfl

end Faulty

section Loops

variable {α : Type} {going : α → Bool} {body : α → Faulty (ForInStep α)}
  {holds : Nat → α → Prop}

/-- A loop whose condition fails has the state it finds as its result, whatever rounds it is
given.
-/
theorem whileLoop_stops {rounds : Nat} {state : α} (stopped : going state = false)
    : whileLoop going body rounds state = .ok state := by
  cases rounds <;> rw [whileLoop, stopped] <;> rfl

/-- A round that yields goes on from the state it leaves, with one round less. -/
theorem whileLoop_yield {rounds : Nat} {state next : α} (goes : going state = true)
    (ran : body state = .ok (.yield next))
    : whileLoop going body (rounds + 1) state = whileLoop going body rounds next := by
  rw [whileLoop, goes, ran]
  rfl

/-- A round that leaves the loop ends it with the state it leaves. -/
theorem whileLoop_done {rounds : Nat} {state last : α} (goes : going state = true)
    (ran : body state = .ok (.done last))
    : whileLoop going body (rounds + 1) state = .ok last := by
  rw [whileLoop, goes, ran]
  rfl

/-- Where an assertion about the rounds that are left survives every round, and nothing goes on
when none is left, the loop ends. By induction on the rounds.
-/
theorem whileLoop_ends {found : α → Prop}
    (stops : ∀ rounds state, holds rounds state → going state = false → found state)
    (last : ∀ state, holds 0 state → going state = false)
    (round
      : ∀ rounds state,
          holds (rounds + 1) state
          → going state = true
          → (∃ next, body state = .ok (.yield next) ∧ holds rounds next)
            ∨ ∃ next, body state = .ok (.done next) ∧ found next)
    {rounds : Nat} {state : α} (first : holds rounds state)
    : ∃ finish, whileLoop going body rounds state = .ok finish ∧ found finish := by
  induction rounds generalizing state with
  | zero =>
      have stopped := last state first
      exact ⟨state, whileLoop_stops stopped, stops 0 state first stopped⟩
  | succ rounds ih =>
      cases goes : going state with
      | false => exact ⟨state, whileLoop_stops goes, stops _ state first goes⟩
      | true =>
          obtain ⟨next, ran, kept⟩ | ⟨next, ran, ends⟩ := round rounds state first goes
          · rw [whileLoop_yield goes ran]
            exact ih kept
          · exact ⟨next, whileLoop_done goes ran, ends⟩

/-- A loop that started comes to a round, numbered from one, in a state. -/
inductive InRound (going : α → Bool) (body : α → Faulty (ForInStep α)) (start : α)
    : Nat → α → Prop
  | first (goes : going start = true) : InRound going body start 1 start
  | next {round state following} (before : InRound going body start round state)
    (ran : body state = .ok (.yield following)) (goes : going following = true)
    : InRound going body start (round + 1) following

/-- As `whileLoop_ends`, for the rounds themselves: the assertion holds in each of them, for the
rounds that are left. By induction on the rounds before it.
-/
theorem InRound.invariant {start state : α} {rounds round : Nat}
    (reached : InRound going body start round state)
    (last : ∀ state, holds 0 state → going state = false)
    (yields
      : ∀ left state following,
          holds (left + 1) state
          → going state = true
          → body state = .ok (.yield following)
          → holds left following)
    (first : holds rounds start)
    : going state = true ∧ ∃ left, round + left = rounds ∧ holds (left + 1) state := by
  have some_ {left : Nat} {state : α} (kept : holds left state) (goes : going state = true)
      : ∃ before, left = before + 1 := by
    refine Nat.exists_eq_add_one_of_ne_zero fun none => ?_
    subst none
    exact Bool.false_ne_true ((last state kept).symm.trans goes)
  induction reached with
  | first goes =>
      obtain ⟨left, rfl⟩ := some_ first goes
      exact ⟨goes, left, Nat.add_comm .., first⟩
  | next before ran goes ih =>
      obtain ⟨went, left, total, kept⟩ := ih
      have later := yields left _ _ kept went ran
      obtain ⟨fewer, rfl⟩ := some_ later goes
      exact ⟨goes, fewer, by omega, later⟩

/-- Where an assertion holds until a round faults, the loop faults. By induction on the
rounds.
-/
theorem whileLoop_faults {fault : Fault} (never : ∀ state, ¬ holds 0 state)
    (round
      : ∀ rounds state,
          holds (rounds + 1) state
          → going state = true
            ∧ (body state = .error fault
              ∨ ∃ next, body state = .ok (.yield next) ∧ holds rounds next))
    {rounds : Nat} {state : α} (first : holds rounds state)
    : whileLoop going body rounds state = .error fault := by
  induction rounds generalizing state with
  | zero => exact absurd first (never state)
  | succ rounds ih =>
      obtain ⟨goes, faults | ⟨next, ran, kept⟩⟩ := round rounds state first
      · rw [whileLoop, goes, faults]
        rfl
      · rw [whileLoop_yield goes ran]
        exact ih kept

end Loops

-----------------------------------------------------------------------------------------
-- Programs
-----------------------------------------------------------------------------------------

/-- A program: it reads an environment, changes a state, may return an error early and may
fault.
-/
abbrev Program (ρ σ ε : Type) := ReaderT ρ (ExceptT ε (StateT σ Faulty))

namespace Program

variable {ρ σ ε α β : Type}

/-- A check, with the error that is returned where it fails. -/
def require (holds : Prop) [Decidable holds] (error : ε) : Program ρ σ ε Unit :=
  if holds then pure () else throw error

/-- A program that faults. -/
def fault (fault : Fault) : Program ρ σ ε α := fun _ _ => .error fault

/-- In an environment a program ends from every state, with an error or with a result that
meets an assertion.
-/
def Ends (program : Program ρ σ ε α) (environment : ρ) (found : α → Prop) : Prop :=
  ∀ state, ∃ outcome later,
    program environment state = .ok (outcome, later)
    ∧ ∀ value, outcome = .ok value → found value

/-- In an environment a program ends from every state, with a result that meets an
assertion.
-/
def Returns (program : Program ρ σ ε α) (environment : ρ) (found : α → Prop) : Prop :=
  ∀ state, ∃ value later,
    program environment state = .ok (.ok value, later) ∧ found value

/-- In an environment a program faults from every state. -/
def FaultsWith (program : Program ρ σ ε α) (environment : ρ) (fault : Fault) : Prop :=
  ∀ state, program environment state = .error fault

section Rules

variable {environment : ρ} {found : α → Prop} {returns : β → Prop} {fault : Fault}
  {first : Program ρ σ ε α} {rest : α → Program ρ σ ε β}

/-- Where the first part returns a value, the rest goes on from the state it leaves. -/
theorem bind_of_ok {state later : σ} {value : α}
    (ran : first environment state = .ok (.ok value, later))
    : (first >>= rest) environment state = rest value environment later := by
  change (first environment state >>= fun outcome => _) = _
  rw [ran]
  rfl

/-- Where the first part returns an error, the sequence returns it with the state that the
first part leaves.
-/
theorem bind_of_error {state later : σ} {error : ε}
    (ran : first environment state = .ok (.error error, later))
    : (first >>= rest) environment state = .ok (.error error, later) := by
  change (first environment state >>= fun outcome => _) = _
  rw [ran]
  rfl

/-- A sequence that returns a value comes from a first part that returns one, and from the rest
after it. Witness: the state between the two is the one that the first part leaves.
-/
theorem ok_of_bind_ok {state later : σ} {value : β}
    (ran : (first >>= rest) environment state = .ok (.ok value, later))
    : ∃ result between,
        first environment state = .ok (.ok result, between)
        ∧ rest result environment between = .ok (.ok value, later) := by
  cases began : first environment state with
  | error fault =>
      change (first environment state >>= fun outcome => _) = _ at ran
      rw [began] at ran
      cases ran
  | ok result =>
      obtain ⟨result | error, between⟩ := result
      · rw [bind_of_error began] at ran
        cases ran
      · rw [bind_of_ok began] at ran
        exact ⟨_, between, rfl, ran⟩

/-- A sequence ends where its first part does and the rest does after every value it may have.
Witness: an error of the first part is one of the sequence.
-/
theorem Ends.bind (ends : first.Ends environment found)
    (next : ∀ value, found value → (rest value).Ends environment returns)
    : (first >>= rest).Ends environment returns := by
  intro state
  obtain ⟨outcome, later, ran, holds⟩ := ends state
  cases outcome with
  | error error => exact ⟨.error error, later, bind_of_error ran, nofun⟩
  | ok value =>
      rw [bind_of_ok ran]
      exact next value (holds value rfl) later

/-- A sequence returns where its first part does and the rest does after every value it may
have, from the state between them.
-/
theorem Returns.bind (before : first.Returns environment found)
    (next : ∀ value, found value → (rest value).Returns environment returns)
    : (first >>= rest).Returns environment returns := by
  intro state
  obtain ⟨value, later, ran, holds⟩ := before state
  rw [bind_of_ok ran]
  exact next value holds later

/-- A sequence faults where its first part returns and the rest faults after every value it
may have.
-/
theorem FaultsWith.after (before : first.Returns environment found)
    (next : ∀ value, found value → (rest value).FaultsWith environment fault)
    : (first >>= rest).FaultsWith environment fault := by
  intro state
  obtain ⟨value, later, ran, holds⟩ := before state
  rw [bind_of_ok ran]
  exact next value holds later

/-- A sequence faults where its first part does: nothing goes on from a fault. -/
theorem FaultsWith.bind (faults : first.FaultsWith environment fault)
    : (first >>= rest).FaultsWith environment fault := by
  intro state
  change (first environment state >>= fun outcome => _) = _
  rw [faults state]
  rfl

/-- A program that faults from some state does not end. -/
theorem FaultsWith.not_ends (faults : first.FaultsWith environment fault) (state : σ)
    : ¬ first.Ends environment found := by
  intro ends
  obtain ⟨outcome, later, ran, -⟩ := ends state
  rw [faults state] at ran
  cases ran

/-- A value ends every run with itself. -/
theorem Ends.pure {value : α} (holds : found value)
    : (Pure.pure value : Program ρ σ ε α).Ends environment found := by
  intro state
  refine ⟨.ok value, state, rfl, ?_⟩
  rintro _ ⟨⟩
  exact holds

/-- A value is what it returns, from every state. -/
theorem Returns.pure {value : α} (holds : found value)
    : (Pure.pure value : Program ρ σ ε α).Returns environment found :=
  fun state => ⟨value, state, rfl, holds⟩

/-- What is said of the value of a program that ends may be weakened. -/
theorem Ends.weaken {implied : α → Prop} (ends : first.Ends environment found)
    (implies : ∀ value, found value → implied value)
    : first.Ends environment implied := by
  intro state
  obtain ⟨outcome, later, ran, holds⟩ := ends state
  exact ⟨outcome, later, ran, fun value same => implies value (holds value same)⟩

/-- An error ends every run, without a value that anything were to hold of. -/
theorem Ends.throw {error : ε}
    : (MonadExcept.throw error : Program ρ σ ε α).Ends environment found :=
  fun state => ⟨.error error, state, rfl, nofun⟩

/-- A program that returns ends, with its value and no error. -/
theorem Returns.ends (program : first.Returns environment found)
    : first.Ends environment found := by
  intro state
  obtain ⟨value, later, ran, holds⟩ := program state
  refine ⟨.ok value, later, ran, ?_⟩
  rintro _ ⟨⟩
  exact holds

/-- Reading the environment returns it, from every state. -/
theorem read_returns
    : (read : Program ρ σ ε ρ).Returns environment (· = environment) :=
  fun state => ⟨environment, state, rfl, rfl⟩

/-- Reading the state returns from every state. -/
theorem get_returns : (get : Program ρ σ ε σ).Returns environment (fun _ => True) :=
  fun state => ⟨state, state, rfl, trivial⟩

/-- An update of the state returns from every state. -/
theorem modify_returns {update : σ → σ}
    : (modify update : Program ρ σ ε PUnit).Returns environment (fun _ => True) :=
  fun state => ⟨⟨⟩, update state, rfl, trivial⟩

/-- A check ends every run, and where it has a value it holds. Witness: the two branches of
the check.
-/
theorem require_ends {holds : Prop} [Decidable holds] {error : ε}
    : (require holds error : Program ρ σ ε Unit).Ends environment (fun _ => holds) := by
  unfold require
  split
  next holds => exact .pure holds
  next => exact .throw

/-- A check that is known to hold returns from every state. -/
theorem require_returns {holds : Prop} [Decidable holds] {error : ε} (known : holds)
    : (require holds error : Program ρ σ ε Unit).Returns environment (fun _ => True) := by
  rw [require, if_pos known]
  exact .pure trivial

/-- A computation with a known value returns it, from every state. -/
theorem lift_returns {computation : Faulty α} {value : α} (ran : computation = .ok value)
    : (liftM computation : Program ρ σ ε α).Returns environment (· = value) := by
  subst ran
  exact fun state => ⟨value, state, rfl, rfl⟩

/-- A computation that faults does so as a program, from every state. -/
theorem lift_faults {computation : Faulty α} (faulted : computation = .error fault)
    : (liftM computation : Program ρ σ ε α).FaultsWith environment fault := by
  subst faulted
  exact fun _ => rfl

end Rules

end Program

end RtlTcpAndro.Faults
