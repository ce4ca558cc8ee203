import RtlTcpAndro.SdrTcp.BufferOwners

/-! Sessions of one object that follow one another: the object is initialised again only
once every server thread of an earlier session has finished with it.
-/

namespace RtlTcpAndro.SdrTcp

open RtlTcpAndro.Interleaving

/-- A server thread that is done with the object. -/
def ServerPoint.finished : ServerPoint → Bool
  | .closedcb | .exited => true
  | _ => false

/-- The owner has initialised the object and not yet created the session's thread. -/
def OwnerPoint.renewed : OwnerPoint → Bool
  | .opening _ .testUninitialized | .opening _ .clearListenSocket | .opening _ .initialise
  | .opening _ .fail => false
  | .opening _ _ => true
  | .opened success => success
  | .serving _ => true
  | .idle => false

/-- An initialisation finds the server threads of earlier sessions finished. -/
def World.successive (world : World) : Event → Prop
  | .owner _ =>
      match world.owner with
      | .opening _ .initialise =>
          ∀ session < world.servers, (world.server session).finished = true
      | _ => True
  | _ => True

instance (world : World) (event : Event) : Decidable (world.successive event) :=
  let test : Bool :=
    match event with
    | .owner _ =>
        match world.owner with
        | .opening _ .initialise =>
            decide (∀ session < world.servers, (world.server session).finished = true)
        | _ => true
    | _ => true
  decidable_of_iff (test = true) (by
    unfold World.successive
    simp only [test]
    split <;> try split
    all_goals simp only [decide_eq_true_eq])

/-- What successive sessions keep of their server threads. -/
structure World.Successive (world : World) : Prop where
  absent : ∀ session, world.servers ≤ session → world.server session = .notStarted
  earlier
    : ∀ session, session + 1 < world.servers → (world.server session).finished = true
  renewed
    : world.owner.renewed = true
      → ∀ session < world.servers, (world.server session).finished = true

/-- The server thread of the latest session that has one. -/
def World.current (world : World) : ServerPoint := world.server (world.servers - 1)

/-- Only the latest server thread can be running. -/
theorem World.Successive.latest {world : World} (successive : world.Successive) {session : Nat}
    (started : world.server session ≠ .notStarted)
    (running : (world.server session).finished = false)
    : session + 1 = world.servers := by
  by_contra other
  rcases Nat.lt_or_ge session world.servers with exists_ | absent
  · have finished := successive.earlier session (by omega)
    rw [running] at finished
    cases finished
  · exact started (successive.absent session absent)

/-- A finished server thread stays so. -/
theorem tcpServer_finished {shared after : Shared} {reply : Reply} {joined : Bool}
    {pos next : ServerPoint} (moved : tcpServer shared reply joined pos = some (after, next))
    (finished : pos.finished = true)
    : next.finished = true := by
  cases pos with
  | closedcb => cases moved; rfl
  | exited => cases moved
  | _ => cases finished

/-- A call of `sdrtcp_open_socket` gets past the initialisation only through it. -/
theorem sdrtcpOpenSocket_renewed {arguments : OpenArguments} {shared after : Shared}
    {reply : Reply} {pos : OpenPoint} {progress : Progress OpenPoint Bool}
    (moved : sdrtcpOpenSocket arguments shared reply pos = some (after, progress))
    (renewed : (OwnerPoint.ofOpening arguments progress).renewed = true)
    : (OwnerPoint.opening arguments pos).renewed = true ∨ pos = .initialise := by
  cases pos with
  | testUninitialized | clearListenSocket =>
      simp only [sdrtcpOpenSocket] at moved
      try split at moved
      all_goals
        cases moved
        cases renewed
  | initialise => exact .inr rfl
  | fail =>
      obtain ⟨-, result⟩ := Shared.locked_eq_some.mp moved
      cases result
      cases renewed
  | _ => exact .inl rfl

/-- Every step keeps the sessions in succession. -/
theorem World.Fires.successive {world next : World} {event : Event}
    (fires : world.Fires event next) (orderly : world.successive event)
    (successive : world.Successive)
    : next.Successive := by
  cases fires with
  | openSocket => exact ⟨successive.absent, successive.earlier, nofun⟩
  | serveClientAsync opened =>
      exact ⟨successive.absent, successive.earlier,
        fun _ => successive.renewed (by rw [opened]; rfl)⟩
  | opening inside moved | opened inside moved =>
      refine ⟨successive.absent, successive.earlier, fun renewed => ?_⟩
      rcases sdrtcpOpenSocket_renewed moved renewed with before | rfl
      · exact successive.renewed (by rw [inside]; exact before)
      · simpa only [World.successive, inside] using orderly
  | serving inside moved =>
      exact ⟨successive.absent, successive.earlier,
        fun _ => successive.renewed (by rw [inside]; rfl)⟩
  | refused => exact ⟨successive.absent, successive.earlier, nofun⟩
  | created inside moved =>
      have finished := successive.renewed (by rw [inside]; rfl)
      refine ⟨?_, ?_, nofun⟩
      · intro session later
        have later : world.servers + 1 ≤ session := later
        exact (Function.update_of_ne (by omega) ..).trans (successive.absent session (by omega))
      · intro session earlier
        have earlier : session + 1 < world.servers + 1 := earlier
        dsimp only
        rw [Function.update_of_ne (by omega)]
        exact finished session (by omega)
  | @server index reply shared pos moved =>
      have kept (session : Nat) (finished : (world.server session).finished = true)
          : (Function.update world.server index pos session).finished = true := by
        by_cases same : session = index
        · subst same
          rw [Function.update_self]
          exact tcpServer_finished moved finished
        · rwa [Function.update_of_ne same]
      refine ⟨?_, fun session earlier => kept session (successive.earlier session earlier),
        fun renewed session exists_ => kept session (successive.renewed renewed session exists_)⟩
      intro session absent
      have notStarted := successive.absent session absent
      have other : session ≠ index := by
        intro same
        subst same
        rw [notStarted] at moved
        cases moved
      exact (Function.update_of_ne other ..).trans notStarted
  | feed | stop | feeder | listener | stopper =>
      exact ⟨successive.absent, successive.earlier, successive.renewed⟩

/-- The owner gets past the initialisation only through it. -/
theorem World.Fires.renewed {world next : World} {event : Event}
    (fires : world.Fires event next) (renewed : next.owner.renewed = true)
    : world.owner.renewed = true ∨ world.stores event = some .initialized := by
  cases fires with
  | openSocket | refused | created => cases renewed
  | serveClientAsync opened => exact .inl (by rw [opened]; rfl)
  | opening inside moved | opened inside moved =>
      rcases sdrtcpOpenSocket_renewed moved renewed with before | rfl
      · exact .inl (by rw [inside]; exact before)
      · exact .inr (by simp only [World.stores, inside]; rfl)
  | serving inside moved => exact .inl (by rw [inside]; rfl)
  | feed | stop | feeder | server | listener | stopper => exact .inl renewed

/-- A server thread is created by an owner that has initialised the object. -/
theorem World.Fires.servers {world next : World} {event : Event}
    (fires : world.Fires event next)
    : next.servers = world.servers
      ∨ world.owner.renewed = true ∧ next.servers = world.servers + 1 := by
  rcases fires.launches with same | ⟨⟨pos, inside⟩, grown⟩
  · exact .inl same
  · exact .inr ⟨by rw [inside]; rfl, grown⟩

/-- A server thread outside `serveClient`, or at its beginning. -/
def ServerPoint.Idle (pos : ServerPoint) : Prop := ∀ inner, pos = .serving inner → inner = .loop

/-- A step aside from the stream moves the latest server thread outside `serveClient` only. -/
theorem World.Fires.current {world next : World} {event : Event}
    (fires : world.Fires event next) (successive : world.Successive)
    (serving
      : ∀ session,
          next.server session = world.server session
          ∨ (world.servers ≤ session ∨ ∀ pos, world.server session ≠ .serving pos)
            ∧ ∀ pos, next.server session = .serving pos → pos = .loop)
    : next.current = world.current ∨ world.current.Idle ∧ next.current.Idle := by
  unfold World.current ServerPoint.Idle
  rcases fires.servers with same | ⟨renewed, grown⟩
  · rw [same]
    rcases serving (world.servers - 1) with unmoved | ⟨outside, entered⟩
    · exact .inl unmoved
    · refine .inr ⟨?_, entered⟩
      intro inner position
      rcases outside with absent | outside
      · rw [successive.absent _ absent] at position
        cases position
      · exact absurd position (outside inner)
  · refine .inr ⟨?_, ?_⟩
    · intro inner position
      rcases Nat.eq_zero_or_pos world.servers with none_ | positive
      · rw [successive.absent _ (by omega)] at position
        cases position
      · have finished := successive.renewed renewed (world.servers - 1) (by omega)
        rw [position] at finished
        cases finished
    · intro inner position
      rw [grown, Nat.add_sub_cancel] at position
      rcases serving world.servers with unmoved | ⟨-, entered⟩
      · rw [unmoved, successive.absent _ (Nat.le_refl _)] at position
        cases position
      · exact entered inner position

end RtlTcpAndro.SdrTcp
