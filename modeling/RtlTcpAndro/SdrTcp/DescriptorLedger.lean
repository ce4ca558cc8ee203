import RtlTcpAndro.SdrTcp.StateWord

/-! A ledger of descriptors over any number of sessions.
Every listening socket is closed by the cleanup or still awaits it in `listen_socket`; the
accepted sockets are in no such account.
-/

namespace RtlTcpAndro.SdrTcp

open RtlTcpAndro.Interleaving

/-- The descriptors that were closed, and the one the next cleanup closes. -/
def Control.pledged (control : Control) : List Int :=
  if control.listenSocket = -1 then control.descriptors.closed
  else control.listenSocket :: control.descriptors.closed

/-- What every step but those of an opening owner does to the ledger: it closes a pledged
descriptor at most, and leaves `STAGE_UNINITIALIZED` behind only with no descriptor pledged.
-/
structure Control.Settles (before after : Control) : Prop where
  pledged : after.pledged = before.pledged
  sockets : after.descriptors.sockets = before.descriptors.sockets
  listen
    : after.listenSocket = -1
      ∨ after.listenSocket = before.listenSocket
        ∧ (after.state = .uninitialized → before.state = .uninitialized)

/-- A step that does not touch the ledger settles it. -/
theorem Control.Settles.refl (control : Control) : control.Settles control :=
  ⟨rfl, rfl, .inr ⟨rfl, id⟩⟩

/-- A store of another stage than `STAGE_UNINITIALIZED` settles the ledger. -/
theorem Control.settles_of_store {before after : Control} {stage : Stage}
    (stored : after = { before with state := stage }) (live : stage ≠ .uninitialized)
    : before.Settles after := by
  subst stored
  exact ⟨rfl, rfl, .inr ⟨rfl, fun fresh => absurd fresh live⟩⟩

/-- The cleanup closes the pledged descriptor and pledges no other. -/
theorem cleanupSection_settles (control : Control)
    : control.Settles (cleanupSection control) := by
  by_cases fresh : control.state = .uninitialized
  · rw [cleanupSection_of_uninitialized fresh]
    exact .refl control
  · rw [cleanupSection_of_live fresh]
    refine ⟨?_, ?_, .inl rfl⟩ <;> by_cases missing : control.listenSocket = -1 <;>
      simp [Control.pledged, Descriptors.close, missing]

/-- Every step but those inside `sdrtcp_open_socket` settles the ledger. -/
theorem World.Writes.settles {world : World} {event : Event} {after : Control}
    (writes : world.Writes event after)
    (other
      : ∀ arguments pos reply,
          world.owner = .opening arguments pos → event ≠ .owner reply)
    : world.shared.control.Settles after := by
  cases writes with
  | moved history =>
      cases cleaned : world.cleansUp event with
      | true =>
          have effect := cleanupSection_settles world.shared.control
          exact ⟨effect.pledged, effect.sockets, effect.listen⟩
      | false =>
          refine ⟨rfl, rfl, .inr ⟨rfl, ?_⟩⟩
          cases stored : world.stores event with
          | none => exact id
          | some stage =>
              intro fresh
              have fresh : stage = .uninitialized := fresh
              exact (World.stores_live (fresh ▸ stored)).elim
  | clientDropped => exact ⟨rfl, rfl, .inr ⟨rfl, id⟩⟩
  | @clientAccepted _ _ result =>
      refine ⟨?_, ?_, .inr ⟨rfl, id⟩⟩ <;> by_cases failed : result = -1 <;>
        simp [Control.pledged, Descriptors.accept, failed]
  | listenDropped chosen position | listenCreated chosen position =>
      exact absurd chosen (other _ _ _ position)

/-- The owner is about to publish what `socket` returned. -/
def OwnerPoint.publishing : OwnerPoint → Bool
  | .opening _ .publishSocket => true
  | _ => false

/-- The owner has found the object uninitialized and has no socket yet. -/
def OwnerPoint.socketless : OwnerPoint → Bool
  | .opening _ .clearListenSocket => true
  | .opening _ .initialise => true
  | .opening _ .testInitialized => true
  | .opening _ .createSocket => true
  | _ => false

/-- The ledger balances: closed and pledged descriptors are exactly the listening sockets
obtained so far, and an uninitialized object has none pledged unless a cleanup overtook an
opening owner between `socket` and its store.
-/
structure Balanced (control : Control) (owner : OwnerPoint) : Prop where
  ledger : control.pledged.Perm control.descriptors.sockets
  dropped
    : control.state = .uninitialized
      → owner.publishing = false
      → control.listenSocket = -1
  socketless : owner.socketless = true → control.listenSocket = -1

/-- A step that settles the ledger keeps it balanced when the owner runs no new risk. -/
theorem Balanced.of_settles {before after : Control} {owner following : OwnerPoint}
    (balanced : Balanced before owner) (settles : before.Settles after)
    (publishing : owner.publishing = true → following.publishing = true)
    (socketless : following.socketless = true → owner.socketless = true)
    : Balanced after following where
  ledger := settles.pledged ▸ settles.sockets ▸ balanced.ledger
  dropped fresh outside := by
    rcases settles.listen with cleared | ⟨same, earlier⟩
    · exact cleared
    · have outside : owner.publishing = false := by
        cases inside : owner.publishing with
        | false => rfl
        | true => rw [publishing inside] at outside; cases outside
      rw [same, balanced.dropped (earlier fresh) outside]
  socketless early := by
    rcases settles.listen with cleared | ⟨same, -⟩
    · exact cleared
    · rw [same, balanced.socketless (socketless early)]

/-- A step of another thread that settles the ledger keeps it balanced. -/
theorem Balanced.settled {before after : Control} {owner : OwnerPoint}
    (balanced : Balanced before owner) (settles : before.Settles after)
    : Balanced after owner :=
  balanced.of_settles settles id id

/-- `sdrtcp_open_socket` keeps the ledger balanced, by cases on its position: it pledges what
`socket` returned, and drops `listen_socket` only while nothing is pledged.
-/
theorem Balanced.opening {shared after : Shared} {arguments : OpenArguments} {reply : Reply}
    {pos : OpenPoint} {progress : Progress OpenPoint Bool}
    (balanced : Balanced shared.control (.opening arguments pos))
    (moved : sdrtcpOpenSocket arguments shared reply pos = some (after, progress))
    : Balanced after.control (.ofOpening arguments progress) := by
  cases pos with
  | testUninitialized =>
      simp only [sdrtcpOpenSocket] at moved
      split at moved <;> cases moved
      · exact balanced.of_settles (.refl _) (by simp [OwnerPoint.publishing])
          (by simp [OwnerPoint.ofOpening, OwnerPoint.socketless])
      · rename_i fresh
        have unset := balanced.dropped (by simpa using fresh) rfl
        exact ⟨balanced.ledger, fun _ _ => unset, fun _ => unset⟩
  | clearListenSocket =>
      have unset := balanced.socketless rfl
      cases moved
      refine ⟨?_, fun _ _ => rfl, fun _ => rfl⟩
      simpa [Control.pledged, unset] using balanced.ledger
  | initialise =>
      cases reply with
      | bytes junk =>
          obtain ⟨ready, initialised, rest⟩ := Option.bind_eq_some_iff.mp moved
          obtain ⟨-, result⟩ := Shared.locked_eq_some.mp rest
          cases result
          exact balanced.of_settles
            (Control.settles_of_store (initialise_control initialised) (by simp))
            (by simp [OwnerPoint.publishing]) (by simp [OwnerPoint.socketless])
      | _ => cases moved
  | testInitialized =>
      have unset := balanced.socketless rfl
      simp only [sdrtcpOpenSocket] at moved
      split at moved <;> cases moved
      all_goals exact ⟨balanced.ledger, fun _ _ => unset, fun _ => unset⟩
  | createSocket =>
      have unset := balanced.socketless rfl
      have ledger := balanced.ledger
      simp only [Control.pledged, unset, if_true] at ledger
      cases reply with
      | value result =>
          simp only [sdrtcpOpenSocket] at moved
          split at moved <;> cases moved
          refine ⟨?_, by simp [OwnerPoint.ofOpening, OwnerPoint.publishing],
            by simp [OwnerPoint.ofOpening, OwnerPoint.socketless]⟩
          by_cases failed : result = -1
          · simpa [Control.pledged, Descriptors.socket, failed] using ledger
          · simpa [Control.pledged, Descriptors.socket, failed] using ledger
      | _ => cases moved
  | publishSocket =>
      obtain ⟨-, result⟩ := Shared.locked_eq_some.mp moved
      cases result
      by_cases missing : shared.control.listenSocket = -1
      · simp only [missing, ne_eq, not_true_eq_false, if_false]
        exact ⟨balanced.ledger, fun _ _ => missing, fun _ => missing⟩
      · simp only [missing, ne_eq, not_false_eq_true, if_true]
        exact ⟨balanced.ledger, by rintro ⟨⟩, by rintro ⟨⟩⟩
  | bindAndListen =>
      cases reply with
      | value result =>
          cases moved
          exact balanced.of_settles (.refl _) (by simp [OwnerPoint.publishing])
            (by simp [OwnerPoint.ofOpening, OwnerPoint.socketless])
      | _ => cases moved
  | fail =>
      obtain ⟨-, result⟩ := Shared.locked_eq_some.mp moved
      cases result
      exact balanced.of_settles (cleanupSection_settles _) (by simp [OwnerPoint.publishing])
        (by simp [OwnerPoint.ofOpening, OwnerPoint.socketless])
  | _ =>
      simp only [sdrtcpOpenSocket] at moved
      split at moved <;> cases moved
      all_goals
        exact balanced.of_settles (.refl _) (by simp [OwnerPoint.publishing])
          (by simp [OwnerPoint.ofOpening, OwnerPoint.socketless])

/-- Every step of every thread keeps the ledger balanced. -/
theorem World.Fires.balanced {world next : World} {event : Event}
    (fires : world.Fires event next) (balanced : Balanced world.shared.control world.owner)
    : Balanced next.shared.control next.owner := by
  cases fires with
  | openSocket outside =>
      have calm : world.owner.publishing = false := by
        rcases outside with idle | ⟨success, opened⟩
        · rw [idle]; rfl
        · rw [opened]; rfl
      exact ⟨balanced.ledger, fun fresh _ => balanced.dropped fresh calm,
        fun early => by cases early⟩
  | serveClientAsync opened =>
      exact balanced.of_settles (.refl _) (by simp [opened, OwnerPoint.publishing])
        (by simp [OwnerPoint.socketless])
  | feed | stop => exact balanced
  | opening inside moved => exact (inside ▸ balanced).opening moved
  | opened inside moved => exact (inside ▸ balanced).opening moved
  | @serving reply _ _ _ inside moved | @refused reply _ _ inside moved
  | @created reply _ _ inside moved =>
      have writes := @World.writes_of_serving world reply _ _ _ inside moved
      exact balanced.of_settles (writes.settles (by simp [inside]))
        (by simp [inside, OwnerPoint.publishing]) (by simp [OwnerPoint.socketless])
  | feeder moved => exact balanced.settled (sdrtcpFeed_control moved ▸ .refl _)
  | server moved =>
      exact balanced.settled ((World.Fires.server moved).writes.settles (by simp))
  | listener moved =>
      exact balanced.settled ((World.Fires.listener moved).writes.settles (by simp))
  | stopper moved =>
      exact balanced.settled ((World.Fires.stopper moved).writes.settles (by simp))

/-- The ledger balances in every reachable state, whatever the number of sessions. -/
theorem balanced_of_reachable {world : World} (reachable : server.Reachable world)
    : Balanced world.shared.control world.owner := by
  refine reachable.invariant (fun world => Balanced world.shared.control world.owner) ?_ ?_
  · intro start initial
    obtain ⟨workpool, rfl⟩ := initial
    exact ⟨.refl _, fun _ _ => rfl, fun _ => rfl⟩
  · intro current choice next _ known fired
    exact (World.step_cases fired).balanced known

/-- Every descriptor obtained so far has been closed exactly once if and only if no client
was ever accepted and no listening socket is open. For an object that is back in
`STAGE_UNINITIALIZED` the latter fails only when a cleanup has overtaken an
`sdrtcp_open_socket` between its `socket` and its store.
-/
theorem descriptors_conserved_iff {world : World} (reachable : server.Reachable world)
    (fresh : world.shared.control.descriptors.obtained.Nodup)
    : (∀ descriptor ∈ world.shared.control.descriptors.obtained,
        world.shared.control.descriptors.closed.count descriptor = 1)
      ↔ world.shared.control.descriptors.accepted = []
        ∧ world.shared.control.listenSocket = -1 := by
  have ledger := (balanced_of_reachable reachable).ledger
  obtain ⟨unique, -, disjoint⟩ := List.nodup_append.mp fresh
  have pledgedUnique := ledger.nodup_iff.mpr unique
  constructor
  · intro conserved
    have settled : world.shared.control.listenSocket = -1 := by
      by_contra pledged
      simp only [Control.pledged, pledged, if_false] at ledger pledgedUnique
      have member : world.shared.control.listenSocket
          ∈ world.shared.control.descriptors.sockets :=
        ledger.mem_iff.mp List.mem_cons_self
      have once := conserved _ (List.mem_append_left _ member)
      have closed := List.count_pos_iff.mp (Nat.lt_of_lt_of_eq Nat.one_pos once.symm)
      exact (List.nodup_cons.mp pledgedUnique).1 closed
    refine ⟨List.eq_nil_iff_forall_not_mem.mpr ?_, settled⟩
    intro descriptor accepted
    have once := conserved descriptor (List.mem_append_right _ accepted)
    have closed := List.count_pos_iff.mp (Nat.lt_of_lt_of_eq Nat.one_pos once.symm)
    simp only [Control.pledged, settled, if_true] at ledger
    exact disjoint descriptor (ledger.mem_iff.mp closed) descriptor accepted rfl
  · rintro ⟨unaccepted, settled⟩ descriptor member
    simp only [Control.pledged, settled, if_true] at ledger pledgedUnique
    simp only [Descriptors.obtained, unaccepted, List.append_nil] at member
    exact List.count_eq_one_of_mem pledgedUnique (ledger.mem_iff.mpr member)

/-- A session whose `bind` fails conserves its descriptor. -/
theorem descriptors_conserved_after_failed_bind
    : ∃ world,
        server.Reachable world
        ∧ world.shared.control.descriptors.obtained = [3]
        ∧ world.shared.control.descriptors.closed.count 3 = 1 := by
  have replayed
      : (server.run (World.initial .zeroed)
            (servingSchedule.take 8 ++ [.owner (.value (-1)), .owner .none, .owner .none])).map
          (fun world => world.shared.control)
        = some
            { state := .uninitialized
              clientSocket := -1
              listenSocket := -1
              descriptors := ⟨[3], [], [], [3]⟩
              history := ⟨false, false, false⟩ } := by
    decide +kernel
  obtain ⟨world, reachable, control⟩ :=
    System.exists_reachable_of_run replayed ⟨.zeroed, rfl⟩
  have conserved :=
    (descriptors_conserved_iff reachable (by rw [control]; decide)).mpr
      ⟨by rw [control], by rw [control]⟩
  refine ⟨world, reachable, by rw [control]; rfl, conserved 3 ?_⟩
  rw [control]
  decide

/-- A session that serves a client and is stopped, up to the end of its server thread. -/
def servedSchedule : List Event :=
  servingSchedule ++ acceptingSchedule
  ++ [.server 0 .none, .server 0 .none, .server 0 .none, .server 0 .none, .server 0 .none,
    .stop 0, .stopper 0, .stopper 0, .stopper 0, .server 0 .none, .listener 0 .none,
    .server 0 .none, .server 0 .none, .server 0 .none, .server 0 .none]

/-- The accepted socket of a session that served its client is never closed. -/
theorem client_descriptor_leaked
    : ¬ ∀ world,
        server.Reachable world
        → world.shared.control.descriptors.obtained.Nodup
        → world.shared.control.state = .uninitialized
        → (∀ session, session < world.servers → world.server session = .exited)
        → ∀ descriptor ∈ world.shared.control.descriptors.obtained,
            world.shared.control.descriptors.closed.count descriptor = 1 := by
  intro claim
  have replayed
      : (server.run (World.initial .zeroed) servedSchedule).map
          (fun world => (world.shared.control, world.server 0, world.servers))
        = some
            ({ state := .uninitialized
               clientSocket := -1
               listenSocket := -1
               descriptors := ⟨[3], [4], [4], [3]⟩
               history := ⟨true, true, false⟩ }, .exited, 1) := by
    decide +kernel
  obtain ⟨world, reachable, seen⟩ :=
    System.exists_reachable_of_run replayed ⟨.zeroed, rfl⟩
  simp only [Prod.mk.injEq] at seen
  obtain ⟨control, exited, servers⟩ := seen
  have closed := claim world reachable (by rw [control]; decide) (by rw [control])
    (by intro session earlier; rw [show session = 0 by omega, exited]) 4
    (by rw [control]; decide)
  rw [control] at closed
  revert closed
  decide

end RtlTcpAndro.SdrTcp
