import RtlTcpAndro.RtlSdrDevice.OpenAsync

/-! What the position of `openAsync` tells of its session: whether `dev->rtl_dev` is set, how
often the socket was opened, and whether a server thread can exist.
-/

namespace RtlTcpAndro.RtlSdrDevice

open RtlTcpAndro.Interleaving RtlTcpAndro.SdrTcp

/-- `dev->rtl_dev` is the device: from its store to the store of NULL. -/
def OpenAsyncPoint.holds : OpenAsyncPoint → Bool
  | .serveClientAsync | .serving | .announceOnOpen | .readAsync _ _ _ | .clearDevice _ => true
  | _ => false

/-- `sdrtcp_open_socket` has not been entered. -/
def OpenAsyncPoint.unopened : OpenAsyncPoint → Bool
  | .open2 | .configure | .openSocket => true
  | _ => false

/-- `sdrtcp_serve_client_async` may have been entered. -/
def OpenAsyncPoint.launched : OpenAsyncPoint → Bool
  | .open2 | .configure | .openSocket | .opening | .storeDevice | .serveClientAsync
  | .closeFailed _ => false
  | _ => true

/-- The rtl_tcp server around a position of `openAsync`. -/
structure OpenAsyncPoint.Governs (caller : OpenAsyncPoint) (world : World) : Prop where
  unopened : caller.unopened = true → world.opens = 0
  once : world.opens ≤ 1
  serving : ∀ pos, world.owner = .serving pos → caller = .serving
  launched : world.servers ≠ 0 → caller.launched = true

/-- The session in step with `openAsync`. -/
structure Native.Ordered (native : Native) : Prop where
  held : native.rtlDev = native.caller.holds
  governs : native.caller.Governs native.world

namespace OpenAsyncPoint

variable {caller following : OpenAsyncPoint} {world next : World} {inner : Event}

/-- A step within `openAsync` neither stores nor clears the device. -/
theorem Advances.holds {owner : OwnerPoint} (step : caller.Advances owner following)
    : following.holds = caller.holds := by
  cases step <;> rfl

/-- A step of the server neither stores nor clears the device. -/
theorem Drives.holds (step : caller.Drives inner following)
    : following.holds = caller.holds := by
  cases step <;> rfl

/-- A move outside `sdrtcp_serve_client_async` that goes forward. -/
theorem Governs.moved (governs : caller.Governs world) (outside : caller ≠ .serving)
    (opened : caller.unopened = false → following.unopened = false)
    (launched : caller.launched = true → following.launched = true)
    : following.Governs world where
  unopened before := by
    cases unopened : caller.unopened with
    | true => exact governs.unopened unopened
    | false =>
        rw [opened unopened] at before
        cases before
  once := governs.once
  serving pos inside := absurd (governs.serving pos inside) outside
  launched exists_ := launched (governs.launched exists_)

/-- The steps that only move `openAsync`. -/
theorem Governs.advanced (governs : caller.Governs world)
    (step : caller.Advances world.owner following)
    : following.Governs world := by
  cases step with
  | served outside =>
      refine ⟨nofun, governs.once, ?_, fun _ => rfl⟩
      intro pos inside
      rw [outside] at inside
      cases inside
  | failed | opened | misconfigured | configured =>
      exact governs.moved nofun nofun nofun
  | _ => exact governs.moved nofun (fun _ => rfl) (fun launched => launched)

/-- The steps of other threads. -/
theorem Governs.others (governs : caller.Governs world)
    (moved : world.step inner = some next) (opened : ∀ arguments, inner ≠ .openSocket arguments)
    (unserved : inner ≠ .serveClientAsync)
    : caller.Governs next := by
  have fires := World.step_cases moved
  have opens : next.opens = world.opens := by
    rcases fires.opens with same | ⟨⟨arguments, rfl⟩, -⟩
    · exact same
    · exact absurd rfl (opened arguments)
  refine ⟨opens ▸ governs.unopened, opens ▸ governs.once, ?_, ?_⟩
  · intro pos inside
    rcases fires.serving_of_owner inside with ⟨before, inside⟩ | called
    · exact governs.serving before inside
    · exact absurd called unserved
  · intro exists_
    rcases fires.launches with same | ⟨⟨pos, inside⟩, -⟩
    · exact governs.launched (same ▸ exists_)
    · rw [governs.serving pos inside]
      rfl

/-- The steps that `openAsync` makes in the server. -/
theorem Governs.driven (governs : caller.Governs world) (step : caller.Drives inner following)
    (moved : world.step inner = some next)
    : following.Governs next := by
  cases step with
  | openSocket =>
      have fires := World.step_cases moved
      refine ⟨nofun, ?_, ?_, ?_⟩
      · have none_ := governs.unopened rfl
        rcases fires.opens with same | ⟨-, grown⟩ <;> omega
      · intro pos inside
        rcases fires.serving_of_owner inside with ⟨before, inside⟩ | called
        · cases governs.serving before inside
        · cases called
      · intro exists_
        rcases fires.launches with same | ⟨⟨pos, inside⟩, -⟩
        · cases governs.launched (same ▸ exists_)
        · cases governs.serving pos inside
  | serveClientAsync =>
      have fires := World.step_cases moved
      refine ⟨nofun, ?_, fun _ _ => rfl, fun _ => rfl⟩
      rcases fires.opens with same | ⟨⟨_, other⟩, -⟩
      · exact same ▸ governs.once
      · cases other
  | feed | stopServing =>
      exact (governs.others moved nofun nofun).moved nofun (fun _ => rfl) (fun _ => rfl)
  | _ => exact governs.others moved nofun nofun

end OpenAsyncPoint

/-- Every step keeps the session in step with `openAsync`. -/
theorem Native.Fires.ordered {native next : Native} {event : NativeEvent}
    (fires : native.Fires event next) (ordered : native.Ordered)
    : next.Ordered := by
  obtain ⟨held, governs⟩ := ordered
  cases fires with
  | advances step => exact ⟨held.trans step.holds.symm, governs.advanced step⟩
  | drives step moved => exact ⟨held.trans step.holds.symm, governs.driven step moved⟩
  | stored position =>
      rw [position] at governs
      exact ⟨rfl, governs.moved nofun (fun _ => rfl) nofun⟩
  | cleared position =>
      rw [position] at governs
      exact ⟨rfl, governs.moved nofun (fun _ => rfl) (fun _ => rfl)⟩
  | reads position | read position | lost position | cancels position =>
      rw [position] at held governs
      exact ⟨held, governs.moved nofun (fun _ => rfl) (fun _ => rfl)⟩
  | closes position following =>
      rw [position] at held governs
      rcases following with ⟨_, rfl⟩ | rfl <;>
        exact ⟨held, governs.moved nofun (fun _ => rfl) (fun _ => rfl)⟩
  | closesFailed position following =>
      rw [position] at held governs
      rcases following with ⟨_, rfl⟩ | rfl <;>
        exact ⟨held, governs.moved nofun (fun _ => rfl) nofun⟩
  | loads | cancelling | commands => exact ⟨held, governs⟩
  | @ignored thread _ _ _ moved | @cancelled thread _ _ _ _ _ _ moved =>
      refine ⟨held, governs.others moved ?_ ?_⟩ <;> cases thread <;> exact nofun
  | commanded _ other moved =>
      refine ⟨held, governs.others moved ?_ ?_⟩ <;>
        rcases other with ⟨_, rfl | rfl⟩ | ⟨_, rfl⟩ <;> exact nofun
  | thread outside moved =>
      refine ⟨held, governs.others moved ?_ ?_⟩ <;> intros <;> intro same <;>
        subst same <;> cases outside

/-- The session is in step with `openAsync` on every run. -/
theorem ordered_of_reachable {native : Native} (reachable : openAsync.Reachable native)
    : native.Ordered := by
  refine reachable.invariant Native.Ordered ?_ ?_
  · intro start initial
    obtain ⟨workpool, rfl⟩ := initial
    exact ⟨rfl, fun _ => rfl, Nat.zero_le _, nofun, fun exists_ => absurd rfl exists_⟩
  · intro current choice next _ known fired
    exact (Native.step_cases fired).ordered known

end RtlTcpAndro.RtlSdrDevice
