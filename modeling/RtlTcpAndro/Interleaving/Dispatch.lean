import Mathlib.Logic.Function.Basic

/-! Parties that take requests from one queue and start them.
A party holds the request it took until it starts it. When nobody takes a request while
another one is held, requests are started in the order in which they were queued.
-/

namespace RtlTcpAndro.Interleaving

/-- Every request queued so far, those still pending, those started, and the request each
party holds.
-/
structure Desk (κ ρ : Type) where
  queued : List ρ
  pending : List ρ
  started : List ρ
  holds : κ → Option ρ

namespace Desk

variable {κ ρ : Type} {desk : Desk κ ρ}

/-- Every queued request is started, held by the only party that holds one, or pending, in
this order.
-/
structure InOrder (desk : Desk κ ρ) : Prop where
  alone
    : ∀ party other request more,
        desk.holds party = some request → desk.holds other = some more → party = other
  held
    : ∀ party request,
        desk.holds party = some request
        → desk.queued = desk.started ++ request :: desk.pending
  free
    : (∀ party, desk.holds party = none) → desk.queued = desk.started ++ desk.pending

/-- Requests in order are started at most once and in the order of the queue. -/
theorem InOrder.started_prefix (inOrder : desk.InOrder)
    : desk.started <+: desk.queued := by
  by_cases free : ∀ party, desk.holds party = none
  · rw [inOrder.free free]
    exact List.prefix_append ..
  · obtain ⟨party, holding⟩ := Classical.not_forall.mp free
    obtain ⟨request, held⟩ := Option.ne_none_iff_exists'.mp holding
    rw [inOrder.held party request held]
    exact List.prefix_append ..

/-- A new request goes to the end of the queue. -/
theorem InOrder.queue (inOrder : desk.InOrder) (request : ρ)
    : ({ desk with
          queued := desk.queued ++ [request]
          pending := desk.pending ++ [request] } : Desk κ ρ).InOrder where
  alone := inOrder.alone
  held party taken holding := by simp [inOrder.held party taken holding]
  free unheld := by simp [inOrder.free unheld]

variable [DecidableEq κ]

/-- A party takes the first pending request while no request is held. -/
theorem InOrder.take (inOrder : desk.InOrder) (party : κ) {request : ρ} {rest : List ρ}
    (head : desk.pending = request :: rest) (unheld : ∀ party, desk.holds party = none)
    : ({ desk with
          pending := rest
          holds := Function.update desk.holds party (some request) } : Desk κ ρ).InOrder := by
  have only (other : κ) (taken : ρ)
      (holding : Function.update desk.holds party (some request) other = some taken)
      : other = party ∧ taken = request := by
    by_cases same : other = party
    · rw [same, Function.update_self] at holding
      exact ⟨same, (Option.some.inj holding).symm⟩
    · rw [Function.update_of_ne same, unheld] at holding
      cases holding
  refine ⟨?_, ?_, ?_⟩
  · intro first second taken more holding also
    exact (only first taken holding).1.trans (only second more also).1.symm
  · intro other taken holding
    obtain ⟨-, rfl⟩ := only other taken holding
    have conserved := inOrder.free unheld
    rwa [head] at conserved
  · intro free
    have none_ := free party
    dsimp only at none_
    rw [Function.update_self] at none_
    cases none_

/-- A party starts the request it holds. -/
theorem InOrder.start (inOrder : desk.InOrder) {party : κ} {request : ρ}
    (holding : desk.holds party = some request)
    : ({ desk with
          started := desk.started ++ [request]
          holds := Function.update desk.holds party none } : Desk κ ρ).InOrder := by
  have unheld (other : κ) : Function.update desk.holds party none other = none := by
    by_cases same : other = party
    · rw [same, Function.update_self]
    · rw [Function.update_of_ne same]
      cases taken : desk.holds other with
      | none => rfl
      | some more => exact absurd (inOrder.alone other party more request taken holding) same
  refine ⟨?_, ?_, ?_⟩
  · intro first second taken more held
    exact absurd ((unheld first).symm.trans held) nofun
  · intro other taken held
    exact absurd ((unheld other).symm.trans held) nofun
  · intro _
    simp [inOrder.held party request holding]

end Desk

end RtlTcpAndro.Interleaving
