import Mathlib.Data.List.Perm.Subperm
import RtlTcpAndro.Interleaving.Schedule

/-! The status listeners of the class `SdrDevice`. An announcement holds the lock of `listeners`,
which is re-entrant: the listener that is told may register listeners and make announcements on
the same thread before it returns.
-/

namespace RtlTcpAndro.SdrDriverTools

open RtlTcpAndro.Interleaving

-----------------------------------------------------------------------------------------
-- What the listeners hear
-----------------------------------------------------------------------------------------

/-- The history of a device. Registrations and calls of `announceOnClosed` are numbered in their
order; a call is kept with the number of registrations made before it began and with its
argument. `onClosed` are the callbacks made, each with its registration, call and argument.
`opensReturned` are the calls of `announceOnOpen` that have returned, each with the
registrations that had not heard `onClosed` when it began and those it has told.
-/
structure Hearing (E : Type) where
  registered : Nat
  closes : List (Nat × E)
  onClosed : List (Nat × Nat × E)
  closesReturned : List Nat
  opensReturned : List (List Nat × List Nat)
  threw : Bool
  deriving DecidableEq, Repr

namespace Hearing

variable {E : Type} (hearing : Hearing E)

/-- The first call of `announceOnClosed` that begins after a registration. -/
def FirstClose (registration call : Nat) : Prop :=
  (∃ close ∈ hearing.closes[call]?, registration < close.1)
  ∧ ∀ close ∈ hearing.closes.take call, close.1 ≤ registration

instance (registration call : Nat) : Decidable (hearing.FirstClose registration call) :=
  inferInstanceAs (Decidable (_ ∧ _))

/-- The registrations that have not heard `onClosed`. -/
def unclosed : List Nat :=
  (List.range hearing.registered).filter fun registration =>
    registration ∉ hearing.onClosed.map Prod.fst

/-- Every registration hears `onClosed` once, from the first `announceOnClosed` after it and with
that call's argument, and has heard it when that call returns. An `announceOnOpen` that has
returned has told every registration that was not closed when it began. No call has failed.
-/
structure Exact : Prop where
  once : (hearing.onClosed.map Prod.fst).Nodup
  first
    : ∀ registration call e,
        (registration, call, e) ∈ hearing.onClosed
        → hearing.FirstClose registration call
          ∧ ∃ made, hearing.closes[call]? = some (made, e)
  closed
    : ∀ call ∈ hearing.closesReturned,
        ∀ registration,
          hearing.FirstClose registration call
          → ∃ e, (registration, call, e) ∈ hearing.onClosed
  opened
    : ∀ owed told,
        (owed, told) ∈ hearing.opensReturned → ∀ registration ∈ owed, registration ∈ told
  unthrown : hearing.threw = false

variable {hearing}

/-- The closing a registration hears first has been announced. Witness: it is listed. -/
theorem firstClose_lt {registration call : Nat} (first : hearing.FirstClose registration call)
    : call < hearing.closes.length := by
  obtain ⟨⟨close, found, -⟩, -⟩ := first
  exact (List.getElem?_eq_some_iff.mp found).1

/-- There is one first call after a registration. -/
theorem firstClose_unique {registration call other : Nat}
    (first : hearing.FirstClose registration call)
    (also : hearing.FirstClose registration other)
    : call = other := by
  have earlier {call other : Nat} (first : hearing.FirstClose registration call)
      (also : hearing.FirstClose registration other)
      : ¬ call < other := by
    intro before
    obtain ⟨⟨close, found, after⟩, -⟩ := first
    have taken : (hearing.closes.take other)[call]? = some close := by
      rw [List.getElem?_take_of_lt before]
      exact found
    have most := also.2 close (List.mem_of_getElem? taken)
    omega
  have one := earlier first also
  have two := earlier also first
  omega

/-- A later `announceOnClosed` does not change which call was the first. -/
theorem firstClose_append {later : Hearing E} {close : Nat × E}
    (same : later.closes = hearing.closes ++ [close]) {registration call : Nat}
    (begun : call < hearing.closes.length)
    : later.FirstClose registration call ↔ hearing.FirstClose registration call := by
  rw [FirstClose, FirstClose, same, List.getElem?_append_left begun,
    List.take_append_of_le_length (Nat.le_of_lt begun)]

end Hearing

-----------------------------------------------------------------------------------------
-- The device
-----------------------------------------------------------------------------------------

/-- An announcement under way. `inCallback` tells that a listener it has told has not returned.
An `announceOnOpen` has its iterator's `nextIndex` and `expectedModCount`; `owed` are the
registrations that had not heard `onClosed` when it began, `told` those it has told.
-/
inductive Announcement (E : Type)
  | closed (call : Nat) (e : E) (inCallback : Bool)
  | opened (owed told : List Nat) (nextIndex expectedModCount : Nat) (inCallback : Bool)
  deriving DecidableEq, Repr

/-- The `LinkedList` of listeners, each by its registration, and the announcements under way, the
innermost first.
-/
structure SdrDevice (E : Type) where
  listeners : List Nat
  modCount : Nat
  underWay : List (Announcement E)
  hearing : Hearing E
  deriving DecidableEq, Repr

/-- Calls of the device, made when no announcement is under way or by the listener told last; the
next round of the innermost announcement's loop; the return of the listener it has told.
-/
inductive StatusEvent (E : Type)
  | addOnStatusListener
  | announceOnOpen
  | announceOnClosed (e : E)
  | round
  | returned
  deriving DecidableEq, Repr

namespace SdrDevice

variable {E : Type} (device : SdrDevice E)

/-- A new device. -/
def new : SdrDevice E := ⟨[], 0, [], ⟨0, [], [], [], [], false⟩⟩

/-- The thread that holds the lock, or any thread while nobody does, may call the device. -/
def callable : Bool :=
  match device.underWay with
  | [] => true
  | .closed _ _ inCallback :: _ => inCallback
  | .opened _ _ _ _ inCallback :: _ => inCallback

/-- `addOnStatusListener` -/
def addOnStatusListener : SdrDevice E :=
  { device with
    listeners := device.listeners ++ [device.hearing.registered]
    modCount := device.modCount + 1
    hearing := { device.hearing with registered := device.hearing.registered + 1 } }

/-- `announceOnOpen` makes its iterator. -/
def announceOnOpen : SdrDevice E :=
  { device with
    underWay := .opened device.hearing.unclosed [] 0 device.modCount false :: device.underWay }

/-- `announceOnClosed` begins. -/
def announceOnClosed (e : E) : SdrDevice E :=
  { device with
    underWay := .closed device.hearing.closes.length e false :: device.underWay
    hearing :=
      { device.hearing with
        closes := device.hearing.closes ++ [(device.hearing.registered, e)] } }

/-- `listeners.poll()` and the callback, or the end of the loop. -/
def closedRound (call : Nat) (e : E) (rest : List (Announcement E)) : SdrDevice E :=
  match device.listeners with
  | [] =>
      { device with
        underWay := rest
        hearing :=
          { device.hearing with closesReturned := call :: device.hearing.closesReturned } }
  | listener :: others =>
      { device with
        listeners := others
        modCount := device.modCount + 1
        underWay := .closed call e true :: rest
        hearing :=
          { device.hearing with
            onClosed := (listener, call, e) :: device.hearing.onClosed } }

/-- The iterator's `hasNext` and `next`, and the callback. `next` throws a
`ConcurrentModificationException` when the list was changed.
-/
def openedRound (owed told : List Nat) (nextIndex expectedModCount : Nat)
    (rest : List (Announcement E))
    : SdrDevice E :=
  match device.listeners[nextIndex]? with
  | none =>
      { device with
        underWay := rest
        hearing :=
          { device.hearing with
            opensReturned := (owed, told) :: device.hearing.opensReturned } }
  | some listener =>
      if device.modCount ≠ expectedModCount then
        { device with underWay := rest, hearing := { device.hearing with threw := true } }
      else
        { device with
          underWay :=
            .opened owed (told ++ [listener]) (nextIndex + 1) expectedModCount true :: rest }

/-- One step of the thread that holds the lock. -/
def step : StatusEvent E → Option (SdrDevice E)
  | .addOnStatusListener => if device.callable then some device.addOnStatusListener else none
  | .announceOnOpen => if device.callable then some device.announceOnOpen else none
  | .announceOnClosed e => if device.callable then some (device.announceOnClosed e) else none
  | .round =>
      match device.underWay with
      | .closed call e false :: rest => some (device.closedRound call e rest)
      | .opened owed told nextIndex expectedModCount false :: rest =>
          some (device.openedRound owed told nextIndex expectedModCount rest)
      | _ => none
  | .returned =>
      match device.underWay with
      | .closed call e true :: rest =>
          some { device with underWay := .closed call e false :: rest }
      | .opened owed told nextIndex expectedModCount true :: rest =>
          some
            { device with
              underWay := .opened owed told nextIndex expectedModCount false :: rest }
      | _ => none

/-- A round of `announceOnClosed` polls no listener that was registered during the call or that an
enclosing `announceOnClosed` is still to tell. A round of `announceOnOpen` finds the list as it
was when the call began, or its iterator at the end with as many listeners told as there were.
-/
def undisturbed : StatusEvent E → Prop
  | .round =>
      match device.underWay with
      | .closed call _ false :: _ =>
          ∀ listener ∈ device.listeners.head?, device.hearing.FirstClose listener call
      | .opened owed _ nextIndex expectedModCount false :: _ =>
          device.modCount = expectedModCount
          ∨ device.listeners.length ≤ nextIndex ∧ owed.length ≤ nextIndex
      | _ => True
  | _ => True

instance (event : StatusEvent E) : Decidable (device.undisturbed event) := by
  unfold undisturbed
  split
  · split <;> infer_instance
  · infer_instance

end SdrDevice

/-- A device and whoever calls it. -/
def announcing (E : Type) : System (SdrDevice E) (StatusEvent E) where
  initial start := start = .new
  step := SdrDevice.step

-----------------------------------------------------------------------------------------
-- What every step keeps
-----------------------------------------------------------------------------------------

namespace SdrDevice

variable {E : Type} {device next : SdrDevice E}

/-- What an announcement under way knows of the device. -/
def Carries (device : SdrDevice E) : Announcement E → Prop
  | .closed call e _ => ∃ made, device.hearing.closes[call]? = some (made, e)
  | .opened owed told nextIndex expectedModCount _ =>
      told = owed.take nextIndex
      ∧ owed.Nodup
      ∧ expectedModCount ≤ device.modCount
      ∧ (device.modCount = expectedModCount → device.listeners = owed)

/-- The listeners are the registrations that have not heard `onClosed`. -/
structure Kept (device : SdrDevice E) : Prop where
  listed : device.listeners = device.hearing.unclosed
  known : ∀ entry ∈ device.hearing.onClosed, entry.1 < device.hearing.registered
  once : (device.hearing.onClosed.map Prod.fst).Nodup
  begun : ∀ close ∈ device.hearing.closes, close.1 ≤ device.hearing.registered
  returned
    : ∀ call ∈ device.hearing.closesReturned, call < device.hearing.closes.length
  carried : ∀ announcement ∈ device.underWay, device.Carries announcement

/-- A new device keeps the account. Witness: nobody is registered and nothing announced. -/
theorem kept_new : (new : SdrDevice E).Kept := by
  refine ⟨rfl, ?_, List.nodup_nil, ?_, ?_, ?_⟩ <;> intro entry member <;> cases member

/-- Announcements keep what they know when calls are only added and every change of the list is
counted.
-/
theorem Carries.keep {announcement : Announcement E} (carries : device.Carries announcement)
    (closes
      : ∀ (call : Nat) (close : Nat × E),
          device.hearing.closes[call]? = some close
          → next.hearing.closes[call]? = some close)
    (list
      : next.modCount = device.modCount ∧ next.listeners = device.listeners
        ∨ device.modCount < next.modCount)
    : next.Carries announcement := by
  cases announcement with
  | closed call e inCallback =>
      obtain ⟨made, found⟩ := carries
      exact ⟨made, closes call _ found⟩
  | opened owed told nextIndex expectedModCount inCallback =>
      obtain ⟨taken, nodup, most, unchanged⟩ := carries
      obtain ⟨count, listeners⟩ | counted := list
      · rw [Carries, count, listeners]
        exact ⟨taken, nodup, most, unchanged⟩
      · exact ⟨taken, nodup, by omega, fun same => by omega⟩

/-- Registering a listener keeps the account. Witness: its number is fresh, so it has heard
nothing.
-/
theorem Kept.addOnStatusListener (kept : device.Kept) : device.addOnStatusListener.Kept := by
  have fresh : device.hearing.registered ∉ device.hearing.onClosed.map Prod.fst := by
    intro member
    obtain ⟨entry, heard, same⟩ := List.mem_map.mp member
    have below := kept.known entry heard
    omega
  refine ⟨?_, ?_, kept.once, ?_, kept.returned, ?_⟩
  · have listed := kept.listed
    simp only [SdrDevice.addOnStatusListener, Hearing.unclosed, List.range_succ,
      List.filter_append, listed]
    simp [fresh]
  · intro entry heard
    exact Nat.lt_succ_of_lt (kept.known entry heard)
  · intro close member
    exact Nat.le_succ_of_le (kept.begun close member)
  · intro announcement member
    exact (kept.carried announcement member).keep (fun _ _ found => found)
      (.inr (Nat.lt_succ_self _))

/-- Beginning to announce an opening keeps the account. Witness: the announcement begins with
the listeners there are, and nobody told.
-/
theorem Kept.announceOnOpen (kept : device.Kept) : device.announceOnOpen.Kept := by
  refine ⟨kept.listed, kept.known, kept.once, kept.begun, kept.returned, ?_⟩
  intro announcement member
  obtain rfl | earlier := List.mem_cons.mp member
  · exact ⟨rfl, List.nodup_range.filter _, Nat.le_refl _, fun _ => kept.listed⟩
  · exact (kept.carried announcement earlier).keep (fun _ _ found => found) (.inl ⟨rfl, rfl⟩)

/-- Beginning to announce a closing keeps the account. Witness: the list of closings grows at
its end, so those found before are found still.
-/
theorem Kept.announceOnClosed (kept : device.Kept) (e : E)
    : (device.announceOnClosed e).Kept := by
  have extends_ (call : Nat) (close : Nat × E)
      (found : device.hearing.closes[call]? = some close)
      : (device.announceOnClosed e).hearing.closes[call]? = some close := by
    rw [SdrDevice.announceOnClosed,
      List.getElem?_append_left (List.getElem?_eq_some_iff.mp found).1, found]
  refine ⟨kept.listed, kept.known, kept.once, ?_, ?_, ?_⟩
  · intro close member
    obtain earlier | last := List.mem_append.mp member
    · exact kept.begun close earlier
    · rw [List.mem_singleton.mp last]
      exact Nat.le_refl _
  · intro call member
    have before := kept.returned call member
    simp only [SdrDevice.announceOnClosed, List.length_append, List.length_singleton]
    omega
  · intro announcement member
    obtain rfl | earlier := List.mem_cons.mp member
    · exact ⟨device.hearing.registered, by simp [SdrDevice.announceOnClosed]⟩
    · exact (kept.carried announcement earlier).keep extends_ (.inl ⟨rfl, rfl⟩)

/-- The listener that is polled has not heard `onClosed`. -/
theorem Kept.head_unclosed (kept : device.Kept) {listener : Nat} {others : List Nat}
    (found : device.listeners = listener :: others)
    : listener < device.hearing.registered
      ∧ listener ∉ device.hearing.onClosed.map Prod.fst := by
  have member : listener ∈ device.hearing.unclosed := by
    rw [← kept.listed, found]
    exact List.mem_cons_self
  obtain ⟨made, unheard⟩ := List.mem_filter.mp member
  exact ⟨List.mem_range.mp made, by simpa using unheard⟩

/-- One round of announcing a closing keeps the account. Witness: a listener is taken from the
list and told, or the list is empty and the call returns.
-/
theorem Kept.closedRound (kept : device.Kept) {call : Nat} {e : E}
    {rest : List (Announcement E)} (top : device.underWay = .closed call e false :: rest)
    : (device.closedRound call e rest).Kept := by
  have carried := kept.carried
  rw [top] at carried
  obtain ⟨made, found⟩ := carried _ List.mem_cons_self
  unfold SdrDevice.closedRound
  split
  · refine ⟨kept.listed, kept.known, kept.once, kept.begun, ?_, ?_⟩
    · intro other member
      obtain rfl | earlier := List.mem_cons.mp member
      · exact (List.getElem?_eq_some_iff.mp found).1
      · exact kept.returned other earlier
    · intro announcement member
      exact (carried announcement (List.mem_cons_of_mem _ member)).keep (fun _ _ found => found)
        (.inl ⟨rfl, rfl⟩)
  · rename_i listener others list
    obtain ⟨registered, unheard⟩ := kept.head_unclosed list
    refine ⟨?_, ?_, ?_, kept.begun, kept.returned, ?_⟩
    · have listed := kept.listed
      rw [list] at listed
      have nodup : (listener :: others).Nodup := by
        rw [listed]
        exact List.nodup_range.filter _
      have tail : others = (listener :: others).filter (fun other => other ≠ listener) := by
        have absent : ∀ other ∈ others, decide (other ≠ listener) = true := by
          intro other member
          have different : other ≠ listener := by
            rintro rfl
            exact (List.nodup_cons.mp nodup).1 member
          simpa using different
        rw [List.filter_cons_of_neg (by simp), List.filter_eq_self.mpr absent]
      rw [tail, listed, Hearing.unclosed, Hearing.unclosed, List.filter_filter]
      refine List.filter_congr fun other _ => ?_
      rw [List.map_cons, Bool.eq_iff_iff]
      simp only [Bool.and_eq_true, decide_eq_true_eq, List.mem_cons, not_or]
    · intro entry member
      obtain rfl | earlier := List.mem_cons.mp member
      · exact registered
      · exact kept.known entry earlier
    · exact List.nodup_cons.mpr ⟨unheard, kept.once⟩
    · intro announcement member
      obtain rfl | earlier := List.mem_cons.mp member
      · exact ⟨made, found⟩
      · exact (carried announcement (List.mem_cons_of_mem _ earlier)).keep
          (fun _ _ found => found) (.inr (Nat.lt_succ_self _))

/-- One round of announcing an opening keeps the account. Witness: the iterator's three
answers: at the end, a registration since, or the next listener.
-/
theorem Kept.openedRound (kept : device.Kept) {owed told : List Nat}
    {nextIndex expectedModCount : Nat} {rest : List (Announcement E)}
    (top : device.underWay = .opened owed told nextIndex expectedModCount false :: rest)
    : (device.openedRound owed told nextIndex expectedModCount rest).Kept := by
  have carried := kept.carried
  rw [top] at carried
  have outer
      : ∀ (after : SdrDevice E) (_ : after.hearing.closes = device.hearing.closes)
          (_ : after.modCount = device.modCount) (_ : after.listeners = device.listeners),
        ∀ announcement ∈ rest, after.Carries announcement := by
    intro after closes count list announcement member
    refine (carried announcement (List.mem_cons_of_mem _ member)).keep ?_ (.inl ⟨count, list⟩)
    rw [closes]
    exact fun _ _ found => found
  unfold SdrDevice.openedRound
  split
  · exact ⟨kept.listed, kept.known, kept.once, kept.begun, kept.returned, outer _ rfl rfl rfl⟩
  · rename_i listener found
    split
    · exact ⟨kept.listed, kept.known, kept.once, kept.begun, kept.returned, outer _ rfl rfl rfl⟩
    · rename_i unmodified
      obtain ⟨taken, nodup, most, unchanged⟩ := carried _ List.mem_cons_self
      refine ⟨kept.listed, kept.known, kept.once, kept.begun, kept.returned, ?_⟩
      intro announcement member
      obtain rfl | earlier := List.mem_cons.mp member
      · refine ⟨?_, nodup, most, unchanged⟩
        rw [unchanged (not_not.mp unmodified)] at found
        rw [taken, List.take_add_one, found]
        rfl
      · exact outer _ rfl rfl rfl announcement earlier

/-- Every step keeps the listeners right, by cases on the step. -/
theorem Kept.step (kept : device.Kept) {event : StatusEvent E}
    (fired : device.step event = some next)
    : next.Kept := by
  cases event with
  | addOnStatusListener =>
      simp only [SdrDevice.step] at fired
      split at fired <;> cases fired
      exact kept.addOnStatusListener
  | announceOnOpen =>
      simp only [SdrDevice.step] at fired
      split at fired <;> cases fired
      exact kept.announceOnOpen
  | announceOnClosed e =>
      simp only [SdrDevice.step] at fired
      split at fired <;> cases fired
      exact kept.announceOnClosed e
  | round =>
      simp only [SdrDevice.step] at fired
      split at fired <;> cases fired
      · exact kept.closedRound (by assumption)
      · exact kept.openedRound (by assumption)
  | returned =>
      simp only [SdrDevice.step] at fired
      split at fired <;> cases fired
      all_goals
        rename_i top
        have carried := kept.carried
        rw [top] at carried
        refine ⟨kept.listed, kept.known, kept.once, kept.begun, kept.returned, ?_⟩
        intro announcement member
        obtain rfl | earlier := List.mem_cons.mp member
        · exact carried _ List.mem_cons_self
        · exact (carried announcement (List.mem_cons_of_mem _ earlier)).keep
            (fun _ _ found => found) (.inl ⟨rfl, rfl⟩)

-----------------------------------------------------------------------------------------
-- What a step does to what is heard
-----------------------------------------------------------------------------------------

/-- A call of `announceOnClosed` that begins owes nothing yet. -/
theorem exact_announceOnClosed (kept : device.Kept) (exact_ : device.hearing.Exact) (e : E)
    : (device.announceOnClosed e).hearing.Exact := by
  have same (registration call : Nat) (begun : call < device.hearing.closes.length)
      : (device.announceOnClosed e).hearing.FirstClose registration call
        ↔ device.hearing.FirstClose registration call :=
    Hearing.firstClose_append rfl begun
  refine ⟨exact_.once, ?_, ?_, exact_.opened, exact_.unthrown⟩
  · intro registration call other heard
    obtain ⟨first, made, found⟩ := exact_.first registration call other heard
    have begun := Hearing.firstClose_lt first
    refine ⟨(same registration call begun).mpr first, made, ?_⟩
    rw [announceOnClosed, List.getElem?_append_left begun, found]
  · intro call returned registration first
    exact exact_.closed call returned registration
      ((same registration call (kept.returned call returned)).mp first)

/-- A poll is right exactly when the call is the first one after the registration. -/
theorem exact_closedRound_iff (kept : device.Kept) (exact_ : device.hearing.Exact) {call : Nat}
    {e : E} {rest : List (Announcement E)}
    (top : device.underWay = .closed call e false :: rest)
    : (device.closedRound call e rest).hearing.Exact
      ↔ ∀ listener ∈ device.listeners.head?, device.hearing.FirstClose listener call := by
  obtain ⟨made, found⟩ := kept.carried (.closed call e false) (top ▸ List.mem_cons_self)
  unfold closedRound
  split
  · rename_i empty
    have unheard
        : ∀ listener ∈ device.listeners.head?, device.hearing.FirstClose listener call := by
      rw [empty]
      exact nofun
    refine iff_of_true ⟨exact_.once, exact_.first, ?_, exact_.opened, exact_.unthrown⟩ unheard
    intro other returned registration first
    obtain rfl | earlier := List.mem_cons.mp returned
    · obtain ⟨⟨close, begun, after⟩, -⟩ := id first
      have registered : registration < device.hearing.registered := by
        have most := kept.begun close (List.mem_of_getElem? begun)
        omega
      -- the list is empty, so the registration has heard some call, and there is one first call
      have heard : registration ∈ device.hearing.onClosed.map Prod.fst := by
        refine Classical.byContradiction fun unheard => ?_
        have listed : registration ∈ device.listeners := by
          rw [kept.listed]
          exact List.mem_filter.mpr ⟨List.mem_range.mpr registered, by simpa using unheard⟩
        rw [empty] at listed
        cases listed
      obtain ⟨⟨_, teller, argument⟩, entry, rfl⟩ := List.mem_map.mp heard
      have told := (exact_.first _ teller argument entry).1
      obtain rfl := Hearing.firstClose_unique told first
      exact ⟨argument, entry⟩
    · exact exact_.closed other earlier registration first
  · rename_i listener others list
    have head
        : (∀ listener ∈ device.listeners.head?, device.hearing.FirstClose listener call)
          ↔ device.hearing.FirstClose listener call := by
      simp [list]
    rw [head]
    constructor
    · intro after
      exact (after.first listener call e List.mem_cons_self).1
    · intro first
      refine ⟨?_, ?_, ?_, exact_.opened, exact_.unthrown⟩
      · exact List.nodup_cons.mpr ⟨(kept.head_unclosed list).2, exact_.once⟩
      · intro registration other argument heard
        obtain same | earlier := List.mem_cons.mp heard
        · cases same
          exact ⟨first, made, found⟩
        · exact exact_.first registration other argument earlier
      · intro other returned registration later
        obtain ⟨argument, heard⟩ := exact_.closed other returned registration later
        exact ⟨argument, List.mem_cons_of_mem _ heard⟩

/-- The registrations told are all that were owed exactly when the iterator has passed them. -/
theorem owed_told_iff {owed told : List Nat} {nextIndex : Nat} (nodup : owed.Nodup)
    (taken : told = owed.take nextIndex)
    : (∀ registration ∈ owed, registration ∈ told) ↔ owed.length ≤ nextIndex := by
  subst taken
  constructor
  · intro all
    have least := (List.subperm_of_subset nodup all).length_le
    rw [List.length_take] at least
    omega
  · intro passed registration member
    rwa [List.take_of_length_le passed]

/-- A round of `announceOnOpen` is right exactly when the list is unchanged or it ends with all
told.
-/
theorem exact_openedRound_iff (kept : device.Kept) (exact_ : device.hearing.Exact)
    {owed told : List Nat} {nextIndex expectedModCount : Nat} {rest : List (Announcement E)}
    (top : device.underWay = .opened owed told nextIndex expectedModCount false :: rest)
    : (device.openedRound owed told nextIndex expectedModCount rest).hearing.Exact
      ↔ device.modCount = expectedModCount
        ∨ device.listeners.length ≤ nextIndex ∧ owed.length ≤ nextIndex := by
  obtain ⟨taken, nodup, most, unchanged⟩ :=
    kept.carried (.opened owed told nextIndex expectedModCount false)
      (top ▸ List.mem_cons_self)
  unfold openedRound
  split
  · rename_i past
    have ended : device.listeners.length ≤ nextIndex := List.getElem?_eq_none_iff.mp past
    have told_iff := owed_told_iff nodup taken
    constructor
    · intro after
      exact .inr ⟨ended, told_iff.mp (after.opened owed told List.mem_cons_self)⟩
    · intro allowed
      have passed : owed.length ≤ nextIndex := by
        obtain same | ⟨-, passed⟩ := allowed
        · rwa [← unchanged same]
        · exact passed
      refine ⟨exact_.once, exact_.first, exact_.closed, ?_, exact_.unthrown⟩
      intro others those member
      obtain same | earlier := List.mem_cons.mp member
      · cases same
        exact told_iff.mpr passed
      · exact exact_.opened others those earlier
  · rename_i listener found
    have inside : nextIndex < device.listeners.length := (List.getElem?_eq_some_iff.mp found).1
    split
    · rename_i modified
      constructor
      · intro after
        cases after.unthrown
      · rintro (same | ⟨ended, -⟩)
        · exact absurd same modified
        · omega
    · rename_i unmodified
      exact iff_of_true exact_ (.inl (not_not.mp unmodified))

/-- A step keeps what is heard right exactly when it is undisturbed, by cases on the step. -/
theorem exact_iff_undisturbed (kept : device.Kept) (exact_ : device.hearing.Exact)
    {event : StatusEvent E} (fired : device.step event = some next)
    : next.hearing.Exact ↔ device.undisturbed event := by
  cases event with
  | addOnStatusListener =>
      simp only [step] at fired
      split at fired <;> cases fired
      exact iff_of_true
        ⟨exact_.once, exact_.first, exact_.closed, exact_.opened, exact_.unthrown⟩ trivial
  | announceOnOpen =>
      simp only [step] at fired
      split at fired <;> cases fired
      exact iff_of_true exact_ trivial
  | announceOnClosed e =>
      simp only [step] at fired
      split at fired <;> cases fired
      exact iff_of_true (exact_announceOnClosed kept exact_ e) trivial
  | round =>
      simp only [step] at fired
      split at fired <;> cases fired
      · rename_i top
        rw [exact_closedRound_iff kept exact_ top]
        simp only [undisturbed, top]
      · rename_i top
        rw [exact_openedRound_iff kept exact_ top]
        simp only [undisturbed, top]
  | returned =>
      simp only [step] at fired
      split at fired <;> cases fired <;> exact iff_of_true exact_ trivial

end SdrDevice

/-- Every registration hears exactly its own close, and every `announceOnOpen` before it, in the
runs whose steps are all undisturbed and in no others.
-/
theorem listeners_hear_exactly_iff {E : Type} {schedule : List (StatusEvent E)}
    {finish : SdrDevice E} (replayed : (announcing E).run .new schedule = some finish)
    : (announcing E).Throughout (fun device => device.hearing.Exact) .new schedule
      ↔ (announcing E).Heeds SdrDevice.undisturbed .new schedule := by
  have preserved (device : SdrDevice E) (event : StatusEvent E) (next : SdrDevice E)
      (kept : device.Kept) (fired : (announcing E).step device event = some next)
      : next.Kept :=
    kept.step fired
  have exact_ (device : SdrDevice E) (event : StatusEvent E) (next : SdrDevice E)
      (kept : device.Kept) (right : device.hearing.Exact)
      (fired : (announcing E).step device event = some next)
      : next.hearing.Exact ↔ device.undisturbed event :=
    SdrDevice.exact_iff_undisturbed kept right fired
  have begins : (SdrDevice.new : SdrDevice E).hearing.Exact := by
    refine ⟨List.nodup_nil, ?_, ?_, ?_, rfl⟩
    · intro registration call e member
      cases member
    · intro call member
      cases member
    · intro owed told member
      cases member
  exact System.throughout_iff_heeds_of_kept preserved exact_ replayed SdrDevice.kept_new begins

/-- Two listeners hear that the device is open and then, both, that it is closed; the first of
them makes an announcement of its own.
-/
theorem two_listeners_hear_exactly
    : (announcing Nat).Throughout (fun device => device.hearing.Exact) .new
        [.addOnStatusListener, .addOnStatusListener, .announceOnOpen, .round, .announceOnOpen,
          .round, .returned, .round, .returned, .round, .returned, .round, .returned, .round,
          .announceOnClosed 5, .round, .returned, .round, .returned, .round] := by
  have replayed
      : ((announcing Nat).run .new
            [.addOnStatusListener, .addOnStatusListener, .announceOnOpen, .round,
              .announceOnOpen, .round, .returned, .round, .returned, .round, .returned, .round,
              .returned, .round, .announceOnClosed 5, .round, .returned, .round, .returned,
              .round]).isSome
        = true := by
    decide
  obtain ⟨finish, ended⟩ := Option.isSome_iff_exists.mp replayed
  exact (listeners_hear_exactly_iff ended).mpr (by decide)

/-- A listener that is registered by `onClosed` hears the close that was announced before. -/
theorem registered_by_onClosed_hears_it
    : ¬ ∀ (schedule : List (StatusEvent Nat)) (finish : SdrDevice Nat),
        (announcing Nat).run .new schedule = some finish
        → (announcing Nat).Throughout (fun device => device.hearing.Exact) .new schedule := by
  intro claim
  have replayed
      : (announcing Nat).run .new
          [.addOnStatusListener, .announceOnClosed 5, .round, .addOnStatusListener, .returned,
            .round]
        = some
            ⟨[], 4, [.closed 0 5 true], ⟨2, [(1, 5)], [(1, 0, 5), (0, 0, 5)], [], [], false⟩⟩ := by
    decide
  have throughout := claim _ _ replayed
  have last := (((((throughout.2 _ rfl).2 _ rfl).2 _ rfl).2 _ rfl).2 _ rfl).2 _ rfl
  have first := (Hearing.Exact.first last 1 0 5 List.mem_cons_self).1
  exact absurd first (by decide)

end RtlTcpAndro.SdrDriverTools
