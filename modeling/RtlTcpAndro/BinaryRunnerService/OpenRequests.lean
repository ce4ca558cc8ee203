import RtlTcpAndro.BinaryRunnerService.RequestDesk

/-! What becomes of the queued requests when the threads overlap.
The queue is synchronized, `isRunning` and `thisSdrDevice` are not: a request in the hand of one
thread can lose its device to another one, and a test of `isRunning` can be out of date.
-/

namespace RtlTcpAndro.BinaryRunnerService

open RtlTcpAndro.Interleaving

/-- The thread of a device has not found the queue empty. -/
def DevicePoint.polls : DevicePoint → Bool
  | .serving => true
  | .onClosed (.start pos) => pos.polls
  | .onClosed _ => true
  | .ended => false

/-- The main thread sends a start intent for the queue, unless `isRunning` keeps it from that,
or polls it.
-/
def MainPoint.polls : MainPoint → Bool
  | .onStartCommand pos => pos.polls
  | .startWithDevice .testRunning | .startWithDevice .startService => true
  | _ => false

/-- Some device is open, or its thread has not found the queue empty. -/
def Threads.attended (threads : Threads) : Prop :=
  ∃ start < threads.service.started.length, (threads.device start).polls = true

/-- No thread is between the poll of a request and its call of `openAsync`. -/
def Threads.unheld (threads : Threads) : Prop :=
  threads.desk.holds .main = none
  ∧ ∀ start < threads.service.started.length, threads.desk.holds (.device start) = none

/-- No thread is between a test that found a device and its use of `thisSdrDevice`. -/
def Threads.unused (threads : Threads) : Prop :=
  threads.main.closing ≠ some .close
  ∧ ∀ start < threads.service.started.length, threads.device start ≠ .onClosed .readName

instance (threads : Threads) : Decidable threads.attended :=
  inferInstanceAs (Decidable (∃ start < _, _))

instance (threads : Threads) : Decidable threads.unheld :=
  inferInstanceAs (Decidable (_ ∧ _))

instance (threads : Threads) : Decidable threads.unused :=
  inferInstanceAs (Decidable (_ ∧ _))

/-- The accesses that do not depend on a value another thread is about to change. The queue is
polled, and `thisSdrDevice` cleared, only while no thread holds a request; it is not cleared
between a test and the use that the test guards; `closeService` finds `isRunning` only with a
device; and the binder finds `isRunning` only while somebody is going to look at the queue.
-/
def Threads.orderly (threads : Threads) : ThreadEvent → Prop
  | .main =>
      match threads.main with
      | .onStartCommand .poll => threads.unheld
      | .startWithDevice .testRunning =>
          threads.service.isRunning = true → threads.attended
      | .closeService .testRunning | .startWithDevice (.closeService .testRunning) =>
          threads.service.isRunning = true → threads.service.thisSdrDevice ≠ none
      | _ => True
  | .device start =>
      match threads.device start with
      | .onClosed .clearDevice => threads.unheld ∧ threads.unused
      | .onClosed (.start .poll) => threads.unheld
      | _ => True
  | _ => True

instance (threads : Threads) (event : ThreadEvent) : Decidable (threads.orderly event) := by
  unfold Threads.orderly
  cases event with
  | main => dsimp only; split <;> infer_instance
  | device start => dsimp only; split <;> infer_instance
  | _ => infer_instance

/-- No handler is in progress, no start intent is pending, and no device is open. -/
def Threads.quiet (threads : Threads) : Prop :=
  threads.main = .idle
  ∧ threads.service.startIntents = 0
  ∧ ∀ start < threads.service.started.length, threads.device start = .ended

/-- What becomes of the requests: `closeService` has not called `close` on null, requests are
started at most once and in the order of the queue, and a quiet service has none left.
-/
structure Threads.Served (threads : Threads) : Prop where
  closes : threads.main ≠ .closeThrew
  inOrder : threads.service.started <+: threads.service.queued
  drained : threads.quiet → threads.service.workQueue = []

/-- Somebody is going to look at the queue: a start intent is pending or being sent, or some
thread has not found the queue empty.
-/
def Threads.watched (threads : Threads) : Prop :=
  0 < threads.service.startIntents ∨ threads.main.polls = true ∨ threads.attended

/-- What orderly runs keep. -/
structure Threads.Steady (threads : Threads) : Prop where
  inOrder : threads.desk.InOrder
  stored
    : ∀ party pos pair,
        threads.starting party = some pos
        → pos.stored = some pair
        → threads.service.thisSdrDevice = some pair.sdrDevice
  beyond
    : ∀ start, threads.service.started.length ≤ start → threads.device start = .serving
  tested : threads.main.closing = some .close → threads.service.thisSdrDevice ≠ none
  named
    : ∀ start,
        threads.device start = .onClosed .readName → threads.service.thisSdrDevice ≠ none
  watched : threads.service.workQueue ≠ [] → threads.watched
  closes : threads.main ≠ .closeThrew

section Steady

variable {threads : Threads}

/-- Threads beyond the started ones hold nothing. -/
theorem Threads.Steady.free (steady : threads.Steady) (unheld : threads.unheld)
    (party : Party)
    : threads.desk.holds party = none := by
  cases party with
  | main => exact unheld.1
  | device start =>
      rcases Nat.lt_or_ge start threads.service.started.length with exists_ | absent
      · exact unheld.2 start exists_
      · simp only [Threads.desk, Threads.starting, steady.beyond start absent]
        rfl

/-- A thread that announces its end was started. -/
theorem Threads.Steady.exists_ (steady : threads.Steady) {start : Nat}
    (moving : threads.device start ≠ .serving)
    : start < threads.service.started.length := by
  rcases Nat.lt_or_ge start threads.service.started.length with exists_ | absent
  · exact exists_
  · exact absurd (steady.beyond start absent) moving

variable {party : Party} {pos : StartPoint} {after : Service}
  {progress : Progress StartPoint Ending}

/-- A party in `startWithDevice` with a request in hand is the only one. -/
theorem Threads.Steady.alone (steady : threads.Steady) {other : Party} {also : StartPoint}
    {pair more : Request} (position : threads.starting party = some pos)
    (held : pos.pair = some pair) (elsewhere : threads.starting other = some also)
    (too : also.pair = some more)
    : party = other := by
  refine steady.inOrder.alone party other pair more ?_ ?_
  · simp only [Threads.desk, position]
    exact held
  · simp only [Threads.desk, elsewhere]
    exact too

/-- No request loses its place by a step of `startWithDevice`. -/
theorem Threads.Steady.inOrder_placed (steady : threads.Steady)
    (position : threads.starting party = some pos)
    (effect : StartEffect threads.service pos after progress)
    (orderly : pos = .poll → threads.unheld)
    : (threads.placed after progress party).desk.InOrder := by
  have inOrder := steady.inOrder
  have holds : threads.desk.holds party = pos.pair := by
    simp only [Threads.desk, position]
    rfl
  have kept (same : threads.service.SameRequests after)
      (unmoved
        : (StartPoint.ofProgress progress).bind StartPoint.pair = threads.desk.holds party)
      : (threads.placed after progress party).desk.InOrder := by
    rw [Threads.desk_placed, unmoved, Function.update_eq_self, same.queued, same.workQueue,
      same.started]
    exact inOrder
  cases effect with
  | empty | stores => exact kept ⟨rfl, rfl, rfl, rfl⟩ holds.symm
  | passes same pair => exact kept same.toSameRequests (pair.trans holds.symm)
  | ends same => exact kept same.toSameRequests holds.symm
  | takes head =>
      rw [Threads.desk_placed]
      exact inOrder.take party head (steady.free (orderly rfl))
  | throws stored unset =>
      have set := steady.stored _ _ _ position stored
      rw [unset] at set
      cases set
  | opens set =>
      have stored := steady.stored _ _ _ position rfl
      rw [set] at stored
      cases stored
      rw [Threads.desk_placed]
      exact inOrder.start holds

/-- Whoever stored the device of its request finds it there. -/
theorem Threads.Steady.stored_placed (steady : threads.Steady)
    (position : threads.starting party = some pos)
    (effect : StartEffect threads.service pos after progress)
    {other : Party} {also : StartPoint} {pair : Request}
    (elsewhere : (threads.placed after progress party).starting other = some also)
    (stored : also.stored = some pair)
    : after.thisSdrDevice = some pair.sdrDevice := by
  rw [Threads.starting_placed] at elsewhere
  by_cases same : other = party
  · rw [same, Function.update_self] at elsewhere
    cases effect with
    | empty | takes => cases elsewhere; cases stored
    | stores => cases elsewhere; cases stored; rfl
    | passes fields _ unmoved =>
        cases elsewhere
        have set := steady.stored _ _ _ position (unmoved.symm.trans stored)
        exact fields.thisSdrDevice.trans set
    | ends | throws | opens => cases elsewhere
  · rw [Function.update_of_ne same] at elsewhere
    have before := steady.stored _ _ _ elsewhere stored
    cases effect with
    | stores =>
        have party_ :=
          steady.alone position rfl elsewhere (StartPoint.pair_of_stored stored)
        exact absurd party_.symm same
    | passes fields | ends fields => exact fields.thisSdrDevice.trans before
    | _ => exact before

/-- A party in `startWithDevice` is the main thread or a started one. -/
theorem Threads.Steady.party_exists (steady : threads.Steady) {start : Nat}
    (position : threads.starting (.device start) = some pos)
    : start < threads.service.started.length := by
  refine steady.exists_ ?_
  intro serving
  simp only [Threads.starting, serving] at position
  cases position

/-- A party that looks at the queue, or opens a device, watches it. -/
theorem Threads.Steady.watched_of_polls (steady : threads.Steady)
    (position : threads.starting party = some pos) {next : StartPoint}
    (started : after.started = threads.service.started) (polls : next.polls = true)
    : (threads.placed after (.point next) party).watched := by
  cases party with
  | main => exact .inr (.inl polls)
  | device start =>
      refine .inr (.inr ⟨start, started ▸ steady.party_exists position, ?_⟩)
      simp only [Threads.placed, Function.update_self]
      exact polls

/-- A party that still looks at the queue, if it did before, leaves it watched. -/
theorem Threads.Steady.watched_kept (steady : threads.Steady)
    (position : threads.starting party = some pos) (same : threads.service.SameRequests after)
    (kept : pos.polls = true → ∃ next, progress = .point next ∧ next.polls = true)
    (watched : threads.watched)
    : (threads.placed after progress party).watched := by
  have looks (polls : pos.polls = true) : (threads.placed after progress party).watched := by
    obtain ⟨next, rfl, polls⟩ := kept polls
    exact steady.watched_of_polls position same.started polls
  rcases watched with pending | polls | ⟨index, exists_, polls⟩
  · left
    cases party <;> exact same.startIntents ▸ pending
  · cases party with
    | main =>
        rw [Threads.main_of_starting position] at polls
        exact looks polls
    | device start => exact .inr (.inl polls)
  · by_cases moved : party = .device index
    · subst moved
      rw [Threads.device_of_starting position] at polls
      exact looks polls
    · refine .inr (.inr ⟨index, ?_, ?_⟩)
      · cases party <;> exact same.started ▸ exists_
      · cases party with
        | main => exact polls
        | device start =>
            have other : index ≠ start := fun equal => moved (by rw [equal])
            simpa only [Threads.placed, Function.update_of_ne other] using polls

/-- Whoever looks at the queue goes on to, takes a request, or finds the queue empty. -/
theorem Threads.Steady.watched_placed (steady : threads.Steady)
    (position : threads.starting party = some pos)
    (effect : StartEffect threads.service pos after progress)
    (pending : after.workQueue ≠ [])
    : (threads.placed after progress party).watched := by
  cases effect with
  | empty head => exact absurd head pending
  | takes => exact steady.watched_of_polls position rfl rfl
  | stores => exact steady.watched_of_polls position rfl rfl
  | passes same _ _ polls =>
      rw [same.workQueue] at pending
      exact steady.watched_kept position same.toSameRequests
        (fun before => ⟨_, rfl, polls.trans before⟩) (steady.watched pending)
  | ends same =>
      rw [same.workQueue] at pending
      exact steady.watched_kept position same.toSameRequests nofun (steady.watched pending)
  | throws stored unset =>
      have set := steady.stored _ _ _ position stored
      rw [unset] at set
      cases set
  | @opens pair device set =>
      refine .inr (.inr ⟨threads.service.started.length, ?_, ?_⟩)
      · cases party <;> simp [Threads.placed]
      · have serving := steady.beyond _ (Nat.le_refl threads.service.started.length)
        cases party with
        | main => simp only [Threads.placed, serving]; rfl
        | device start =>
            have other : threads.service.started.length ≠ start :=
              Nat.ne_of_gt (steady.party_exists position)
            simp only [Threads.placed, Function.update_of_ne other, serving]
            rfl

/-- A step of `startWithDevice` that polls while nothing is in hand keeps the requests steady. -/
theorem Threads.Steady.placed (steady : threads.Steady)
    (position : threads.starting party = some pos)
    (effect : StartEffect threads.service pos after progress)
    (orderly : pos = .poll → threads.unheld)
    : (threads.placed after progress party).Steady where
  inOrder := steady.inOrder_placed position effect orderly
  stored other also pair elsewhere stored := by
    have set := steady.stored_placed position effect elsewhere stored
    cases party <;> exact set
  beyond start absent := by
    cases party with
    | main => exact steady.beyond start (Nat.le_trans effect.started_le absent)
    | device index =>
        have absent := Nat.le_trans effect.started_le absent
        have exists_ := steady.party_exists position
        have other : start ≠ index := by omega
        exact (Function.update_of_ne other ..).trans (steady.beyond start absent)
  tested closing := by
    cases party with
    | main =>
        cases progress with
        | point next => cases closing
        | returned ending => cases ending <;> cases closing
    | device index => exact effect.set (steady.tested closing)
  named start reading := by
    cases party with
    | main => exact effect.set (steady.named start reading)
    | device index =>
        by_cases same : start = index
        · simp only [Threads.placed, same, Function.update_self] at reading
          cases progress <;> cases reading
        · simp only [Threads.placed, Function.update_of_ne same] at reading
          exact effect.set (steady.named start reading)
  watched pending := steady.watched_placed position effect (by cases party <;> exact pending)
  closes := by
    cases party with
    | main =>
        cases progress with
        | point next => rintro ⟨⟩
        | returned ending => cases ending <;> rintro ⟨⟩
    | device index => exact steady.closes

/-- The main thread moves outside of `startWithDevice`. -/
theorem Threads.Steady.mainMoved (steady : threads.Steady) {main : MainPoint}
    (same
      : threads.service.SameDevice
          { after with startIntents := threads.service.startIntents })
    (outside : ∀ pos, threads.main ≠ .onStartCommand pos)
    (entered : ∀ pos, main = .onStartCommand pos → pos = .poll)
    (tested : main.closing = some .close → threads.service.thisSdrDevice ≠ none)
    (watched
      : threads.service.workQueue ≠ []
        → 0 < after.startIntents ∨ main.polls = true ∨ threads.attended)
    (closes : main ≠ .closeThrew)
    : ({ threads with service := after, main := main } : Threads).Steady := by
  have device : after.thisSdrDevice = threads.service.thisSdrDevice := same.thisSdrDevice
  have started : after.started = threads.service.started := same.started
  have starting (party : Party) (pos : StartPoint)
      (position
        : ({ threads with service := after, main := main } : Threads).starting party = some pos)
      : pos = .poll ∨ threads.starting party = some pos := by
    cases party with
    | main => exact .inl (entered pos (Threads.main_of_starting position))
    | device start => exact .inr position
  have desk
      : ({ threads with service := after, main := main } : Threads).desk = threads.desk := by
    refine Threads.desk_moved same.queued same.workQueue started starting ?_
    intro party pos position
    cases party with
    | main => exact absurd (Threads.main_of_starting position) (outside pos)
    | device start => exact position
  refine ⟨desk ▸ steady.inOrder, ?_, ?_, ?_, ?_, ?_, closes⟩
  · intro party pos pair position stored
    rcases starting party pos position with rfl | before
    · cases stored
    · exact device.trans (steady.stored party pos pair before stored)
  · intro start absent
    exact steady.beyond start (started ▸ absent)
  · intro closing
    exact device ▸ tested closing
  · intro start reading
    exact device ▸ steady.named start reading
  · intro pending
    have workQueue : after.workQueue = threads.service.workQueue := same.workQueue
    rcases watched (workQueue ▸ pending) with intents | polls | ⟨start, exists_, polls⟩
    · exact .inl intents
    · exact .inr (.inl polls)
    · exact .inr (.inr ⟨start, started ▸ exists_, polls⟩)

/-- A request added by a main thread that goes on to see to it is watched. -/
theorem Threads.Steady.added (steady : threads.Steady) (polls : threads.main.polls = true)
    (request : Request)
    : ({ threads with
          service :=
            { threads.service with
              workQueue := threads.service.workQueue ++ [request]
              queued := threads.service.queued ++ [request] } } : Threads).Steady :=
  ⟨steady.inOrder.queue request, steady.stored, steady.beyond, steady.tested, steady.named,
    fun _ => .inr (.inl polls), steady.closes⟩

/-- A device's thread moves up to the poll of its `onClosed`. It clears the device only while
nobody uses it.
-/
theorem Threads.Steady.deviceMoved (steady : threads.Steady) {start : Nat} {next : ClosedPoint}
    (exists_ : start < threads.service.started.length)
    (before : ∀ pos, threads.starting (.device start) ≠ some pos)
    (entered : ∀ pos, next = .start pos → pos = .poll)
    (same : threads.service.SameRequests after)
    (device
      : after.thisSdrDevice = threads.service.thisSdrDevice
        ∨ threads.unheld ∧ threads.unused)
    (named : next = .readName → after.thisSdrDevice ≠ none)
    : ({ threads with
          service := after
          device := Function.update threads.device start (.onClosed next) }
        : Threads).Steady := by
  generalize moved : ({ threads with
      service := after
      device := Function.update threads.device start (.onClosed next) } : Threads) = following
  have service : following.service = after := by rw [← moved]
  have main : following.main = threads.main := by rw [← moved]
  have self : following.device start = .onClosed next := by
    rw [← moved]
    exact Function.update_self ..
  have others (index : Nat) (other : index ≠ start)
      : following.device index = threads.device index := by
    rw [← moved]
    exact Function.update_of_ne other ..
  have starting (party : Party) (pos : StartPoint)
      (position : following.starting party = some pos)
      : pos = .poll ∨ threads.starting party = some pos := by
    cases party with
    | main =>
        simp only [Threads.starting, main] at position
        exact .inr position
    | device index =>
        by_cases same : index = start
        · rw [same] at position
          have inside := Threads.device_of_starting position
          rw [self] at inside
          cases inside
          exact .inl (entered pos rfl)
        · simp only [Threads.starting, others index same] at position
          exact .inr position
  have desk : following.desk = threads.desk := by
    refine Threads.desk_moved (service ▸ same.queued) (service ▸ same.workQueue)
      (service ▸ same.started) starting ?_
    intro party pos position
    cases party with
    | main =>
        simp only [Threads.starting, main]
        exact position
    | device index =>
        have other : index ≠ start := by
          intro same
          exact before pos (same ▸ position)
        simp only [Threads.starting, others index other]
        exact position
  have started : following.service.started = threads.service.started := service ▸ same.started
  refine ⟨desk ▸ steady.inOrder, ?_, ?_, ?_, ?_, ?_, main ▸ steady.closes⟩
  · intro party pos pair position stored
    rcases starting party pos position with rfl | earlier
    · cases stored
    · have set := steady.stored party pos pair earlier stored
      rcases device with kept | ⟨unheld, -⟩
      · rw [service, kept, set]
      · have held := steady.free unheld party
        simp only [Threads.desk, earlier] at held
        exact absurd (held.symm.trans (StartPoint.pair_of_stored stored)) (by rintro ⟨⟩)
  · intro index absent
    have absent : threads.service.started.length ≤ index := started ▸ absent
    rw [others index (by omega)]
    exact steady.beyond index absent
  · intro closing
    rw [main] at closing
    rw [service]
    rcases device with kept | ⟨-, unused⟩
    · exact kept ▸ steady.tested closing
    · exact absurd closing unused.1
  · intro index reading
    rw [service]
    by_cases same : index = start
    · rw [same, self] at reading
      cases reading
      exact named rfl
    · rw [others index same] at reading
      rcases device with kept | ⟨-, unused⟩
      · exact kept ▸ steady.named index reading
      · have exists_ := steady.exists_ (by rw [reading]; rintro ⟨⟩)
        exact absurd reading (unused.2 index exists_)
  · intro pending
    have polls : (following.device start).polls = true := by
      rw [self]
      cases next with
      | start pos => rw [entered pos rfl]; rfl
      | _ => rfl
    exact .inr (.inr ⟨start, started ▸ exists_, polls⟩)

/-- While the main thread sees to nothing, somebody else does. -/
theorem Threads.Steady.watched_elsewhere (steady : threads.Steady) (main : MainPoint)
    (quiet : threads.main.polls = false) (pending : threads.service.workQueue ≠ [])
    : 0 < threads.service.startIntents ∨ main.polls = true ∨ threads.attended := by
  rcases steady.watched pending with intents | polls | attended
  · exact .inl intents
  · rw [quiet] at polls
    cases polls
  · exact .inr (.inr attended)

/-- What no thread sees changes nothing. -/
theorem Threads.Steady.unseen (steady : threads.Steady)
    (same : threads.service.SameDevice after)
    : ({ threads with service := after } : Threads).Steady := by
  have desk : ({ threads with service := after } : Threads).desk = threads.desk :=
    Threads.desk_moved same.queued same.workQueue same.started
      (fun _ _ position => .inr position) (fun _ _ position => position)
  refine ⟨desk ▸ steady.inOrder, ?_, ?_, ?_, ?_, ?_, steady.closes⟩
  · intro party pos pair position stored
    exact same.thisSdrDevice.trans (steady.stored party pos pair position stored)
  · intro start absent
    exact steady.beyond start (same.started ▸ absent)
  · intro closing
    exact same.thisSdrDevice ▸ steady.tested closing
  · intro start reading
    exact same.thisSdrDevice ▸ steady.named start reading
  · intro pending
    rcases steady.watched (same.workQueue ▸ pending) with intents | polls | attended
    · exact .inl (same.startIntents ▸ intents)
    · exact .inr (.inl polls)
    · obtain ⟨start, exists_, polls⟩ := attended
      exact .inr (.inr ⟨start, same.started ▸ exists_, polls⟩)

/-- The main thread's own choices keep the requests steady. -/
theorem Threads.Steady.main_outside (steady : threads.Steady) {main : MainPoint}
    (same : threads.service.SameDevice after) (quiet : threads.main.polls = false)
    (outside : ∀ pos, threads.main ≠ .onStartCommand pos)
    (left : ∀ pos, main ≠ .onStartCommand pos)
    (tested : main.closing = some .close → threads.service.thisSdrDevice ≠ none)
    (closes : main ≠ .closeThrew)
    : ({ threads with service := after, main := main } : Threads).Steady := by
  refine steady.mainMoved
    ⟨⟨same.queued, same.workQueue, same.started, rfl⟩, same.thisSdrDevice⟩ outside
    (fun pos entered => absurd entered (left pos)) tested ?_ closes
  intro pending
  rw [same.startIntents]
  exact steady.watched_elsewhere main quiet pending

/-- While the main thread closes the device it sees to no request. -/
theorem MainPoint.quiet_of_closing {main : MainPoint} {pos : ClosePoint}
    (closing : main.closing = some pos)
    : main.polls = false ∧ ∀ inner, main ≠ .onStartCommand inner := by
  rcases main_of_closing closing with rfl | rfl
  · exact ⟨rfl, by simp⟩
  · exact ⟨rfl, by simp⟩

/-- Every orderly step keeps the requests steady. -/
theorem Threads.Fires.steady {event : ThreadEvent} {next : Threads}
    (fires : threads.Fires event next) (orderly : threads.orderly event)
    (steady : threads.Steady)
    : next.Steady := by
  have unmoved : threads.service.SameDevice threads.service := ⟨⟨rfl, rfl, rfl, rfl⟩, rfl⟩
  cases fires with
  | unseen same => exact steady.unseen same
  | intends outside =>
      refine steady.mainMoved unmoved ?_ nofun nofun (fun _ => .inl (Nat.succ_pos _)) nofun
      intro pos position
      rcases outside with idle | sending
      · rw [idle] at position; cases position
      · rw [sending] at position; cases position
  | delivers outside =>
      refine steady.mainMoved unmoved ?_ ?_ nofun (fun _ => .inr (.inl rfl)) nofun
      · intro pos position
        rw [outside] at position
        cases position
      · intro pos entered
        cases entered
        rfl
  | begins outside position =>
      have quiet : threads.main.polls = false := by
        rw [outside]
        rfl
      have elsewhere (pos : StartPoint) : threads.main ≠ .onStartCommand pos := by
        intro inside
        rw [outside] at inside
        cases inside
      rcases position with ⟨request, rfl⟩ | rfl
      · exact steady.main_outside unmoved quiet elsewhere nofun nofun nofun
      · exact steady.main_outside unmoved quiet elsewhere nofun nofun nofun
  | @adds event request position =>
      have asked
          : ({ threads with main := .startWithDevice .testRunning } : Threads).Steady := by
        refine steady.mainMoved unmoved ?_ nofun nofun (fun _ => .inr (.inl rfl)) nofun
        intro pos inside
        rw [position] at inside
        cases inside
      exact asked.added rfl request
  | asks position =>
      have orderly : threads.service.isRunning = true → threads.attended := by
        simpa only [Threads.orderly, position] using orderly
      refine steady.mainMoved unmoved ?_ nofun ?_ ?_ nofun
      · intro pos inside
        rw [position] at inside
        cases inside
      · split <;> exact nofun
      · intro _
        cases running : threads.service.isRunning with
        | true => exact .inr (.inr (orderly running))
        | false => exact .inr (.inl rfl)
  | @tests main position following =>
      have set : threads.service.isRunning = true → threads.service.thisSdrDevice ≠ none := by
        rcases MainPoint.main_of_closing position with main | main <;>
          simpa only [Threads.orderly, main] using orderly
      obtain ⟨quiet, outside⟩ := MainPoint.quiet_of_closing position
      refine steady.main_outside unmoved quiet outside ?_ ?_ ?_
      · intro pos inside
        rcases following with ⟨-, closing⟩ | idle
        · rw [inside] at closing
          cases closing
        · rw [idle] at inside
          cases inside
      · intro closing
        rcases following with ⟨running, -⟩ | idle
        · exact set running
        · rw [idle] at closing
          cases closing
      · intro threw
        rcases following with ⟨-, closing⟩ | idle
        · rw [threw] at closing
          cases closing
        · rw [threw] at idle
          cases idle
  | closed position same =>
      obtain ⟨quiet, outside⟩ := MainPoint.quiet_of_closing position
      exact steady.main_outside same quiet outside nofun nofun nofun
  | closeThrows position unset => exact absurd unset (steady.tested position)
  | announces exists_ serving same =>
      refine steady.deviceMoved exists_ ?_ nofun same.toSameRequests (.inl same.thisSdrDevice)
        nofun
      intro pos position
      rw [Threads.device_of_starting position] at serving
      cases serving
  | detaches position same before following named =>
      refine steady.deviceMoved (steady.exists_ (by rw [position]; exact nofun)) ?_ following
        same.toSameRequests (.inl same.thisSdrDevice) ?_
      · intro pos starting
        rw [Threads.device_of_starting starting] at position
        cases position
        exact before pos rfl
      · intro reading
        exact same.thisSdrDevice ▸ named reading
  | nameThrows position unset => exact absurd unset (steady.named _ position)
  | clears position =>
      have orderly : threads.unheld ∧ threads.unused := by
        simpa only [Threads.orderly, position] using orderly
      refine steady.deviceMoved (steady.exists_ (by rw [position]; exact nofun)) ?_ nofun
        ⟨rfl, rfl, rfl, rfl⟩ (.inr orderly) nofun
      intro pos starting
      rw [Threads.device_of_starting starting] at position
      cases position
  | @starts party pos after progress position effect =>
      refine steady.placed position effect ?_
      intro poll
      subst poll
      cases party with
      | main =>
          simpa only [Party.event, Threads.orderly, Threads.main_of_starting position]
            using orderly
      | device start =>
          simpa only [Party.event, Threads.orderly, Threads.device_of_starting position]
            using orderly

end Steady

/-- Before the first event nothing is requested. -/
theorem Threads.initial_steady : Threads.initial.Steady := by
  constructor
  case inOrder => exact ⟨nofun, nofun, fun _ => rfl⟩
  case stored =>
    intro party
    cases party <;> exact nofun
  case beyond => exact fun _ _ => rfl
  case tested => exact nofun
  case named => exact nofun
  case watched => exact fun pending => absurd rfl pending
  case closes => exact nofun

/-- Requests are served in every orderly run: each is started once and in its turn, `close` is
never called on null, and no request is left behind.
-/
theorem requests_served {threads : Threads}
    (reachable : (serviceThreads.restrict Threads.orderly).Reachable threads)
    : threads.Served := by
  have steady : threads.Steady := by
    refine reachable.invariant Threads.Steady ?_ ?_
    · intro start initial
      have initial : start = .initial := initial
      subst initial
      exact Threads.initial_steady
    · intro current choice next _ known fired
      obtain ⟨orderly, fired⟩ := System.restrict_step_iff.mp fired
      exact (Threads.step_cases fired).steady orderly known
  refine ⟨steady.closes, steady.inOrder.started_prefix, ?_⟩
  intro quiet
  obtain ⟨idle, unrequested, ended⟩ := quiet
  by_contra pending
  rcases steady.watched pending with intents | polls | ⟨start, exists_, polls⟩
  · omega
  · rw [idle] at polls
    cases polls
  · rw [ended start exists_] at polls
    cases polls

/-- The binder takes the first request, and the start intent it sends opens the device. -/
def openedSchedule : List ThreadEvent :=
  [.startWithDevice .first, .main, .main, .main, .onStartCommand] ++ List.replicate 8 .main

/-- A request that replaces an open device, until both devices are closed. -/
def replacedSchedule : List ThreadEvent :=
  openedSchedule
  ++ [.startWithDevice .second, .main, .main, .main, .main, .onClosed 0]
  ++ List.replicate 13 (.device 0)
  ++ .onClosed 1 :: List.replicate 9 (.device 1)

/-- Two requests of one client are served one after the other. -/
theorem requests_served_while_replacing
    : ∃ threads,
        (serviceThreads.restrict Threads.orderly).Reachable threads
        ∧ threads.service.started = [.first, .second]
        ∧ threads.Served := by
  have replayed
      : ((serviceThreads.restrict Threads.orderly).run .initial replacedSchedule).map
          (fun threads => threads.service.started)
        = some [.first, .second] := by
    decide +kernel
  obtain ⟨threads, reachable, started⟩ := System.exists_reachable_of_run replayed rfl
  exact ⟨threads, reachable, started, requests_served reachable⟩

/-- `closeService` calls `close` on null when the device is given up between its test and its
use, and a request is left behind when it is added between the poll of the empty queue and the
store to `isRunning`.
-/
theorem requests_lost_between_accesses
    : (¬ ∀ threads, serviceThreads.Reachable threads → threads.main ≠ .closeThrew)
      ∧ ¬ ∀ threads,
          serviceThreads.Reachable threads
          → threads.quiet
          → threads.service.workQueue = [] := by
  constructor
  · intro claim
    have replayed
        : (serviceThreads.run .initial
              (openedSchedule ++ [.onClosed 0, .closeService, .main]
                ++ List.replicate 4 (.device 0) ++ [.main])).map
            (fun threads => threads.main)
          = some .closeThrew := by
      decide +kernel
    obtain ⟨threads, reachable, threw⟩ := System.exists_reachable_of_run replayed rfl
    exact claim threads reachable threw
  · intro claim
    have replayed
        : (serviceThreads.run .initial
              (openedSchedule ++ .onClosed 0 :: List.replicate 6 (.device 0)
                ++ [.startWithDevice .second, .main, .main, .device 0, .main, .device 0,
                  .device 0])).map
            (fun threads =>
              (threads.main, threads.service.startIntents, threads.service.started.length,
                threads.device 0, threads.service.workQueue))
          = some (.idle, 0, 1, .ended, [.second]) := by
      decide +kernel
    obtain ⟨threads, reachable, seen⟩ := System.exists_reachable_of_run replayed rfl
    simp only [Prod.mk.injEq] at seen
    obtain ⟨idle, unrequested, one, ended, pending⟩ := seen
    have quiet : threads.quiet := by
      refine ⟨idle, unrequested, ?_⟩
      intro start exists_
      rw [show start = 0 by omega, ended]
    rw [claim threads reachable quiet] at pending
    cases pending

end RtlTcpAndro.BinaryRunnerService
