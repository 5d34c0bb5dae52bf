import EventLoop.Proofs.Machine.Calls
import EventLoop.Proofs.Machine.Wakeups
import EventLoop.Proofs.Sync.Timeouts

/-!
# What callers that wait for an event are answered

While an event is set, nobody in its queue is pending. So whoever waits when the event is set is granted
then, and is answered so whenever it goes on, even if the event was cleared or the time of the caller
was up in the meantime. A caller is refused only if its timeout fired while it waited for an event that had not
been set since it began to wait.
-/
namespace EventLoop

open Sync (WaiterQueue)

/-- To wake everyone grants everyone who is pending. -/
theorem Sync.WaiterQueue.mem_wakeAll {queue : WaiterQueue} {view : Sync.FutureView} {future : FutureId}
    (waits : future ∈ queue.entries) (pending : view future = .pending) :
    future ∈ (queue.wakeAll view).1 := by
  have stays : future ∈ (queue.entries.filter fun entry => view entry != .cancelled).filter
      fun entry => view entry == .pending := by
    simp [waits, pending]
  have few := Nat.le_trans (List.length_filter_le (fun entry => view entry == .pending)
    (queue.entries.filter fun entry => view entry != .cancelled)) (List.length_filter_le _ queue.entries)
  have all : (queue.wakeAll view).1 = _ := List.take_of_length_le few
  rw [all]
  exact stays

namespace World

variable {held : List Ref} {aspects : List Aspect} {stakes left : Multiset Stake}
variable {places : Multiset (Gate × FutureId)} {world before after : World} {gate : Gate}
variable {future : FutureId} {id : EventId}

/-! ## Events that are set -/

/-- Whether an event is set. -/
def isRaised (world : World) (id : EventId) : Bool := (eventAt id world).1.isSet

/-- Whether an event is set depends on the events only. -/
theorem isRaised_congr (same : after.events = before.events) : after.isRaised id = before.isRaised id :=
  congrArg (fun table => ((Table.get? table id).getD .new).isSet) same

/-- What is done at another gate neither sets nor clears an event. -/
theorem isRaised_touches (touches : Touches gate before after) (differ : .event id ≠ gate) :
    after.isRaised id = before.isRaised id :=
  congrArg (fun found => (Option.getD found Sync.Event.new).isSet) (touches.events differ)

/-- An event after one was changed. -/
theorem eventAt_setEvent (id other : EventId) (event : Sync.Event) (world : World) :
    (eventAt id (setEvent other event world).2).1 =
      if id = other ∧ id < world.events.size then event else (eventAt id world).1 :=
  getD_modify_eq world.events event .new id other

/-- A queue that is changed neither sets nor clears an event. -/
theorem isRaised_setQueue (gate : Gate) (queue : WaiterQueue) (world : World) (id : EventId) :
    (setQueue gate queue world).2.isRaised id = world.isRaised id := by
  cases gate with
  | lock | semaphore | condition => rfl
  | event other =>
    have set := eventAt_setEvent id other { (eventAt other world).1 with waiters := queue } world
    change (eventAt id (setEvent other { (eventAt other world).1 with waiters := queue } world).2).1.isSet = _
    rw [set]
    split
    · rename_i here
      rw [← here.1]
      rfl
    · rfl

/-- A caller that has its turn neither sets nor clears an event. -/
theorem isRaised_takeTurn (gate : Gate) (world : World) (id : EventId) :
    (takeTurn gate world).2.isRaised id = world.isRaised id := by
  cases gate <;> rfl

/-- Removing a caller from its queue leaves an event as it is. -/
theorem isRaised_settlePlace (gate : Gate) (future : FutureId) (world : World) (id : EventId) :
    (settlePlace gate future world).2.isRaised id = world.isRaised id := by
  rw [settlePlace_eq, isRaised_setQueue]

/-- Giving up the place of a caller that is gone leaves an event as it is. -/
theorem isRaised_abandonPlace (gate : Gate) (future : FutureId) (world : World) (id : EventId) :
    (abandonPlace gate future world).2.isRaised id = world.isRaised id := by
  obtain ⟨loop, form⟩ := abandonPlace_form gate future world
  rw [form]
  exact isRaised_setQueue _ _ world id

/-- A release neither sets nor clears an event. -/
theorem isRaised_releaseGuard (orderly : Orderly held places world) (guard : Guard) :
    (releaseGuard guard world).2.isRaised id = world.isRaised id := by
  apply isRaised_touches (orderly.touches_releaseGuard guard)
  cases guard <;> exact Gate.noConfusion

/-- An event that was set before is set, or one that is set just then. -/
theorem Deed.raised_or (deed : Deed held aspects stakes before left after)
    (orderly : Orderly held (placesOf stakes) before) (id : EventId) :
    (after.isRaised id = true → before.isRaised id = true) ∨ after = (raiseEvent id before).2 := by
  have same (kept : after.isRaised id = before.isRaised id) :
      (after.isRaised id = true → before.isRaised id = true) ∨ after = (raiseEvent id before).2 :=
    Or.inl fun raised => kept ▸ raised
  cases deed with
  | changed _ _ calm early change => exact same (isRaised_congr (change.primitives_eq calm).2.2.1)
  | expired | madeLock | madeSemaphore | madeCondition | kept | recalled | renewed | repaid | waived
  | forgiven => exact same rfl
  | madeEvent => exact same (congrArg Sync.Event.isSet (Table.getD_push before.events rfl id))
  | released _ _ lock => exact same (isRaised_releaseGuard orderly (.lock lock))
  | returned _ _ semaphore => exact same (isRaised_releaseGuard orderly (.semaphore semaphore))
  | dropped _ _ guard => exact same (isRaised_releaseGuard orderly guard)
  | lent _ _ condition => exact same (isRaised_releaseGuard orderly (.lock (before.lockOf condition)))
  | notified _ _ condition count =>
    exact same (isRaised_touches (orderly.touches_notify condition count) Gate.noConfusion)
  | raised _ _ other =>
    by_cases here : id = other
    · exact Or.inr (here ▸ rfl)
    · exact same (isRaised_touches (orderly.touches_raiseEvent other) fun gates => here (Gate.event.inj gates))
  | cleared _ _ other =>
    left
    have set := eventAt_setEvent id other (eventAt other before).1.clear before
    intro raised
    change (eventAt id (setEvent other (eventAt other before).1.clear before).2).1.isSet = true at raised
    rw [set] at raised
    split at raised
    · cases raised
    · exact raised
  | took _ _ gate => exact same (isRaised_takeTurn gate before id)
  | resumed _ _ gate future =>
    exact same ((isRaised_takeTurn gate _ id).trans (isRaised_settlePlace gate future before id))
  | left _ _ gate future => exact same (isRaised_settlePlace gate future before id)
  | abandoned _ _ gate future => exact same (isRaised_abandonPlace gate future before id)

/-! ## To set an event -/

/-- An event that exists is set after it was set. -/
theorem isRaised_raiseEvent (exists_ : world.HasGate (.event id)) :
    (raiseEvent id world).2.isRaised id = true := by
  have set := eventAt_setEvent id id ((eventAt id world).1.set world.view).2 world
  rw [if_pos ⟨rfl, exists_⟩] at set
  have reached : (raiseEvent id world).2.isRaised id =
      (eventAt id (setEvent id ((eventAt id world).1.set world.view).2 world).2).1.isSet := by
    rw [raiseEvent_eq, grant_eq]
    rfl
  rw [reached, set, Sync.Event.set]
  split
  · assumption
  · rfl

/-- An event that is set grants everyone who is pending. -/
theorem fate_raiseEvent (bound : ∀ future ∈ world.entries (.event id), future < world.loop.futures.size)
    (unset : world.isRaised id = false) (waits : future ∈ world.entries (.event id))
    (pending : world.loop.fate future = .pending) :
    (raiseEvent id world).2.loop.fate future = .granted := by
  have bound : ∀ other ∈ ((world.queue (.event id)).wakeAll world.view).1, other < world.loop.futures.size :=
    fun other member => bound other (mem_of_wake member)
  have granted : future ∈ ((world.queue (.event id)).wakeAll world.view).1 :=
    WaiterQueue.mem_wakeAll waits (Loop.pending_iff.mpr pending)
  have closed : ¬ (eventAt id world).1.isSet = true := Bool.eq_false_iff.mp unset
  have form : (raiseEvent id world).2.loop =
      world.loop.resolveAll ((world.queue (.event id)).wakeAll world.view).1 (.finish (.ok .unit)) := by
    rw [raiseEvent_eq, Sync.Event.set, if_neg closed, grant_eq]
    rfl
  rw [form, Loop.fate_resolveAll _ _ _ (by decide) bound, if_pos ⟨granted, pending⟩]
  rfl

/-- While an event is set, nobody in its queue is pending. -/
def Admits (id : EventId) (world : World) : Prop :=
  world.isRaised id = true → ∀ future ∈ world.entries (.event id), world.loop.fate future ≠ .pending

namespace Admits

/-- Once an event was set, nobody in its queue is pending. -/
theorem raised (admits : world.Admits id) (orderly : Orderly held places world) :
    (raiseEvent id world).2.Admits id := by
  intro _ future waits pending
  have waited := (Thins.raiseEvent id world (.event id)).subset waits
  have touches := orderly.touches_raiseEvent id
  have before : world.loop.fate future = .pending := by
    by_contra decided
    rw [touches.decided decided] at pending
    exact decided pending
  cases set : world.isRaised id with
  | true => exact admits set future waited before
  | false =>
    have bound (other : FutureId) (member : other ∈ world.entries (.event id)) :
        other < world.loop.futures.size := orderly.bound (Or.inl ⟨_, member⟩)
    rw [fate_raiseEvent bound set waited before] at pending
    cases pending

/-- Deeds keep the law. -/
theorem deed (admits : before.Admits id) (deed : Deed held aspects stakes before left after)
    (orderly : Orderly held (placesOf stakes) before) : after.Admits id := by
  rcases deed.raised_or orderly id with kept | rfl
  · intro raised future waits pending
    have waited := (deed.thins orderly (.event id)).subset waits
    have decided := admits (kept raised) future waited
    rw [deed.decided orderly (Or.inl ⟨_, waited⟩) decided] at pending
    exact decided pending
  · exact admits.raised orderly

/-- Whoever takes a place in the queue of an event found it unset. -/
theorem parked (admits : before.Admits id) (parking : Parking stakes before left after)
    (orderly : Orderly held places before) : after.Admits id := by
  intro raised future waits pending
  have added := parking.entries (.event id)
  obtain ⟨parked, loop, -, shut, rfl, old, -⟩ := parking.form
  have set : before.isRaised id = true := (isRaised_setQueue parked _ before id).symm.trans raised
  by_cases same : parked = .event id
  · subst same
    have unset : before.isRaised id = false := shut
    rw [set] at unset
    cases unset
  · have sets := Sets.setQueue parked ((before.queue parked).park before.loop.futures.size) before
    have waited : future ∈ before.entries (.event id) := by
      rw [World.entries, queue_loop, sets.queues (Ne.symm same)] at waits
      exact waits
    have fate := old future (orderly.bound (Or.inl ⟨_, waited⟩))
    exact admits set future waited (fate.symm.trans pending)

end Admits

/-! ## What the caller of a wait is answered -/

/-- What a wait for a turn is answered is what the caller is answered that asks for the turn. -/
theorem answer_tryLeaf_turn (waiter : Waiter) (gate : Gate) (wait : Wait) (world : World) :
    (tryLeaf waiter (.turn gate wait) world).1 =
      ((awaitTurn waiter gate wait world).1.map Value.bool).mapError (Script.Leaf.turn gate) := by
  simp only [tryLeaf, StateM.bind_apply]
  generalize awaitTurn waiter gate wait world = result
  obtain ⟨after | granted, reached⟩ := result <;> rfl

/-- Whoever asks for an event is answered at once exactly if the event is set. -/
theorem answer_beginTurn_event (waiter : Waiter) (id : EventId) (timeout : Option Nat) (granted : Bool)
    (world : World) : (beginTurn waiter (.event id) timeout world).1 = .ok granted ↔
      granted = true ∧ world.isRaised id = true := by
  cases set : world.isRaised id with
  | true =>
    have isOpen : (isOpenGate (.event id) world).1 = true := set
    rw [beginTurn_of_open waiter timeout isOpen]
    simp [eq_comm]
  | false =>
    have shut : (isOpenGate (.event id) world).1 = false := set
    obtain ⟨⟨after, waits⟩, -⟩ := beginTurn_of_shut waiter timeout shut
    rw [waits]
    simp

/-- What is answered to a wait whose fate is decided. -/
theorem answer_awaitTurn_of_granted {waiter : Waiter} {wait : Wait}
    (granted : world.loop.fate wait.future = .granted) :
    (awaitTurn waiter gate wait world).1 = .ok true := by
  have done : world.loop.isDone wait.future = true := by
    rw [Loop.isDone_iff, granted]
    exact Fate.noConfusion
  rw [answer_awaitTurn, await_of_done done, Loop.resultOf_of_granted granted]
  rfl

end World

namespace Machine

open World (Admits Queued Occupied)

variable {machine before after : Machine} {future : FutureId} {id : EventId}

/-- The law of an event lasts. -/
theorem lasting_admits (id : EventId) : Lasting (Admits id) where
  bare isBare := by
    cases isBare
    intro raised
    cases raised
  deed deed settled admits := admits.deed deed settled.orderly
  parking parking settled admits := admits.parked parking settled.orderly

/-! ## Waits for an event -/

/-- A caller waits for an event that is not set, and its time is not up. -/
structure Awaits (id : EventId) (future : FutureId) (machine : Machine) : Prop where
  /-- It has a place in the queue. -/
  waits : future ∈ machine.world.entries (.event id)
  /-- It is pending. -/
  pending : machine.world.loop.fate future = .pending
  /-- The event is not set. -/
  unset : machine.world.isRaised id = false

/-- In a step of a run, a call that waits for an event takes a place in the queue. -/
structure Parks (id : EventId) (future : FutureId) (before after : Machine) : Prop where
  /-- It is a step of the run. -/
  step : Step before after
  /-- The call had no place before. -/
  absent : future ∉ before.world.entries (.event id)
  /-- It has one then. -/
  waits : future ∈ after.world.entries (.event id)

/-- The next thing that happens is that a call is polled that has a place in the queue of an event. -/
inductive Resumes (id : EventId) (future : FutureId) (machine : Machine) : Prop
  /-- The wait is tried again. -/
  | polled {task : TaskId} {wait : Wait} (clean : machine.world.loop.dropped = [])
      (polled : machine.signal = .retry task (.leaf (.turn (.event id) wait)))
      (same : wait.future = future)

namespace Resumes

/-- A call that is polled has its place. -/
theorem place (resumes : machine.Resumes id future) : (.event id, future) ∈ placesOf machine.stakes := by
  cases resumes with
  | polled clean polled same =>
    subst same
    apply mem_placesOf (stakes_of_retry polled _)
    simp [Script.Pending.stations, Script.Station.stakes]

/-- A call that was granted is answered so. -/
theorem answer_of_granted (resumes : machine.Resumes id future) (step : Step machine after)
    (granted : machine.world.loop.fate future = .granted) : after.signal = .answer (.bool true) := by
  cases resumes with
  | @polled task wait clean polled same =>
    subst same
    have acts : act? machine.signal = some (stepRetry task (.leaf (.turn (.event id) wait))) := by
      rw [polled]
      rfl
    have turn : (World.awaitTurn (machine.waiter task) (.event id) wait machine.holding).1 = .ok true :=
      World.answer_awaitTurn_of_granted granted
    rw [step.eq_of_next (next_of_act clean acts)]
    apply (signal_stepRetry task (.turn (.event id) wait) machine.holding).trans
    change ofAnswer (World.tryLeaf (machine.waiter task) (.turn (.event id) wait) machine.holding).1 = _
    rw [World.answer_tryLeaf_turn, turn]
    rfl

/-- A call that is answered that it was not granted was cancelled. -/
theorem cancelled_of_answer (resumes : machine.Resumes id future) (reachable : machine.Reachable)
    (step : Step machine after) (refused : after.signal = .answer (.bool false)) :
    machine.world.loop.fate future = .cancelled := by
  have place := resumes.place
  have sound := (Reachable.sound reachable).settled.orderly.sound (Or.inr ⟨_, place⟩)
  cases resumes with
  | @polled task wait clean polled same =>
    subst same
    have acts : act? machine.signal = some (stepRetry task (.leaf (.turn (.event id) wait))) := by
      rw [polled]
      rfl
    rw [step.eq_of_next (next_of_act clean acts)] at refused
    have refused := (signal_stepRetry task (.turn (.event id) wait) machine.holding).symm.trans refused
    change ofAnswer (World.tryLeaf (machine.waiter task) (.turn (.event id) wait) machine.holding).1 = _
      at refused
    rw [World.answer_tryLeaf_turn] at refused
    cases answer : (World.awaitTurn (machine.waiter task) (.event id) wait machine.holding).1 with
    | error after =>
      rw [answer] at refused
      cases refused
    | ok granted =>
      rw [answer] at refused
      cases refused
      have sound : machine.holding.loop.fate wait.future ≠ .failed := sound
      exact World.fate_of_answer sound answer

end Resumes

/-- Nobody's time is up in a step that sets an event. -/
theorem Expires.isRaised (expires : machine.Expires future) (step : Step machine after) (id : EventId) :
    after.world.isRaised id = machine.world.isRaised id := by
  rw [expires.world step, World.cancelAll_eq]
  rfl

/-- A call that is pending goes on to be so, or it is granted for good, unless its timeout fires. -/
theorem Reachable.waits_or_decided (reachable : machine.Reachable) (step : Step machine after)
    (waits : future ∈ machine.world.entries (.event id))
    (pending : machine.world.loop.fate future = .pending) (timely : ¬ machine.Expires future) :
    (future ∈ after.world.entries (.event id) ∧ after.world.loop.fate future = .pending) ∨
      Decided (.event id) future .granted after.stakes after.world := by
  have reached : after.Reachable := .step reachable step trivial
  have bound := (Reachable.sound reachable).settled.orderly.bound (Or.inl ⟨_, waits⟩)
  have exists_ := Nat.lt_of_lt_of_le bound ((Reachable.sound reachable).grows step).loop.futures
  have queued : Queued (.event id) future machine.world := by
    refine ⟨waits, fun cancelled => ?_⟩
    rw [Loop.cancelled_iff, pending] at cancelled
    cases cancelled
  by_cases place : (.event id, future) ∈ placesOf after.stakes
  · have stays : Queued (.event id) future after.world := reachable.queued step queued place timely
    have live := stays.live
    have sound := (Reachable.sound reached).settled.orderly.sound (Or.inr ⟨_, place⟩)
    rw [ne_eq, Loop.cancelled_iff] at live
    cases fate : after.world.loop.fate future with
    | pending => exact Or.inl ⟨stays.member, rfl⟩
    | granted => exact Or.inr ⟨exists_, fun _ => fate⟩
    | cancelled => exact absurd fate live
    | failed => exact absurd fate sound
  · exact Or.inr ⟨exists_, fun there => absurd there place⟩

/-- A call that takes a place is pending, and the event is not set. -/
theorem Parks.awaits (parks : Parks id future before after) (reachable : before.Reachable) :
    after.Awaits id future := by
  obtain ⟨aspects, passes⟩ := reachable.passes parks.step
  have reached : after.Reachable := .step reachable parks.step trivial
  have pending : after.world.loop.fate future = .pending :=
    (World.Course.arrives passes (Reachable.sound reachable).settled parks.absent parks.waits).1
  refine ⟨parks.waits, pending, ?_⟩
  rw [Bool.eq_false_iff]
  intro set
  exact (lasting_admits id).reachable reached set future parks.waits pending

/-- Whoever waits when the event is set is granted for good. -/
theorem Reachable.decided_of_raised (reachable : machine.Reachable) (step : Step machine after)
    (unset : machine.world.isRaised id = false) (set : after.world.isRaised id = true)
    (waits : future ∈ machine.world.entries (.event id))
    (pending : machine.world.loop.fate future = .pending) :
    Decided (.event id) future .granted after.stakes after.world := by
  have reached : after.Reachable := .step reachable step trivial
  have timely : ¬ machine.Expires future := by
    intro expires
    rw [expires.isRaised step, unset] at set
    cases set
  apply (reachable.waits_or_decided step waits pending timely).resolve_left
  rintro ⟨waits, pending⟩
  exact (lasting_admits id).reachable reached set future waits pending

/-- A call that waits goes on to wait, or its timeout fires, or it is granted for good. -/
theorem Awaits.step (awaits : machine.Awaits id future) (reachable : machine.Reachable)
    (step : Step machine after) : after.Awaits id future ∨ machine.Expires future ∨
      Decided (.event id) future .granted after.stakes after.world := by
  have reached : after.Reachable := .step reachable step trivial
  by_cases expires : machine.Expires future
  · exact Or.inr (Or.inl expires)
  rcases reachable.waits_or_decided step awaits.waits awaits.pending expires with ⟨waits, pending⟩ | decided
  · left
    refine ⟨waits, pending, Bool.eq_false_iff.mpr fun set => ?_⟩
    exact (lasting_admits id).reachable reached set future waits pending
  · exact Or.inr (Or.inr decided)

/-- Where a call has come to that waited in the beginning of a run: it waits since then, or its timeout fired
while it waited, or it was granted for good. -/
inductive Fares (id : EventId) (future : FutureId) (states : Nat → Machine) (count : Nat) : Prop
  /-- It waits. -/
  | waits (all : ∀ number ≤ count, (states number).Awaits id future)
  /-- Its timeout fired while it waited. -/
  | refused (number : Nat) (earlier : number < count) (expires : (states number).Expires future)
      (all : ∀ other ≤ number, (states other).Awaits id future)
  /-- It was granted. -/
  | granted (decided : Decided (.event id) future .granted (states count).stakes (states count).world)

/-- In every run, a call that waits in the beginning fares in one of these ways. -/
theorem Awaits.fares {states : Nat → Machine} {count : Nat} (awaits : (states 0).Awaits id future)
    (reachable : (states 0).Reachable)
    (steps : ∀ number < count, Step (states number) (states (number + 1))) :
    (states count).Reachable ∧ Fares id future states count := by
  refine reachable.along (Fares id future states) steps ?_ fun count reached step fares => ?_
  · apply Fares.waits
    intro number few
    rw [Nat.le_zero.mp few]
    exact awaits
  · cases fares with
    | waits all =>
      rcases (all count (Nat.le_refl count)).step reached step with waits | expires | decided
      · apply Fares.waits
        intro number few
        rcases Nat.le_succ_iff.mp few with earlier | rfl
        · exact all number earlier
        · exact waits
      · exact .refused count (Nat.lt_succ_self count) expires all
      · exact .granted decided
    | refused number earlier expires all =>
      exact .refused number (Nat.lt_succ_of_lt earlier) expires all
    | granted decided =>
      exact .granted ((persists_decided Fate.noConfusion).step reached step decided)

/-! ## Every state of a run -/

/-- What is promised about an event in a state of a run. -/
structure AnswersTruly (id : EventId) (machine : Machine) : Prop where
  /-- While the event is set, nobody in its queue is pending. -/
  admits : machine.world.isRaised id = true →
    ∀ future ∈ machine.world.entries (.event id), machine.world.loop.fate future ≠ .pending
  /-- A call that sets the event leaves it set, and whoever was pending is granted. -/
  sets : ∀ {name after}, machine.world.names.lookup (.event, name) = some id →
    Calls (.sync (.setEvent name)) machine after → after.world.isRaised id = true ∧
      ∀ future ∈ machine.world.entries (.event id), machine.world.loop.fate future = .pending →
        after.world.loop.fate future = .granted
  /-- Whoever asks for the event is answered at once exactly if it is set, and the answer is yes. -/
  begins : ∀ waiter timeout granted,
    (machine.inWorld (World.beginTurn waiter (.event id) timeout)).1 = .ok granted ↔
      granted = true ∧ machine.world.isRaised id = true
  /-- Whoever waits, not timed out, when a step turns the event on is answered yes when it is polled next,
  whatever happens until then. -/
  raises : ∀ {future after last next}, Step machine after → machine.world.isRaised id = false →
    after.world.isRaised id = true → future ∈ machine.world.entries (.event id) →
      machine.world.loop.fate future = .pending → Later after last → last.Resumes id future →
        Step last next → next.signal = .answer (.bool true)
  /-- The task of a call that was granted is going to be polled: its wakeup is on the way. -/
  rouses : Visits IsSingle machine → ∀ {task activity wait},
    machine.world.loop.taskPhase? task = some (.idle activity) →
      .leaf (.turn (.event id) wait) ∈ activity.stations →
        machine.world.loop.fate wait.future = .granted →
          machine.Hears task wait ∧ machine.world.loop.isDone wait.future = true
  /-- If a call that takes a place in the next step of a run is answered no at last, its timeout fired in the
  run, and from the moment on at which it took its place until then it was pending and the event was not
  set. -/
  refuses : ∀ {future next} {states : Nat → Machine} {count : Nat}, machine.Parks id future (states 0) →
    (∀ number < count, Step (states number) (states (number + 1))) →
      (states count).Resumes id future → Step (states count) next → next.signal = .answer (.bool false) →
        ∃ number < count, (states number).Expires future ∧
          ∀ other ≤ number, (states other).Awaits id future

/-- A call that sets an event leaves it set and grants whoever was pending. -/
theorem Reachable.sets_event (reachable : machine.Reachable) {name : String}
    (named : machine.world.names.lookup (.event, name) = some id)
    (calls : Calls (.sync (.setEvent name)) machine after) : after.world.isRaised id = true ∧
      ∀ future ∈ machine.world.entries (.event id), machine.world.loop.fate future = .pending →
        after.world.loop.fate future = .granted := by
  have orderly := (Reachable.sound reachable).settled.orderly
  obtain ⟨protocol, world, answered⟩ := calls.answered (finishes_sync _)
  have done : after.world = (World.raiseEvent id world).2 := by
    have action := World.onNamed_eq (answered.names ▸ named) fun id => do
      World.raiseEvent id
      return .null
    exact answered.done.trans (congrArg Prod.snd action)
  have exists_ : world.HasGate (.event id) := by
    change id < world.events.size
    rw [answered.events]
    exact orderly.within.names (World.mem_names named)
  have entries : world.entries (.event id) = machine.world.entries (.event id) :=
    congrArg (fun queue => (queue (.event id)).entries) answered.queues
  rw [done]
  refine ⟨World.isRaised_raiseEvent exists_, fun future waits pending => ?_⟩
  apply World.fate_raiseEvent
  · intro other member
    rw [answered.loop]
    exact orderly.bound (Or.inl ⟨_, entries ▸ member⟩)
  · rw [World.isRaised_congr answered.events, Bool.eq_false_iff]
    intro set
    exact (lasting_admits id).reachable reachable set future waits pending
  · exact entries ▸ waits
  · rw [answered.loop]
    exact pending

/-- In every state of every run, callers that wait for an event are answered truly. -/
theorem answersTruly (reachable : machine.Reachable) (id : EventId) : machine.AnswersTruly id where
  admits := (lasting_admits id).reachable reachable
  sets named calls := reachable.sets_event named calls
  begins waiter timeout granted := World.answer_beginTurn_event waiter id timeout granted machine.holding
  raises step unset set waits pending later resumes last := by
    have reached := Visits.step reachable step trivial
    have decided := reachable.decided_of_raised step unset set waits pending
    have lasts := (persists_decided Fate.noConfusion).onward reached later decided
    exact resumes.answer_of_granted last (lasts.fate resumes.place)
  rouses visits task activity wait idle member granted := by
    refine ⟨visits.alert.hears idle member List.mem_cons_self, ?_⟩
    rw [Loop.isDone_iff, granted]
    exact Fate.noConfusion
  refuses parks steps resumes last refused := by
    obtain ⟨reached, fares⟩ :=
      (parks.awaits reachable).fares (.step reachable parks.step trivial) steps
    have cancelled := resumes.cancelled_of_answer reached last refused
    cases fares with
    | waits all =>
      rw [(all _ (Nat.le_refl _)).pending] at cancelled
      cases cancelled
    | refused number earlier expires all => exact ⟨number, earlier, expires, all⟩
    | granted decided =>
      rw [decided.fate resumes.place] at cancelled
      cases cancelled

/-- Whether a call is about to be polled that waits for the first event. -/
def resumesFirst (future : FutureId) (machine : Machine) : Bool :=
  match machine.signal with
  | .retry _ (.leaf (.turn (.event 0) wait)) =>
    machine.world.loop.dropped.isEmpty && wait.future == future
  | _ => false

/-- The check on a state says that the first task resumes with the future. -/
theorem resumes_of_resumesFirst (first : machine.resumesFirst future = true) : machine.Resumes 0 future := by
  unfold resumesFirst at first
  split at first
  · rename_i task wait polled
    rw [Bool.and_eq_true, beq_iff_eq] at first
    exact .polled (List.isEmpty_iff.mp first.1) polled first.2
  · cases first

/-- Whether an answer was just given that says no. -/
def saysNo (machine : Machine) : Bool :=
  match machine.signal with
  | .answer (.bool false) => true
  | _ => false

/-- The check on a state says that the answer is no. -/
theorem signal_of_saysNo (no : machine.saysNo = true) : machine.signal = .answer (.bool false) := by
  unfold saysNo at no
  split at no
  · assumption
  · cases no

/-- Of two tasks that are to wait for an event, the one with a timeout is about to take its place. -/
def seating : Machine := (scripted.drive (fun _ => true) 60
  [.sync (.makeEvent "e"), .spawn "hasty" [.wait (.event "e" (some 1000000))],
    .spawn "patient" [.wait (.event "e" none)]]).drive (fun _ => true) 6 [.runOnce 4]

/-- Where the loop has come to some moves after that. -/
def seated (moves : Nat) : Machine := seating.runWithin (fun _ => true) (moves + 1)

/-- A task waits for an event. -/
def listening : Machine := scripted.drive (fun _ => true) 30
  [.sync (.makeEvent "e"), .spawn "patient" [.wait (.event "e" (some 5000000))], .runOnce 1]

/-- The event was set. -/
def resounding : Machine := listening.instructed (.sync (.setEvent "e"))

/-- The event was cleared again, and the task is about to go on. -/
def silenced : Machine := (resounding.runWithin (fun _ => true) 10).drive (fun _ => true) 9
  [.sync (.clearEvent "e"), .runOnce 2]

/-- One caller is refused because its timeout fired, and another one is granted although the event is not set
any more when it goes on. -/
theorem answersTruly_seated :
    (∃ number < 28, (seated number).Expires 3 ∧ ∀ other ≤ number, (seated other).Awaits 0 3) ∧
      silenced.world.isRaised 0 = false ∧
        ∀ {next}, Step silenced next → next.signal = .answer (.bool true) := by
  constructor
  · have reachable : seating.Reachable := Visits.onward (reachable_drive 60 _) (later_drive 6 _ _)
    have states : (seating.runWithin (fun _ => true) 29).next.isSome = true ∧
        3 ∉ seating.world.entries (.event 0) ∧ 3 ∈ (seated 0).world.entries (.event 0) ∧
          (seated 28).resumesFirst 3 = true ∧ (seated 29).saysNo = true := by decide +kernel
    unfold seated at states ⊢
    -- From here on it does not matter how the state was reached.
    generalize seating = machine at reachable states ⊢
    obtain ⟨goes, absent, waits, resumes, no⟩ := states
    have steps := steps_runWithin goes
    exact (answersTruly reachable 0).refuses ⟨steps 0 (Nat.zero_le _), absent, waits⟩
      (fun number few => steps (number + 1) (Nat.succ_le_succ (Nat.le_of_lt few)))
      (resumes_of_resumesFirst resumes) (steps 29 (Nat.le_refl _)) (signal_of_saysNo no)
  · have reachable : listening.Reachable := reachable_drive 30 _
    have states : listening.next.isNone = true ∧ listening.world.isRaised 0 = false ∧
        resounding.world.isRaised 0 = true ∧ 2 ∈ listening.world.entries (.event 0) ∧
          listening.world.loop.fate 2 = .pending ∧ silenced.resumesFirst 2 = true ∧
            silenced.world.isRaised 0 = false := by decide +kernel
    have step (halted : listening.next = none) : Step listening resounding := .begun halted _
    have later : Later resounding silenced := (later_runWithin 10 _).trans (later_drive 9 _ _)
    generalize silenced = last at states later ⊢
    generalize resounding = after at states step later
    generalize listening = machine at reachable states step
    obtain ⟨halted, unset, set, waits, pending, resumes, cleared⟩ := states
    refine ⟨cleared, fun next => ?_⟩
    exact (answersTruly reachable 0).raises (step (Option.isNone_iff_eq_none.mp halted)) unset set waits
      pending later (resumes_of_resumesFirst resumes) next

end Machine

end EventLoop
