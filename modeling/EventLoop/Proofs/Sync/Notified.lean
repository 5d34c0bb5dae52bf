import EventLoop.Proofs.Machine.Leaves
import EventLoop.Proofs.Machine.Wakeups
import EventLoop.Proofs.Sync.Notices

/-!
# What callers that wait for a condition are told

A caller that waits for a condition is told that it was notified exactly if a call to notify granted it
before its time was up, and that it was not exactly if its time was up first. It learns so only after it has
taken the lock again, however often it has to wait for that and whatever happens in the meantime.
-/
namespace EventLoop

open Script (Leaf Goal)

namespace World

variable {world : World} {id : ConditionId} {waiter : Waiter}

/-- Whoever begins to wait for a condition whose lock is held takes a new place in its queue. -/
theorem beginNotice_of_locked (exists_ : id < world.conditions.size)
    (locked : (lockAt (world.lockOf id) world).1.locked = true) (waiter : Waiter) (timeout : Option Nat)
    (goal : Goal) : ∃ wait reached,
      beginNotice waiter id timeout goal world = (.ok (.notice id wait goal), reached) ∧
        world.loop.futures.size ≤ wait.future ∧ wait.future ∈ reached.entries (.condition id) := by
  have asked : isConditionLocked (conditionAt id world).1 world =
      ((lockAt (world.lockOf id) world).1.locked, world) := rfl
  have lock : (conditionAt id world).1.lock = world.lockOf id := rfl
  have released : (releaseLock (world.lockOf id) world).2.conditions = world.conditions ∧
      (releaseLock (world.lockOf id) world).2.loop.futures.size = world.loop.futures.size := by
    rw [releaseLock_eq, if_pos locked, grant_eq]
    exact ⟨rfl, Loop.size_futures_resolveAll _ _ _⟩
  unfold beginNotice
  rw [StateM.bind_apply, conditionAt_eq, StateM.bind_apply, asked, lock, locked]
  simp only [if_true, StateM.bind_apply]
  generalize (releaseLock (world.lockOf id) world).2 = middle at released ⊢
  have waits : middle.loop.futures.size ∈ (park (.condition id) timeout middle).2.entries (.condition id) := by
    have there : HasGate { middle with loop :=
        (middle.loop.makeTimed .unit middle.host.kernel.now timeout).2 } (.condition id) := by
      change id < middle.conditions.size
      rw [released.1]
      exact exists_
    rw [park_eq]
    exact (Sets.setQueue _ _ _).mem_entries there (List.mem_append_right _ List.mem_cons_self)
  have parked : (park (.condition id) timeout middle).1 = middle.loop.futures.size := by rw [park_eq]
  generalize park (.condition id) timeout middle = result at waits parked ⊢
  obtain ⟨future, reached⟩ := result
  subst parked
  have kept : middle.loop.futures.size ∈
      (await waiter ⟨middle.loop.futures.size, none⟩ reached).2.entries (.condition id) := by
    change _ ∈ World.entries { reached with loop := _ } _
    rw [entries, queue_loop]
    exact waits
  have same := @await_future waiter ⟨middle.loop.futures.size, none⟩
  dsimp only at same ⊢
  generalize asked : await waiter ⟨middle.loop.futures.size, none⟩ reached = answer at kept
  obtain ⟨after | outcome, last⟩ := answer
  · have same := same (congrArg Prod.fst asked)
    exact ⟨after, last, rfl, by rw [same, released.2], same ▸ kept⟩
  · exact ⟨_, last, rfl, Nat.le_of_eq released.2.symm, kept⟩

/-- What a program is answered that begins to wait for a condition. -/
def noticeAnswer : Except Error Leaf → Answer
  | .ok leaf => .error leaf
  | .error error => .ok (errorValue error)

/-- To wait for a condition with a name is to begin to wait to be notified. -/
theorem beginWait_condition {name : String} (named : world.names.lookup (.condition, name) = some id)
    (waiter : Waiter) (timeout : Option Nat) : beginWait waiter (.condition name timeout) world =
      (noticeAnswer (beginNotice waiter id timeout .notification world).1,
        (beginNotice waiter id timeout .notification world).2) := by
  rw [beginWait, withNamed_eq named, StateM.bind_apply]
  generalize beginNotice waiter id timeout .notification world = result
  obtain ⟨error | leaf, reached⟩ := result
  · rfl
  · rfl

end World

namespace Machine

open World (Lingers)

variable {machine before after next : Machine} {id : ConditionId} {future : FutureId} {leaf : Leaf}
variable {states : Nat → Machine} {count : Nat} {told : Bool}

/-! ## What becomes of a call that waits -/

/-- What a call that waits for a condition learns in a run, according to what happened first while it was
pending. -/
inductive Learns (id : ConditionId) (future : FutureId) (states : Nat → Machine) (count : Nat) :
    Bool → Prop
  /-- It was notified. -/
  | notified {number : Nat} (earlier : number < count)
      (notifies : Notifies id future (states number) (states (number + 1)))
      (all : ∀ other ≤ number, (states other).world.Lingers id future) : Learns id future states count true
  /-- Its timeout fired. -/
  | late {number : Nat} (earlier : number < count) (expires : (states number).Expires future)
      (all : ∀ other ≤ number, (states other).world.Lingers id future) : Learns id future states count false

/-- The fate of a call that learned whether it was notified. -/
def fateOf : Bool → Fate
  | true => .granted
  | false => .cancelled

namespace Learns

/-- What was learned stays so. -/
theorem mono (learns : Learns id future states count told) {more : Nat} (le : count ≤ more) :
    Learns id future states more told := by
  cases learns with
  | notified earlier notifies all => exact .notified (Nat.lt_of_lt_of_le earlier le) notifies all
  | late earlier expires all => exact .late (Nat.lt_of_lt_of_le earlier le) expires all

/-- At some time a call was pending for the last time, and its fate was known after that. -/
theorem exists_last (learns : Learns id future states count told)
    (reachable : ∀ number < count, (states number).Reachable)
    (steps : ∀ number < count, Step (states number) (states (number + 1))) :
    ∃ number < count, (∀ other ≤ number, (states other).world.loop.fate future = .pending) ∧
      (states (number + 1)).world.loop.fate future = fateOf told := by
  cases learns with
  | @notified number earlier notifies all =>
    exact ⟨number, earlier, fun other le => (all other le).pending,
      notifies.fate (reachable number earlier)⟩
  | @late number earlier expires all =>
    have lingers := all number (Nat.le_refl number)
    have exists_ := (Reachable.sound (reachable number earlier)).settled.orderly.bound
      (Or.inl ⟨_, lingers.waits⟩)
    exact ⟨number, earlier, fun other le => (all other le).pending,
      expires.fate (steps number earlier) exists_ lingers.pending⟩

/-- A call learns one thing only. -/
theorem unique (learns : Learns id future states count told) {other : Bool}
    (also : Learns id future states count other) (reachable : ∀ number < count, (states number).Reachable)
    (steps : ∀ number < count, Step (states number) (states (number + 1))) : other = told := by
  obtain ⟨first, -, pending, fate⟩ := learns.exists_last reachable steps
  obtain ⟨second, -, pending', fate'⟩ := also.exists_last reachable steps
  have decided (answer : Bool) : fateOf answer ≠ .pending := by cases answer <;> exact Fate.noConfusion
  have same : first = second := by
    apply Nat.le_antisymm
    · by_contra later
      exact decided other (fate'.symm.trans (pending (second + 1) (Nat.lt_of_not_le later)))
    · by_contra later
      exact decided told (fate.symm.trans (pending' (first + 1) (Nat.lt_of_not_le later)))
  subst same
  rw [fate] at fate'
  revert fate'
  cases told <;> cases other <;> simp [fateOf]

end Learns

/-- A place that was given up is not taken again. -/
theorem persists_gone (gate : Gate) (future : FutureId) :
    Persists fun stakes world => future < world.loop.futures.size ∧ (gate, future) ∉ placesOf stakes where
  deed deed settled gone :=
    ⟨(persists_exists future).deed deed settled gone.1,
      fun there => gone.2 (Multiset.mem_of_le deed.places_le there)⟩
  parking parking settled gone :=
    ⟨(persists_exists future).parking parking settled gone.1,
      fun there => gone.2 (parking.mem_places gone.1 there)⟩

/-- How a call fares in a run that begins to wait to be notified. -/
inductive Endures (id : ConditionId) (future : FutureId) (states : Nat → Machine) (count : Nat) : Prop
  /-- It has been pending all the time. -/
  | waits (all : ∀ number ≤ count, (states number).world.Lingers id future)
  /-- It is decided what it learns. -/
  | learns {told : Bool} (learns : Learns id future states count told)
      (decided : Decided (.condition id) future (fateOf told) (states count).stakes (states count).world)
  /-- It gave its place up. -/
  | gone (exists_ : future < (states count).world.loop.futures.size)
      (gone : (.condition id, future) ∉ placesOf (states count).stakes)

/-- A call that has been pending goes on to be, or learns what it is told, or gives its place up. -/
theorem endures_step (reachable : (states count).Reachable)
    (step : Step (states count) (states (count + 1)))
    (all : ∀ number ≤ count, (states number).world.Lingers id future) :
    Endures id future states (count + 1) := by
  have lingers := all count (Nat.le_refl count)
  have old := (Reachable.sound reachable).settled.orderly.bound (Or.inl ⟨_, lingers.waits⟩)
  have exists_ := Nat.lt_of_lt_of_le old ((Reachable.sound reachable).grows step).loop.futures
  by_cases place : (.condition id, future) ∈ placesOf (states (count + 1)).stakes
  · rcases reachable.lingers_step step lingers place with stays | expires | notifies
    · apply Endures.waits
      intro number le
      rcases Nat.le_succ_iff.mp le with earlier | rfl
      · exact all number earlier
      · exact stays
    · exact .learns (.late (Nat.lt_succ_self count) expires all)
        ⟨exists_, fun _ => expires.fate step old lingers.pending⟩
    · exact .learns (.notified (Nat.lt_succ_self count) notifies all)
        ⟨exists_, fun _ => notifies.fate reachable⟩
  · exact .gone exists_ place

/-- In every run, a call that begins to wait to be notified fares in one of these ways. -/
theorem endures (lingers : (states 0).world.Lingers id future) (reachable : (states 0).Reachable)
    (steps : ∀ number < count, Step (states number) (states (number + 1))) :
    (states count).Reachable ∧ Endures id future states count := by
  refine reachable.along (Endures id future states) steps ?_ fun count reached step endures => ?_
  · apply Endures.waits
    intro number few
    rw [Nat.le_zero.mp few]
    exact lingers
  · cases endures with
    | waits all => exact endures_step reached step all
    | @learns told learns decided =>
      have known : fateOf told ≠ .pending := by cases told <;> exact Fate.noConfusion
      exact .learns (learns.mono (Nat.le_succ count)) ((persists_decided known).step reached step decided)
    | gone exists_ gone =>
      have stays := (persists_gone (.condition id) future).step reached step ⟨exists_, gone⟩
      exact .gone stays.1 stays.2

/-! ## What the leaf of a call says -/

/-- A call waits to be notified, or it waits for the lock and will be told what it learned. -/
inductive Tells (id : ConditionId) (future : FutureId) (states : Nat → Machine) (count : Nat) : Leaf → Prop
  /-- It waits to be notified. -/
  | notice {wait : Wait} (same : wait.future = future) :
      Tells id future states count (.notice id wait .notification)
  /-- It waits for the lock. -/
  | relock {told : Bool} (learns : Learns id future states count told) (lock : LockId) (wait : Wait) :
      Tells id future states count (.relock id lock wait told .notification)

/-- What comes of trying a call again that waits for a condition. -/
inductive Ensues (id : ConditionId) (future : FutureId) (states : Nat → Machine) (count : Nat) : Signal → Prop
  /-- It goes on waiting. -/
  | waits {leaf : Leaf} (tells : Tells id future states count leaf) :
      Ensues id future states count (.waiting (.leaf leaf))
  /-- It is told what it learned. -/
  | answered {told : Bool} (learns : Learns id future states count told) :
      Ensues id future states count (.answer (.ok (.bool told)))

/-- A call that knows what it learned goes on to wait for the lock, or is told. -/
theorem Learns.goes {waiter : World.Waiter} {result : World.Answer × World}
    (learns : Learns id future states count told)
    (relocks : World.Relocks waiter id told .notification result) :
    Ensues id future states count (ofAnswer result.1) := by
  cases relocks with
  | waits lock wait reached => exact .waits (.relock learns lock wait)
  | goes reached => exact .answered learns

/-- A call that waits for a condition goes on waiting when it is tried again, or is told what it learned. -/
theorem Tells.goes (tells : Tells id future states count leaf) (reachable : (states count).Reachable)
    (endures : Endures id future states count) (tries : (states count).Tries leaf)
    (step : Step (states count) next) : Ensues id future states count next.signal := by
  obtain ⟨waiter, -, signal⟩ := tries.step step
  have owned := tries.stakes_le
  rw [signal]
  cases tells with
  | @notice wait same =>
    subst same
    have place : (.condition id, wait.future) ∈ placesOf (states count).stakes :=
      mem_placesOf (Multiset.mem_of_le owned (World.AwaitsCondition.notice wait).place_mem)
    have sound := (Reachable.sound reachable).settled.orderly.sound (Or.inr ⟨_, place⟩)
    have sound : (states count).holding.loop.fate wait.future ≠ .failed := sound
    have heeds : World.Heeds waiter id wait .notification (states count).holding
        ((states count).inWorld (World.tryLeaf waiter (.notice id wait .notification))) :=
      World.heeds_tryLeaf waiter sound
    generalize (states count).inWorld (World.tryLeaf waiter (.notice id wait .notification)) = result at heeds ⊢
    cases heeds with
    | waits same reached => exact .waits (.notice same)
    | @decided notified _ fate relocks =>
      have fate : (states count).world.loop.fate wait.future = fateOf notified := by
        cases notified <;> exact fate
      cases endures with
      | waits all =>
        rw [(all count (Nat.le_refl count)).pending] at fate
        cases notified <;> cases fate
      | @learns told learns decided =>
        rw [decided.fate place] at fate
        have same : notified = told := by
          revert fate
          cases notified <;> cases told <;> simp [fateOf]
        subst same
        exact learns.goes relocks
      | gone _ gone => exact absurd place gone
  | relock learns lock wait => exact learns.goes (World.relocks_tryLeaf _ _ _ _ _ _ _)

/-- In every run, the leaf of a call that began to wait for a condition tells what the call learned. -/
theorem WaitsAt.tells {wait : Wait} (waits : WaitsAt states (.notice id wait .notification) count leaf)
    (lingers : (states 0).world.Lingers id wait.future) (reachable : (states 0).Reachable)
    (steps : ∀ number < count, Step (states number) (states (number + 1))) :
    Tells id wait.future states count leaf := by
  have more {count : Nat} {leaf : Leaf} (tells : Tells id wait.future states count leaf) :
      Tells id wait.future states (count + 1) leaf := by
    cases tells with
    | notice same => exact .notice same
    | relock learns lock wait => exact .relock (learns.mono (Nat.le_succ count)) lock wait
  induction waits with
  | begins => exact .notice rfl
  | stays _ _ ih => exact more (ih fun number few => steps number (Nat.lt_succ_of_lt few))
  | @tried count leaf next earlier tries waits ih =>
    have before (number : Nat) (few : number < count) := steps number (Nat.lt_succ_of_lt few)
    obtain ⟨reached, endures⟩ := endures lingers reachable before
    have goes := (ih before).goes reached endures tries (steps count (Nat.lt_succ_self count))
    rw [waits] at goes
    cases goes with
    | waits tells => exact more tells

/-! ## Every state of a run -/

/-- A program that begins to wait for a condition fails if the lock is free, and otherwise takes a place. -/
theorem Reachable.begins_notice (reachable : machine.Reachable) {name : String} {timeout : Option Nat}
    (named : machine.world.names.lookup (.condition, name) = some id)
    (begins : BeginsWait (.condition name timeout) machine after) :
    ((World.lockAt (machine.world.lockOf id) machine.world).1.locked = false ∧
      after.signal = .answer (World.errorValue .waitWithoutLock)) ∨
    ∃ wait, after.signal = .waiting (.leaf (.notice id wait .notification)) ∧
      wait.future ∉ machine.world.entries (.condition id) ∧ after.world.Lingers id wait.future := by
  have settled := (Reachable.sound reachable).settled
  have exists_ : id < machine.holding.conditions.size := settled.orderly.within.names (World.mem_names named)
  obtain ⟨waiter, world, signal⟩ := begins.begun
  have named : machine.holding.names.lookup (.condition, name) = some id := named
  have does : machine.inWorld (World.beginWait waiter (.condition name timeout)) = _ :=
    World.beginWait_condition named waiter timeout
  rw [does] at world signal
  cases locked : (World.lockAt (machine.holding.lockOf id) machine.holding).1.locked with
  | false =>
    left
    have begun := World.begun_beginNotice waiter id timeout .notification machine.holding
    generalize World.beginNotice waiter id timeout .notification machine.holding = result at begun signal
    cases begun with
    | waits wait givenUp =>
      rw [givenUp.held] at locked
      cases locked
    | refused free => exact ⟨free, signal⟩
  | true =>
    right
    obtain ⟨wait, reached, begun, fresh, waits⟩ :=
      World.beginNotice_of_locked exists_ locked waiter timeout .notification
    rw [begun] at world signal
    have waits : wait.future ∈ after.world.entries (.condition id) := world ▸ waits
    have absent : wait.future ∉ machine.world.entries (.condition id) := fun there =>
      Nat.not_lt.mpr fresh (settled.orderly.bound (Or.inl ⟨_, there⟩))
    obtain ⟨aspects, passes⟩ := reachable.passes begins.step
    have pending := (World.Course.arrives passes settled absent waits).1
    exact ⟨wait, signal, absent, waits, pending⟩

/-- In a step of a run, callers only leave a queue, or one more arrives that is new and stands last. -/
theorem Reachable.arrives (reachable : machine.Reachable) (step : Step machine after) (gate : Gate) :
    ∃ waiting, waiting.Sublist (machine.world.entries gate) ∧ (after.world.entries gate = waiting ∨
      ∃ new, machine.world.loop.futures.size ≤ new ∧ after.world.loop.fate new = .pending ∧
        after.world.entries gate = waiting ++ [new]) := by
  have settled := (Reachable.sound reachable).settled
  obtain ⟨aspects, passes⟩ := reachable.passes step
  by_cases fewer : after.world.entries gate ⊆ machine.world.entries gate
  · refine ⟨_, ?_, Or.inl rfl⟩
    rcases passes with deeds | ⟨middle, deeds, parking⟩
    · exact (deeds.thins settled).1 gate
    · obtain ⟨thins, size⟩ := deeds.thins settled
      rcases parking.entries gate with same | added
      · rw [same]
        exact thins gate
      · have new : middle.2.loop.futures.size ∈ after.world.entries gate := by
          rw [added]
          exact List.mem_append_right _ List.mem_cons_self
        have old := settled.orderly.bound (Or.inl ⟨gate, fewer new⟩)
        exact absurd old (Nat.not_lt.mpr size)
  · simp only [List.subset_def, not_forall] at fewer
    obtain ⟨new, waits, absent⟩ := fewer
    obtain ⟨pending, fresh, waiting, sublist, added⟩ := World.Course.arrives passes settled absent waits
    exact ⟨waiting, sublist, Or.inr ⟨new, fresh, pending, added⟩⟩

/-- What is promised about a condition in a state of a run. -/
structure NotifiesTruly (id : ConditionId) (machine : Machine) : Prop where
  /-- A call to notify grants the first ones of the callers that are pending, as many as it is for, if the lock
  is held, and nobody else. -/
  notifies : ∀ {call count after}, IsNotice id machine.world call count → Calls (.sync call) machine after →
    Notified id count machine after
  /-- Callers stand in the order of their arrival: one that arrives in a step is new and pending, and stands
  behind those that were there. -/
  arrives : ∀ {after}, Step machine after →
    ∃ waiting, waiting.Sublist (machine.world.entries (.condition id)) ∧
      (after.world.entries (.condition id) = waiting ∨
        ∃ new, machine.world.loop.futures.size ≤ new ∧ after.world.loop.fate new = .pending ∧
          after.world.entries (.condition id) = waiting ++ [new])
  /-- A caller that is pending goes on to be, or its timeout fires, or a call notifies it, as long as it keeps
  its place. -/
  grants : ∀ {future after}, Step machine after → machine.world.Lingers id future →
    (.condition id, future) ∈ placesOf after.stakes →
      after.world.Lingers id future ∨ machine.Expires future ∨ Notifies id future machine after
  /-- A program that begins to wait fails if the lock is free, and otherwise takes a place and is pending. -/
  begins : ∀ {name timeout after}, machine.world.names.lookup (.condition, name) = some id →
    BeginsWait (.condition name timeout) machine after →
      ((World.lockAt (machine.world.lockOf id) machine.world).1.locked = false ∧
        after.signal = .answer (World.errorValue .waitWithoutLock)) ∨
      ∃ wait, after.signal = .waiting (.leaf (.notice id wait .notification)) ∧
        wait.future ∉ machine.world.entries (.condition id) ∧ after.world.Lingers id wait.future
  /-- At any time after that a call that has begun to wait was answered, or waits. -/
  follows : ∀ {name timeout} {states : Nat → Machine} {count : Nat},
    BeginsWait (.condition name timeout) machine (states 0) →
      (∀ number < count, Step (states number) (states (number + 1))) →
        (∃ value, (states 0).signal = .answer value) ∨
          ∃ first, (∃ leaf, WaitsAt states first count leaf) ∨
            ∃ number < count, ∃ leaf value, WaitsAt states first number leaf ∧ (states number).Tries leaf ∧
              (states (number + 1)).signal = .answer value
  /-- Wherever a call that begins to wait in the next step of a run is answered at last, it is told whether it
  was notified: it is told so exactly if a call notified it while it was pending, and it is told that it was
  not exactly if its timeout fired while it was pending. -/
  answers : ∀ {name timeout first leaf value next} {states : Nat → Machine} {count : Nat},
    machine.world.names.lookup (.condition, name) = some id →
      BeginsWait (.condition name timeout) machine (states 0) →
        (∀ number < count, Step (states number) (states (number + 1))) →
          WaitsAt states first count leaf → (states count).Tries leaf → Step (states count) next →
            next.signal = .answer value → ∃ wait told, first = .notice id wait .notification ∧
              value = .ok (.bool told) ∧
                ∀ answer, Learns id wait.future states count answer ↔ answer = told
  /-- The task of a call that was notified, or whose timeout fired, is going to be polled: its wakeup is on the
  way. -/
  rouses : Visits IsSingle machine → ∀ {task activity wait goal},
    machine.world.loop.taskPhase? task = some (.idle activity) →
      .leaf (.notice id wait goal) ∈ activity.stations →
        machine.world.loop.fate wait.future ≠ .pending →
          machine.Hears task wait ∧ machine.world.loop.isDone wait.future = true

/-- What a call is told that begins to wait for a condition in the next step of a run. -/
theorem Reachable.answers_notice (reachable : machine.Reachable) {name : String} {timeout : Option Nat}
    (named : machine.world.names.lookup (.condition, name) = some id)
    (begins : BeginsWait (.condition name timeout) machine (states 0))
    (steps : ∀ number < count, Step (states number) (states (number + 1))) {first : Leaf}
    (waits : WaitsAt states first count leaf) (tries : (states count).Tries leaf)
    (step : Step (states count) next) {value : Value} (answered : next.signal = .answer value) :
    ∃ wait told, first = .notice id wait .notification ∧ value = .ok (.bool told) ∧
      ∀ answer, Learns id wait.future states count answer ↔ answer = told := by
  have reached : (states 0).Reachable := .step reachable begins.step trivial
  have started : (states 0).signal = .waiting (.leaf first) := waits.started
  rcases reachable.begins_notice named begins with ⟨-, failed⟩ | ⟨wait, parked, -, lingers⟩
  · rw [failed] at started
    cases started
  rw [parked] at started
  cases started
  have upTo (number : Nat) (few : number < count) : (states number).Reachable :=
    (endures lingers reached fun other less => steps other (Nat.lt_trans less few)).1
  obtain ⟨there, endures⟩ := endures lingers reached steps
  have goes := (waits.tells lingers reached steps).goes there endures tries step
  rw [answered] at goes
  cases goes with
  | @answered told learns =>
    refine ⟨wait, told, rfl, rfl, fun answer => ⟨fun also => learns.unique also upTo steps, ?_⟩⟩
    rintro rfl
    exact learns

/-- In every state of every run, callers that wait for a condition are notified in their order and told the
truth. -/
theorem notifiesTruly (reachable : machine.Reachable) (id : ConditionId) : machine.NotifiesTruly id where
  notifies notice calls := reachable.notified notice calls
  arrives step := reachable.arrives step (.condition id)
  grants step lingers place := reachable.lingers_step step lingers place
  begins named begins := reachable.begins_notice named begins
  follows begins steps := begins.follows steps
  answers named begins steps waits tries step answered :=
    reachable.answers_notice named begins steps waits tries step answered
  rouses visits _ _ _ _ idle member decided :=
    ⟨visits.alert.hears idle member List.mem_cons_self, Loop.isDone_iff.mpr decided⟩

/-- One task is to wait for a condition for a while, another one as long as it takes, and a third one is to
notify one caller after that while, and to keep the lock for some time then. -/
def heralding : Machine := scripted.drive (fun _ => true) 60
  [.sync (.makeLock "l"), .sync (.makeCondition "c" (some "l")),
    .spawn "hasty" [.wait (.lock "l" none), .wait (.condition "c" (some 1)), .sync (.releaseLock "l")],
    .spawn "patient" [.wait (.lock "l" none), .wait (.condition "c" none)],
    .spawn "herald" [.wait (.sleep 2), .wait (.lock "l" none), .sync (.notify "c" 1), .wait .yield,
      .wait .yield, .sync (.releaseLock "l")]]

/-- The first task is about to begin to wait. -/
def hastening : Machine := heralding.drive (fun _ => true) 8 [.runOnce 20]

/-- The second one is. -/
def abiding : Machine := heralding.drive (fun _ => true) 18 [.runOnce 20]

/-- The first task is told that it was not notified, because its timeout fired; the second one is told that it
was, after it waited for the lock, because the call passed over the other. -/
theorem notifiesTruly_heralding :
    Learns 0 4 (hastening.advanced 1).advanced 38 false ∧ Learns 0 5 (abiding.advanced 1).advanced 117 true := by
  have hasty : hastening.Reachable := Visits.onward (reachable_drive 60 _) (later_drive 8 _ _)
  have patient : abiding.Reachable := Visits.onward (reachable_drive 60 _) (later_drive 18 _ _)
  have refused : hastening.isAnswered "c" (some 1) none ⟨0, ⟨4, some 0⟩, none, none⟩ 38 false = true ∧
      hastening.world.names.lookup (.condition, "c") = some 0 := by decide +kernel
  have granted : abiding.isAnswered "c" none none ⟨0, ⟨5, some 1⟩, none, none⟩ 117 true = true ∧
      abiding.world.names.lookup (.condition, "c") = some 0 := by decide +kernel
  -- From here on it does not matter how the states were reached.
  generalize hastening = machine at hasty refused ⊢
  generalize abiding = other at patient granted ⊢
  constructor
  · obtain ⟨begins, steps, ⟨last, waits, tries⟩, next, step, answered⟩ := exists_of_isAnswered refused.1
    have begins : BeginsWait (.condition "c" (some 1)) machine ((machine.advanced 1).advanced 0) := begins
    obtain ⟨wait, told, same, value, learns⟩ :=
      (notifiesTruly hasty 0).answers refused.2 begins steps waits tries step answered
    cases same
    cases value
    exact (learns false).mpr rfl
  · obtain ⟨begins, steps, ⟨last, waits, tries⟩, next, step, answered⟩ := exists_of_isAnswered granted.1
    have begins : BeginsWait (.condition "c" none) other ((other.advanced 1).advanced 0) := begins
    obtain ⟨wait, told, same, value, learns⟩ :=
      (notifiesTruly patient 0).answers granted.2 begins steps waits tries step answered
    cases same
    cases value
    exact (learns true).mpr rfl

end Machine

end EventLoop
