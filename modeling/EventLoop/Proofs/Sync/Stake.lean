import EventLoop.Proofs.Sync.Queue
import Mathlib.Algebra.BigOperators.Group.Finset.Basic
import Mathlib.Algebra.Order.Group.Multiset
import Mathlib.Data.Multiset.Filter

/-!
# What programs have at stake

A program that waits in a queue has a place there; one that runs a guarded body holds what the guard
gives back; one that waits for a condition has lent the lock of the condition. `Orderly` says that the
queues and the places fit together: a place that was not cancelled is in its queue, every future is in
one queue only, and nothing but queues and timeouts may resolve it.
-/
namespace EventLoop

open Script (Station Activity)

/-- Something that a program has at stake. -/
inductive Stake
  /-- A place in a queue. -/
  | place (gate : Gate) (future : FutureId)
  /-- What a guard gives back. -/
  | hold (guard : Guard)
  /-- The lock of a condition, given up until the caller is notified. -/
  | loan (condition : ConditionId)
  /-- A lock that a caller who waited for a condition has to take again. -/
  | debt (condition : ConditionId) (lock : LockId)
  deriving DecidableEq

/-- What a station has at stake. -/
def Script.Station.stakes : Station → Multiset Stake
  | .leaf (.turn gate wait) => {.place gate wait.future}
  | .leaf (.notice condition wait _) =>
    {.place (.condition condition) wait.future, .loan condition}
  | .leaf (.relock condition lock wait _ _) =>
    {.place (.lock lock) wait.future, .debt condition lock}
  | .leaf .nextPoll | .leaf (.result _) | .leaf (.connecting ..) | .leaf (.establishing ..) => 0
  | .entry asked wait => {.place asked.gate wait.future}
  | .guard held => {.hold held}

/-- What stations have at stake together. -/
def stakesOf (stations : List Station) : Multiset Stake := (stations.map Station.stakes).sum

/-- Nothing is at stake at no station. -/
@[simp] theorem stakesOf_nil : stakesOf [] = 0 := rfl

/-- What stations have at stake is what the first one has and what the others have. -/
@[simp] theorem stakesOf_cons (station : Station) (stations : List Station) :
    stakesOf (station :: stations) = station.stakes + stakesOf stations := by
  rw [stakesOf, List.map_cons, List.sum_cons, stakesOf]

/-- What stations have at stake is put together from its parts. -/
@[simp] theorem stakesOf_append (first second : List Station) :
    stakesOf (first ++ second) = stakesOf first + stakesOf second := by
  rw [stakesOf, List.map_append, List.sum_append, stakesOf, stakesOf]

/-- What a station has at stake is among what stations have at stake together. -/
theorem stakes_le_stakesOf {station : Station} {stations : List Station}
    (member : station ∈ stations) : station.stakes ≤ stakesOf stations := by
  obtain ⟨before, after, rfl⟩ := List.append_of_mem member
  rw [stakesOf_append, stakesOf_cons]
  exact (Multiset.le_add_right _ _).trans (Multiset.le_add_left _ _)

/-- Stations in another order have the same at stake. -/
theorem stakesOf_perm {first second : List Station} (perm : first.Perm second) :
    stakesOf first = stakesOf second :=
  (perm.map Station.stakes).sum_eq

/-- What the program of a task has at stake. -/
def Loop.stakesAt (loop : Loop) (id : TaskId) : Multiset Stake :=
  (loop.activityOf id).elim 0 fun activity => stakesOf activity.stations

/-- What the programs that tasks hold have at stake together. -/
def Loop.stakes (loop : Loop) : Multiset Stake :=
  ∑ id ∈ Finset.range loop.tasks.size, loop.stakesAt id

namespace Loop

variable {loop other : Loop} {id : TaskId}

/-- The stakes depend on the programs that tasks hold only. -/
theorem stakes_congr (size : other.tasks.size = loop.tasks.size)
    (same : other.activityOf = loop.activityOf) : other.stakes = loop.stakes := by
  unfold stakes stakesAt
  rw [size, same]

/-- If the program of one task changes, what it had at stake is replaced by what it has. -/
theorem stakes_exchange (size : other.tasks.size = loop.tasks.size) (exists_ : id < loop.tasks.size)
    (same : ∀ task, task ≠ id → other.activityOf task = loop.activityOf task) :
    other.stakes + loop.stakesAt id = loop.stakes + other.stakesAt id := by
  have member : id ∈ Finset.range loop.tasks.size := Finset.mem_range.mpr exists_
  have rest : ∑ task ∈ (Finset.range loop.tasks.size).erase id, other.stakesAt task =
      ∑ task ∈ (Finset.range loop.tasks.size).erase id, loop.stakesAt task := by
    refine Finset.sum_congr rfl fun task kept => ?_
    unfold stakesAt
    rw [same task (Finset.ne_of_mem_erase kept)]
  unfold stakes
  rw [size, ← Finset.add_sum_erase _ other.stakesAt member, rest,
    ← Finset.add_sum_erase _ loop.stakesAt member, add_right_comm, add_comm (other.stakesAt id),
    add_right_comm]

/-- What a task has at stake is what its program has. -/
theorem stakesAt_of_some {activity : Activity} (holds : loop.activityOf id = some activity) :
    loop.stakesAt id = stakesOf activity.stations := by
  rw [stakesAt, holds, Option.elim_some]

/-- A task without a program has nothing at stake. -/
theorem stakesAt_of_none (holds : loop.activityOf id = none) : loop.stakesAt id = 0 := by
  rw [stakesAt, holds, Option.elim_none]

/-- What the program of a task has at stake is among the stakes. -/
theorem stakesAt_le_stakes {activity : Activity} (holds : loop.activityOf id = some activity) :
    stakesOf activity.stations ≤ loop.stakes := by
  have member : id ∈ Finset.range loop.tasks.size :=
    Finset.mem_range.mpr (lt_size_of_activityOf holds)
  rw [← stakesAt_of_some holds, stakes, ← Finset.add_sum_erase _ loop.stakesAt member]
  exact Multiset.le_add_right _ _

/-- A task that is begun has nothing at stake. -/
theorem stakes_spawn (loop : Loop) (name : String) (body : Script.Body) :
    (loop.spawn name body).2.stakes = loop.stakes := by
  have old : ∀ task ∈ Finset.range loop.tasks.size,
      (loop.spawn name body).2.stakesAt task = loop.stakesAt task := by
    intro task member
    unfold stakesAt
    rw [activityOf_spawn, if_neg (Nat.ne_of_lt (Finset.mem_range.mp member))]
  have new : (loop.spawn name body).2.stakesAt loop.tasks.size = 0 := by
    unfold stakesAt
    rw [activityOf_spawn, if_pos rfl]
    split
    · rfl
    · rfl
  unfold stakes
  rw [size_tasks_spawn, Finset.sum_range_succ, new, add_zero, Finset.sum_congr rfl old]

end Loop

/-! ## Places -/

/-- The place that a stake is, if it is one. -/
def Stake.place? : Stake → Option (Gate × FutureId)
  | place gate future => some (gate, future)
  | hold _ | loan _ | debt .. => none

/-- The places among stakes. -/
def placesOf (stakes : Multiset Stake) : Multiset (Gate × FutureId) :=
  stakes.filterMap Stake.place?

/-- The place of a caller is among the places. -/
theorem mem_placesOf {gate : Gate} {future : FutureId} {stakes : Multiset Stake}
    (member : .place gate future ∈ stakes) : (gate, future) ∈ placesOf stakes :=
  (Multiset.mem_filterMap Stake.place? stakes).mpr ⟨_, member, rfl⟩

/-- A place that a program would leave is one that it has at stake. -/
theorem mem_placesOf_stations {gate : Gate} {future : FutureId} {activity : Activity}
    (member : .place gate future ∈ activity.parts) :
    (gate, future) ∈ placesOf (stakesOf activity.stations) := by
  rw [activity.parts_eq] at member
  obtain ⟨station, listed, member⟩ := List.mem_flatMap.mp member
  refine mem_placesOf (Multiset.mem_of_le (stakes_le_stakesOf listed) ?_)
  cases station with
  | leaf leaf =>
    cases leaf with
    | turn | notice | relock =>
      cases List.mem_singleton.mp member
      simp [Script.Station.stakes]
    | nextPoll => cases member
    | result | connecting | establishing => simp [Station.parts, Script.Leaf.parts] at member
  | entry =>
    cases List.mem_singleton.mp member
    simp [Script.Station.stakes]
  | guard => simp [Station.parts] at member

/-- The places among stakes are put together from their parts. -/
@[simp] theorem placesOf_add (first second : Multiset Stake) :
    placesOf (first + second) = placesOf first + placesOf second :=
  Multiset.filterMap_add _ _ _

/-- A place counts as one. -/
@[simp] theorem placesOf_place (gate : Gate) (future : FutureId) (stakes : Multiset Stake) :
    placesOf (.place gate future ::ₘ stakes) = (gate, future) ::ₘ placesOf stakes :=
  Multiset.filterMap_cons_some _ _ _ rfl

/-- What a guard holds is no place. -/
@[simp] theorem placesOf_hold (guard : Guard) (stakes : Multiset Stake) :
    placesOf (.hold guard ::ₘ stakes) = placesOf stakes :=
  Multiset.filterMap_cons_none _ _ rfl

/-- A lock that was lent is no place. -/
@[simp] theorem placesOf_loan (condition : ConditionId) (stakes : Multiset Stake) :
    placesOf (.loan condition ::ₘ stakes) = placesOf stakes :=
  Multiset.filterMap_cons_none _ _ rfl

/-- A lock that is owed is no place. -/
@[simp] theorem placesOf_debt (condition : ConditionId) (lock : LockId) (stakes : Multiset Stake) :
    placesOf (.debt condition lock ::ₘ stakes) = placesOf stakes :=
  Multiset.filterMap_cons_none _ _ rfl

namespace World

variable {held : List Ref} {places left : Multiset (Gate × FutureId)}
variable {world before after : World} {gate : Gate} {future : FutureId}

/-- A future is in a queue or belongs to a place. -/
def Engaged (places : Multiset (Gate × FutureId)) (world : World) (future : FutureId) : Prop :=
  (∃ gate, future ∈ world.entries gate) ∨ ∃ gate, (gate, future) ∈ places

/-- Nothing but queues and timeouts may resolve a future that is engaged. -/
def shelter (held : List Ref) (places : Multiset (Gate × FutureId)) (world : World) : Scope where
  known future := ¬ Engaged places world future
  held

/-- Queues and places fit together. -/
structure Orderly (held : List Ref) (places : Multiset (Gate × FutureId)) (world : World) :
    Prop where
  /-- Nothing but queues and timeouts may resolve a future that is engaged. -/
  within : world.Within (shelter held places world) 0
  /-- A future that is engaged exists. -/
  bound : ∀ {future}, Engaged places world future → future < world.loop.futures.size
  /-- It was not resolved in another way. -/
  sound : ∀ {future}, Engaged places world future → world.loop.fate future ≠ .failed
  /-- A place that was not cancelled is in its queue. -/
  placed : ∀ {gate future}, (gate, future) ∈ places →
    future ∈ world.entries gate ∨ world.loop.fate future = .cancelled
  /-- Every place has a future of its own. -/
  distinct : (places.map Prod.snd).Nodup
  /-- Every entry has a future of its own. -/
  single : ∀ gate, (world.entries gate).Nodup
  /-- A future is in one queue only. -/
  apart : ∀ {gate other future}, future ∈ world.entries gate → future ∈ world.entries other →
    gate = other

/-- What a name stands for is known in a wider scope. -/
theorem Means.widen {scope wider : Scope} {kind : ObjectClass} {id : Nat}
    (means : world.Means scope kind id)
    (known : ∀ future, scope.known future → wider.known future) : world.Means wider kind id := by
  cases kind with
  | future => exact ⟨known id means.1, means.2⟩
  | task | lock | semaphore | event | condition => exact means
  | timer | waker | var | socket | transport | server => trivial

/-- A world that is within bounds is within other bounds by which its futures are known as well. -/
theorem Within.rescope {scope other : Scope} {n : Nat} (within : world.Within scope n)
    (knows : ∀ {future}, world.loop.Knows scope.known future → world.loop.Knows other.known future)
    (held : other.held ⊆ scope.held) : world.Within other n := by
  refine ⟨?_, ?_, fun future member => knows (within.completer future member),
    within.keyed, fun found future member => knows (within.transports found future member),
    fun found future member => knows (within.servers found future member), within.conditions,
    List.Subset.trans held within.held⟩
  · exact ⟨within.loop.base, fun found => knows (within.loop.result found),
      fun callback member future resolved => knows (within.loop.ready callback member future resolved),
      fun entry member future resolved => knows (within.loop.timers entry member future resolved),
      fun callback member future resolved =>
        knows (within.loop.remote callback member future resolved)⟩
  · intro kind name id member
    have means := within.names member
    cases kind with
    | future => exact knows means
    | task | lock | semaphore | event | condition => exact means
    | timer | waker | var | socket | transport | server => trivial

/-- A world that is within bounds is within wider bounds. -/
theorem Within.widen {scope wider : Scope} {n : Nat} (within : world.Within scope n)
    (known : ∀ future, scope.known future → wider.known future) (held : wider.held ⊆ scope.held) :
    world.Within wider n :=
  within.rescope (fun knows => ⟨known _ knows.1, knows.2⟩) held

/-- All futures that are exposed exist already. -/
theorem Within.exposed {scope : Scope} {n : Nat} (within : world.Within scope n) :
    world.Within ⟨fun future => scope.known future ∧ future < world.loop.futures.size, scope.held⟩
      n :=
  within.rescope (fun knows => ⟨knows, knows.2⟩) (List.Subset.refl _)

/-- What is engaged depends on the queues only. -/
theorem engaged_congr (same : after.queue = before.queue) :
    Engaged places after = Engaged places before := by
  funext future
  unfold Engaged entries
  rw [same]

/-- What nothing but queues and timeouts may resolve depends on the queues only. -/
theorem shelter_congr (same : after.queue = before.queue) :
    shelter held places after = shelter held places before := by
  unfold shelter
  rw [engaged_congr same]

/-- A change that is none of primitives leaves them as they are. -/
theorem Change.primitives_eq {scope : Scope} {aspect : Aspect} (change : Change scope aspect before after)
    (calm : aspect ≠ .primitives) : after.locks = before.locks ∧ after.semaphores = before.semaphores ∧
      after.events = before.events ∧ after.conditions = before.conditions := by
  cases change with
  | primitives => exact absurd rfl calm
  | surroundings | held | dropped | names | devices | fitted | made | resolved | registered | awaited
  | taken | emptied | deserted | called | scheduled | disarmed | asked | released | turned
  | announced | bound | retired | servers | summoned | enlisted | granted | expired | woken | spawned
  | pollBegun | pollEnded | completed | cancelled | abandoned | prepared | gathered | readyTaken
  | stopAsked | stopped | flags | shut | cleared => exact ⟨rfl, rfl, rfl, rfl⟩
  | connected =>
    rw [addTransport_eq]
    exact ⟨rfl, rfl, rfl, rfl⟩

/-- The lock of a condition. -/
def lockOf (world : World) (id : ConditionId) : LockId := (conditionAt id world).1.lock

/-- A condition that exists keeps its lock. -/
theorem Grows.lockOf {id : ConditionId} (grows : before.Grows after)
    (exists_ : id < before.conditions.size) : after.lockOf id = before.lockOf id := by
  obtain ⟨condition, found⟩ := Table.exists_get?_of_lt_size exists_
  obtain ⟨later, later_found, same⟩ := grows.conditions found
  change ((after.conditions.get? id).getD (.new 0)).lock =
    ((before.conditions.get? id).getD (.new 0)).lock
  rw [found, later_found]
  exact same

/-- The lock of a condition that exists exists. -/
theorem Within.hasGate_lockOf {scope : Scope} {n : Nat} {id : ConditionId}
    (within : world.Within scope n) (exists_ : id < world.conditions.size) :
    world.HasGate (.lock (world.lockOf id)) := by
  obtain ⟨condition, found⟩ := Table.exists_get?_of_lt_size exists_
  have same : world.lockOf id = condition.lock := by
    change ((world.conditions.get? id).getD (.new 0)).lock = condition.lock
    rw [found]
    rfl
  rw [same]
  exact within.conditions found

/-- A primitive goes on to exist. -/
theorem Grows.hasGate (grows : before.Grows after) (exists_ : before.HasGate gate) :
    after.HasGate gate := by
  cases gate with
  | lock id => exact Nat.lt_of_lt_of_le exists_ grows.locks
  | semaphore id => exact Nat.lt_of_lt_of_le exists_ grows.semaphores
  | event id => exact Nat.lt_of_lt_of_le exists_ grows.events
  | condition id => exact Nat.lt_of_lt_of_le exists_ grows.size_conditions

end World

/-- What is at stake exists, and a lock that has to be taken again is the lock of its condition. -/
def Stake.Stands (world : World) : Stake → Prop
  | place gate _ => world.HasGate gate
  | hold guard => world.HasGate guard.gate
  | loan condition => condition < world.conditions.size
  | debt condition lock => condition < world.conditions.size ∧ lock = world.lockOf condition

/-- What exists goes on to exist. -/
theorem Stake.Stands.grows {stake : Stake} {before after : World} (stands : stake.Stands before)
    (grows : before.Grows after) : stake.Stands after := by
  cases stake with
  | place gate future => exact grows.hasGate stands
  | hold guard => exact grows.hasGate stands
  | loan condition => exact Nat.lt_of_lt_of_le stands grows.size_conditions
  | debt condition lock =>
    refine ⟨Nat.lt_of_lt_of_le stands.1 grows.size_conditions, ?_⟩
    rw [grows.lockOf stands.1]
    exact stands.2

namespace World

variable {held : List Ref} {places left : Multiset (Gate × FutureId)}
variable {world before after : World} {gate : Gate} {future : FutureId}

/-- Queues and places fit together, and what is at stake exists. -/
structure Settled (held : List Ref) (stakes : Multiset Stake) (world : World) : Prop where
  /-- Queues and places fit together. -/
  orderly : Orderly held (placesOf stakes) world
  /-- What is at stake exists. -/
  stands : ∀ stake ∈ stakes, stake.Stands world

namespace Orderly

/-- The place of a caller that waits is not the place of another one. -/
theorem not_mem_of_cons (orderly : Orderly held ((gate, future) ::ₘ places) world)
    (other : Gate) : (other, future) ∉ places := by
  intro member
  have distinct := orderly.distinct
  rw [Multiset.map_cons, Multiset.nodup_cons] at distinct
  exact distinct.1 (Multiset.mem_map.mpr ⟨_, member, rfl⟩)

/-- What is done at one gate leaves things orderly if entries are only removed there, and none that has
a place unless it was cancelled. -/
theorem touched (orderly : Orderly held places before) (fewer : left ≤ places)
    (touches : Touches gate before after)
    (within : after.Within (shelter held places before) 0)
    (sublist : (after.entries gate).Sublist (before.entries gate))
    (lost : ∀ future, (gate, future) ∈ left → future ∈ before.entries gate →
      future ∈ after.entries gate ∨ after.loop.fate future = .cancelled) :
    Orderly held left after := by
  have subset (other : Gate) : (after.entries other).Sublist (before.entries other) := by
    by_cases same : other = gate
    · exact same ▸ sublist
    · rw [entries, touches.queues same]
      exact List.Sublist.refl _
  have engaged {future : FutureId} (engaged : Engaged left after future) :
      Engaged places before future := by
    rcases engaged with ⟨other, member⟩ | ⟨other, member⟩
    · exact Or.inl ⟨other, (subset other).subset member⟩
    · exact Or.inr ⟨other, Multiset.mem_of_le fewer member⟩
  refine ⟨?_, ?_, ?_, ?_, ?_, ?_, ?_⟩
  · exact within.widen (fun future free used => free (engaged used)) (List.Subset.refl _)
  · intro future used
    rw [touches.size]
    exact orderly.bound (engaged used)
  · intro future used
    exact touches.failed (orderly.sound (engaged used))
  · intro other future member
    rcases orderly.placed (Multiset.mem_of_le fewer member) with waits | cancelled
    · by_cases same : other = gate
      · subst same
        exact lost future member waits
      · rw [entries, touches.queues same]
        exact Or.inl waits
    · exact Or.inr (touches.cancelled cancelled)
  · exact Multiset.nodup_of_le (Multiset.map_le_map fewer) orderly.distinct
  · exact fun other => (subset other).nodup (orderly.single other)
  · exact fun here there => orderly.apart ((subset _).subset here) ((subset _).subset there)

/-- A change that is neither one of primitives nor a timeout leaves things orderly. -/
theorem changed {aspect : Aspect} (orderly : Orderly held places before)
    (change : Change (shelter held places before) aspect before after)
    (calm : aspect ≠ .primitives) (early : aspect ≠ .timeouts) :
    Orderly held places after ∧ after.queue = before.queue := by
  obtain ⟨locks, semaphores, events, conditions⟩ := change.primitives_eq calm
  have queues : after.queue = before.queue := queue_congr locks semaphores events conditions
  have engaged : Engaged places after = Engaged places before := engaged_congr queues
  have fates {future : FutureId} (used : Engaged places before future) :
      after.loop.fate future = before.loop.fate future :=
    change.fate orderly.within calm early (fun free => free used) (orderly.bound used)
  refine ⟨⟨?_, ?_, ?_, ?_, orderly.distinct, ?_, ?_⟩, queues⟩
  · have within := change.within orderly.within
    unfold shelter at within ⊢
    rw [engaged]
    exact within
  · intro future used
    rw [engaged] at used
    exact Nat.lt_of_lt_of_le (orderly.bound used) change.grows.loop.futures
  · intro future used
    rw [engaged] at used
    rw [fates used]
    exact orderly.sound used
  · intro gate future member
    rw [fates (Or.inr ⟨gate, member⟩), entries, queues]
    exact orderly.placed member
  · intro gate
    rw [entries, queues]
    exact orderly.single gate
  · intro gate other future here there
    rw [entries, queues] at here there
    exact orderly.apart here there

end Orderly

end World

end EventLoop
