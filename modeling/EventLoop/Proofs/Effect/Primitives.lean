import EventLoop.Proofs.Effect.Connections

/-!
# Steps of primitives

What is done to a primitive changes primitives and grants or cancels futures of their queues; apart
from that it is calm. Nothing of it makes a future that anything but a queue may resolve.
-/
namespace EventLoop.World

open Sync (Lock Semaphore Event Condition WaiterQueue)

variable {α : Type} {scope : Scope} {n : Nat} {world : World}

/-- The aspects that are changed by what is done to primitives. -/
def sync : List Aspect := .primitives :: calm

/-- A calm step leaves primitives alone, but does not have to. -/
theorem Does.sync {step : WorldM α} {after : α → World → Prop}
    (does : Does scope n calm world step after) : Does scope n sync world step after :=
  does.mono (List.subset_cons_self _ _)

namespace Primitives

/-! ## Changing primitives -/

/-- Changing a lock leaves the loop alone. -/
theorem setLock (id : LockId) (lock : Lock) :
    Does scope n sync world (setLock id lock) fun _ reached => reached.loop = world.loop := by
  refine Does.assuming fun within => Does.modify (by decide)
    (.primitives world _ _ _ _ ?_ (Nat.le_refl _) (Nat.le_refl _)
      (fun found => ⟨_, found, rfl⟩) ?_) rfl
  · exact Nat.le_of_eq (Table.size_modify _ _ _).symm
  · intro other condition found
    rw [Table.size_modify]
    exact within.conditions found

/-- Changing a semaphore leaves the loop alone. -/
theorem setSemaphore (id : SemaphoreId) (semaphore : Semaphore) :
    Does scope n sync world (setSemaphore id semaphore) fun _ reached =>
      reached.loop = world.loop := by
  refine Does.assuming fun within => Does.modify (by decide)
    (.primitives world _ _ _ _ (Nat.le_refl _) ?_ (Nat.le_refl _)
      (fun found => ⟨_, found, rfl⟩) within.conditions) rfl
  exact Nat.le_of_eq (Table.size_modify _ _ _).symm

/-- Changing an event leaves the loop alone. -/
theorem setEvent (id : EventId) (event : Event) :
    Does scope n sync world (setEvent id event) fun _ reached => reached.loop = world.loop := by
  refine Does.assuming fun within => Does.modify (by decide)
    (.primitives world _ _ _ _ (Nat.le_refl _) (Nat.le_refl _) ?_
      (fun found => ⟨_, found, rfl⟩) within.conditions) rfl
  exact Nat.le_of_eq (Table.size_modify _ _ _).symm

/-- A condition that is changed keeps its lock. -/
theorem setCondition {id : ConditionId} {condition : Condition}
    (same : ∀ old, world.conditions.get? id = some old → condition.lock = old.lock) :
    Does scope n sync world (setCondition id condition) fun _ reached =>
      reached.loop = world.loop := by
  refine Does.assuming fun within => Does.modify (by decide)
    (.primitives world _ _ _ _ (Nat.le_refl _) (Nat.le_refl _) (Nat.le_refl _) ?_ ?_) rfl
  · intro other old found
    rw [Table.get?_modify, found]
    by_cases here : other = id
    · rw [if_pos here]
      exact ⟨condition, rfl, same old (here ▸ found)⟩
    · rw [if_neg here]
      exact ⟨old, rfl, rfl⟩
  · intro other new found
    rw [Table.get?_modify] at found
    split at found
    · rename_i here
      rw [Option.map_eq_some_iff] at found
      obtain ⟨old, found, rfl⟩ := found
      rw [same old (here ▸ found)]
      exact within.conditions found
    · exact within.conditions found

/-- A condition that is read has the lock of the condition that is stored. -/
theorem lock_conditionAt {id : ConditionId} {old : Condition}
    (found : world.conditions.get? id = some old) :
    ((conditionAt id world).1).lock = old.lock := by
  change ((world.conditions.get? id).getD (.new 0)).lock = old.lock
  rw [found]
  rfl

/-- Reading a lock changes nothing. -/
theorem lockAt (id : LockId) : Does scope n sync world (lockAt id) fun _ reached => reached = world :=
  Does.get (Does.pure rfl)

/-- Reading a semaphore changes nothing. -/
theorem semaphoreAt (id : SemaphoreId) :
    Does scope n sync world (semaphoreAt id) fun _ reached => reached = world :=
  Does.get (Does.pure rfl)

/-- Reading an event changes nothing. -/
theorem eventAt (id : EventId) :
    Does scope n sync world (eventAt id) fun _ reached => reached = world :=
  Does.get (Does.pure rfl)

/-- A condition that is read has the lock of the condition that is stored. -/
theorem conditionAt (id : ConditionId) :
    Does scope n sync world (conditionAt id) fun condition reached => reached = world ∧
      ∀ old, world.conditions.get? id = some old → condition.lock = old.lock :=
  Does.get (Does.pure ⟨rfl, fun _ found => lock_conditionAt found⟩)

/-- Making a lock adds it under the number that is answered. -/
theorem makeLock : Does scope n sync world makeLock fun id reached =>
    reached.Means scope .lock id := by
  refine Does.assuming fun within => Does.get (Does.through
    (fun _ reached => reached.locks.size = world.locks.size + 1)
    (Does.set (by decide)
      (.primitives world _ _ _ _ ?_ (Nat.le_refl _) (Nat.le_refl _)
        (fun found => ⟨_, found, rfl⟩) ?_) (Table.size_push _ _)) ?_)
  · rw [Table.size_push]
    exact Nat.le_succ _
  · intro other condition found
    rw [Table.size_push]
    exact Nat.lt_succ_of_lt (within.conditions found)
  · intro _ reached size
    refine Does.pure ?_
    change world.locks.size < reached.locks.size
    rw [size]
    exact Nat.lt_succ_self _

/-- Making a semaphore adds it under the number that is answered. -/
theorem makeSemaphore (value : Nat) (bounded : Bool) :
    Does scope n sync world (makeSemaphore value bounded) fun id reached =>
      reached.Means scope .semaphore id := by
  refine Does.assuming fun within => Does.get (Does.through
    (fun _ reached => reached.semaphores.size = world.semaphores.size + 1)
    (Does.set (by decide)
      (.primitives world _ _ _ _ (Nat.le_refl _) ?_ (Nat.le_refl _)
        (fun found => ⟨_, found, rfl⟩) within.conditions) (Table.size_push _ _)) ?_)
  · rw [Table.size_push]
    exact Nat.le_succ _
  · intro _ reached size
    refine Does.pure ?_
    change world.semaphores.size < reached.semaphores.size
    rw [size]
    exact Nat.lt_succ_self _

/-- Making an event adds it under the number that is answered. -/
theorem makeEvent : Does scope n sync world makeEvent fun id reached =>
    reached.Means scope .event id := by
  refine Does.assuming fun within => Does.get (Does.through
    (fun _ reached => reached.events.size = world.events.size + 1)
    (Does.set (by decide)
      (.primitives world _ _ _ _ (Nat.le_refl _) (Nat.le_refl _) ?_
        (fun found => ⟨_, found, rfl⟩) within.conditions) (Table.size_push _ _)) ?_)
  · rw [Table.size_push]
    exact Nat.le_succ _
  · intro _ reached size
    refine Does.pure ?_
    change world.events.size < reached.events.size
    rw [size]
    exact Nat.lt_succ_self _

/-- A condition is made around a lock that exists. -/
theorem makeCondition {lock : LockId} (exists_ : world.Means scope .lock lock) :
    Does scope n sync world (makeCondition lock) fun id reached =>
      reached.Means scope .condition id := by
  refine Does.assuming fun within => Does.get (Does.through
    (fun _ reached => reached.conditions.size = world.conditions.size + 1)
    (Does.set (by decide)
      (.primitives world _ _ _ _ (Nat.le_refl _) (Nat.le_refl _) (Nat.le_refl _) ?_ ?_)
      (Table.size_push _ _)) ?_)
  · intro other condition found
    rw [Table.get?_push, if_neg (Nat.ne_of_lt (Table.lt_size_of_get? found))]
    exact ⟨condition, found, rfl⟩
  · intro other condition found
    rw [Table.get?_push] at found
    split at found
    · cases found
      exact exists_
    · exact within.conditions found
  · intro _ reached size
    refine Does.pure ?_
    change world.conditions.size < reached.conditions.size
    rw [size]
    exact Nat.lt_succ_self _

/-! ## Granting -/

/-- Granting callers resolves futures of the queues only. -/
theorem grant (futures : List FutureId) : Does scope n sync world (grant futures) anyhow := by
  refine Does.forM fun future _ world => ?_
  refine Does.through anyhow ?_ fun _ _ _ => Does.pure trivial
  exact Does.onLoop (by decide) (.granted world future _) trivial

/-- Cancelling futures is done by steps of primitives. -/
theorem cancelAll (futures : List FutureId) :
    Does scope n sync world (cancelAll futures) anyhow := by
  refine Does.forM fun future _ world => ?_
  refine Does.through anyhow ?_ fun _ _ _ => Does.pure trivial
  exact Does.onLoop (by decide) (.granted world future _) trivial

/-- Releasing a lock is done by steps of primitives. -/
theorem releaseLock (id : LockId) : Does scope n sync world (releaseLock id) anyhow := by
  refine Does.bind (lockAt id) ?_
  rintro lock _ rfl
  refine Does.get ?_
  split
  · exact Does.pure trivial
  · exact Does.bind (setLock _ _) fun _ _ _ => Does.bind (grant _) fun _ _ _ => Does.pure trivial

/-- Giving a permit back is done by steps of primitives. -/
theorem releaseSemaphore (id : SemaphoreId) :
    Does scope n sync world (releaseSemaphore id) anyhow := by
  refine Does.bind (semaphoreAt id) ?_
  rintro semaphore _ rfl
  refine Does.get ?_
  split
  · exact Does.pure trivial
  · exact Does.bind (setSemaphore _ _) fun _ _ _ =>
      Does.bind (grant _) fun _ _ _ => Does.pure trivial

/-- Setting an event is done by steps of primitives. -/
theorem raiseEvent (id : EventId) : Does scope n sync world (raiseEvent id) anyhow := by
  refine Does.bind (eventAt id) ?_
  rintro event _ rfl
  exact Does.get (Does.bind (setEvent _ _) fun _ _ _ => grant _)

/-- Asking whether the lock of a condition is held changes nothing. -/
theorem isConditionLocked (condition : Condition) :
    Does scope n sync world (isConditionLocked condition) fun _ reached => reached = world :=
  Does.get (Does.pure rfl)

/-- Notifying keeps the lock of a condition. -/
theorem lock_notify {condition after : Condition} {locked : Bool} {view : Sync.FutureView}
    {count : Nat} {grants : List FutureId}
    (notified : condition.notify locked view count = .ok (grants, after)) :
    after.lock = condition.lock := by
  unfold Condition.notify at notified
  split at notified
  · cases notified
    rfl
  · cases notified

/-- Notifying callers is done by steps of primitives. -/
theorem notify (id : ConditionId) (count : Option Nat) :
    Does scope n sync world (notify id count) anyhow := by
  refine Does.bind (conditionAt id) ?_
  rintro condition _ ⟨rfl, lock⟩
  refine Does.bind (isConditionLocked condition) ?_
  rintro locked _ rfl
  refine Does.get ?_
  dsimp only
  split
  · exact Does.pure trivial
  · rename_i grants after notified
    have same : after.lock = condition.lock := by
      cases count with
      | some count => exact lock_notify notified
      | none => exact lock_notify notified
    refine Does.bind (setCondition fun old found => ?_) fun _ _ _ =>
      Does.bind (grant _) fun _ _ _ => Does.pure trivial
    rw [same]
    exact lock old found

/-- Giving up what a guard holds is done by steps of primitives. -/
theorem releaseGuard (guard : Guard) : Does scope n sync world (releaseGuard guard) anyhow := by
  cases guard with
  | lock id => exact Does.bind (releaseLock id) fun _ _ _ => Does.pure trivial
  | semaphore id => exact Does.bind (releaseSemaphore id) fun _ _ _ => Does.pure trivial

/-! ## Places in queues -/

/-- Reading the queue of a gate changes nothing. -/
theorem queueAt (gate : Gate) :
    Does scope n sync world (queueAt gate) fun _ reached => reached = world := by
  cases gate with
  | lock id => exact Does.get (Does.pure rfl)
  | semaphore id => exact Does.get (Does.pure rfl)
  | event id => exact Does.get (Does.pure rfl)
  | condition id => exact Does.get (Does.pure rfl)

/-- Changing the queue of a gate leaves the loop alone. -/
theorem setQueue (gate : Gate) (queue : WaiterQueue) :
    Does scope n sync world (setQueue gate queue) fun _ reached => reached.loop = world.loop := by
  cases gate with
  | lock id =>
    refine Does.bind (lockAt id) ?_
    rintro lock _ rfl
    exact setLock _ _
  | semaphore id =>
    refine Does.bind (semaphoreAt id) ?_
    rintro semaphore _ rfl
    exact setSemaphore _ _
  | event id =>
    refine Does.bind (eventAt id) ?_
    rintro event _ rfl
    exact setEvent _ _
  | condition id =>
    refine Does.bind (conditionAt id) ?_
    rintro condition _ ⟨rfl, lock⟩
    exact setCondition lock

/-- The future of a place that is taken exists and is pending. -/
theorem park (gate : Gate) (timeout : Option Nat) :
    Does scope n sync world (park gate timeout) fun future reached =>
      future < reached.loop.futures.size ∧ reached.loop.isDone future = false := by
  refine Does.get ?_
  refine Does.bind (Calm.makeTimed _ _ _).sync ?_
  rintro future made ⟨-, size, pending⟩
  refine Does.bind (queueAt gate) ?_
  rintro queue _ rfl
  refine Does.bind (setQueue gate _) ?_
  intro _ reached same
  refine Does.pure ?_
  rw [same, size]
  exact ⟨Nat.lt_succ_self _, pending⟩

/-- Removing a caller from its queue is done by steps of primitives. -/
theorem settlePlace (gate : Gate) (future : FutureId) :
    Does scope n sync world (settlePlace gate future) anyhow :=
  Does.bind (queueAt gate) fun _ _ _ => (setQueue gate _).anyway

/-- Giving up the place of a caller that is gone is done by steps of primitives. -/
theorem abandonPlace (gate : Gate) (future : FutureId) :
    Does scope n sync world (abandonPlace gate future) anyhow := by
  refine Does.bind (queueAt gate) ?_
  rintro queue _ rfl
  refine Does.get ?_
  refine Does.bind (setQueue gate _) fun _ _ _ => ?_
  split
  · exact grant _
  · exact cancelAll _

/-- Taking a turn is done by steps of primitives. -/
theorem takeTurn (gate : Gate) : Does scope n sync world (takeTurn gate) anyhow := by
  cases gate with
  | lock id => exact Does.bind (lockAt id) fun _ _ _ => (setLock _ _).anyway
  | semaphore id => exact Does.bind (semaphoreAt id) fun _ _ _ => (setSemaphore _ _).anyway
  | event id => exact Does.pure trivial
  | condition id => exact Does.pure trivial

/-- Asking whether a gate is open changes nothing. -/
theorem isOpenGate (gate : Gate) :
    Does scope n sync world (isOpenGate gate) fun _ reached => reached = world := by
  cases gate with
  | lock id => exact Does.get (Does.pure rfl)
  | semaphore id => exact Does.get (Does.pure rfl)
  | event id => exact Does.get (Does.pure rfl)
  | condition id => exact Does.pure rfl

/-! ## Giving programs up -/

/-- Writing down that a task has ended is calm. -/
theorem recordEnd (task : String) : Does scope n calm world (recordEnd task) anyhow := by
  refine Does.get ?_
  split
  · exact Calm.record _ _ _
  · exact Does.pure trivial

end Primitives

end EventLoop.World
