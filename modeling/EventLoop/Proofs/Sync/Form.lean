import EventLoop.Proofs.Sync.Queue

/-!
# Closed forms of what is done to primitives

Each step on a primitive sets the primitive and then resolves futures of its queue, if it does anything
at all.
-/
namespace EventLoop.World

open Sync (Lock Semaphore Event Condition WaiterQueue)

/-- Reading a lock changes nothing. -/
theorem lockAt_eq (id : LockId) (world : World) : lockAt id world = ((lockAt id world).1, world) := rfl

/-- Reading a semaphore changes nothing. -/
theorem semaphoreAt_eq (id : SemaphoreId) (world : World) :
    semaphoreAt id world = ((semaphoreAt id world).1, world) := rfl

/-- Reading a condition changes nothing. -/
theorem conditionAt_eq (id : ConditionId) (world : World) :
    conditionAt id world = ((conditionAt id world).1, world) := rfl

/-- Releasing a lock frees it and grants the first caller that waits, if the lock is held. -/
theorem releaseLock_eq (id : LockId) (world : World) : (releaseLock id world).2 =
    if (lockAt id world).1.locked then
      (grant ((world.queue (.lock id)).wake world.view 1).1 (setLock id { (lockAt id world).1 with
        locked := false
        waiters := ((world.queue (.lock id)).wake world.view 1).2
        released := (lockAt id world).1.released + 1 } world).2).2
    else world := by
  unfold releaseLock
  rw [StateM.bind_apply, lockAt_eq]
  simp only [StateM.bind_apply, StateM.get_apply, Lock.release]
  by_cases locked : (lockAt id world).1.locked = true
  · rw [if_pos locked, if_pos locked]
    rfl
  · rw [if_neg locked, if_neg locked]
    rfl

/-- Giving a permit back counts it and grants the first caller that waits, unless the semaphore is
full. -/
theorem releaseSemaphore_eq (id : SemaphoreId) (world : World) : (releaseSemaphore id world).2 =
    if (semaphoreAt id world).1.isFull then world
    else
      (grant ((world.queue (.semaphore id)).wake world.view 1).1
        (setSemaphore id { (semaphoreAt id world).1 with
          value := (semaphoreAt id world).1.value + 1
          locked := false
          waiters := ((world.queue (.semaphore id)).wake world.view 1).2
          released := (semaphoreAt id world).1.released + 1 } world).2).2 := by
  unfold releaseSemaphore
  rw [StateM.bind_apply, semaphoreAt_eq]
  simp only [StateM.bind_apply, StateM.get_apply, Semaphore.release]
  by_cases full : (semaphoreAt id world).1.isFull = true
  · rw [if_pos full, if_pos full]
    rfl
  · rw [if_neg full, if_neg full]
    rfl

/-- Setting an event grants everyone who waits, unless it is set already. -/
theorem raiseEvent_eq (id : EventId) (world : World) : (raiseEvent id world).2 =
    (grant ((eventAt id world).1.set world.view).1
      (setEvent id ((eventAt id world).1.set world.view).2 world).2).2 := rfl

/-- Notifying grants some of those who wait, if the lock of the condition is held. -/
theorem notify_eq (id : ConditionId) (count : Option Nat) (world : World) :
    ∃ count', (notify id count world).2 =
      if (lockAt (conditionAt id world).1.lock world).1.locked then
        (grant ((world.queue (.condition id)).wake world.view count').1
          (setCondition id { (conditionAt id world).1 with
            waiters := ((world.queue (.condition id)).wake world.view count').2 } world).2).2
      else world := by
  have asked : isConditionLocked (conditionAt id world).1 world =
      ((lockAt (conditionAt id world).1.lock world).1.locked, world) := rfl
  unfold notify
  rw [StateM.bind_apply, conditionAt_eq]
  simp only [StateM.bind_apply, asked, StateM.get_apply]
  -- Whoever asks for all is given as many as wait.
  rcases count with _ | count
  on_goal 1 => refine ⟨(conditionAt id world).1.waiters.length, ?_⟩
  on_goal 2 => refine ⟨count, ?_⟩
  all_goals
    simp only [Condition.notifyAll, Condition.notify]
    by_cases locked : (lockAt (conditionAt id world).1.lock world).1.locked = true
    · rw [if_pos locked, if_pos locked]
      rfl
    · rw [if_neg locked, if_neg locked]
      rfl

/-- Looking at a queue changes nothing. -/
theorem queueAt_eq (gate : Gate) (world : World) : queueAt gate world = (world.queue gate, world) := by
  cases gate with
  | lock id => rfl
  | semaphore id => rfl
  | event id => rfl
  | condition id => rfl

/-- A caller that resumes is removed from the queue. -/
theorem settlePlace_eq (gate : Gate) (future : FutureId) (world : World) :
    (settlePlace gate future world).2 =
      (setQueue gate ((world.queue gate).remove future) world).2 := by
  change (setQueue gate ((queueAt gate world).1.remove future) (queueAt gate world).2).2 = _
  rw [queueAt_eq]

/-- A caller that is gone is removed from the queue, and then others are granted or its future is
cancelled. -/
theorem abandonPlace_eq (gate : Gate) (future : FutureId) (world : World) :
    (abandonPlace gate future world).2 =
      match ((world.queue gate).abandon world.view future).1 with
      | .passOn futures => (grant futures
          (setQueue gate ((world.queue gate).abandon world.view future).2 world).2).2
      | .cancel => (cancelAll [future]
          (setQueue gate ((world.queue gate).abandon world.view future).2 world).2).2 := by
  unfold abandonPlace
  rw [StateM.bind_apply, queueAt_eq]
  simp only [StateM.bind_apply, StateM.get_apply]
  cases ((world.queue gate).abandon world.view future).1 with
  | passOn futures => rfl
  | cancel => rfl

/-- The grant of a caller that is gone passes to the next one, in a queue that hands grants on. -/
theorem abandonPlace_of_finished {gate : Gate} {future : FutureId} {world : World}
    (handoff : (world.queue gate).handoff = true) (finished : world.view future = .finished) :
    (abandonPlace gate future world).2 =
      (grant (((world.queue gate).remove future).wake world.view 1).1
        (setQueue gate (((world.queue gate).remove future).wake world.view 1).2 world).2).2 := by
  have handoff : ((world.queue gate).remove future).handoff = true := handoff
  rw [abandonPlace_eq]
  simp only [WaiterQueue.abandon, finished, handoff, if_true]

/-- The future of a caller that is gone before it was granted is cancelled. -/
theorem abandonPlace_of_unfinished {gate : Gate} {future : FutureId} {world : World}
    (unfinished : world.view future ≠ .finished) : (abandonPlace gate future world).2 =
      (cancelAll [future] (setQueue gate ((world.queue gate).remove future) world).2).2 := by
  rw [abandonPlace_eq]
  cases state : world.view future with
  | finished => exact absurd state unfinished
  | pending | cancelled => simp only [WaiterQueue.abandon, state]

/-- A caller that has to wait is added to the queue with a new future. -/
theorem park_eq (gate : Gate) (timeout : Option Nat) (world : World) :
    park gate timeout world = (world.loop.futures.size,
      (setQueue gate ((world.queue gate).park world.loop.futures.size) { world with loop :=
        (world.loop.makeTimed .unit world.host.kernel.now timeout).2 }).2) := by
  change ((world.loop.makeTimed .unit world.host.kernel.now timeout).1,
    (setQueue gate ((queueAt gate { world with loop :=
      (world.loop.makeTimed .unit world.host.kernel.now timeout).2 }).1.park
        (world.loop.makeTimed .unit world.host.kernel.now timeout).1)
      (queueAt gate { world with loop :=
        (world.loop.makeTimed .unit world.host.kernel.now timeout).2 }).2).2) = _
  rw [queueAt_eq, Loop.id_makeTimed, queue_loop]

end EventLoop.World
