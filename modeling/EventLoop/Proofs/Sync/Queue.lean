import EventLoop.Proofs.Sync.Fate
import EventLoop.World.Primitives

/-!
# Queues and fates

Every primitive has one queue. What is done to a primitive changes that queue and the fates of its
entries only. A queue counts the entries that were granted and whose callers have not resumed.
-/
namespace EventLoop

open Sync (Lock Semaphore Event Condition WaiterQueue)

variable {world before after : World} {gate other : Gate} {future : FutureId} {id : Nat}

/-! ## Fates -/

namespace Loop

/-- Resolves futures one after another. -/
def resolveAll (loop : Loop) (futures : List FutureId) (resolution : Resolution) : Loop :=
  futures.foldl (fun loop future => (loop.resolve future resolution).2) loop

/-- Resolving futures one after another adds no future. -/
theorem size_futures_resolveAll (loop : Loop) (futures : List FutureId) (resolution : Resolution) :
    (loop.resolveAll futures resolution).futures.size = loop.futures.size := by
  induction futures generalizing loop with
  | nil => rfl
  | cons future rest ih =>
    have rest := ih (loop.resolve future resolution).2
    rw [size_futures_resolve] at rest
    exact rest

/-- Resolving futures one after another leaves the tasks as they are. -/
theorem tasks_resolveAll (loop : Loop) (futures : List FutureId) (resolution : Resolution) :
    (loop.resolveAll futures resolution).tasks = loop.tasks := by
  induction futures generalizing loop with
  | nil => rfl
  | cons future rest ih =>
    exact (ih (loop.resolve future resolution).2).trans (tasks_resolve loop future resolution)

/-- What has become of a future after it was to be resolved. -/
theorem get?_resolve (loop : Loop) (id : FutureId) (resolution : Resolution) :
    (loop.resolve id resolution).2.futures.get? id =
      (loop.futures.get? id).map fun entry =>
        if entry.isDone then entry else ⟨entry.kind, Future.resolved resolution⟩ := by
  rw [resolve_eq]
  split
  · rename_i kind reactions timer found
    rw [replaceFuture_eq]
    dsimp only
    rw [Table.get?_modify_self, found]
    rfl
  · rename_i settled
    rcases found : loop.futures.get? id with _ | ⟨kind, phase⟩
    · rfl
    · cases phase with
      | pending reactions timer => exact absurd found (settled kind reactions timer)
      | cancelled | finished => rfl

/-- Resolving a future leaves the others alone. -/
theorem get?_resolve_of_ne (loop : Loop) (resolution : Resolution) (differ : future ≠ id) :
    (loop.resolve id resolution).2.futures.get? future = loop.futures.get? future := by
  rw [resolve_eq]
  split
  · rw [replaceFuture_eq]
    exact Table.get?_modify_of_ne _ _ differ
  · rfl

/-- Resolving futures leaves the others alone. -/
theorem get?_resolveAll (loop : Loop) {futures : List FutureId} (resolution : Resolution)
    (apart : future ∉ futures) :
    (loop.resolveAll futures resolution).futures.get? future = loop.futures.get? future := by
  induction futures generalizing loop with
  | nil => rfl
  | cons first rest ih =>
    rw [List.mem_cons, not_or] at apart
    obtain ⟨differ, apart⟩ := apart
    exact (ih (loop.resolve first resolution).2 apart).trans
      (get?_resolve_of_ne loop resolution differ)

/-- Resolving futures decides the fates of those that are pending. -/
theorem fate_resolveAll (loop : Loop) (futures : List FutureId) (resolution : Resolution)
    (decided : resolution.fate ≠ .pending) (bound : ∀ future ∈ futures, future < loop.futures.size)
    (future : FutureId) : (loop.resolveAll futures resolution).fate future =
      if future ∈ futures ∧ loop.fate future = .pending then resolution.fate
      else loop.fate future := by
  induction futures generalizing loop with
  | nil => simp [resolveAll]
  | cons first rest ih =>
    have boundFirst := bound first List.mem_cons_self
    have step : (loop.resolveAll (first :: rest) resolution).fate future =
        ((loop.resolve first resolution).2.resolveAll rest resolution).fate future := rfl
    rw [step, ih]
    · rw [fate_resolve]
      by_cases same : future = first
      · subst same
        by_cases pending : loop.fate future = .pending
        · simp [pending, boundFirst, decided]
        · simp [pending]
      · simp [same]
    · intro other member
      rw [size_futures_resolve]
      exact bound other (List.mem_cons_of_mem first member)

end Loop

namespace World

/-- Granting futures resolves them. -/
theorem grant_eq (futures : List FutureId) (world : World) : (grant futures world).2 =
    { world with loop := world.loop.resolveAll futures (.finish (.ok .unit)) } := by
  induction futures generalizing world with
  | nil => rfl
  | cons future rest ih =>
    exact ih { world with loop := (world.loop.resolve future (.finish (.ok .unit))).2 }

/-- Cancelling futures resolves them. -/
theorem cancelAll_eq (futures : List FutureId) (world : World) : (cancelAll futures world).2 =
    { world with loop := world.loop.resolveAll futures .cancel } := by
  induction futures generalizing world with
  | nil => rfl
  | cons future rest ih =>
    exact ih { world with loop := (world.loop.resolve future .cancel).2 }

/-! ## Queues -/

/-- The queue of a gate. -/
def queue (world : World) (gate : Gate) : WaiterQueue := (queueAt gate world).1

/-- The entries of the queue of a gate. -/
def entries (world : World) (gate : Gate) : List FutureId := (world.queue gate).entries

/-- The primitive of a gate exists. -/
def HasGate (world : World) : Gate → Prop
  | .lock id => id < world.locks.size
  | .semaphore id => id < world.semaphores.size
  | .event id => id < world.events.size
  | .condition id => id < world.conditions.size

/-- The queues depend on the primitives only. -/
theorem queue_congr (locks : after.locks = before.locks)
    (semaphores : after.semaphores = before.semaphores) (events : after.events = before.events)
    (conditions : after.conditions = before.conditions) : after.queue = before.queue := by
  funext gate
  cases gate with
  | lock id => exact congrArg (fun table => ((Table.get? table id).getD .new).waiters) locks
  | semaphore id =>
    exact congrArg (fun table => ((Table.get? table id).getD (.new 0 false)).waiters) semaphores
  | event id => exact congrArg (fun table => ((Table.get? table id).getD .new).waiters) events
  | condition id =>
    exact congrArg (fun table => ((Table.get? table id).getD (.new 0)).waiters) conditions

/-- The queues do not depend on the loop. -/
@[simp] theorem queue_loop (world : World) (loop : Loop) :
    ({ world with loop } : World).queue = world.queue := queue_congr rfl rfl rfl rfl

/-- A gate without a primitive has nobody waiting. -/
theorem entries_of_not_hasGate (missing : ¬ world.HasGate gate) : world.entries gate = [] := by
  cases gate with
  | lock id =>
    change ((world.locks.get? id).getD .new).waiters.entries = []
    rw [Table.get?_eq_none (Nat.le_of_not_lt missing)]
    rfl
  | semaphore id =>
    change ((world.semaphores.get? id).getD (.new 0 false)).waiters.entries = []
    rw [Table.get?_eq_none (Nat.le_of_not_lt missing)]
    rfl
  | event id =>
    change ((world.events.get? id).getD .new).waiters.entries = []
    rw [Table.get?_eq_none (Nat.le_of_not_lt missing)]
    rfl
  | condition id =>
    change ((world.conditions.get? id).getD (.new 0)).waiters.entries = []
    rw [Table.get?_eq_none (Nat.le_of_not_lt missing)]
    rfl

/-- Whoever waits at a gate waits for a primitive that exists. -/
theorem hasGate_of_mem (waits : future ∈ world.entries gate) : world.HasGate gate := by
  by_contra missing
  rw [entries_of_not_hasGate missing] at waits
  cases waits

/-- What is done to the primitive of one gate leaves everything else alone. -/
structure Touches (gate : Gate) (before after : World) : Prop where
  /-- The other locks. -/
  locks : ∀ {id}, Gate.lock id ≠ gate → after.locks.get? id = before.locks.get? id
  /-- The other semaphores. -/
  semaphores : ∀ {id}, Gate.semaphore id ≠ gate →
    after.semaphores.get? id = before.semaphores.get? id
  /-- The other events. -/
  events : ∀ {id}, Gate.event id ≠ gate → after.events.get? id = before.events.get? id
  /-- The other queues. -/
  queues : ∀ {other}, other ≠ gate → after.queue other = before.queue other
  /-- The fates of those who do not wait there. -/
  fates : ∀ {future}, future ∉ before.entries gate → after.loop.fate future = before.loop.fate future
  /-- No future is added. -/
  size : after.loop.futures.size = before.loop.futures.size
  /-- What was decided stays so. -/
  decided : ∀ {future}, before.loop.fate future ≠ .pending → after.loop.fate future = before.loop.fate future
  /-- Nobody fails. -/
  failed : ∀ {future}, before.loop.fate future ≠ .failed → after.loop.fate future ≠ .failed

/-- Nobody who was cancelled is granted. -/
theorem Touches.cancelled (touches : Touches gate before after)
    (cancelled : before.loop.fate future = .cancelled) : after.loop.fate future = .cancelled := by
  rw [touches.decided (cancelled ▸ Fate.noConfusion), cancelled]

/-- The primitive of one gate is changed, and has a certain queue then. -/
structure Sets (gate : Gate) (queue : WaiterQueue) (before after : World) : Prop where
  /-- The other locks stay as they are. -/
  locks : ∀ {id}, Gate.lock id ≠ gate → after.locks.get? id = before.locks.get? id
  /-- The other semaphores stay as they are. -/
  semaphores : ∀ {id}, Gate.semaphore id ≠ gate →
    after.semaphores.get? id = before.semaphores.get? id
  /-- The other events stay as they are. -/
  events : ∀ {id}, Gate.event id ≠ gate → after.events.get? id = before.events.get? id
  /-- The other queues stay as they are. -/
  queues : ∀ {other}, other ≠ gate → after.queue other = before.queue other
  /-- The queue of the gate is set if there is such a gate. -/
  present : before.HasGate gate → after.queue gate = queue
  /-- Otherwise there is no gate. -/
  missing : ¬ before.HasGate gate → ¬ after.HasGate gate
  /-- The loop stays as it is. -/
  loop : after.loop = before.loop

/-- The entry of a table after it was changed. -/
theorem getD_modify {α : Type} {table : Table α} {default entry : α} (found : id < table.size) :
    ((table.modify id fun _ => entry).get? id).getD default = entry := by
  obtain ⟨old, stored⟩ := Table.exists_get?_of_lt_size found
  rw [Table.get?_modify_self, stored]
  rfl

namespace Sets

/-- A lock is changed. -/
theorem setLock (id : LockId) (lock : Lock) (world : World) :
    Sets (.lock id) lock.waiters world (setLock id lock world).2 where
  locks differ := Table.get?_modify_of_ne _ _ fun same => differ (congrArg Gate.lock same)
  semaphores _ := rfl
  events _ := rfl
  queues {other} differ := by
    cases other with
    | lock other =>
      have same : (world.locks.modify id fun _ => lock).get? other = world.locks.get? other :=
        Table.get?_modify_of_ne _ _ fun same => differ (congrArg Gate.lock same)
      exact congrArg (fun found => (Option.getD found .new).waiters) same
    | semaphore | event | condition => rfl
  present exists_ := congrArg Lock.waiters (getD_modify exists_)
  missing none some := none (Nat.lt_of_lt_of_eq some (Table.size_modify _ _ _))
  loop := rfl

/-- A semaphore is changed. -/
theorem setSemaphore (id : SemaphoreId) (semaphore : Semaphore) (world : World) :
    Sets (.semaphore id) semaphore.waiters world (setSemaphore id semaphore world).2 where
  locks _ := rfl
  semaphores differ := Table.get?_modify_of_ne _ _ fun same => differ (congrArg Gate.semaphore same)
  events _ := rfl
  queues {other} differ := by
    cases other with
    | semaphore other =>
      have same : (world.semaphores.modify id fun _ => semaphore).get? other =
          world.semaphores.get? other :=
        Table.get?_modify_of_ne _ _ fun same => differ (congrArg Gate.semaphore same)
      exact congrArg (fun found => (Option.getD found (.new 0 false)).waiters) same
    | lock | event | condition => rfl
  present exists_ := congrArg Semaphore.waiters (getD_modify exists_)
  missing none some := none (Nat.lt_of_lt_of_eq some (Table.size_modify _ _ _))
  loop := rfl

/-- An event is changed. -/
theorem setEvent (id : EventId) (event : Event) (world : World) :
    Sets (.event id) event.waiters world (setEvent id event world).2 where
  locks _ := rfl
  semaphores _ := rfl
  events differ := Table.get?_modify_of_ne _ _ fun same => differ (congrArg Gate.event same)
  queues {other} differ := by
    cases other with
    | event other =>
      have same : (world.events.modify id fun _ => event).get? other = world.events.get? other :=
        Table.get?_modify_of_ne _ _ fun same => differ (congrArg Gate.event same)
      exact congrArg (fun found => (Option.getD found .new).waiters) same
    | lock | semaphore | condition => rfl
  present exists_ := congrArg Event.waiters (getD_modify exists_)
  missing none some := none (Nat.lt_of_lt_of_eq some (Table.size_modify _ _ _))
  loop := rfl

/-- A condition is changed. -/
theorem setCondition (id : ConditionId) (condition : Condition) (world : World) :
    Sets (.condition id) condition.waiters world (setCondition id condition world).2 where
  locks _ := rfl
  semaphores _ := rfl
  events _ := rfl
  queues {other} differ := by
    cases other with
    | condition other =>
      have same : (world.conditions.modify id fun _ => condition).get? other =
          world.conditions.get? other :=
        Table.get?_modify_of_ne _ _ fun same => differ (congrArg Gate.condition same)
      exact congrArg (fun found => (Option.getD found (.new 0)).waiters) same
    | lock | semaphore | event => rfl
  present exists_ := congrArg Condition.waiters (getD_modify exists_)
  missing none some := none (Nat.lt_of_lt_of_eq some (Table.size_modify _ _ _))
  loop := rfl

/-- The queue of a gate is changed. -/
theorem setQueue (gate : Gate) (queue : WaiterQueue) (world : World) :
    Sets gate queue world (setQueue gate queue world).2 := by
  cases gate with
  | lock id => exact setLock id { (lockAt id world).1 with waiters := queue } world
  | semaphore id => exact setSemaphore id { (semaphoreAt id world).1 with waiters := queue } world
  | event id => exact setEvent id { (eventAt id world).1 with waiters := queue } world
  | condition id => exact setCondition id { (conditionAt id world).1 with waiters := queue } world

variable {queue : WaiterQueue}

/-- After the primitive of a gate was changed, futures that wait there may be resolved. -/
theorem touches {futures : List FutureId} {resolution : Resolution}
    (sets : Sets gate queue before after) (decided : resolution.fate ≠ .pending)
    (sound : resolution.fate ≠ .failed)
    (bound : ∀ future ∈ futures, future < before.loop.futures.size)
    (waits : ∀ future ∈ futures, before.loop.fate future = .pending →
      future ∈ before.entries gate) :
    Touches gate before
      { after with loop := after.loop.resolveAll futures resolution } := by
  have fates := Loop.fate_resolveAll before.loop futures resolution decided bound
  rw [sets.loop]
  refine ⟨sets.locks, sets.semaphores, sets.events, ?_, ?_, ?_, ?_, ?_⟩
  · intro other differ
    rw [queue_loop]
    exact sets.queues differ
  · intro future away
    rw [fates, if_neg fun here => away (waits future here.1 here.2)]
  · exact Loop.size_futures_resolveAll _ _ _
  · intro future settled
    rw [fates, if_neg fun here => settled here.2]
  · intro future unfailed
    rw [fates]
    split
    · exact sound
    · exact unfailed

/-- The entries of the queue that is set are those of the gate, if there is such a gate. -/
theorem entries_sublist (sets : Sets gate queue before after) {listed : List FutureId}
    (sublist : queue.entries.Sublist listed) : (after.entries gate).Sublist listed := by
  by_cases exists_ : before.HasGate gate
  · rw [entries, sets.present exists_]
    exact sublist
  · rw [entries_of_not_hasGate (sets.missing exists_)]
    exact List.nil_sublist _

/-- Whoever is in the queue that is set waits at the gate, if there is such a gate. -/
theorem mem_entries (sets : Sets gate queue before after) (exists_ : before.HasGate gate)
    (member : future ∈ queue.entries) : future ∈ after.entries gate := by
  rw [entries, sets.present exists_]
  exact member

end Sets

end World

end EventLoop
