import EventLoop.World.Basic

/-!
# Primitives in the world

The transitions of locks, semaphores, events and conditions are applied to the primitives of the
world, and the futures that they grant are resolved. A caller that waits holds a place in a queue; it
settles the place when it resumes and abandons it when it is gone before.
-/
namespace EventLoop.World

open Sync (Lock Semaphore Event Condition WaiterQueue)

/-- Changes a lock. -/
def setLock (id : LockId) (lock : Lock) : WorldM Unit := modify fun world =>
  { world with locks := world.locks.modify id fun _ => lock }

/-- Changes a semaphore. -/
def setSemaphore (id : SemaphoreId) (semaphore : Semaphore) : WorldM Unit := modify fun world =>
  { world with semaphores := world.semaphores.modify id fun _ => semaphore }

/-- Changes an event. -/
def setEvent (id : EventId) (event : Event) : WorldM Unit := modify fun world =>
  { world with events := world.events.modify id fun _ => event }

/-- Changes a condition. -/
def setCondition (id : ConditionId) (condition : Condition) : WorldM Unit := modify fun world =>
  { world with conditions := world.conditions.modify id fun _ => condition }

/-- The lock with a number. -/
def lockAt (id : LockId) : WorldM Lock := return ((← get).locks.get? id).getD .new

/-- The semaphore with a number. -/
def semaphoreAt (id : SemaphoreId) : WorldM Semaphore :=
  return ((← get).semaphores.get? id).getD (.new 0 false)

/-- The event with a number. -/
def eventAt (id : EventId) : WorldM Event := return ((← get).events.get? id).getD .new

/-- The condition with a number. -/
def conditionAt (id : ConditionId) : WorldM Condition :=
  return ((← get).conditions.get? id).getD (.new 0)

/-- Makes a lock. -/
def makeLock : WorldM LockId := do
  let world ← get
  set { world with locks := world.locks.push .new }
  return world.locks.size

/-- Makes a semaphore. -/
def makeSemaphore (value : Nat) (bounded : Bool) : WorldM SemaphoreId := do
  let world ← get
  set { world with semaphores := world.semaphores.push (.new value bounded) }
  return world.semaphores.size

/-- Makes an event. -/
def makeEvent : WorldM EventId := do
  let world ← get
  set { world with events := world.events.push .new }
  return world.events.size

/-- Makes a condition around a lock. -/
def makeCondition (lock : LockId) : WorldM ConditionId := do
  let world ← get
  set { world with conditions := world.conditions.push (.new lock) }
  return world.conditions.size

/-- Releases a lock. -/
def releaseLock (id : LockId) : WorldM (Except Error Unit) := do
  match (← lockAt id).release (← get).view with
  | .error error => return .error error
  | .ok (grants, lock) =>
    setLock id lock
    grant grants
    return .ok ()

/-- Gives a permit back. -/
def releaseSemaphore (id : SemaphoreId) : WorldM (Except Error Unit) := do
  match (← semaphoreAt id).release (← get).view with
  | .error error => return .error error
  | .ok (grants, semaphore) =>
    setSemaphore id semaphore
    grant grants
    return .ok ()

/-- Sets an event and grants those who wait for it. -/
def raiseEvent (id : EventId) : WorldM Unit := do
  let (grants, event) := (← eventAt id).set (← get).view
  setEvent id event
  grant grants

/-- Whether the lock of a condition is held. -/
def isConditionLocked (condition : Condition) : WorldM Bool :=
  return (← lockAt condition.lock).locked

/-- Notifies some of those who wait for a condition, or all if no count is given. -/
def notify (id : ConditionId) (count : Option Nat) : WorldM (Except Error Unit) := do
  let condition ← conditionAt id
  let locked ← isConditionLocked condition
  let view := (← get).view
  let result := match count with
    | some count => condition.notify locked view count
    | none => condition.notifyAll locked view
  match result with
  | .error error => return .error error
  | .ok (grants, condition) =>
    setCondition id condition
    grant grants
    return .ok ()

/-- Gives back what a guard holds. -/
def releaseGuard (guard : Guard) : WorldM Unit := do
  let _ ← match guard with
    | .lock id => releaseLock id
    | .semaphore id => releaseSemaphore id

/-- The queue of a gate. -/
def queueAt (gate : Gate) : WorldM WaiterQueue := do
  match gate with
  | .lock id => return (← lockAt id).waiters
  | .semaphore id => return (← semaphoreAt id).waiters
  | .event id => return (← eventAt id).waiters
  | .condition id => return (← conditionAt id).waiters

/-- Changes the queue of a gate. -/
def setQueue (gate : Gate) (waiters : WaiterQueue) : WorldM Unit := do
  match gate with
  | .lock id => setLock id { ← lockAt id with waiters }
  | .semaphore id => setSemaphore id { ← semaphoreAt id with waiters }
  | .event id => setEvent id { ← eventAt id with waiters }
  | .condition id => setCondition id { ← conditionAt id with waiters }

/-- Takes a place at the end of a queue, to be cancelled after a timeout; returns its future. -/
def park (gate : Gate) (timeout : Option Nat) : WorldM FutureId := do
  let time ← now
  let future ← onLoop (·.makeTimed .unit time timeout)
  setQueue gate ((← queueAt gate).park future)
  return future

/-- Gives a place up because its caller resumes. -/
def settlePlace (gate : Gate) (future : FutureId) : WorldM Unit := do
  setQueue gate ((← queueAt gate).remove future)

/-- Gives a place up because its caller is gone. -/
def abandonPlace (gate : Gate) (future : FutureId) : WorldM Unit := do
  let (settlement, queue) := (← queueAt gate).abandon (← get).view future
  setQueue gate queue
  match settlement with
  | .passOn futures => grant futures
  | .cancel => cancelAll [future]

/-- What a caller takes when its turn has come. -/
def takeTurn (gate : Gate) : WorldM Unit := do
  match gate with
  | .lock id => setLock id (← lockAt id).take
  | .semaphore id => setSemaphore id (← semaphoreAt id).take
  | .event _ | .condition _ => return ()

/-- Whether a caller need not wait: it may take what it asks for at once. -/
def isOpenGate (gate : Gate) : WorldM Bool := do
  match gate with
  | .lock id => return (← lockAt id).isFree
  | .semaphore id => return (← semaphoreAt id).isFree
  | .event id => return (← eventAt id).isSet
  | .condition _ => return false

/-- Gives up what a suspended program owns. -/
def abandonPart (part : Script.Part) : WorldM Unit := do
  match part with
  | .place gate future => abandonPlace gate future; drop (.future future)
  | .future future => drop (.future future)
  | .guard guard => releaseGuard guard
  | .socket socket => drop (.socket socket)
  | .transport transport => drop (.transport transport)

/-- Gives up all that a suspended program owns, what is innermost first. -/
def abandon (activity : Script.Activity) : WorldM Unit := activity.parts.forM abandonPart

/-- Writes the end of a task's program down, if that is wanted. -/
def recordEnd (task : String) : WorldM Unit := do
  if (← get).host.journal.settings.tasks then record (Actor.task task).text "drop" .null

/-- Gives up the program of a task. -/
def abandonProgram (task : String) (activity : Script.Activity) : WorldM Unit := do
  recordEnd task
  abandon activity

end EventLoop.World
