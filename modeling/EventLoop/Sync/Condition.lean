import EventLoop.Sync.Lock

/-!
# Conditions

A condition has a lock and a queue of callers that wait to be notified. A caller gives the lock up
while it waits and takes it again before it goes on. Notifying needs the lock and does not give it
up.
-/
namespace EventLoop.Sync

/-- A condition. -/
structure Condition where
  /-- The lock of the condition. -/
  lock : LockId
  /-- The callers that wait to be notified. -/
  waiters : WaiterQueue
  deriving DecidableEq, Repr, Inhabited

namespace Condition

/-- A condition around a lock. -/
def new (lock : LockId) : Condition := ⟨lock, .empty false⟩

/-- Grants up to the given number of callers, provided that the lock is held. -/
def notify (condition : Condition) (locked : Bool) (view : FutureView) (count : Nat) :
    Except Error (List FutureId × Condition) :=
  if locked then
    let (grants, waiters) := condition.waiters.wake view count
    .ok (grants, { condition with waiters })
  else .error .notifyWithoutLock

/-- Grants everyone who waits, provided that the lock is held. -/
def notifyAll (condition : Condition) (locked : Bool) (view : FutureView) :
    Except Error (List FutureId × Condition) :=
  condition.notify locked view condition.waiters.length

/-- The text that shows a condition, given whether its lock is held. -/
def text (locked : Bool) : String :=
  if locked then "<Condition [locked]>" else "<Condition [unlocked]>"

end Condition

end EventLoop.Sync
