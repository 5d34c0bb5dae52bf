import EventLoop.Sync.WaiterQueue

/-!
# Locks

A lock is held or free; it does not know by whom. A release frees it and grants the first caller that
waits; the lock is held again when that caller resumes. A lock counts how often it was taken and how
often it was released.
-/
namespace EventLoop.Sync

/-- A lock. -/
structure Lock where
  /-- Whether the lock is held. -/
  locked : Bool
  /-- The callers that wait for it. -/
  waiters : WaiterQueue
  /-- How often it was taken. -/
  taken : Nat := 0
  /-- How often it was released. -/
  released : Nat := 0
  deriving DecidableEq, Repr, Inhabited

namespace Lock

/-- A lock that is free. -/
def new : Lock := { locked := false, waiters := .empty true }

/-- Whether a caller takes the lock at once: it is free and nobody waits. -/
def isFree (lock : Lock) : Bool := lock.waiters.isEmpty && !lock.locked

/-- Takes the lock. -/
def take (lock : Lock) : Lock := { lock with locked := true, taken := lock.taken + 1 }

/-- Frees the lock and grants the first caller that waits; only a lock that is held can be
released. -/
def release (lock : Lock) (view : FutureView) : Except Error (List FutureId × Lock) :=
  if lock.locked then
    let (grants, waiters) := lock.waiters.wake view 1
    .ok (grants, { lock with locked := false, waiters, released := lock.released + 1 })
  else .error .lockNotHeld

/-- The text that shows a lock. -/
def text (lock : Lock) : String :=
  if lock.locked then "<Lock [locked]>" else "<Lock [unlocked]>"

end Lock

end EventLoop.Sync
