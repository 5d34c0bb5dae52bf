import EventLoop.Sync.WaiterQueue

/-!
# Semaphores

A semaphore counts permits. A caller that finds none, or that finds others waiting, waits in turn. A
bounded semaphore refuses to hold more permits than it began with. A semaphore counts how often a
permit was taken and how often one was given back.
-/
namespace EventLoop.Sync

/-- A semaphore. -/
structure Semaphore where
  /-- The permits that can be taken. -/
  value : Nat
  /-- The most permits that there may be, if the semaphore is bounded. -/
  bound : Option Nat
  /-- Whether the last permit was taken and none was given back since. -/
  locked : Bool
  /-- The callers that wait for a permit. -/
  waiters : WaiterQueue
  /-- The permits that there were in the beginning. -/
  initial : Nat
  /-- How often a permit was taken. -/
  taken : Nat := 0
  /-- How often a permit was given back. -/
  released : Nat := 0
  deriving DecidableEq, Repr, Inhabited

namespace Semaphore

/-- A semaphore with a number of permits, bounded or not. -/
def new (value : Nat) (bounded : Bool) : Semaphore where
  value
  bound := if bounded then some value else none
  locked := value == 0
  waiters := .empty true
  initial := value

/-- Whether a caller takes a permit at once: there is one and nobody waits. -/
def isFree (semaphore : Semaphore) : Bool := semaphore.waiters.isEmpty && 0 < semaphore.value

/-- Takes a permit; the count stops at zero. -/
def take (semaphore : Semaphore) : Semaphore :=
  let value := semaphore.value - 1
  { semaphore with
    value
    locked := value == 0 || semaphore.locked
    taken := semaphore.taken + 1 }

/-- Whether the semaphore holds all the permits that it may hold. -/
def isFull (semaphore : Semaphore) : Bool := semaphore.bound.any (· ≤ semaphore.value)

/-- Gives a permit back and grants the first caller that waits; a full semaphore refuses. -/
def release (semaphore : Semaphore) (view : FutureView) :
    Except Error (List FutureId × Semaphore) :=
  if semaphore.isFull then .error .releasedTooOften
  else
    let (grants, waiters) := semaphore.waiters.wake view 1
    .ok (grants, { semaphore with
      value := semaphore.value + 1
      locked := false
      waiters
      released := semaphore.released + 1 })

/-- The text that shows a semaphore. -/
def text (semaphore : Semaphore) : String :=
  if semaphore.locked then "<Semaphore [locked]>"
  else "<Semaphore [unlocked,value:" ++ toString semaphore.value ++ "]>"

end Semaphore

end EventLoop.Sync
