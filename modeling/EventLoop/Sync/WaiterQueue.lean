import EventLoop.Loop.Future

/-!
# Waiter queues

The callers that are blocked on a primitive wait in the order of their arrival, each with a future
that is resolved to grant it the resource. A granted entry stays in the queue until its caller
resumes, so nobody overtakes a caller that was already served.

A queue does not hold the futures themselves: whoever asks a question that depends on them passes a
view of their states, and the futures to be granted are returned.
-/
namespace EventLoop.Sync

/-- A view of the states of all futures. -/
abbrev FutureView := FutureId → FutureState

/-- The callers that wait, in the order of their arrival. -/
structure WaiterQueue where
  /-- Whether the grant of a caller that is gone before it resumed passes to the next one. -/
  handoff : Bool
  /-- The future of each caller. -/
  entries : List FutureId
  deriving DecidableEq, Repr, Inhabited

namespace WaiterQueue

/-- A queue without callers. -/
def empty (handoff : Bool) : WaiterQueue := ⟨handoff, []⟩

/-- Whether nobody waits. -/
def isEmpty (queue : WaiterQueue) : Bool := queue.entries.isEmpty

/-- The count of entries. -/
def length (queue : WaiterQueue) : Nat := queue.entries.length

/-- Adds a caller at the end. -/
def park (queue : WaiterQueue) (future : FutureId) : WaiterQueue :=
  { queue with entries := queue.entries ++ [future] }

/-- The first callers, up to a count, whose futures are pending. -/
def grantees (view : FutureView) (count : Nat) (entries : List FutureId) : List FutureId :=
  (entries.filter fun entry => view entry == .pending).take count

/-- Grants up to the given number of pending entries in the order of arrival; cancelled entries are
removed. Returns the futures to be granted. -/
def wake (queue : WaiterQueue) (view : FutureView) (count : Nat) : List FutureId × WaiterQueue :=
  let entries := queue.entries.filter fun entry => view entry != .cancelled
  (grantees view count entries, { queue with entries })

/-- Grants every pending entry. -/
def wakeAll (queue : WaiterQueue) (view : FutureView) : List FutureId × WaiterQueue :=
  queue.wake view queue.length

/-- Removes the entry of one caller. -/
def remove (queue : WaiterQueue) (future : FutureId) : WaiterQueue :=
  { queue with entries := queue.entries.erase future }

/-- What has to be done about futures when a caller is gone before it resumed. -/
inductive Settlement
  /-- The grant of the caller passes to these. -/
  | passOn (futures : List FutureId)
  /-- The future of the caller is to be cancelled. -/
  | cancel
  deriving DecidableEq, Repr, Inhabited

/-- Removes a caller that is gone before it resumed. If it had been granted, its grant passes to the
next caller, in a queue that hands grants on; otherwise its future is to be cancelled. -/
def abandon (queue : WaiterQueue) (view : FutureView) (future : FutureId) :
    Settlement × WaiterQueue :=
  let queue := queue.remove future
  match view future with
  | .finished =>
    if queue.handoff then
      let (grants, queue) := queue.wake view 1
      (.passOn grants, queue)
    else (.passOn [], queue)
  | .pending | .cancelled => (.cancel, queue)

/-- Whoever is parked stands at the end. -/
@[simp] theorem entries_park (queue : WaiterQueue) (future : FutureId) :
    (queue.park future).entries = queue.entries ++ [future] := rfl

/-- Waking removes the entries that were cancelled and no others. -/
@[simp] theorem entries_wake (queue : WaiterQueue) (view : FutureView) (count : Nat) :
    (queue.wake view count).2.entries =
      queue.entries.filter fun entry => view entry != .cancelled := rfl

/-- Removing a caller removes its entry. -/
@[simp] theorem entries_remove (queue : WaiterQueue) (future : FutureId) :
    (queue.remove future).entries = queue.entries.erase future := rfl

/-- Only pending entries are granted. -/
theorem pending_of_mem_wake {queue : WaiterQueue} {view : FutureView} {count : Nat}
    {future : FutureId} (granted : future ∈ (queue.wake view count).1) :
    future ∈ queue.entries ∧ view future = .pending := by
  have kept := List.mem_of_mem_take granted
  simp only [List.mem_filter, beq_iff_eq] at kept
  exact ⟨kept.1.1, kept.2⟩

end WaiterQueue

end EventLoop.Sync
