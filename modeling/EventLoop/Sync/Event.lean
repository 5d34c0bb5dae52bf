import EventLoop.Sync.WaiterQueue

/-!
# Events

An event is a flag that callers can wait for. Setting it grants everyone who waits; a caller that
finds it set does not wait.
-/
namespace EventLoop.Sync

/-- An event. -/
structure Event where
  /-- Whether the event is set. -/
  isSet : Bool
  /-- The callers that wait for it. -/
  waiters : WaiterQueue
  deriving DecidableEq, Repr, Inhabited

namespace Event

/-- An event that is not set. -/
def new : Event := ⟨false, .empty false⟩

/-- Sets the event and grants everyone who waits; an event that is set stays as it is. -/
def set (event : Event) (view : FutureView) : List FutureId × Event :=
  if event.isSet then ([], event)
  else
    let (grants, waiters) := event.waiters.wakeAll view
    (grants, ⟨true, waiters⟩)

/-- Clears the event. -/
def clear (event : Event) : Event := { event with isSet := false }

/-- The text that shows an event. -/
def text (event : Event) : String :=
  if event.isSet then "<Event [set]>" else "<Event [unset]>"

end Event

end EventLoop.Sync
