import EventLoop.Script.Activity

/-!
# Tasks

A task drives a program forward, one poll at a time. Between polls it holds the suspended program;
while it is polled, the program is in the hands of the poll.
-/
namespace EventLoop

/-- What a task is doing. -/
inductive TaskPhase
  /-- It waits to be woken. -/
  | idle (activity : Script.Activity)
  /-- A poll of it is due. -/
  | queued (activity : Script.Activity)
  /-- It is being polled. -/
  | running
  /-- Its program ended. -/
  | completed
  /-- It was cancelled. -/
  | cancelled
  deriving Inhabited

/-- A program that the loop drives. -/
structure Task where
  /-- The name under which the task reports. -/
  name : String
  /-- What it is doing. -/
  phase : TaskPhase
  /-- Its number among the live tasks, which its wakers carry; a task that was never live has none. -/
  slot : Option Nat
  /-- The future that receives the value of the program. -/
  result : FutureId
  deriving Inhabited

namespace Task

/-- The program that a task holds between polls. -/
def activity? (task : Task) : Option Script.Activity :=
  match task.phase with
  | .idle activity | .queued activity => some activity
  | .running | .completed | .cancelled => none

/-- Whether a task can no longer be cancelled. -/
def isOver (task : Task) : Bool :=
  match task.phase with
  | .completed | .cancelled => true
  | .idle _ | .queued _ | .running => false

end Task

end EventLoop
