import EventLoop.World.Connections
import EventLoop.World.Release

/-!
# The machine

Scripts run one move at a time. The machine keeps the world, a signal that says what is to be done
next or what was just done, and frames that say what goes on afterwards, the innermost first. A script
may run the loop from within, so iterations, callbacks and polls are frames like any other.
-/
namespace EventLoop

open Script (Activity Pending Branch Body)

/-- Who runs an instruction. -/
inductive Runner
  /-- Whoever drives the machine from outside. -/
  | outside
  /-- The script of a callback or of a protocol. -/
  | script (actor : Actor)
  /-- The program of a task. -/
  | program (task : TaskId)
  deriving DecidableEq, Repr, Inhabited

/-- The protocol that runs an instruction. -/
def Runner.protocol? : Runner → Option String
  | script (.protocol name) => some name
  | _ => none

/-- What goes on afterwards. -/
inductive Frame
  /-- The value of an instruction is written down and the rest of a script follows. -/
  | script (actor : Actor) (label : String) (rest : Body)
  /-- The value of an instruction is written down and the rest of a program follows. -/
  | program (task : TaskId) (label : String) (rest : Body)
  /-- More iterations follow, if all goes well. -/
  | repeated (left : Nat)
  /-- Iterations follow until the loop is asked to return; then the result is that of the run, or that
  of a task. -/
  | running (goal : Option TaskId)
  /-- More callbacks of an iteration follow. -/
  | iteration (left : Nat)
  /-- A callback lets go of the objects that it kept alive. -/
  | letGo (refs : List Ref)
  /-- A transport goes on after its protocol got data. -/
  | afterData (transport : TransportId)
  /-- A transport closes after its protocol was told that the stream ended. -/
  | afterEnd (transport : TransportId)
  /-- A transport closes its socket after its protocol was told that the connection is lost. -/
  | afterLoss (transport : TransportId)
  /-- A poll of a task ends. -/
  | poll (task : TaskId)
  /-- What is held is given back after a body. -/
  | holding (task : TaskId) (guard : Guard)
  /-- More rounds of a body follow. -/
  | rounds (task : TaskId) (left : Nat) (body : Body)
  /-- The other branches of a join follow; those that were polled are listed last first. -/
  | joining (task : TaskId) (before : List Branch) (after : List Branch)
  /-- The other branches of a selection follow; those that were polled are listed last first. -/
  | selecting (task : TaskId) (before : List Activity) (after : List Activity)
  /-- The loop is closed in two parts, and then there is a value. -/
  | closing (value : Value)

/-- What is to be done next, or what was just done. -/
inductive Signal
  /-- The innermost frame goes on. -/
  | proceed
  /-- An instruction has a value. -/
  | answer (value : Value)
  /-- An iteration of the loop, or a run of it, has ended. -/
  | iterated (result : Except Error Unit)
  /-- A callback is run. -/
  | call (callback : Callback)
  /-- The rest of a script is run. -/
  | script (actor : Actor) (rest : Body)
  /-- The rest of a program is run, after a value. -/
  | program (task : TaskId) (last : Value) (rest : Body)
  /-- A suspended program is polled. -/
  | resume (task : TaskId) (activity : Activity)
  /-- An instruction that waits is tried again. -/
  | retry (task : TaskId) (pending : Pending)
  /-- The next branch of a join is polled. -/
  | join (task : TaskId) (before : List Branch) (after : List Branch)
  /-- The next branch of a selection is polled. -/
  | select (task : TaskId) (before : List Activity) (after : List Activity)
  /-- A program has ended with a value. -/
  | ended (value : Value)
  /-- A program was told to end with a value. -/
  | returned (value : Value)
  /-- A program has to wait. -/
  | suspended (activity : Activity)
  /-- An instruction has to wait. -/
  | waiting (pending : Pending)

/-- The state of the machine. -/
structure Machine where
  /-- The world. -/
  world : World
  /-- What goes on afterwards, the innermost first. -/
  frames : List Frame
  /-- What is to be done next, or what was just done. -/
  signal : Signal

/-- The objects that suspended branches keep alive. -/
def branchRefs (branches : List Branch) : List Ref :=
  (Script.branchParts branches).filterMap World.partRef?

/-- The objects that suspended programs keep alive. -/
def activitiesRefs (activities : List Activity) : List Ref :=
  (Script.activityParts activities).filterMap World.partRef?

/-- The objects that a frame keeps alive. -/
def Frame.refs : Frame → List Ref
  | letGo refs => refs
  | running (some task) => [.task task]
  | joining _ before after => branchRefs before ++ branchRefs after
  | selecting _ before after => activitiesRefs before ++ activitiesRefs after
  | script .. | program .. | repeated _ | running none | iteration _ | afterData _ | afterEnd _
  | afterLoss _ | poll _ | holding .. | rounds .. | closing _ => []

/-- The objects that a signal keeps alive. -/
def Signal.refs : Signal → List Ref
  | call callback => callback.refs
  | resume _ activity | suspended activity => World.activityRefs activity
  | retry _ pending | waiting pending => pending.parts.filterMap World.partRef?
  | join _ before after => branchRefs before ++ branchRefs after
  | select _ before after => activitiesRefs before ++ activitiesRefs after
  | proceed | answer _ | iterated _ | script .. | program .. | ended _ | returned _ => []

/-- The objects that what is under way keeps alive. -/
def Machine.held (machine : Machine) : List Ref :=
  machine.signal.refs ++ machine.frames.flatMap Frame.refs

end EventLoop
