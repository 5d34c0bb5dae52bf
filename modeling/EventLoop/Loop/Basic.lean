import EventLoop.Loop.Future
import EventLoop.Loop.Task
import EventLoop.Loop.Timers
import EventLoop.Slab

/-!
# The loop

The loop keeps the callbacks that are ready, the timers, the futures and the tasks. Nothing here
runs a callback: these are the transitions that callbacks and instructions are made of. A closed loop
takes no callbacks; what would have been kept alive by one is let go of instead.

References that were given up are collected in `dropped`, in order; what becomes of the objects is
decided elsewhere.
-/
namespace EventLoop

/-- The state of the loop. -/
structure Loop where
  /-- The callbacks that are ready, in the order in which they will run. -/
  ready : List Callback := []
  /-- The timers. -/
  timers : Timers := {}
  /-- The futures. -/
  futures : Table Future := ∅
  /-- The cells, each with the number of the live task that it will wake. -/
  cells : Table Nat := ∅
  /-- The tasks. -/
  tasks : Table Task := ∅
  /-- The live tasks, under the numbers that their wakers carry. -/
  live : Slab TaskId := ∅
  /-- The numbers that were woken since the last look, in order. -/
  woken : List Nat := []
  /-- The callbacks that other threads asked for since the last look, in order. -/
  remote : List Callback := []
  /-- Whether another thread asked the loop to return. -/
  remoteStop : Bool := false
  /-- Whether the loop runs until it is stopped. -/
  running : Bool := false
  /-- Whether the loop was asked to return. -/
  stopping : Bool := false
  /-- Whether the loop is closed. -/
  closed : Bool := false
  /-- The references that were given up. -/
  dropped : List Ref := []
  deriving Inhabited

namespace Loop

/-- Gives references up. -/
def drop (loop : Loop) (refs : List Ref) : Loop := { loop with dropped := loop.dropped ++ refs }

/-- Makes a callback ready. -/
def callSoon (loop : Loop) (callback : Callback) : Loop :=
  if loop.closed then loop.drop callback.refs
  else { loop with ready := loop.ready ++ [callback] }

/-- Schedules a callback for a time. -/
def callAt (loop : Loop) (deadline : Nat) (callback : Callback) : TimerId × Loop :=
  if loop.closed then
    let (id, timers) := loop.timers.refuse deadline
    (id, { loop.drop callback.refs with timers })
  else
    let (id, timers) := loop.timers.schedule deadline callback
    (id, { loop with timers })

/-- Cancels a timer. -/
def cancelTimer (loop : Loop) (id : TimerId) : Loop := { loop with timers := loop.timers.cancel id }

/-! ## Futures -/

/-- Adds a future. -/
def addFuture (loop : Loop) (future : Future) : FutureId × Loop :=
  (loop.futures.size, { loop with futures := loop.futures.push future })

/-- Makes a future. -/
def makeFuture (loop : Loop) (kind : FutureKind) : FutureId × Loop := loop.addFuture (.new kind)

/-- Makes a future that is cancelled after a timeout, if it has one. -/
def makeTimed (loop : Loop) (kind : FutureKind) (now : Nat) (timeout : Option Nat) :
    FutureId × Loop :=
  match timeout with
  | none => loop.makeFuture kind
  | some delay =>
    let (timer, loop) := loop.callAt (now + delay) (.expire loop.futures.size)
    loop.addFuture ⟨kind, .pending [] (some timer)⟩

/-- Makes a future that is resolved after a delay. -/
def makeSleep (loop : Loop) (now delay : Nat) : FutureId × Loop :=
  let (future, loop) := loop.makeFuture .unit
  let (_, loop) := loop.callAt (now + delay) (.resolve future)
  (future, loop)

/-- What a future holds. -/
def futurePhase? (loop : Loop) (id : FutureId) : Option FuturePhase :=
  (loop.futures.get? id).map Future.phase

/-- How far a future is. -/
def futureState (loop : Loop) (id : FutureId) : FutureState :=
  match loop.futures.get? id with
  | some future => future.state
  | none => .pending

/-- Whether a future is resolved. -/
def isDone (loop : Loop) (id : FutureId) : Bool := loop.futureState id != .pending

/-- The result of a future. -/
def resultOf (loop : Loop) (id : FutureId) : Outcome :=
  match loop.futures.get? id with
  | some future => future.result
  | none => .error .notReady

/-- Stores a future that was resolved: its timer is cancelled, and its reactions become ready in their
order. -/
def replaceFuture (loop : Loop) (id : FutureId) (future : Future) (freed : Future.Freed) : Loop :=
  let loop := { loop with futures := loop.futures.modify id fun _ => future }
  let loop := match freed.timer with
    | some timer => loop.cancelTimer timer
    | none => loop
  freed.reactions.foldl (fun loop reaction => loop.callSoon (.done id reaction)) loop

/-- Resolves a future: its timer is cancelled and its reactions become ready in their order. A
future that is resolved already stays as it is. -/
def resolve (loop : Loop) (id : FutureId) (resolution : Resolution) : Except Error Unit × Loop :=
  match loop.futures.get? id with
  | none => (.error .alreadyDone, loop)
  | some future => match future.resolve resolution with
    | .error error => (.error error, loop)
    | .ok (freed, future) => (.ok (), loop.replaceFuture id future freed)

/-- Registers what a future will bring about; if it is resolved already, that is ready at once. -/
def whenDone (loop : Loop) (id : FutureId) (reaction : Reaction) : Loop :=
  match loop.futurePhase? id with
  | some (.pending reactions timer) =>
    { loop with futures := loop.futures.modify id fun future =>
        { future with phase := .pending (reactions ++ [reaction]) timer } }
  | _ => loop.callSoon (.done id reaction)

/-- Awaits a future on behalf of a live task: its result, or the wait to go on with. The first time
that it has to wait, one reaction is registered, which will wake the waker of the latest time. -/
def await (loop : Loop) (wait : Wait) (waker : Nat) : Except Wait Outcome × Loop :=
  if loop.isDone wait.future then (.ok (loop.resultOf wait.future), loop)
  else match wait.cell with
    | some cell => (.error wait, { loop with cells := loop.cells.modify cell fun _ => waker })
    | none =>
      let cell := loop.cells.size
      let loop := { loop with cells := loop.cells.push waker }
      (.error { wait with cell := some cell }, loop.whenDone wait.future (.wake cell))

/-- Wakes the waker in a cell. -/
def wakeCell (loop : Loop) (cell : CellId) : Loop :=
  match loop.cells.get? cell with
  | some waker => { loop with woken := loop.woken ++ [waker] }
  | none => loop

/-! ## Tasks -/

/-- Changes what a task is doing. -/
def setPhase (loop : Loop) (id : TaskId) (phase : TaskPhase) : Loop :=
  { loop with tasks := loop.tasks.modify id fun task => { task with phase } }

/-- What a task is doing. -/
def taskPhase? (loop : Loop) (id : TaskId) : Option TaskPhase :=
  (loop.tasks.get? id).map Task.phase

/-- Makes a poll of a task ready, unless it is not idle. -/
def schedule (loop : Loop) (id : TaskId) : Loop :=
  match loop.taskPhase? id with
  | some (.idle activity) => (loop.setPhase id (.queued activity)).callSoon (.step id)
  | _ => loop

/-- Adds a task with a program. On a closed loop it is cancelled from the beginning and the program
is not kept. -/
def spawn (loop : Loop) (name : String) (body : Script.Body) : TaskId × Loop :=
  let (result, loop) := loop.makeFuture .value
  let id := loop.tasks.size
  if loop.closed then
    let loop := { loop with tasks := loop.tasks.push ⟨name, .cancelled, none, result⟩ }
    (id, (loop.resolve result .cancel).2)
  else
    let (slot, live) := loop.live.insert id
    let loop := { loop with
      live
      tasks := loop.tasks.push ⟨name, .idle (.fresh body), some slot, result⟩ }
    (id, loop.schedule id)

/-- Takes the program out of a task whose poll is due. -/
def beginPoll (loop : Loop) (id : TaskId) : Option Script.Activity × Loop :=
  match loop.taskPhase? id with
  | some (.queued activity) => (some activity, loop.setPhase id .running)
  | _ => (none, loop)

/-- Removes a task from the live ones. -/
def retire (loop : Loop) (task : Task) : Loop :=
  match task.slot with
  | none => loop
  | some slot =>
    let (id?, live) := loop.live.erase slot
    { loop.drop (id?.toList.map Ref.task) with live }

/-- Puts the suspended program back into a task after a poll. If the task was cancelled meanwhile,
the program is returned instead. -/
def endPoll (loop : Loop) (id : TaskId) (activity : Script.Activity) :
    Option Script.Activity × Loop :=
  match loop.taskPhase? id with
  | some .running => (none, loop.setPhase id (.idle activity))
  | _ => (some activity, loop)

/-- Completes a task whose program ended with a value, unless it was cancelled meanwhile. -/
def complete (loop : Loop) (id : TaskId) (value : Value) : Loop :=
  match loop.tasks.get? id with
  | some task => match task.phase with
    | .running =>
      let loop := (loop.setPhase id .completed).retire task
      (loop.resolve task.result (.finish (.ok (.value value)))).2
    | _ => loop
  | none => loop

/-- Begins to cancel a task that is not over: it is no longer live. Returns the program that it held,
which is to be abandoned next. -/
def beginCancel (loop : Loop) (id : TaskId) (task : Task) : Option Script.Activity × Loop :=
  (task.activity?, (loop.setPhase id .cancelled).retire task)

/-! ## Iterations -/

/-- Wakes the live task with a number. -/
def scheduleLive (loop : Loop) (slot : Nat) : Loop :=
  match loop.live.get? slot with
  | some id => loop.schedule id
  | none => loop

/-- Takes over what other threads asked for and which tasks were woken. -/
def collectRequests (loop : Loop) : Loop :=
  let loop := { loop with stopping := loop.stopping || loop.remoteStop, remoteStop := false }
  let callbacks := loop.remote
  let loop := callbacks.foldl callSoon { loop with remote := [] }
  let woken := loop.woken
  woken.foldl scheduleLive { loop with woken := [] }

/-- How long the loop may wait: not at all while something is ready or the loop was asked to return,
otherwise until the next timer is due. -/
def patience (loop : Loop) (now : Nat) : Option Nat × Loop :=
  if !loop.ready.isEmpty || loop.stopping then (some 0, loop)
  else
    let (deadline, removed, timers) := loop.timers.next
    (deadline.map (· - now),
      { loop with timers }.drop (removed.flatMap TimerEntry.refs))

/-- Makes the callbacks of due timers ready. -/
def collectDue (loop : Loop) (now : Nat) : Loop :=
  let (callbacks, removed, timers) := loop.timers.takeDue now
  { loop with timers, ready := loop.ready ++ callbacks }.drop
    (removed.flatMap TimerEntry.refs)

/-- The first part of an iteration, before the proactor is polled. -/
def prepare (loop : Loop) (now : Nat) : Option Nat × Loop := loop.collectRequests.patience now

/-- The second part of an iteration, after the proactor was polled: the number of callbacks that
this iteration will run. -/
def gather (loop : Loop) (now : Nat) : Nat × Loop :=
  let loop := (loop.collectDue now).collectRequests
  (loop.ready.length, loop)

/-- Takes the next ready callback. -/
def takeReady (loop : Loop) : Option Callback × Loop :=
  match loop.ready with
  | [] => (none, loop)
  | callback :: rest => (some callback, { loop with ready := rest })

/-- Lets go of everything that waits in a closed loop: first the ready callbacks, then the timers,
then the live tasks. -/
def dropAll (loop : Loop) : Loop :=
  let (tasks, live) := loop.live.drain
  let refs := loop.ready.flatMap Callback.refs ++ loop.timers.refs ++ tasks.map Ref.task
  { loop with ready := [], timers := { loop.timers with entries := [] }, live }.drop refs

end Loop

end EventLoop
