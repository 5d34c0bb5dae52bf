import EventLoop.Proofs.Effect.Exposure
import EventLoop.Proofs.Proactor.Keys
import EventLoop.Proofs.Program
import EventLoop.Proofs.Wait
import EventLoop.World.Release
import Mathlib.Logic.Relation

/-!
# Changes of the world

Whatever happens to the world is a sequence of the changes listed here, and each is one record update.
A change belongs to an aspect, so that a step which makes changes of a few aspects only leaves the
rest of the world alone. `Does` says of a step which aspects it changes: every law about what happens
between two states of the world is derived from that and from a case for each change.

A `Scope` says which futures may be resolved by anything but a waiter queue and a timeout, and what is
kept alive by whatever is under way.
-/
namespace EventLoop

/-- What steps of the world have to respect. -/
structure Scope where
  /-- The futures that may be resolved by anything but a waiter queue and a timeout. -/
  known : FutureId → Prop
  /-- The objects that are kept alive by what is under way. -/
  held : List Ref

variable {scope : Scope} {n : Nat}

/-- The sides of the world that a step may change. -/
inductive Aspect
  /-- The host, the variables and what else no object depends on. -/
  | surroundings
  /-- The names. -/
  | names
  /-- The sockets and what completes operations. -/
  | devices
  /-- The futures and what the loop will call. -/
  | futures
  /-- Which transports there are, and which servers are gone. -/
  | connections
  /-- The servers and what the loop will call for them. -/
  | serving
  /-- The transitions of transports. -/
  | traffic
  /-- The primitives and the futures that they grant. -/
  | primitives
  /-- Who has its turn at a gate. -/
  | turns
  /-- The futures whose time is up. -/
  | timeouts
  /-- Who is notified of a condition. -/
  | notices
  /-- The numbers of tasks that were woken. -/
  | wakes
  /-- Whether the loop is to return. -/
  | stops
  /-- Whether the loop is running. -/
  | runs
  /-- What other threads ask for. -/
  | requests
  /-- Whether the loop is closed, and with it its own pipe and whether operations are taken on. -/
  | shutting
  /-- Which tasks there are. -/
  | tasks
  /-- Which tasks are cancelled. -/
  | cancelling
  /-- The beginnings and ends of polls. -/
  | polls
  /-- What is collected at the beginning of iterations. -/
  | progress
  /-- What the loop takes from its ready callbacks. -/
  | taking
  /-- What the loop lets go of when it is closed. -/
  | closing
  /-- The reactions of pending futures that nothing mentions any more. -/
  | deserting
  deriving DecidableEq

/-- The futures that the operations of a completer resolve. -/
def Completer.futures : Completer → List FutureId
  | engine running => running.operations.map (·.future)
  | scripted listed => listed.futures

/-- The engine has one registration at most for each descriptor. -/
def Completer.Keyed : Completer → Prop
  | engine running => running.Keyed
  | scripted _ => True

/-- The futures that a transport will cancel. -/
def Net.Transport.futures (transport : Net.Transport) : List FutureId :=
  transport.reading.toList ++ transport.writing.toList

/-- What a transport keeps for good: its socket and the peer's address. -/
def Net.Transport.line (transport : Net.Transport) : SocketId × Option Address :=
  (transport.socket, transport.peer)

namespace Loop

/-- The number that the wakers of a task carry. -/
def wakerOf (loop : Loop) (id : TaskId) : Nat := ((loop.tasks.get? id).bind Task.slot).getD 0

/-- A timer is not that of a future: an entry of it waits that is for something else, unless the loop is
closed. -/
def Unbound (loop : Loop) (id : TimerId) : Prop :=
  loop.closed = true ∨ ∃ entry ∈ loop.timers.entries, entry.id = id ∧ entry.callback.expires? = none

/-- A timer that was just scheduled for something else is not that of a future. -/
theorem unbound_callAt (loop : Loop) (deadline : Nat) {callback : Callback}
    (lasting : callback.expires? = none) :
    (loop.callAt deadline callback).2.Unbound (loop.callAt deadline callback).1 := by
  unfold callAt
  by_cases closed : loop.closed = true
  · rw [if_pos closed]
    exact Or.inl closed
  · rw [if_neg closed]
    exact Or.inr ⟨_, Timers.mem_insertEntry.mpr (Or.inl rfl), rfl, lasting⟩

/-- What a task waits for at some stations is tied to it. -/
def Ties (loop : Loop) (id : TaskId) (stations : List Script.Station) : Prop :=
  ∀ station ∈ stations, ∀ wait ∈ station.waits, loop.Tied (loop.wakerOf id) wait

end Loop

namespace World

/-- The object that a name stands for exists, and a future that has a name is known. -/
def Means (scope : Scope) (world : World) : ObjectClass → Nat → Prop
  | .future, id => world.loop.Knows scope.known id
  | .task, id => id < world.loop.tasks.size
  | .lock, id => id < world.locks.size
  | .semaphore, id => id < world.semaphores.size
  | .event, id => id < world.events.size
  | .condition, id => id < world.conditions.size
  | .timer, _ | .waker, _ | .var, _ | .socket, _ | .transport, _ | .server, _ => True

/-- What is found under a name is among the names. -/
theorem mem_names {world : World} {kind : ObjectClass} {name : String} {id : Nat}
    (named : world.names.lookup (kind, name) = some id) : ((kind, name), id) ∈ world.names := by
  obtain ⟨before, rest, names, -⟩ := List.lookup_eq_some_iff.mp named
  rw [names]
  exact List.mem_append_right before List.mem_cons_self

/-- All exposed futures are known, and names stand for objects that exist. -/
structure Within (scope : Scope) (n : Nat) (world : World) : Prop where
  /-- The futures that the loop itself may resolve are known. -/
  loop : world.loop.Within scope.known n
  /-- Names stand for objects that exist. -/
  names : ∀ {kind name id}, ((kind, name), id) ∈ world.names → world.Means scope kind id
  /-- The futures of operations are known. -/
  completer : ∀ future ∈ world.completer.futures, world.loop.Knows scope.known future
  /-- No descriptor has two registrations. -/
  keyed : world.completer.Keyed
  /-- The futures that transports will cancel are known. -/
  transports : ∀ {id transport}, world.transports.get? id = some (some transport) →
    ∀ future ∈ transport.futures, world.loop.Knows scope.known future
  /-- The futures that servers will cancel are known. -/
  servers : ∀ {id server}, world.servers.get? id = some (some server) →
    ∀ future ∈ server.accepting, world.loop.Knows scope.known future
  /-- The locks of conditions exist. -/
  conditions : ∀ {id condition}, world.conditions.get? id = some condition →
    condition.lock < world.locks.size
  /-- What is under way keeps its objects alive. -/
  held : scope.held ⊆ world.held

/-- A transport that is added has the next number, and one or two callbacks about it become ready. -/
theorem addTransport_eq (transport : Net.Transport) (reads : Bool) (world : World) :
    addTransport transport reads world = (world.transports.size, { world with
      transports := world.transports.push (some transport)
      loop := if reads then
          (world.loop.callSoon (.connectionMade world.transports.size)).callSoon
            (.startReading world.transports.size)
        else world.loop.callSoon (.connectionMade world.transports.size) }) := by
  cases reads with
  | true => rfl
  | false => rfl

/-- What holds of the loop and goes on to hold when a callback becomes ready holds after a transport was
added. -/
theorem addTransport_loop (property : Loop → Prop) {transport : Net.Transport} {reads : Bool}
    {world : World} (holds : property world.loop)
    (called : ∀ loop callback, property loop → property (loop.callSoon callback)) :
    property (addTransport transport reads world).2.loop := by
  rw [addTransport_eq]
  cases reads with
  | true => exact called _ _ (called _ _ holds)
  | false => exact called _ _ holds

/-- No socket is forgotten on the way from one table of sockets to another, and a closed one stays
closed. -/
def Lasts (sockets later : Table Fd) : Prop :=
  ∀ id fd, sockets.get? id = some fd → ∃ now, later.get? id = some now ∧ (fd < 0 → now < 0)

/-- No socket is forgotten when nothing happens. -/
theorem lasts_refl (sockets : Table Fd) : Lasts sockets sockets :=
  fun _ _ found => ⟨_, found, fun shut => shut⟩

/-- No socket is forgotten when one is added. -/
theorem lasts_push (sockets : Table Fd) (fd : Fd) : Lasts sockets (sockets.push fd) := by
  intro id earlier found
  have differ : id ≠ sockets.size := Nat.ne_of_lt (Table.lt_size_of_get? found)
  rw [Table.get?_push, if_neg differ]
  exact ⟨_, found, fun shut => shut⟩

/-- No socket is forgotten when one is closed. -/
theorem lasts_close (sockets : Table Fd) (socket : SocketId) :
    Lasts sockets (sockets.modify socket fun _ => Kernel.closedFd) := by
  intro id fd found
  have shut : Kernel.closedFd < 0 := by decide
  by_cases same : id = socket
  · subst same
    rw [Table.get?_modify_self, found]
    exact ⟨_, rfl, fun _ => shut⟩
  · rw [Table.get?_modify_of_ne _ _ same]
    exact ⟨_, found, fun shut => shut⟩

/-- One change of one aspect of the world. -/
inductive Change (scope : Scope) : Aspect → World → World → Prop
  /-- Something that no object depends on changes. -/
  | surroundings (world : World) (host : Host) (vars : List (String × Value)) (runs : Nat)
      (givenUp : Bool) :
      Change scope .surroundings world { world with host, vars, runs, givenUp }
  /-- Other objects are kept alive by what is under way. -/
  | held (world : World) (held : List Ref) (keeps : scope.held ⊆ held) :
      Change scope .surroundings world { world with held }
  /-- The references that were given up change. -/
  | dropped (world : World) (dropped : List Ref) :
      Change scope .surroundings world { world with loop := { world.loop with dropped } }
  /-- Names are forgotten or stored. -/
  | names (world : World) (names : List ((ObjectClass × String) × Nat))
      (known : ∀ {kind name id}, ((kind, name), id) ∈ names →
        ((kind, name), id) ∈ world.names ∨
          world.Means scope kind id ∧ (kind = .timer → world.loop.Unbound id)) :
      Change scope .names world { world with names }
  /-- What completes operations changes. -/
  | devices (world : World) (sockets : Table Fd) (completer : Completer) (operations : List FutureId)
      (known : ∀ future ∈ completer.futures, world.loop.Knows scope.known future)
      (keyed : completer.Keyed) (lasts : Lasts world.sockets sockets) :
      Change scope .devices world { world with sockets, completer, operations }
  /-- A future is made. -/
  | made (world : World) (kind : FutureKind) (now : Nat) (timeout : Option Nat) :
      Change scope .futures world
        { world with loop := (world.loop.makeTimed kind now timeout).2 }
  /-- A future is resolved that is known. -/
  | resolved (world : World) (future : FutureId) (resolution : Resolution) (known : scope.known future) :
      Change scope .futures world { world with loop := (world.loop.resolve future resolution).2 }
  /-- A reaction is registered that is about neither a transport nor a server. -/
  | registered (world : World) (future : FutureId) (reaction : Reaction)
      (apart : reaction.transport? = none) (aside : reaction.server? = none) :
      Change scope .futures world { world with loop := world.loop.whenDone future reaction }
  /-- A future is awaited. -/
  | awaited (world : World) (wait : Wait) (waker : Nat) (tied : world.loop.Tied waker wait) :
      Change scope .futures world { world with loop := (world.loop.await wait waker).2 }
  /-- The outcome of a task's result is moved out, which is a known future. -/
  | taken (world : World) (id : FutureId) (future : Future) (known : scope.known id)
      (found : world.loop.futures.get? id = some future)
      (owner : ∃ task entry, world.loop.tasks.get? task = some entry ∧ entry.result = id) :
      Change scope .futures world { world with loop := { world.loop with
        futures := world.loop.futures.modify id fun _ => future.take.2 } }
  /-- A future that is done, would be missed and is not mentioned by anything is emptied. -/
  | emptied (world : World) (id : FutureId) (future : Future)
      (found : world.loop.futures.get? id = some future) (missed : future.isMissed = true)
      (free : world.isMentioned (.future id) = false) (done : future.isDone = true) :
      Change scope .futures world { world with loop := { world.loop with
        futures := world.loop.futures.modify id Future.emptied }.drop future.refs }
  /-- A future that is pending, would be missed and is not mentioned by anything is emptied: what it
  was to bring about is lost. -/
  | deserted (world : World) (id : FutureId) (future : Future)
      (found : world.loop.futures.get? id = some future) (missed : future.isMissed = true)
      (free : world.isMentioned (.future id) = false) (waits : future.isDone = false) :
      Change scope .deserting world { world with loop := { world.loop with
        futures := world.loop.futures.modify id Future.emptied }.drop future.refs }
  /-- A callback is made ready that is about neither a transport nor a server. -/
  | called (world : World) (callback : Callback) (apart : callback.transport? = none)
      (known : ∀ future ∈ callback.resolves?, world.loop.Knows scope.known future)
      (asked : callback.isAsked = true) (aside : callback.server? = none)
      (own : callback.isRemote = false) (lasting : callback.expires? = none) :
      Change scope .futures world { world with loop := world.loop.callSoon callback }
  /-- A callback is scheduled for a time that is about neither a transport nor a server. -/
  | scheduled (world : World) (deadline : Nat) (callback : Callback)
      (apart : callback.transport? = none)
      (known : ∀ future ∈ callback.resolves?, world.loop.Knows scope.known future)
      (asked : callback.isAsked = true) (aside : callback.server? = none)
      (own : callback.isRemote = false) (lasting : callback.expires? = none) :
      Change scope .futures world { world with loop := (world.loop.callAt deadline callback).2 }
  /-- A timer is cancelled that has a name. -/
  | disarmed (world : World) (timer : TimerId) (named : ∃ name, ((.timer, name), timer) ∈ world.names) :
      Change scope .futures world { world with loop := world.loop.cancelTimer timer }
  /-- A callback is asked for from another thread that is about neither a transport nor a server. -/
  | asked (world : World) (callback : Callback) (apart : callback.transport? = none)
      (known : ∀ future ∈ callback.resolves?, world.loop.Knows scope.known future)
      (asked : callback.isAsked = true) (aside : callback.server? = none)
      (remote : callback.isRemote = true) (lasting : callback.expires? = none) :
      Change scope .requests world
        { world with loop := { world.loop with remote := world.loop.remote ++ [callback] } }
  /-- Another thread asks the loop to return. -/
  | stopAsked (world : World) :
      Change scope .requests world { world with loop := { world.loop with remoteStop := true } }
  /-- A transport is added. -/
  | connected (world : World) (socket : SocketId) (peer : Option Address) (protocol : Net.Listener)
      (reads : Bool) :
      Change scope .connections world
        (addTransport { socket, peer, protocol := some protocol } reads world).2
  /-- A transport that nothing mentions is gone. -/
  | released (world : World) (id : TransportId) :
      Change scope .connections world
        { world with transports := world.transports.modify id fun _ => none }
  /-- A transport changes; it keeps its socket and the peer's address. -/
  | turned (world : World) (id : TransportId) (earlier transport : Net.Transport)
      (found : world.transports.get? id = some (some earlier)) (same : transport.line = earlier.line)
      (known : ∀ future ∈ transport.futures, world.loop.Knows scope.known future) :
      Change scope .traffic world
        { world with transports := world.transports.modify id fun _ => some transport }
  /-- The loss of a connection is announced. -/
  | announced (world : World) (id : TransportId) (error : Option Error) :
      Change scope .traffic world
        { world with loop := world.loop.callSoon (.connectionLost id error) }
  /-- A reaction is registered that may be about a transport. -/
  | bound (world : World) (future : FutureId) (reaction : Reaction) (aside : reaction.server? = none) :
      Change scope .traffic world { world with loop := world.loop.whenDone future reaction }
  /-- A server that nothing mentions is gone. -/
  | retired (world : World) (id : ServerId) (free : world.isMentioned (.server id) = false) :
      Change scope .connections world
        { world with servers := world.servers.modify id fun _ => none }
  /-- Servers change. -/
  | servers (world : World) (servers : Table (Option Net.Server))
      (known : ∀ {id server}, servers.get? id = some (some server) →
        ∀ future ∈ server.accepting, world.loop.Knows scope.known future) :
      Change scope .serving world { world with servers }
  /-- A server is to begin to accept. -/
  | summoned (world : World) (id : ServerId) :
      Change scope .serving world { world with loop := world.loop.callSoon (.startAccepting id) }
  /-- A server is to hear of the end of an accept. -/
  | enlisted (world : World) (future : FutureId) (id : ServerId) :
      Change scope .serving world { world with loop := world.loop.whenDone future (.accepted id) }
  /-- Primitives change; none of them ceases to exist, and conditions keep their locks. -/
  | primitives (world : World) (locks : Table Sync.Lock) (semaphores : Table Sync.Semaphore)
      (events : Table Sync.Event) (conditions : Table Sync.Condition)
      (locksGrow : world.locks.size ≤ locks.size)
      (semaphoresGrow : world.semaphores.size ≤ semaphores.size)
      (eventsGrow : world.events.size ≤ events.size)
      (conditionsStay : ∀ {id condition}, world.conditions.get? id = some condition →
        ∃ later, conditions.get? id = some later ∧ later.lock = condition.lock)
      (known : ∀ {id condition}, conditions.get? id = some condition →
        condition.lock < locks.size) :
      Change scope .primitives world { world with locks, semaphores, events, conditions }
  /-- A future of a queue is granted or cancelled. -/
  | granted (world : World) (future : FutureId) (resolution : Resolution) :
      Change scope .primitives world { world with loop := (world.loop.resolve future resolution).2 }
  /-- A future is cancelled because its time is up. -/
  | expired (world : World) (future : FutureId) :
      Change scope .timeouts world { world with loop := (world.loop.resolve future .cancel).2 }
  /-- The number of a task is woken. -/
  | woken (world : World) (slot : Nat) :
      Change scope .wakes world
        { world with loop := { world.loop with woken := world.loop.woken ++ [slot] } }
  /-- A task is begun. -/
  | spawned (world : World) (name : String) (body : Script.Body)
      (known : scope.known world.loop.futures.size) :
      Change scope .tasks world { world with loop := (world.loop.spawn name body).2 }
  /-- A poll of a task begins. -/
  | pollBegun (world : World) (id : TaskId) :
      Change scope .polls world { world with loop := (world.loop.beginPoll id).2 }
  /-- A poll of a task ends with a program that has to wait. -/
  | pollEnded (world : World) (id : TaskId) (activity : Script.Activity)
      (tied : world.loop.Ties id activity.stations) :
      Change scope .polls world { world with loop := (world.loop.endPoll id activity).2 }
  /-- The program of a task ends. -/
  | completed (world : World) (id : TaskId) (value : Value) :
      Change scope .polls world { world with loop := world.loop.complete id value }
  /-- A task that is not over is cancelled. -/
  | cancelled (world : World) (id : TaskId) (task : Task)
      (found : world.loop.tasks.get? id = some task) (live : task.isOver = false) :
      Change scope .cancelling world { world with loop := (world.loop.beginCancel id task).2 }
  /-- A task that would be missed and that nothing mentions is gone. -/
  | abandoned (world : World) (id : TaskId) (free : world.isMentioned (.task id) = false)
      (missed : world.isMissed (.task id) = true) :
      Change scope .tasks world { world with loop := world.loop.setPhase id .cancelled }
  /-- An iteration begins. -/
  | prepared (world : World) (now : Nat) :
      Change scope .progress world { world with loop := (world.loop.prepare now).2 }
  /-- The callbacks of an iteration are gathered. -/
  | gathered (world : World) (now : Nat) :
      Change scope .progress world { world with loop := (world.loop.gather now).2 }
  /-- The next ready callback is taken. -/
  | readyTaken (world : World) :
      Change scope .taking world { world with loop := world.loop.takeReady.2 }
  /-- The loop is asked to return. -/
  | stopped (world : World) :
      Change scope .stops world { world with loop := { world.loop with stopping := true } }
  /-- The loop begins to run or no longer does; a closed loop does not begin to run. -/
  | flags (world : World) (running stopping : Bool)
      (idle : world.loop.closed = true → running = true → world.loop.running = true) :
      Change scope .runs world { world with loop := { world.loop with running, stopping } }
  /-- The loop gets its own pipe or loses it, or whether operations are taken on changes. -/
  | fitted (world : World) (submitting : Bool) (pipe : Option Pipe) (wakeup : Fd) :
      Change scope .shutting world { world with submitting, pipe, wakeup }
  /-- The loop is closed. -/
  | shut (world : World) :
      Change scope .shutting world { world with loop := { world.loop with closed := true } }
  /-- Everything that waits in a closed loop is let go of. -/
  | cleared (world : World) : Change scope .closing world { world with loop := world.loop.dropAll }

end World

/-- What a task keeps for good: its name, its number and its result. -/
def Task.identity (task : Task) : String × Option Nat × FutureId :=
  (task.name, task.slot, task.result)

namespace Loop

variable {loop : Loop}

/-- Neither futures nor tasks are forgotten on the way from one loop to another, a task keeps its name,
its number and its result, a task that is added has a future that is added, and a closed loop stays
closed. -/
structure Grows (loop other : Loop) : Prop where
  /-- There are at least as many futures. -/
  futures : loop.futures.size ≤ other.futures.size
  /-- Every task is still there. -/
  tasks : ∀ {id task}, loop.tasks.get? id = some task →
    ∃ later, other.tasks.get? id = some later ∧ later.identity = task.identity
  /-- The loop is closed for good. -/
  closed : loop.closed = true → other.closed = true
  /-- The result of a task that is added was not there before. -/
  added : ∀ {id task}, other.tasks.get? id = some task → loop.tasks.size ≤ id →
    loop.futures.size ≤ task.result

namespace Grows

/-- A loop grows if it gets futures, keeps its tasks and is closed as before. -/
theorem of_tasks {other : Loop} (futures : loop.futures.size ≤ other.futures.size)
    (tasks : other.tasks = loop.tasks) (closed : other.closed = loop.closed) : loop.Grows other :=
  ⟨futures, fun found => ⟨_, tasks ▸ found, rfl⟩, fun shut => closed.trans shut,
    fun found beyond => absurd (Table.lt_size_of_get? (tasks ▸ found)) (Nat.not_lt.mpr beyond)⟩

/-- A loop grows when nothing happens. -/
theorem refl (loop : Loop) : loop.Grows loop := of_tasks (Nat.le_refl _) rfl rfl

/-- A loop grows if its futures, its tasks and whether it is closed stay the same. -/
theorem of_eq {other : Loop} (futures : other.futures = loop.futures)
    (tasks : other.tasks = loop.tasks) (closed : other.closed = loop.closed) : loop.Grows other :=
  of_tasks (Nat.le_of_eq (by rw [futures])) tasks closed

/-- A loop that grows twice grows. -/
theorem trans {first second third : Loop} (before : first.Grows second)
    (after : second.Grows third) : first.Grows third := by
  refine ⟨Nat.le_trans before.futures after.futures, fun found => ?_,
    fun shut => after.closed (before.closed shut), fun {id task} found beyond => ?_⟩
  · obtain ⟨middle, found, same⟩ := before.tasks found
    obtain ⟨later, found, same'⟩ := after.tasks found
    exact ⟨later, found, same'.trans same⟩
  · rcases Nat.lt_or_ge id second.tasks.size with there | new
    · obtain ⟨middle, between⟩ := Table.exists_get?_of_lt_size there
      obtain ⟨later, here, same⟩ := after.tasks between
      cases here.symm.trans found
      have result : task.result = middle.result := congrArg (fun identity => identity.2.2) same
      exact result ▸ before.added between beyond
    · exact Nat.le_trans before.futures (after.added found new)

/-- A loop that is open was open before. -/
theorem opened {other : Loop} (grows : loop.Grows other) (opened : other.closed = false) :
    loop.closed = false := by
  by_contra closed
  have shut := grows.closed (Bool.not_eq_false _ ▸ closed)
  rw [opened] at shut
  cases shut

/-- There are at least as many tasks. -/
theorem size_tasks {other : Loop} (grows : loop.Grows other) :
    loop.tasks.size ≤ other.tasks.size := by
  by_contra fewer
  obtain ⟨task, found⟩ := Table.exists_get?_of_lt_size (Nat.lt_of_not_le fewer)
  obtain ⟨later, found, -⟩ := grows.tasks found
  exact Nat.lt_irrefl _ (Table.lt_size_of_get? found)

/-- A task that exists keeps its number. -/
theorem wakerOf {other : Loop} {id : TaskId} (grows : loop.Grows other)
    (exists_ : id < loop.tasks.size) : other.wakerOf id = loop.wakerOf id := by
  obtain ⟨task, found⟩ := Table.exists_get?_of_lt_size exists_
  obtain ⟨later, later_found, same⟩ := grows.tasks found
  have slot : later.slot = task.slot := congrArg (fun identity => identity.2.1) same
  simp only [Loop.wakerOf, found, later_found, Option.bind_some, slot]

/-- A task that is added leaves the others alone. -/
theorem pushTask (futures : Table Future) (live : Slab TaskId) (task : Task)
    (more : loop.futures.size ≤ futures.size) (result : loop.futures.size ≤ task.result) :
    loop.Grows { loop with futures, live, tasks := loop.tasks.push task } := by
  refine ⟨more, fun found => ⟨_, ?_, rfl⟩, id, fun {id other} found beyond => ?_⟩
  · rw [Table.get?_push, if_neg (Nat.ne_of_lt (Table.lt_size_of_get? found))]
    exact found
  · have below : id < (loop.tasks.push task).size := Table.lt_size_of_get? found
    rw [Table.size_push] at below
    rw [Table.get?_push, if_pos (Nat.le_antisymm (Nat.le_of_lt_succ below) beyond)] at found
    cases found
    exact result

/-- Making a callback ready removes no future and no task. -/
theorem callSoon (loop : Loop) (callback : Callback) : loop.Grows (loop.callSoon callback) := by
  rw [callSoon_eq]
  exact of_eq rfl rfl rfl

/-- Scheduling a callback for a time removes no future and no task. -/
theorem callAt (loop : Loop) (deadline : Nat) (callback : Callback) :
    loop.Grows (loop.callAt deadline callback).2 := by
  rw [callAt_eq]
  exact of_eq rfl rfl rfl

/-- Making a future, with a timeout or without, adds a future. -/
theorem makeTimed (loop : Loop) (kind : FutureKind) (now : Nat) (timeout : Option Nat) :
    loop.Grows (loop.makeTimed kind now timeout).2 := by
  rw [makeTimed_eq]
  cases timeout with
  | none => exact of_tasks (by simp) rfl rfl
  | some delay => exact of_tasks (by simp) rfl rfl

/-- Changing a future removes none. -/
theorem modifyFuture (loop : Loop) (id : FutureId) (change : Future → Future) :
    loop.Grows { loop with futures := loop.futures.modify id change } :=
  of_tasks (by simp) rfl rfl

/-- Resolving a future removes none, and its reactions become ready at most. -/
theorem resolve (loop : Loop) (id : FutureId) (resolution : Resolution) :
    loop.Grows (loop.resolve id resolution).2 := by
  rw [resolve_eq]
  split
  · rw [replaceFuture_eq]
    exact of_tasks (by simp) rfl rfl
  · exact refl loop

/-- Registering a reaction removes no future and no task. -/
theorem whenDone (loop : Loop) (id : FutureId) (reaction : Reaction) :
    loop.Grows (loop.whenDone id reaction) := by
  rw [whenDone_eq]
  split
  · exact modifyFuture loop id _
  · exact callSoon loop _

/-- Awaiting a future removes no future and no task. -/
theorem await (loop : Loop) (wait : Wait) (waker : Nat) : loop.Grows (loop.await wait waker).2 := by
  unfold Loop.await
  split
  · exact refl loop
  · split
    · exact of_eq rfl rfl rfl
    · have registered := whenDone { loop with cells := loop.cells.push waker } wait.future
        (.wake loop.cells.size)
      exact ⟨registered.futures, registered.tasks, registered.closed, registered.added⟩

/-- Changing what a task is doing removes no future and no task. -/
theorem setPhase (loop : Loop) (id : TaskId) (phase : TaskPhase) :
    loop.Grows (loop.setPhase id phase) := by
  refine ⟨Nat.le_refl _, fun {other task} found => ?_, fun shut => shut, fun {other task} found beyond => ?_⟩
  · unfold Loop.setPhase
    by_cases same : other = id
    · subst same
      refine ⟨{ task with phase }, ?_, rfl⟩
      dsimp only
      rw [Table.get?_modify_self, found]
      rfl
    · exact ⟨task, (Table.get?_modify_of_ne _ _ same).trans found, rfl⟩
  · have below : other < (loop.tasks.modify id _).size := Table.lt_size_of_get? found
    rw [Table.size_modify] at below
    exact absurd below (Nat.not_lt.mpr beyond)

/-- Making a poll of a task ready removes no future and no task. -/
theorem schedule (loop : Loop) (id : TaskId) : loop.Grows (loop.schedule id) := by
  unfold Loop.schedule
  split
  · exact (setPhase loop id _).trans (callSoon _ _)
  · exact refl loop

/-- Removing a task from the live ones removes no future and no task. -/
theorem retire (loop : Loop) (task : Task) : loop.Grows (loop.retire task) := by
  unfold Loop.retire
  split
  · exact refl loop
  · exact of_eq rfl rfl rfl

/-- Spawning a task adds a task together with its result. -/
theorem spawn (loop : Loop) (name : String) (body : Script.Body) :
    loop.Grows (loop.spawn name body).2 := by
  unfold Loop.spawn makeFuture addFuture
  dsimp only
  split
  · exact (pushTask _ _ _ (by simp) (Nat.le_refl _)).trans (resolve _ _ _)
  · exact (pushTask _ _ _ (by simp) (Nat.le_refl _)).trans (schedule _ _)

/-- Taking the program out of a task removes no future and no task. -/
theorem beginPoll (loop : Loop) (id : TaskId) : loop.Grows (loop.beginPoll id).2 := by
  unfold Loop.beginPoll
  split
  · exact setPhase loop id _
  · exact refl loop

/-- Putting a program back into its task removes no future and no task. -/
theorem endPoll (loop : Loop) (id : TaskId) (activity : Script.Activity) :
    loop.Grows (loop.endPoll id activity).2 := by
  unfold Loop.endPoll
  split
  · exact setPhase loop id _
  · exact refl loop

/-- Completing a task removes no future and no task. -/
theorem complete (loop : Loop) (id : TaskId) (value : Value) :
    loop.Grows (loop.complete id value) := by
  unfold Loop.complete
  split
  · split
    · exact ((setPhase loop id _).trans (retire _ _)).trans (resolve _ _ _)
    · exact refl loop
  · exact refl loop

/-- Beginning to cancel a task removes no future, and the task keeps its identity. -/
theorem beginCancel (loop : Loop) (id : TaskId) (task : Task) :
    loop.Grows (loop.beginCancel id task).2 := (setPhase loop id _).trans (retire _ _)

/-- Waking the live task with a number removes no future and no task. -/
theorem scheduleLive (loop : Loop) (slot : Nat) : loop.Grows (loop.scheduleLive slot) := by
  unfold Loop.scheduleLive
  split
  · exact schedule loop _
  · exact refl loop

/-- Waking live tasks one after another removes no future and no task. -/
theorem foldl_scheduleLive {start : Loop} (grows : loop.Grows start) (slots : List Nat) :
    loop.Grows (slots.foldl Loop.scheduleLive start) := by
  induction slots generalizing start with
  | nil => exact grows
  | cons slot rest ih => exact ih (grows.trans (scheduleLive start slot))

/-- Taking over what other threads asked for removes no future and no task. -/
theorem collectRequests (loop : Loop) : loop.Grows loop.collectRequests := by
  rw [collectRequests_eq]
  refine foldl_scheduleLive ?_ loop.woken
  exact of_eq rfl rfl rfl

/-- The first part of an iteration removes no future and no task. -/
theorem prepare (loop : Loop) (now : Nat) : loop.Grows (loop.prepare now).2 := by
  have collected := collectRequests loop
  unfold Loop.prepare patience
  split
  · exact collected
  · exact ⟨collected.futures, collected.tasks, collected.closed, collected.added⟩

/-- The second part of an iteration removes no future and no task. -/
theorem gather (loop : Loop) (now : Nat) : loop.Grows (loop.gather now).2 := by
  have collected := collectRequests (loop.collectDue now)
  exact ⟨collected.futures, collected.tasks, collected.closed, collected.added⟩

/-- Taking the next ready callback removes no future and no task. -/
theorem takeReady (loop : Loop) : loop.Grows loop.takeReady.2 := by
  unfold Loop.takeReady
  split
  · exact refl loop
  · exact of_eq rfl rfl rfl

end Grows

end Loop

namespace World

/-- No object ceases to exist on the way from one world to another. -/
structure Grows (world other : World) : Prop where
  /-- No future and no task. -/
  loop : world.loop.Grows other.loop
  /-- No lock. -/
  locks : world.locks.size ≤ other.locks.size
  /-- No semaphore. -/
  semaphores : world.semaphores.size ≤ other.semaphores.size
  /-- No event. -/
  events : world.events.size ≤ other.events.size
  /-- No condition, and conditions keep their locks. -/
  conditions : ∀ {id condition}, world.conditions.get? id = some condition →
    ∃ later, other.conditions.get? id = some later ∧ later.lock = condition.lock

/-- A transition of the loop lets nothing cease to exist if the loop does not. -/
theorem Grows.ofLoop {world : World} {loop : Loop} (grows : world.loop.Grows loop) :
    world.Grows { world with loop } :=
  ⟨grows, Nat.le_refl _, Nat.le_refl _, Nat.le_refl _, fun found => ⟨_, found, rfl⟩⟩

/-- A world grows when nothing happens. -/
theorem Grows.refl (world : World) : world.Grows world := .ofLoop (.refl world.loop)

/-- A world that grows twice grows. -/
theorem Grows.trans {first second third : World} (before : first.Grows second)
    (after : second.Grows third) : first.Grows third := by
  refine ⟨before.loop.trans after.loop, Nat.le_trans before.locks after.locks,
    Nat.le_trans before.semaphores after.semaphores, Nat.le_trans before.events after.events, ?_⟩
  intro id condition found
  obtain ⟨middle, found, same⟩ := before.conditions found
  obtain ⟨later, found, same'⟩ := after.conditions found
  exact ⟨later, found, same'.trans same⟩

/-- There are at least as many conditions. -/
theorem Grows.size_conditions {world other : World} (grows : world.Grows other) :
    world.conditions.size ≤ other.conditions.size := by
  by_contra fewer
  obtain ⟨condition, found⟩ := Table.exists_get?_of_lt_size (Nat.lt_of_not_le fewer)
  obtain ⟨later, found, -⟩ := grows.conditions found
  exact Nat.lt_irrefl _ (Table.lt_size_of_get? found)

/-- What a name stands for goes on to exist while nothing ceases to exist. -/
theorem Grows.means {world other : World} {kind : ObjectClass} {id : Nat}
    (grows : world.Grows other) (means : world.Means scope kind id) : other.Means scope kind id := by
  cases kind with
  | future => exact means.mono grows.loop.futures
  | task => exact Nat.lt_of_lt_of_le means grows.loop.size_tasks
  | lock => exact Nat.lt_of_lt_of_le means grows.locks
  | semaphore => exact Nat.lt_of_lt_of_le means grows.semaphores
  | event => exact Nat.lt_of_lt_of_le means grows.events
  | condition => exact Nat.lt_of_lt_of_le means grows.size_conditions
  | timer | waker | var | socket | transport | server => trivial

/-- No change lets an object cease to exist. -/
theorem Change.grows {aspect : Aspect} {before after : World}
    (change : Change scope aspect before after) : before.Grows after := by
  cases change with
  | surroundings | held | names | devices | released | turned | retired | servers | dropped | disarmed | asked
  | woken | stopAsked | stopped | flags | fitted | cleared =>
    exact ⟨.of_eq rfl rfl rfl, Nat.le_refl _, Nat.le_refl _, Nat.le_refl _,
      fun found => ⟨_, found, rfl⟩⟩
  | shut =>
    exact .ofLoop ⟨Nat.le_refl _, fun found => ⟨_, found, rfl⟩, fun _ => rfl, (Loop.Grows.refl before.loop).added⟩
  | made => exact .ofLoop (.makeTimed _ _ _ _)
  | resolved | granted | expired => exact .ofLoop (.resolve _ _ _)
  | registered | bound | enlisted => exact .ofLoop (.whenDone _ _ _)
  | connected _ socket peer protocol reads =>
    have grows : before.loop.Grows (addTransport { socket, peer, protocol := some protocol }
        reads before).2.loop :=
      addTransport_loop _ (.refl before.loop) fun loop callback grows =>
        grows.trans (.callSoon loop callback)
    rw [addTransport_eq] at grows ⊢
    exact ⟨grows, Nat.le_refl _, Nat.le_refl _, Nat.le_refl _, fun found => ⟨_, found, rfl⟩⟩
  | awaited => exact .ofLoop (.await _ _ _)
  | taken => exact .ofLoop (.modifyFuture _ _ _)
  | emptied _ id | deserted _ id =>
    have grows := Loop.Grows.modifyFuture before.loop id Future.emptied
    exact .ofLoop ⟨grows.futures, grows.tasks, grows.closed, grows.added⟩
  | called | announced | summoned => exact .ofLoop (.callSoon _ _)
  | scheduled => exact .ofLoop (.callAt _ _ _)
  | primitives _ locks semaphores events conditions locksGrow semaphoresGrow eventsGrow
      conditionsStay =>
    exact ⟨.refl _, locksGrow, semaphoresGrow, eventsGrow, conditionsStay⟩
  | spawned => exact .ofLoop (.spawn _ _ _)
  | pollBegun => exact .ofLoop (.beginPoll _ _)
  | pollEnded => exact .ofLoop (.endPoll _ _ _)
  | completed => exact .ofLoop (.complete _ _ _)
  | cancelled => exact .ofLoop (.beginCancel _ _ _)
  | abandoned => exact .ofLoop (.setPhase _ _ _)
  | prepared => exact .ofLoop (.prepare _ _)
  | gathered => exact .ofLoop (.gather _ _)
  | readyTaken => exact .ofLoop (.takeReady _)

/-- A transition of the loop keeps a world within bounds if it keeps the loop within bounds. -/
theorem Within.ofLoop {world : World} {loop : Loop} (within : world.Within scope n)
    (bounds : loop.Within scope.known n) (grows : world.Grows { world with loop }) :
    { world with loop }.Within scope n where
  loop := bounds
  names member := grows.means (within.names member)
  completer future member := (within.completer future member).mono grows.loop.futures
  keyed := within.keyed
  transports found future member := (within.transports found future member).mono grows.loop.futures
  servers found future member := (within.servers found future member).mono grows.loop.futures
  conditions := within.conditions
  held := within.held

/-- Every change keeps a world within bounds. -/
theorem Change.within {aspect : Aspect} {before after : World}
    (change : Change scope aspect before after) (within : before.Within scope n) :
    after.Within scope n := by
  have bounds := within.loop
  have grows := change.grows
  cases change with
  | surroundings | fitted => exact { within with }
  | held _ held keeps => exact { within with held := keeps }
  | dropped => exact within.ofLoop { bounds with } grows
  | names _ names known =>
    refine { within with names := ?_ }
    intro kind name id member
    rcases known member with old | ⟨means, -⟩
    · exact within.names old
    · exact means
  | devices _ sockets completer operations known keyed lasts => exact { within with completer := known, keyed }
  | made => exact within.ofLoop (bounds.makeTimed _ _ _) grows
  | resolved | granted | expired => exact within.ofLoop (bounds.resolve _ _) grows
  | registered | bound | enlisted => exact within.ofLoop (bounds.whenDone _ _) grows
  | awaited => exact within.ofLoop (bounds.await _ _) grows
  | taken => exact within.ofLoop (bounds.modifyFuture _ _) grows
  | emptied _ id | deserted _ id =>
    exact within.ofLoop ((bounds.modifyFuture id Future.emptied).drop _) grows
  | called _ callback _ known => exact within.ofLoop (bounds.callSoon known) grows
  | announced | summoned =>
    exact within.ofLoop (bounds.callSoon fun _ resolved => nomatch resolved) grows
  | scheduled _ deadline callback _ known => exact within.ofLoop (bounds.callAt known) grows
  | disarmed => exact within.ofLoop (bounds.cancelTimer _) grows
  | asked _ callback _ known =>
    refine within.ofLoop { bounds with remote := ?_ } grows
    intro other member future resolved
    rcases List.mem_append.mp member with old | new
    · exact bounds.remote other old future resolved
    · rw [List.mem_singleton.mp new] at resolved
      exact known future resolved
  | connected _ socket peer protocol reads =>
    rw [addTransport_eq] at grows ⊢
    have told : (before.loop.callSoon (.connectionMade before.transports.size)).Within
        scope.known n := bounds.callSoon fun _ resolved => nomatch resolved
    have opened : (if reads then
        (before.loop.callSoon (.connectionMade before.transports.size)).callSoon
          (.startReading before.transports.size)
        else before.loop.callSoon (.connectionMade before.transports.size)).Within scope.known n := by
      split
      · exact told.callSoon fun _ resolved => nomatch resolved
      · exact told
    refine { within.ofLoop opened (.ofLoop grows.loop) with transports := ?_ }
    intro id transport found future member
    rw [Table.get?_push] at found
    split at found
    · cases found
      exact absurd member List.not_mem_nil
    · exact (within.transports found future member).mono grows.loop.futures
  | released _ id =>
    refine { within with transports := ?_ }
    intro other transport found
    rw [Table.get?_modify] at found
    split at found
    · obtain ⟨_, -, same⟩ := Option.map_eq_some_iff.mp found
      cases same
    · exact within.transports found
  | turned _ id _ transport _ _ known =>
    refine { within with transports := ?_ }
    intro other transport' found
    rw [Table.get?_modify] at found
    split at found
    · obtain ⟨_, -, same⟩ := Option.map_eq_some_iff.mp found
      cases same
      exact known
    · exact within.transports found
  | retired _ id =>
    refine { within with servers := ?_ }
    intro other server found
    rw [Table.get?_modify] at found
    split at found
    · obtain ⟨_, -, same⟩ := Option.map_eq_some_iff.mp found
      cases same
    · exact within.servers found
  | servers _ servers known => exact { within with servers := known }
  | primitives _ locks semaphores events conditions locksGrow semaphoresGrow eventsGrow
      conditionsStay known =>
    exact { within with names := fun member => grows.means (within.names member), conditions := known }
  | woken | stopAsked | stopped | flags | shut => exact within.ofLoop { bounds with } grows
  | spawned _ name body known => exact within.ofLoop (bounds.spawn _ _ known) grows
  | pollBegun => exact within.ofLoop (bounds.beginPoll _) grows
  | pollEnded => exact within.ofLoop (bounds.endPoll _ _) grows
  | completed => exact within.ofLoop (bounds.complete _ _) grows
  | cancelled => exact within.ofLoop (bounds.beginCancel _ _) grows
  | abandoned => exact within.ofLoop (bounds.setPhase _ _) grows
  | prepared => exact within.ofLoop (bounds.prepare _) grows
  | gathered => exact within.ofLoop (bounds.gather _) grows
  | readyTaken => exact within.ofLoop bounds.takeReady grows
  | cleared => exact within.ofLoop bounds.dropAll grows

end World

end EventLoop
