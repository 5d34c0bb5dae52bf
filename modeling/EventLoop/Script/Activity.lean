import EventLoop.Script.Instruction

/-!
# Suspended programs

A program that has to wait is kept as an `Activity`: what it waits for, the label under which the
result of the waiting instruction will be reported, and what remains to be done. What a suspended
program owns is listed by `Activity.parts` in the order in which it is given up when the program is
abandoned: what is innermost comes first.
-/
namespace EventLoop

/-- The number of a future. -/
abbrev FutureId := Nat
/-- The number of a task. -/
abbrev TaskId := Nat
/-- The number of a timer. -/
abbrev TimerId := Nat
/-- The number of a wake cell. -/
abbrev CellId := Nat
/-- The number of a socket. -/
abbrev SocketId := Nat
/-- The number of a lock. -/
abbrev LockId := Nat
/-- The number of a semaphore. -/
abbrev SemaphoreId := Nat
/-- The number of an event. -/
abbrev EventId := Nat
/-- The number of a condition. -/
abbrev ConditionId := Nat
/-- The number of a transport. -/
abbrev TransportId := Nat
/-- The number of a server. -/
abbrev ServerId := Nat

/-- The wait for a future: once it had to wait, a cell says which waker the future will wake. -/
structure Wait where
  /-- The future that is awaited. -/
  future : FutureId
  /-- The cell with the waker, once there is one. -/
  cell : Option CellId
  deriving DecidableEq, Repr, Inhabited

/-- What has a queue of waiters. -/
inductive Gate
  /-- A lock. -/
  | lock (id : LockId)
  /-- A semaphore. -/
  | semaphore (id : SemaphoreId)
  /-- An event. -/
  | event (id : EventId)
  /-- A condition. -/
  | condition (id : ConditionId)
  deriving DecidableEq, Repr, Inhabited

/-- What is given back when it is no longer held. -/
inductive Guard
  /-- A lock. -/
  | lock (id : LockId)
  /-- A permit of a semaphore. -/
  | semaphore (id : SemaphoreId)
  deriving DecidableEq, Repr, Inhabited

/-- The queue in which one waits for what a guard will hold. -/
def Guard.gate : Guard → Gate
  | lock id => .lock id
  | semaphore id => .semaphore id

namespace Script

/-- What a wait for a condition is for. -/
inductive Goal
  /-- To be notified once. -/
  | notification
  /-- That a predicate holds, until a deadline. -/
  | predicate (deadline : Option Nat) (predicate : Predicate)

/-- What an instruction waits for. -/
inductive Leaf
  /-- For the next poll, whatever causes it. -/
  | nextPoll
  /-- For the result of a future. -/
  | result (wait : Wait)
  /-- For its turn in a queue. -/
  | turn (gate : Gate) (wait : Wait)
  /-- To be notified of a condition. -/
  | notice (condition : ConditionId) (wait : Wait) (goal : Goal)
  /-- For the lock of a condition, after it was notified or gave up waiting for that. -/
  | relock (condition : ConditionId) (lock : LockId) (wait : Wait) (notified : Bool) (goal : Goal)
  /-- For a connection. -/
  | connecting (socket : SocketId) (wait : Wait) (target : Address) (name : String)
      (script : Protocol)
  /-- For a transport to be set up. -/
  | establishing (transport : TransportId) (wait : Wait) (target : Address)

mutual

/-- A program that has not begun or that is suspended. -/
inductive Activity
  /-- A program that has not begun. -/
  | fresh (body : List Instruction)
  /-- A program that waits within an instruction. -/
  | paused (pending : Pending) (label : String) (rest : List Instruction)

/-- An instruction that waits. -/
inductive Pending
  /-- One that waits for something outside. -/
  | leaf (leaf : Leaf)
  /-- One that waits for what it will hold while its body runs. -/
  | entering (guard : Guard) (wait : Wait) (body : List Instruction)
  /-- One whose body is suspended while something is held. -/
  | holding (guard : Guard) (inner : Activity)
  /-- One whose body is suspended in one of its rounds. -/
  | repeating (left : Nat) (body : List Instruction) (inner : Activity)
  /-- One that waits for all of its branches. -/
  | joining (branches : List Branch)
  /-- One that waits for the first of its branches. -/
  | selecting (branches : List Activity)

/-- One of several programs that run side by side. -/
inductive Branch
  /-- One that has not ended. -/
  | active (activity : Activity)
  /-- One that ended with a value. -/
  | ended (value : Value)

end

instance : Inhabited Activity := ⟨.fresh []⟩

instance : Inhabited Pending := ⟨.leaf .nextPoll⟩

/-- Something that a suspended program owns. -/
inductive Part
  /-- A place in a queue. -/
  | place (gate : Gate) (future : FutureId)
  /-- A future that is awaited. -/
  | future (id : FutureId)
  /-- Something that is held. -/
  | guard (guard : Guard)
  /-- A socket. -/
  | socket (id : SocketId)
  /-- A transport. -/
  | transport (id : TransportId)
  deriving DecidableEq, Repr, Inhabited

/-- What a waiting instruction owns. -/
def Leaf.parts : Leaf → List Part
  | nextPoll => []
  | result wait => [.future wait.future]
  | turn gate wait => [.place gate wait.future]
  | notice condition wait _ => [.place (.condition condition) wait.future]
  | relock _ lock wait _ _ => [.place (.lock lock) wait.future]
  | connecting socket wait _ _ _ => [.future wait.future, .socket socket]
  | establishing transport wait _ => [.future wait.future, .transport transport]

mutual

/-- What a program owns. -/
def Activity.parts : Activity → List Part
  | .fresh _ => []
  | .paused pending _ _ => pending.parts

/-- What an instruction that waits owns. -/
def Pending.parts : Pending → List Part
  | .leaf leaf => leaf.parts
  | .entering guard wait _ => [.place guard.gate wait.future]
  | .holding guard inner => inner.parts ++ [.guard guard]
  | .repeating _ _ inner => inner.parts
  | .joining branches => branchParts branches
  | .selecting branches => activityParts branches

/-- What a branch owns. -/
def Branch.parts : Branch → List Part
  | .active activity => activity.parts
  | .ended _ => []

/-- What branches own, branch by branch. -/
def branchParts : List Branch → List Part
  | [] => []
  | branch :: rest => branch.parts ++ branchParts rest

/-- What programs own, program by program. -/
def activityParts : List Activity → List Part
  | [] => []
  | activity :: rest => activity.parts ++ activityParts rest

end

end Script

end EventLoop
