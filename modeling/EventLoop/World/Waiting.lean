import EventLoop.World.Connections
import EventLoop.World.Primitives

/-!
# Instructions that wait

An instruction that may have to wait is begun and then tried again at every poll of its task. Each
time it either has a value or goes on waiting.
-/
namespace EventLoop.World

open Script (Leaf Goal Predicate WaitInstruction GuardInstruction Target Pending)
open Sync (Condition)

/-- Who waits: the task and the number that its waker carries. -/
structure Waiter where
  /-- The task. -/
  task : TaskId
  /-- Its name. -/
  name : String
  /-- The number that its waker carries. -/
  waker : Nat
  deriving Repr, Inhabited

/-- Who waits when a task does. -/
def waiterOf (task : TaskId) : WorldM Waiter := do
  match (← get).loop.tasks.get? task with
  | some entry => return ⟨task, entry.name, entry.slot.getD 0⟩
  | none => return ⟨task, "", 0⟩

/-- Whether an instruction goes on waiting, or its value. -/
abbrev Answer := Except Leaf Value

/-- Awaits a future. -/
def await (waiter : Waiter) (wait : Wait) : WorldM (Except Wait Outcome) :=
  onLoop (·.await wait waiter.waker)

/-- Waits at a place in a queue: whether the caller was granted, once that is known. The place is then
given up. -/
def awaitPlace (waiter : Waiter) (gate : Gate) (wait : Wait) : WorldM (Except Wait Bool) := do
  match ← await waiter wait with
  | .error wait => return .error wait
  | .ok outcome =>
    settlePlace gate wait.future
    drop (.future wait.future)
    return .ok outcome.toBool

/-- Waits for one's turn and takes it. -/
def awaitTurn (waiter : Waiter) (gate : Gate) (wait : Wait) : WorldM (Except Wait Bool) := do
  match ← awaitPlace waiter gate wait with
  | .error wait => return .error wait
  | .ok granted =>
    if granted then takeTurn gate
    return .ok granted

/-- Asks for a turn: at once if the gate is open, otherwise in the queue, for at most a timeout. -/
def beginTurn (waiter : Waiter) (gate : Gate) (timeout : Option Nat) :
    WorldM (Except Wait Bool) := do
  if ← isOpenGate gate then
    takeTurn gate
    return .ok true
  else awaitTurn waiter gate { future := ← park gate timeout, cell := none }

/-- Gives the lock of a condition up and begins to wait to be notified. -/
def beginNotice (waiter : Waiter) (id : ConditionId) (timeout : Option Nat) (goal : Goal) :
    WorldM (Except Error Leaf) := do
  let condition ← conditionAt id
  if ← isConditionLocked condition then
    let _ ← releaseLock condition.lock
    let future ← park (.condition id) timeout
    match ← await waiter { future, cell := none } with
    | .error wait => return .ok (.notice id wait goal)
    | .ok _ => return .ok (.notice id { future, cell := none } goal)
  else return .error .waitWithoutLock

/-- Asks a predicate, which may count how often it was asked. -/
def ask (waiter : Waiter) (predicate : Predicate) : WorldM (Bool × Predicate) := do
  let (answer, predicate) ← match predicate with
    | .holds name value =>
      let held := ((← get).vars.lookup name).getD .null
      pure (held == value, predicate)
    | .asked needed made => pure (decide (needed ≤ made + 1), .asked needed (made + 1))
  record (Actor.task waiter.name).text "pred" (.bool answer)
  return (answer, predicate)

/-- The time that is left until a deadline; none is left once it is reached. -/
def timeLeft (deadline : Option Nat) (time : Nat) : Option (Option Nat) :=
  match deadline with
  | none => some none
  | some deadline => if deadline ≤ time then none else some (some (deadline - time))

/-- Asks a predicate and waits to be notified if it does not hold and time is left. -/
def seek (waiter : Waiter) (id : ConditionId) (deadline : Option Nat) (predicate : Predicate) :
    WorldM Answer := do
  let (answer, predicate) ← ask waiter predicate
  if answer then return .ok (.ok (.bool true))
  else
    match timeLeft deadline (← now) with
    | none => return .ok (.ok (.bool false))
    | some timeout =>
      match ← beginNotice waiter id timeout (.predicate deadline predicate) with
      | .ok leaf => return .error leaf
      | .error error => return .ok (errorValue error)

/-- Goes on after the lock of a condition was taken again. -/
def afterRelock (waiter : Waiter) (id : ConditionId) (notified : Bool) : Goal → WorldM Answer
  | .notification => return .ok (.ok (.bool notified))
  | .predicate deadline predicate => seek waiter id deadline predicate

/-- Takes the lock of a condition again, however long that takes. -/
def relock (waiter : Waiter) (id : ConditionId) (notified : Bool) (goal : Goal) :
    WorldM Answer := do
  let lock := (← conditionAt id).lock
  match ← beginTurn waiter (.lock lock) none with
  | .error wait => return .error (.relock id lock wait notified goal)
  | .ok _ => afterRelock waiter id notified goal

/-- The value of a connection that is set up. -/
def connectedValue (target : Address) : Value := .ok (.str target.text)

/-- Waits for a transport to be set up. -/
def awaitTransport (waiter : Waiter) (transport : TransportId) (wait : Wait) (target : Address) :
    WorldM Answer := do
  match ← await waiter wait with
  | .error wait => return .error (.establishing transport wait target)
  | .ok outcome =>
    drop (.future wait.future)
    drop (.transport transport)
    match outcome with
    | .ok _ => return .ok (connectedValue target)
    | .error error => return .ok (errorValue error)

/-- Waits for a connection, and then for a transport on it. -/
def awaitConnection (waiter : Waiter) (socket : SocketId) (wait : Wait) (target : Address)
    (name : String) (script : Script.Protocol) : WorldM Answer := do
  match ← await waiter wait with
  | .error wait => return .error (.connecting socket wait target name script)
  | .ok (.error error) =>
    drop (.future wait.future)
    drop (.socket socket)
    return .ok (errorValue error)
  | .ok (.ok _) =>
    drop (.future wait.future)
    let ready ← onLoop (·.makeFuture .unit)
    let transport ← openTransport socket ⟨name, script⟩ (some target) (some ready) false
    awaitTransport waiter transport { future := ready, cell := none } target

/-- Tries a waiting instruction again. -/
def tryLeaf (waiter : Waiter) : Leaf → WorldM Answer
  | .nextPoll => return .ok .null
  | .result wait => do
    match ← await waiter wait with
    | .error wait => return .error (.result wait)
    | .ok outcome =>
      drop (.future wait.future)
      return .ok ((← get).outcomeValue outcome)
  | .turn gate wait => do
    match ← awaitTurn waiter gate wait with
    | .error wait => return .error (.turn gate wait)
    | .ok granted => return .ok (.bool granted)
  | .notice id wait goal => do
    match ← awaitPlace waiter (.condition id) wait with
    | .error wait => return .error (.notice id wait goal)
    | .ok notified => relock waiter id notified goal
  | .relock id lock wait notified goal => do
    match ← awaitTurn waiter (.lock lock) wait with
    | .error wait => return .error (.relock id lock wait notified goal)
    | .ok true => afterRelock waiter id notified goal
    | .ok false => relock waiter id notified goal
  | .connecting socket wait target name script =>
    awaitConnection waiter socket wait target name script
  | .establishing transport wait target => awaitTransport waiter transport wait target

/-- Waits for a future from the beginning. -/
def beginResult (waiter : Waiter) (future : FutureId) : WorldM Answer :=
  tryLeaf waiter (.result { future, cell := none })

/-- Asks for a turn and answers whether it was granted. -/
def beginGate (waiter : Waiter) (gate : Gate) (timeout : Option Nat) : WorldM Answer := do
  match ← beginTurn waiter gate timeout with
  | .error wait => return .error (.turn gate wait)
  | .ok granted => return .ok (.bool granted)

/-- Begins something on a named object; a name without an object has no value. -/
def withNamed (kind : ObjectClass) (name : String) (action : Nat → WorldM Answer) :
    WorldM Answer := do
  match ← named? kind name with
  | some id => action id
  | none => return .ok .null

/-- Begins an instruction that may have to wait. -/
def beginWait (waiter : Waiter) : WaitInstruction → WorldM Answer
  | .future name => withNamed .future name (beginResult waiter)
  | .task name => withNamed .task name fun id => do
    let _ ← forget .task name
    match (← get).loop.tasks.get? id with
    | some task => beginResult waiter task.result
    | none => return .ok .null
  | .sleep delay => do
    let time ← now
    beginResult waiter (← onLoop (·.makeSleep time delay))
  | .lock name timeout => withNamed .lock name fun id => beginGate waiter (.lock id) timeout
  | .semaphore name timeout =>
    withNamed .semaphore name fun id => beginGate waiter (.semaphore id) timeout
  | .event name timeout => withNamed .event name fun id => beginGate waiter (.event id) timeout
  | .conditionLock name timeout => withNamed .condition name fun id => do
    beginGate waiter (.lock (← conditionAt id).lock) timeout
  | .condition name timeout => withNamed .condition name fun id => do
    match ← beginNotice waiter id timeout .notification with
    | .ok leaf => return .error leaf
    | .error error => return .ok (errorValue error)
  | .conditionUntil name timeout predicate => withNamed .condition name fun id => do
    let time ← now
    seek waiter id (timeout.map (time + ·)) predicate
  | .yield => do
    changeLoop fun loop => { loop with woken := loop.woken ++ [waiter.waker] }
    return .error .nextPoll
  | .park name => do
    store .waker name waiter.waker
    return .error .nextPoll

/-- The address of a target; the address of a server is the one that its socket reports. -/
def targetAddress (target : Target) : WorldM (Except IoError Address) := do
  match target with
  | .address address => return .ok address
  | .server name =>
    match ← named? .server name with
    | none => return .error (.plain .notFound)
    | some id =>
      match ← server? id with
      | none => return .error (.plain .notFound)
      | some server =>
        let fd := (← get).fdOf server.socket
        onHost (Host.ownName fd)

/-- Begins to connect, in order to open a transport. -/
def beginConnection (waiter : Waiter) (name : String) (target : Target)
    (script : Script.Protocol) : WorldM Answer := do
  match ← targetAddress target with
  | .error error => return .ok (ioErrorValue error)
  | .ok address =>
    match ← onHost (Host.makeSocket address.ip) with
    | .error error => return .ok (errorValue (.ofErrno error))
    | .ok fd =>
      let socket ← makeSocket fd
      let future ← submit socket (.connect address)
      awaitConnection waiter socket { future, cell := none } address name script

/-- The guard for a named resource. -/
def guardFor? : GuardInstruction → WorldM (Option Guard)
  | .lock name => return (← named? .lock name).map Guard.lock
  | .semaphore name => return (← named? .semaphore name).map Guard.semaphore

end EventLoop.World
