import EventLoop.Host
import EventLoop.Loop.Basic
import EventLoop.Net.Server
import EventLoop.Proactor.Engine
import EventLoop.Proactor.Scripted
import EventLoop.Sync.Condition
import EventLoop.Sync.Event
import EventLoop.Sync.Semaphore

/-!
# The world

The world is the loop with all that it works on: the host, the proactor, the sockets, the primitives,
the transports and servers, and the names under which scripts store objects. Everything that happens
is a step `WorldM` of the world.
-/
namespace EventLoop

open Sync (Lock Semaphore Event Condition)
open Net (Transport Server)

/-- How the loop was built. -/
structure Settings where
  /-- How many bytes a transport receives at once. -/
  readSize : Nat := 4096
  /-- How many lost writes are warned about. -/
  lostWrites : Nat := 5
  /-- How many reports the engine takes at once. -/
  maxEvents : Nat := 64
  deriving DecidableEq, Repr, Inhabited

/-- What completes operations. -/
inductive Completer
  /-- The engine on the poller. -/
  | engine (engine : Proactor.Engine)
  /-- The scripted proactor. -/
  | scripted (scripted : Proactor.Scripted)
  deriving Inhabited

/-- The name of a kind of proactor. -/
def Completer.name : Completer → String
  | engine _ => "epoll"
  | scripted _ => "scripted"

/-- The two ends of the loop's own pipe. -/
structure Pipe where
  /-- The end that the loop reads. -/
  reader : SocketId
  /-- The end that others write to interrupt a wait. -/
  writer : SocketId
  deriving DecidableEq, Repr, Inhabited

/-- The state of everything. -/
structure World where
  /-- The host. -/
  host : Host
  /-- How the loop was built. -/
  settings : Settings := {}
  /-- The loop. -/
  loop : Loop := {}
  /-- What completes operations. -/
  completer : Completer
  /-- Whether operations can be submitted. -/
  submitting : Bool := true
  /-- The futures that the operations of the completer refer to. -/
  operations : List FutureId := []
  /-- What is kept alive by whatever is under way at the moment. -/
  held : List Ref := []
  /-- The loop's own pipe, until the loop is closed. -/
  pipe : Option Pipe := none
  /-- The descriptor that is written to interrupt a wait. -/
  wakeup : Fd := Kernel.closedFd
  /-- How many runs of the loop are under way, one within the other. -/
  runs : Nat := 0
  /-- Whether the loop was given up. -/
  givenUp : Bool := false
  /-- The descriptor of each socket. -/
  sockets : Table Fd := ∅
  /-- The locks. -/
  locks : Table Lock := ∅
  /-- The semaphores. -/
  semaphores : Table Semaphore := ∅
  /-- The events. -/
  events : Table Event := ∅
  /-- The conditions. -/
  conditions : Table Condition := ∅
  /-- The transports; one that nothing refers to is gone. -/
  transports : Table (Option Transport) := ∅
  /-- The servers; one that nothing refers to is gone. -/
  servers : Table (Option Server) := ∅
  /-- The numbers that are stored under names. -/
  names : List ((ObjectClass × String) × Nat) := []
  /-- The variables. -/
  vars : List (String × Value) := []
  deriving Inhabited

/-- A step of the world with a result. -/
abbrev WorldM := StateM World

namespace World

/-- A step of the host. -/
def onHost {α : Type} (step : HostM α) : WorldM α := fun world =>
  let (result, host) := step world.host
  (result, { world with host })

/-- A transition of the loop. -/
def onLoop {α : Type} (transition : Loop → α × Loop) : WorldM α := fun world =>
  let (result, loop) := transition world.loop
  (result, { world with loop })

/-- A transition of the loop without a result. -/
def changeLoop (transition : Loop → Loop) : WorldM Unit := modify fun world =>
  { world with loop := transition world.loop }

/-- The time. -/
def now : WorldM Nat := return (← get).host.kernel.now

/-- Writes an entry down. -/
def record (who what : String) (value : Value) : WorldM Unit := onHost (Host.record who what value)

/-- Writes a message down. -/
def message (level : Level) (text : String) : WorldM Unit := onHost (Host.message level text)

/-- Makes a callback ready. -/
def callSoon (callback : Callback) : WorldM Unit := changeLoop (·.callSoon callback)

/-- Gives a reference up. -/
def drop (ref : Ref) : WorldM Unit := changeLoop (·.drop [ref])

/-! ## Names -/

/-- The reference that a name of an object is. -/
def refOf (kind : ObjectClass) (id : Nat) : Option Ref :=
  match kind with
  | .future => some (.future id)
  | .task => some (.task id)
  | .socket => some (.socket id)
  | .transport => some (.transport id)
  | .server => some (.server id)
  | .timer | .waker | .var | .lock | .semaphore | .event | .condition => none

/-- The number stored under a name. -/
def named? (kind : ObjectClass) (name : String) : WorldM (Option Nat) :=
  return (← get).names.lookup (kind, name)

/-- Forgets a name and gives up the reference that it was; returns whether there was one. -/
def forget (kind : ObjectClass) (name : String) : WorldM Bool := do
  let world ← get
  match world.names.lookup (kind, name) with
  | none => return false
  | some id =>
    set { world with names := world.names.filter (·.1 != (kind, name)) }
    if let some ref := refOf kind id then drop ref
    return true

/-- Stores a number under a name; what was stored there before is given up. -/
def store (kind : ObjectClass) (name : String) (id : Nat) : WorldM Unit := do
  let _ ← forget kind name
  modify fun world => { world with names := ((kind, name), id) :: world.names }

/-! ## Sockets -/

/-- The descriptor of a socket. -/
def fdOf (world : World) (socket : SocketId) : Fd :=
  (world.sockets.get? socket).getD Kernel.closedFd

/-- Whether a socket is open. -/
def isOpen (world : World) (socket : SocketId) : Bool := 0 ≤ world.fdOf socket

/-- Makes a socket that owns a descriptor. -/
def makeSocket (fd : Fd) : WorldM SocketId := do
  let world ← get
  set { world with sockets := world.sockets.push fd }
  return world.sockets.size

/-- Closes a socket, unless it is closed already. -/
def closeSocket (socket : SocketId) : WorldM Unit := do
  let fd := (← get).fdOf socket
  if 0 ≤ fd then
    modify fun world =>
      { world with sockets := world.sockets.modify socket fun _ => Kernel.closedFd }
    onHost (Host.close fd)

/-! ## Values -/

/-- The value that shows an error. -/
def errorValue (error : Error) : Value :=
  .object [("error", .str error.kindName), ("message", .str error.message)]

/-- The value that shows a failure of input or output as such. -/
def ioErrorValue (error : IoError) : Value :=
  .object [("error", .str "io"), ("message", .str error.message)]

/-- The value that shows a result or an error. -/
def resultValue : Except Error Value → Value
  | .ok value => .ok value
  | .error error => errorValue error

/-- The value that shows a success or an error. -/
def doneValue (result : Except Error Unit) : Value := resultValue (result.map fun _ => .null)

/-- The value that shows the result of a future. -/
def payloadValue (world : World) : Payload → Value
  | .unit => .null
  | .bytes data => .ofBytes data
  | .value value => value
  | .connection socket peer =>
    .object [("fd", Host.fdValue (world.fdOf socket)), ("peer", .str peer.text)]

/-- The value that shows an outcome. -/
def outcomeValue (world : World) (outcome : Outcome) : Value :=
  resultValue (outcome.map world.payloadValue)

/-! ## Futures -/

/-- A view of the states of all futures. -/
def view (world : World) : Sync.FutureView := world.loop.futureState

/-- Resolves a future. -/
def resolve (future : FutureId) (resolution : Resolution) : WorldM (Except Error Unit) :=
  onLoop (·.resolve future resolution)

/-- Grants futures, one after another. -/
def grant (futures : List FutureId) : WorldM Unit :=
  futures.forM fun future => do
    let _ ← resolve future (.finish (.ok .unit))

/-- Cancels futures, one after another. -/
def cancelAll (futures : List FutureId) : WorldM Unit :=
  futures.forM fun future => do
    let _ ← resolve future .cancel

end World

end EventLoop
