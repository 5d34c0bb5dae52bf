import EventLoop.Proactor.Operation

/-!
# The completion engine

The poller reports what is ready, not what is complete. The engine makes one out of the other: an
operation is tried as soon as it is submitted, and if it is blocked it waits in a queue of its
descriptor, which is then watched for one report. After a report the waiting operations are tried
again in the order of their submission, and the descriptor is watched again for those that are left.

Each descriptor has two queues, one for reading and one for writing. They belong to the socket whose
operations wait in them; when the number of a closed socket is given to another one, the operations
of the first are cancelled.

An operation that is over is settled before the next call is made, so what only its future kept alive
is gone by then.
-/
namespace EventLoop.Proactor

open Kernel (Flags Control)

/-- The queue in which an operation waits. -/
inductive Direction
  /-- For receiving and accepting. -/
  | reading
  /-- For sending and connecting. -/
  | writing
  deriving DecidableEq, Repr, Inhabited

/-- The operations that wait at one descriptor. -/
structure Registration where
  /-- The socket that they were submitted on. -/
  owner : SocketId
  /-- Those that receive or accept. -/
  readers : List Operation := []
  /-- Those that send or connect. -/
  writers : List Operation := []
  deriving DecidableEq, Repr, Inhabited

namespace Registration

/-- The operations of one direction. -/
def queue (registration : Registration) : Direction → List Operation
  | .reading => registration.readers
  | .writing => registration.writers

/-- Replaces the operations of one direction. -/
def setQueue (registration : Registration) (direction : Direction) (queue : List Operation) :
    Registration :=
  match direction with
  | .reading => { registration with readers := queue }
  | .writing => { registration with writers := queue }

/-- All operations, those that read first. -/
def operations (registration : Registration) : List Operation :=
  registration.readers ++ registration.writers

/-- What the descriptor has to be watched for. -/
def interest (registration : Registration) : Flags where
  input := !registration.readers.isEmpty
  peerHangUp := !registration.readers.isEmpty
  output := !registration.writers.isEmpty

end Registration

/-- The engine. -/
structure Engine where
  /-- The poller, until the engine is closed. -/
  poller : Option Fd
  /-- The operations that wait, by descriptor. -/
  registrations : List (Fd × Registration)
  /-- The most reports that one poll takes. -/
  limit : Nat
  deriving Inhabited

namespace Engine

variable {σ : Type}

/-- An engine on a poller. -/
def new (poller : Fd) (limit : Nat) : Engine := ⟨some poller, [], max limit 1⟩

/-- The descriptor of the poller. -/
def pollerFd (engine : Engine) : Fd := engine.poller.getD Kernel.closedFd

/-- The operations that wait at a descriptor. -/
def registration? (engine : Engine) (fd : Fd) : Option Registration :=
  engine.registrations.lookup fd

/-- Stores the operations that wait at a descriptor. -/
def setRegistration (engine : Engine) (fd : Fd) (registration : Registration) : Engine :=
  { engine with registrations :=
      (engine.registrations.filter (·.1 != fd)) ++ [(fd, registration)] }

/-- Forgets a descriptor. -/
def eraseRegistration (engine : Engine) (fd : Fd) : Engine :=
  { engine with registrations := engine.registrations.filter (·.1 != fd) }

/-- Ends operations in one way, one after another. -/
def settleAll (system : System σ) (verdict : Verdict) (operations : List Operation) :
    StateM σ Unit :=
  operations.forM fun operation => system.settle operation.future verdict

/-- Forgets a descriptor and cancels the operations that wait at it. -/
def unregister (system : System σ) (engine : Engine) (fd : Fd) : StateM σ Engine := do
  match engine.registration? fd with
  | none => return engine
  | some registration =>
    let _ ← system.control engine.pollerFd .delete fd .none
    settleAll system .cancelled registration.operations
    return engine.eraseRegistration fd

/-- The registration of a socket. One that a closed socket with the same descriptor left behind is
dropped first. -/
def claim (system : System σ) (engine : Engine) (socket : SocketId) (fd : Fd) :
    StateM σ (Registration × Engine) := do
  let fresh : Registration := { owner := socket }
  match engine.registration? fd with
  | none => return (fresh, engine.setRegistration fd fresh)
  | some registration =>
    if registration.owner = socket then return (registration, engine)
    else
      system.trace ("fd " ++ toString fd
        ++ " was reused, dropping the previous owner's operations")
      let engine ← engine.unregister system fd
      return (fresh, engine.setRegistration fd fresh)

/-- The failure of all operations of a descriptor that cannot be watched. -/
def watchFailure (error : Errno) : Error := .ofIo (.custom error.kind error.message)

/-- Watches a descriptor for one report, whether or not it was watched before. -/
def watch (system : System σ) (engine : Engine) (fd : Fd) (interest : Flags) :
    StateM σ (Except Errno Unit) := do
  match ← system.control engine.pollerFd .modify fd interest with
  | .error error =>
    if error = .noEntry then system.control engine.pollerFd .add fd interest
    else return .error error
  | .ok () => return .ok ()

/-- Passes over the operations whose futures are done; returns the others. -/
def passOver (system : System σ) : List Operation → StateM σ (List Operation)
  | [] => return []
  | operation :: rest => do
    if system.isDone (← get) operation.future then
      system.settle operation.future .abandoned
      passOver system rest
    else return operation :: (← passOver system rest)

/-- Watches a descriptor for the operations that still wait at it. If its socket was closed they are
cancelled, and if it cannot be watched they fail. -/
def arm (system : System σ) (engine : Engine) (fd : Fd) : StateM σ Engine := do
  match engine.registration? fd with
  | none => return engine
  | some registration =>
    if !system.isOpen (← get) registration.owner then engine.unregister system fd
    else
      let readers ← passOver system registration.readers
      let writers ← passOver system registration.writers
      let registration := { registration with readers, writers }
      let engine := engine.setRegistration fd registration
      if registration.interest.isEmpty then return engine
      else
        match ← engine.watch system fd { registration.interest with once := true } with
        | .ok () => return engine
        | .error error =>
          settleAll system (.over (.error (watchFailure error))) registration.operations
          return engine.eraseRegistration fd

/-- Tries operations in order until one is blocked; those whose futures are done are passed over.
Returns the operations that are left. -/
def retry (system : System σ) (fd : Fd) : List Operation → StateM σ (List Operation)
  | [] => return []
  | operation :: rest => do
    if system.isDone (← get) operation.future then
      system.settle operation.future .abandoned
      retry system fd rest
    else
      match ← operation.request.attempt system fd operation.future with
      | .error request => return { operation with request } :: rest
      | .ok outcome =>
        system.settle operation.future (.over outcome)
        retry system fd rest

/-- Adds an operation to a queue of a descriptor: it is tried at once, unless others wait before it, and
waits if it is blocked. -/
def enqueue (system : System σ) (engine : Engine) (fd : Fd) (registration : Registration)
    (direction : Direction) (operation : Operation) : StateM σ Engine := do
  let waiting := registration.queue direction
  let queue ←
    if waiting.isEmpty then retry system fd [operation] else pure (waiting ++ [operation])
  let engine := engine.setRegistration fd (registration.setQueue direction queue)
  if queue.isEmpty then return engine else engine.arm system fd

/-- Submits an operation on a socket. -/
def submit (system : System σ) (engine : Engine) (socket : SocketId) (fd : Fd)
    (direction : Direction) (operation : Operation) : StateM σ Engine := do
  let (registration, engine) ← engine.claim system socket fd
  engine.enqueue system fd registration direction operation

/-- Begins to connect a socket; a connection attempt that is under way waits until the descriptor is
ready to write. -/
def connect (system : System σ) (engine : Engine) (socket : SocketId) (fd : Fd) (target : Address)
    (future : FutureId) : StateM σ Engine := do
  match ← system.connect future fd target with
  | .ok () =>
    system.settle future (.over (.ok .connected))
    return engine
  | .error error =>
    if error = .inProgress then
      let (registration, engine) ← engine.claim system socket fd
      let writers := registration.writers ++ [⟨.connect, future⟩]
      (engine.setRegistration fd { registration with writers }).arm system fd
    else
      system.settle future (.over (.error (.ofErrno error)))
      return engine

/-- Tries the operations of a descriptor in the directions in which it is ready. -/
def dispatch (system : System σ) (engine : Engine) (fd : Fd) (readable writable : Bool) :
    StateM σ Engine := do
  match engine.registration? fd with
  | none => return engine
  | some registration =>
    let readers ←
      if readable then retry system fd registration.readers else pure registration.readers
    let writers ←
      if writable then retry system fd registration.writers else pure registration.writers
    (engine.setRegistration fd { registration with readers, writers }).arm system fd

/-- Handles reports one after another. An error or a hang-up makes a descriptor ready in both
directions. -/
def handle (system : System σ) (engine : Engine) : List (Nat × Flags) → StateM σ Engine
  | [] => return engine
  | (fd, flags) :: rest => do
    let failed := flags.error || flags.hangUp
    let readable := failed || flags.input || flags.peerHangUp
    let writable := failed || flags.output
    system.trace ("fd " ++ toString fd ++ " ready (readable: " ++ Value.boolText readable
      ++ ", writable: " ++ Value.boolText writable ++ ")")
    handle system (← engine.dispatch system fd readable writable) rest

/-- The most milliseconds that one wait lasts. -/
def longestWait : Nat := 1 <<< 31 - 1

/-- Whole milliseconds for a time in nanoseconds, rounded up. -/
def milliseconds (time : Nat) : Nat := min ((time + 999999) / 1000000) longestWait

/-- A closed engine cannot be polled. -/
def closedError : IoError := .custom .other "proactor is closed"

/-- Waits for reports and handles them. A wait that was interrupted has no reports. -/
def poll (system : System σ) (engine : Engine) (timeout : Option Nat) :
    StateM σ (Except IoError Unit × Engine) := do
  match engine.poller with
  | none => return (.error closedError, engine)
  | some poller =>
    match ← system.wait poller engine.limit (timeout.map milliseconds) with
    | .error error =>
      if error.kind = .interrupted then return (.ok (), engine)
      else return (.error (.os error), engine)
    | .ok reports => return (.ok (), ← engine.handle system reports)

/-- All operations that wait, by descriptor. -/
def operations (engine : Engine) : List Operation :=
  engine.registrations.flatMap fun (_, registration) => registration.operations

end Engine

end EventLoop.Proactor
