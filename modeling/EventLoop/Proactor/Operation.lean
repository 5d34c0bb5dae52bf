import EventLoop.Error
import EventLoop.Loop.Callback
import EventLoop.Kernel.Poller
import EventLoop.Kernel.Stream

/-!
# Operations

An operation on a socket is tried by making system calls until one completes it or says that it
would have to wait. A call that was interrupted is made again. A send goes on with what is left of
its data, so a request says at every moment what remains to be done.

The system is a parameter: it has any state and answers calls as it likes. It also owns the futures:
an operation refers to its future until it is over, and then the system settles it at once, before
the next call is made.
-/
namespace EventLoop.Proactor

/-- The result of an operation. -/
inductive Completion
  /-- Data was received; none at all means that the peer sends nothing more. -/
  | received (data : Bytes)
  /-- All data was sent. -/
  | sent
  /-- The connection is made. -/
  | connected
  /-- A connection was accepted. -/
  | accepted (fd : Fd) (peer : Address)
  deriving Inhabited

/-- How an operation ended. -/
inductive Verdict
  /-- It has an outcome. -/
  | over (outcome : Except Error Completion)
  /-- It was cancelled. -/
  | cancelled
  /-- It was passed over, because its future was done before. -/
  | abandoned
  deriving Inhabited

/-- The system calls that operations are made of, each made for the operation with a future, and what
becomes of those futures, for a system with states of type `σ`. -/
structure System (σ : Type) where
  /-- Receives at most a number of bytes. -/
  receive : FutureId → Fd → Nat → StateM σ (Except Errno Bytes)
  /-- Sends data; the answer is how much of it was taken. -/
  send : FutureId → Fd → Bytes → StateM σ (Except Errno Nat)
  /-- Begins to connect. -/
  connect : FutureId → Fd → Address → StateM σ (Except Errno Unit)
  /-- Accepts a connection. -/
  accept : FutureId → Fd → StateM σ (Except IoError (Fd × Address))
  /-- Reports a pending error and forgets it. -/
  takeError : FutureId → Fd → StateM σ (Except Errno (Option Errno))
  /-- Changes what a poller watches. -/
  control : Fd → Kernel.Control → Fd → Kernel.Flags → StateM σ (Except Errno Unit)
  /-- Waits for at most a number of reports, for a number of milliseconds or without an end. -/
  wait : Fd → Nat → Option Nat → StateM σ (Except Errno (List (Nat × Kernel.Flags)))
  /-- Tells a developer what happens. -/
  trace : String → StateM σ Unit
  /-- How many calls may still be interrupted. -/
  interruptions : σ → Nat
  /-- Whether a future is done. -/
  isDone : σ → FutureId → Bool
  /-- Whether a socket is open. -/
  isOpen : σ → SocketId → Bool
  /-- Ends an operation: resolves its future, unless that is done already, and gives the future up. -/
  settle : FutureId → Verdict → StateM σ Unit

/-- What remains to be done. -/
inductive Request
  /-- Receive at most a number of bytes. -/
  | receive (limit : Nat)
  /-- Send data. -/
  | send (data : Bytes)
  /-- Find out how a connection attempt went. -/
  | connect
  /-- Accept a connection. -/
  | accept
  deriving DecidableEq, Repr, Inhabited

/-- What one system call did for a request. -/
inductive Progress
  /-- The operation is over. -/
  | done (outcome : Except Error Completion)
  /-- The next call can be made at once. -/
  | again (request : Request)
  /-- The next call has to wait until the descriptor is ready. -/
  | blocked (request : Request)

/-- A call that was interrupted is made again, one that would wait blocks, and any other failure ends
the operation. -/
def Progress.ofFailure (error : IoError) (request : Request) : Progress :=
  match error.kind with
  | .interrupted => again request
  | .wouldBlock => blocked request
  | _ => done (.error (.ofIo error))

namespace Request

variable {σ : Type}

/-- Makes one system call for a request, whose outcome a future receives. Nothing is called for a send of
no data. -/
def call (system : System σ) (fd : Fd) (future : FutureId) : Request → StateM σ Progress
  | receive limit => do
    match ← system.receive future fd limit with
    | .ok data => return .done (.ok (.received data))
    | .error error => return .ofFailure (.os error) (.receive limit)
  | send data =>
    if data.isEmpty then return .done (.ok .sent)
    else do
      match ← system.send future fd data with
      | .ok count => return .again (.send (data.drop count))
      | .error error => return .ofFailure (.os error) (.send data)
  | connect => do
    match ← system.takeError future fd with
    | .ok none => return .done (.ok .connected)
    | .ok (some error) | .error error => return .done (.error (.ofErrno error))
  | accept => do
    match ← system.accept future fd with
    | .ok (connection, peer) => return .done (.ok (.accepted connection peer))
    | .error error => return .ofFailure error .accept

/-- The amount of data that a request still has to send. -/
def remaining : Request → Nat
  | send data => data.length
  | receive _ | connect | accept => 0

/-- Makes system calls, at most a number of them, until the operation is over or blocked. -/
def attemptWithin (system : System σ) (fd : Fd) (future : FutureId) :
    Nat → Request → StateM σ (Except Request (Except Error Completion))
  | 0, request => return .error request
  | calls + 1, request => do
    match ← request.call system fd future with
    | .done outcome => return .ok outcome
    | .blocked request => return .error request
    | .again request => attemptWithin system fd future calls request

/-- Tries an operation: its outcome, or the request that is blocked. Each call sends at least one
byte, is interrupted, or is the last one. -/
def attempt (system : System σ) (fd : Fd) (future : FutureId) (request : Request) :
    StateM σ (Except Request (Except Error Completion)) := do
  let interruptions := system.interruptions (← get)
  attemptWithin system fd future (request.remaining + interruptions + 2) request

end Request

/-- A request and the future that receives its outcome. -/
structure Operation where
  /-- What remains to be done. -/
  request : Request
  /-- The future that receives the outcome. -/
  future : FutureId
  deriving DecidableEq, Repr, Inhabited

end EventLoop.Proactor
