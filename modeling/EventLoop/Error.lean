import EventLoop.Errno

/-!
# Errors

An `IoError` is a failure of input or output: an error number of the operating system, or a text
under one of the known kinds. An `Error` is what futures, primitives, transports and the loop
report. `Error.ofIo` sorts input and output failures by their kind: a reset, an abort, or any other
failure. `Error.message` is the only place where an error gets its wording.
-/
namespace EventLoop

/-- What an input or output failure is about. -/
inductive IoKind
  /-- The peer reset the connection. -/
  | connectionReset
  /-- The connection was aborted. -/
  | connectionAborted
  /-- Nobody will read what is written. -/
  | brokenPipe
  /-- Nobody listens at the address. -/
  | connectionRefused
  /-- The socket is not connected. -/
  | notConnected
  /-- The address is taken. -/
  | addressInUse
  /-- Too much time passed. -/
  | timedOut
  /-- A signal interrupted the call. -/
  | interrupted
  /-- The call would have to wait. -/
  | wouldBlock
  /-- The data ended too early. -/
  | unexpectedEof
  /-- The caller may not do this. -/
  | permissionDenied
  /-- The entity does not exist. -/
  | notFound
  /-- An argument is malformed. -/
  | invalidInput
  /-- The data is malformed. -/
  | invalidData
  /-- Anything else. -/
  | other
  deriving DecidableEq, Repr, Inhabited

namespace IoKind

/-- The text of a failure that says nothing but its kind. -/
def description : IoKind → String
  | connectionReset => "connection reset"
  | connectionAborted => "connection aborted"
  | brokenPipe => "broken pipe"
  | connectionRefused => "connection refused"
  | notConnected => "not connected"
  | addressInUse => "address in use"
  | timedOut => "timed out"
  | interrupted => "operation interrupted"
  | wouldBlock => "operation would block"
  | unexpectedEof => "unexpected end of file"
  | permissionDenied => "permission denied"
  | notFound => "entity not found"
  | invalidInput => "invalid input parameter"
  | invalidData => "invalid data"
  | other => "other error"

end IoKind

/-- The kind of failure that an error number stands for. -/
def Errno.kind (error : Errno) : IoKind :=
  match error.number with
  | 1 | 13 => .permissionDenied
  | 2 => .notFound
  | 4 => .interrupted
  | 11 => .wouldBlock
  | 22 => .invalidInput
  | 32 => .brokenPipe
  | 98 => .addressInUse
  | 103 => .connectionAborted
  | 104 => .connectionReset
  | 107 => .notConnected
  | 110 => .timedOut
  | 111 => .connectionRefused
  | _ => .other

/-- A failure of input or output. -/
inductive IoError
  /-- The operating system refused. -/
  | os (error : Errno)
  /-- A failure with a text of its own. -/
  | custom (kind : IoKind) (text : String)
  deriving DecidableEq, Repr, Inhabited

namespace IoError

/-- The kind of a failure. -/
def kind : IoError → IoKind
  | os error => error.kind
  | custom kind _ => kind

/-- The text of a failure. -/
def message : IoError → String
  | os error => error.message
  | custom _ text => text

/-- A failure that says nothing but its kind. -/
def plain (kind : IoKind) : IoError := custom kind kind.description

/-- The text of an address that cannot be read. -/
def invalidAddress : IoError := custom .invalidInput "invalid socket addr"

/-- An address of a family that is neither of the two internet families. -/
def unsupportedFamily : IoError := custom .invalidData "unsupported address family"

end IoError

/-- An error of the event loop and of everything built on it. -/
inductive Error
  /-- The operation is not valid in the present state. -/
  | illegalState (reason : String)
  /-- A value is out of the permitted range. -/
  | illegalValue (reason : String)
  /-- The future was cancelled, by a caller or by its timeout. -/
  | cancelled
  /-- The peer reset the connection. -/
  | connectionReset (cause : IoError)
  /-- The connection was aborted. -/
  | connectionAborted (cause : IoError)
  /-- Any other failure of input or output. -/
  | io (cause : IoError)
  deriving DecidableEq, Repr, Inhabited

namespace Error

/-- A reset and a broken pipe are resets of the connection, an abort is an abort, and every other
failure stays a plain one. -/
def ofIo (cause : IoError) : Error :=
  match cause.kind with
  | .connectionReset | .brokenPipe => connectionReset cause
  | .connectionAborted => connectionAborted cause
  | _ => io cause

/-- The error of a failed system call. -/
def ofErrno (error : Errno) : Error := ofIo (.os error)

/-- The name of the kind of an error. -/
def kindName : Error → String
  | illegalState _ => "IllegalState"
  | illegalValue _ => "IllegalValue"
  | cancelled => "Cancelled"
  | connectionReset _ => "ConnectionReset"
  | connectionAborted _ => "ConnectionAborted"
  | io _ => "Io"

/-- The wording of an error. -/
def message : Error → String
  | illegalState reason => "illegal state: " ++ reason
  | illegalValue reason => "illegal value: " ++ reason
  | cancelled => "operation cancelled"
  | connectionReset cause => "connection reset: " ++ cause.message
  | connectionAborted cause => "connection aborted: " ++ cause.message
  | io cause => "I/O error: " ++ cause.message

/-- Whether this is a cancellation. -/
def isCancelled : Error → Bool
  | cancelled => true
  | _ => false

/-- Whether the peer reset the connection. -/
def isConnectionReset : Error → Bool
  | connectionReset _ => true
  | _ => false

/-- Whether the connection was aborted. -/
def isConnectionAborted : Error → Bool
  | connectionAborted _ => true
  | _ => false

/-- The input or output failure behind an error. -/
def cause? : Error → Option IoError
  | connectionReset cause | connectionAborted cause | io cause => some cause
  | illegalState _ | illegalValue _ | cancelled => none

/-- The loop is closed. -/
def loopClosed : Error := illegalState "event loop is closed"
/-- The loop is running already. -/
def loopRunning : Error := illegalState "event loop is already running"
/-- A running loop cannot be closed. -/
def closeWhileRunning : Error := illegalState "cannot close a running event loop"
/-- The loop was stopped before the task finished. -/
def stoppedEarly : Error := illegalState "event loop stopped before the future completed"
/-- A future is resolved only once. -/
def alreadyDone : Error := illegalState "future is already done"
/-- A pending future has no result. -/
def notReady : Error := illegalState "result is not ready"
/-- The result was moved out of the future. -/
def resultTaken : Error := illegalState "result was already taken"
/-- Only a lock that is held can be released. -/
def lockNotHeld : Error := illegalState "lock is not acquired"
/-- Waiting on a condition needs its lock. -/
def waitWithoutLock : Error := illegalState "cannot wait on un-acquired lock"
/-- Notifying a condition needs its lock. -/
def notifyWithoutLock : Error := illegalState "cannot notify on un-acquired lock"
/-- A bounded semaphore is not released above its bound. -/
def releasedTooOften : Error := illegalValue "semaphore released too many times"

end Error

end EventLoop
