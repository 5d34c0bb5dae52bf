import EventLoop.Loop.Callback
import EventLoop.Address

/-!
# The scripted proactor

This proactor completes nothing by itself: it lists what was submitted, and the script resolves the
futures of the operations. Operations are numbered in the order in which they were submitted.
-/
namespace EventLoop.Proactor

/-- What an operation is about, as it is listed. -/
inductive Subject
  /-- Receiving at most a number of bytes. -/
  | receive (limit : Nat)
  /-- Sending data. -/
  | send (data : Bytes)
  /-- Connecting to an address. -/
  | connect (target : Address)
  /-- Accepting a connection. -/
  | accept
  deriving DecidableEq, Repr, Inhabited

namespace Subject

/-- The kind of operation. -/
def kind : Subject → OperationKind
  | receive _ => .receive
  | send _ => .send
  | connect _ => .connect
  | accept => .accept

/-- The value that shows what an operation is about. -/
def value : Subject → Value
  | receive limit => .nat limit
  | send data => .ofBytes data
  | connect target => .str target.text
  | accept => .null

/-- The type of result that an operation has. -/
def futureKind : Subject → FutureKind
  | receive _ => .bytes
  | send _ | connect _ => .unit
  | accept => .connection

end Subject

/-- An operation that was submitted. -/
structure Submission where
  /-- The descriptor that it is for. -/
  fd : Fd
  /-- What it is about. -/
  subject : Subject
  /-- Its future. -/
  future : FutureId
  deriving DecidableEq, Repr, Inhabited

/-- The scripted proactor. -/
structure Scripted where
  /-- What was submitted, in order. -/
  submissions : List Submission := []
  /-- The failure of the next poll. -/
  failure : Option IoError := none
  deriving Inhabited

namespace Scripted

/-- The descriptor of the loop's own pipe. -/
def pipeFd : Fd := Kernel.firstFd

/-- Adds an operation; returns its number. -/
def submit (scripted : Scripted) (submission : Submission) : Nat × Scripted :=
  (scripted.submissions.length,
    { scripted with submissions := scripted.submissions ++ [submission] })

/-- The future of an operation, by its number. -/
def byIndex? (scripted : Scripted) (index : Nat) : Option FutureId :=
  scripted.submissions[index]?.map (·.future)

/-- The future of the latest operation of a kind that is not for the loop's own pipe, or of the first
operation if there is none. -/
def latest? (scripted : Scripted) (kind : OperationKind) : Option FutureId :=
  match scripted.submissions.reverse.find? fun submission =>
      submission.subject.kind == kind && submission.fd != pipeFd with
  | some submission => some submission.future
  | none => scripted.byIndex? 0

/-- The futures of the operations on a descriptor. -/
def futuresOf (scripted : Scripted) (fd : Fd) : List FutureId :=
  (scripted.submissions.filter (·.fd == fd)).map (·.future)

/-- The futures of all operations. -/
def futures (scripted : Scripted) : List FutureId := scripted.submissions.map (·.future)

end Scripted

end EventLoop.Proactor
