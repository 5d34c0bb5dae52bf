import EventLoop.Error
import EventLoop.Journal
import EventLoop.Kernel.Poller
import EventLoop.Kernel.Stream

/-!
# The host

The host is the kernel together with the journal: the system calls that are written down are made
here, and each is written down after it happened. Calls that consist of several system calls give
back what they had taken when one of them fails.
-/
namespace EventLoop

/-- The kernel and the journal. -/
structure Host where
  /-- The kernel. -/
  kernel : Kernel
  /-- The journal. -/
  journal : Journal
  deriving Inhabited

/-- A step of the host with a result. -/
abbrev HostM := StateM Host

namespace Host

/-- The value that shows a failed system call. -/
def errnoValue (error : Errno) : Value := .object [("errno", .nat error.number)]

/-- The value that shows how a system call went. -/
def resultValue {α : Type} (shown : α → Value) : Except Errno α → Value
  | .ok value => shown value
  | .error error => errnoValue error

/-- Makes a system call that is not written down. -/
def silent {α : Type} (call : Kernel → α × Kernel) : HostM α := fun host =>
  let (result, kernel) := call host.kernel
  (result, { host with kernel })

/-- Makes a system call and writes it down. -/
def traced {α : Type} (name : String) (arguments : List Value) (shown : α → Value)
    (call : Kernel → Except Errno α × Kernel) : HostM (Except Errno α) := fun host =>
  let (result, kernel) := call host.kernel
  let journal := host.journal.call kernel.now name arguments (resultValue shown result)
  (result, { kernel, journal })

/-- Writes an entry down. -/
def record (who what : String) (value : Value) : HostM Unit := modify fun host =>
  { host with journal := host.journal.record host.kernel.now who what value }

/-- Writes a message down. -/
def message (level : Level) (text : String) : HostM Unit := modify fun host =>
  { host with journal := host.journal.message host.kernel.now level text }

/-- The time. -/
def now : HostM Nat := do return (← get).kernel.now

/-- The value that shows a descriptor. -/
def fdValue (fd : Fd) : Value := .int fd

/-- The value that shows a set of flags. -/
def flagsValue (flags : Kernel.Flags) : Value := .list (flags.names.map Value.str)

/-- Closes a descriptor. -/
def close (fd : Fd) : HostM Unit := do
  let _ ← traced "close" [fdValue fd] (fun _ => .nat 0) (·.close fd)

/-- Begins to connect. -/
def connect (fd : Fd) (target : Address) : HostM (Except Errno Unit) :=
  traced "connect" [fdValue fd, .str target.text] (fun _ => .nat 0) (·.connect fd target)

/-- Sends data. -/
def send (fd : Fd) (data : Bytes) : HostM (Except Errno Nat) :=
  traced "send" [fdValue fd, .nat data.length] Value.nat (·.send fd data)

/-- Receives data. -/
def receive (fd : Fd) (limit : Nat) : HostM (Except Errno Bytes) :=
  traced "recv" [fdValue fd, .nat limit] (fun data => .nat data.length) (·.receive fd limit)

/-- Accepts a connection; one whose address is of neither internet family is closed again. -/
def accept (fd : Fd) : HostM (Except IoError (Fd × Address)) := do
  match ← traced "accept" [fdValue fd] (fun accepted => fdValue accepted.1) (·.accept fd) with
  | .error error => return .error (.os error)
  | .ok (connection, some address) => return .ok (connection, address)
  | .ok (connection, none) =>
    close connection
    return .error .unsupportedFamily

/-- Reports the pending error of a socket and forgets it. -/
def takeError (fd : Fd) : HostM (Except Errno (Option Errno)) := silent (·.takeError fd)

/-- The word for a change of a watch. -/
def controlText : Kernel.Control → String
  | .add => "ADD"
  | .modify => "MOD"
  | .delete => "DEL"

/-- Changes what is watched. -/
def control (poller : Fd) (action : Kernel.Control) (fd : Fd) (interest : Kernel.Flags) :
    HostM (Except Errno Unit) :=
  traced "epoll_ctl" [.str (controlText action), fdValue fd, flagsValue interest]
    (fun _ => .nat 0) (·.control poller action fd interest)

/-- The value that shows reports of readiness. -/
def reportsValue (reports : List (Nat × Kernel.Flags)) : Value :=
  .list (reports.map fun (fd, flags) => .list [.nat fd, flagsValue flags])

/-- Waits for something watched, for a number of milliseconds or without an end; a wait that nothing
can end fails with the given error. -/
def wait (endless : Errno) (poller : Fd) (limit : Nat) (timeout : Option Nat) :
    HostM (Except Errno (List (Nat × Kernel.Flags))) :=
  let limitValue : Value := match timeout with
    | some milliseconds => .nat milliseconds
    | none => .int (-1)
  traced "epoll_wait" [limitValue] reportsValue (·.wait poller limit timeout endless)

/-- Sets a descriptor to never wait: its mode is read and then set. -/
def setNonblocking (fd : Fd) : HostM (Except Errno Unit) := do
  match ← silent (·.setMode fd) with
  | .error error => return .error error
  | .ok () => silent (·.setMode fd)

/-- Makes a socket of the family of an internet address. -/
def makeSocket (ip : Ip) : HostM (Except Errno Fd) := do
  match ← silent (·.makeSocket ip) with
  | .error error => return .error error
  | .ok fd =>
    match ← setNonblocking fd with
    | .ok () => return .ok fd
    | .error error =>
      close fd
      return .error error

/-- Makes two connected sockets. -/
def makePair : HostM (Except Errno (Fd × Fd)) := do
  match ← silent (·.makePair) with
  | .error error => return .error error
  | .ok (first, second) =>
    let ready ← match ← setNonblocking first with
      | .ok () => setNonblocking second
      | .error error => pure (.error error)
    match ready with
    | .ok () => return .ok (first, second)
    | .error error =>
      close first
      close second
      return .error error

/-- Makes a socket listen at an address that others may have used before. -/
def listenAt (fd : Fd) (address : Address) : HostM (Except Errno Unit) := do
  match ← silent (·.setReuse fd) with
  | .error error => return .error error
  | .ok () =>
    match ← silent (·.bind fd address) with
    | .error error => return .error error
    | .ok () => silent (·.listen fd)

/-- Reads a name that a call reported; a family without internet addresses has none. -/
def nameOf : Except Errno (Option Address) → Except IoError Address
  | .error error => .error (.os error)
  | .ok none => .error .unsupportedFamily
  | .ok (some address) => .ok address

/-- The own address of a socket. -/
def ownName (fd : Fd) : HostM (Except IoError Address) := do
  return nameOf (← silent (·.ownName fd))

/-- The address of the peer of a socket. -/
def peerName (fd : Fd) : HostM (Except IoError Address) := do
  return nameOf (← silent (·.peerName fd))

end Host

end EventLoop
