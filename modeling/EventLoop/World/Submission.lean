import EventLoop.World.Release

/-!
# Submitting operations

Operations on sockets go to the completer, each with a future that receives its outcome. On a closed
loop the future fails at once.
-/
namespace EventLoop.World

open Proactor (System Engine Scripted Subject Completion Verdict)

/-- How many calls may still be interrupted: as many as faults that interrupt are armed. -/
def interruptions (host : Host) : Nat :=
  (host.kernel.faults.filter (·.error == .interrupted)).foldl (fun sum fault => sum + fault.times) 0

/-- The result of a future for a completed operation. -/
def payloadOf : Completion → WorldM Payload
  | .received data => return .bytes data
  | .sent | .connected => return .unit
  | .accepted fd peer => return .connection (← makeSocket fd) peer

/-- Resolves the future of an operation that is over, unless it is done already, and gives it up. -/
def settle (future : FutureId) (verdict : Verdict) : WorldM Unit := do
  match verdict with
  | .over (.ok completion) =>
    let _ ← resolve future (.finish (.ok (← payloadOf completion)))
  | .over (.error error) =>
    let _ ← resolve future (.finish (.error error))
  | .cancelled => cancelAll [future]
  | .abandoned => pure ()
  letGo future

/-- The engine's system: the host, and the futures and sockets of the world. A wait that nothing can
end fails with the given error. -/
def system (endless : Errno) : System World where
  receive _ fd limit := onHost (Host.receive fd limit)
  send _ fd data := onHost (Host.send fd data)
  connect _ fd target := onHost (Host.connect fd target)
  accept _ fd := onHost (Host.accept fd)
  takeError _ fd := onHost (Host.takeError fd)
  control poller action fd interest := onHost (Host.control poller action fd interest)
  wait poller limit timeout := onHost (Host.wait endless poller limit timeout)
  trace text := message .trace text
  interruptions world := interruptions world.host
  isDone world := world.loop.isDone
  isOpen world := world.isOpen
  settle := settle

/-- The engine's calls; only a poll can meet a wait without an end. -/
def engineSystem : System World := system .deadlock

/-- Replaces the engine. -/
def setEngine (engine : Engine) : WorldM Unit := modify fun world =>
  { world with completer := .engine engine }

/-- Submits an operation to the engine. -/
def submitToEngine (engine : Engine) (socket : SocketId) (subject : Subject) (future : FutureId) :
    WorldM Unit := do
  let fd := (← get).fdOf socket
  setEngine (← match subject with
    | .receive limit => engine.submit engineSystem socket fd .reading ⟨.receive limit, future⟩
    | .send data => engine.submit engineSystem socket fd .writing ⟨.send data, future⟩
    | .connect target => engine.connect engineSystem socket fd target future
    | .accept => engine.submit engineSystem socket fd .reading ⟨.accept, future⟩)

/-- Submits an operation to the scripted proactor. -/
def submitToScript (scripted : Scripted) (socket : SocketId) (subject : Subject)
    (future : FutureId) : WorldM Unit := do
  let fd := (← get).fdOf socket
  let (index, scripted) := scripted.submit { fd, subject, future }
  modify fun world => { world with completer := .scripted scripted }
  record "io" subject.kind.text (.list [.nat index, Host.fdValue fd, subject.value])

/-- Submits an operation on a socket; returns its future. -/
def submit (socket : SocketId) (subject : Subject) : WorldM FutureId := do
  let future ← onLoop (·.makeFuture subject.futureKind)
  let world ← get
  if world.submitting then
    set { world with operations := future :: world.operations }
    match world.completer with
    | .engine engine =>
      keeping (.future future) (submitToEngine engine socket subject future)
    | .scripted scripted => submitToScript scripted socket subject future
  else
    let _ ← resolve future (.finish (.error .loopClosed))
  return future

/-- Forgets the operations on a socket and cancels them. -/
def forgetSocket (socket : SocketId) : WorldM Unit := do
  let world ← get
  if world.submitting then
    let fd := world.fdOf socket
    match world.completer with
    | .engine engine => setEngine (← engine.unregister engineSystem fd)
    | .scripted scripted =>
      record "io" "unregister" (Host.fdValue fd)
      cancelAll (scripted.futuresOf fd)

/-- Cancels all operations. The scripted proactor writes that down. -/
def cancelOperations : WorldM Unit := do
  match (← get).completer with
  | .engine engine =>
    setEngine { engine with registrations := [] }
    modify fun world => { world with operations := [] }
    engine.operations.forM fun operation => do
      cancelAll [operation.future]
      drop (.future operation.future)
  | .scripted scripted =>
    record "io" "close" .null
    cancelAll scripted.futures

/-- Closes the poller. -/
def closePoller : WorldM Unit := do
  match (← get).completer with
  | .engine engine =>
    if let some poller := engine.poller then
      setEngine { engine with poller := none }
      onHost (Host.close poller)
  | .scripted _ => return ()

/-- How a run of the loop treats a wait that nothing can end. -/
inductive Endless
  /-- As an interruption. -/
  | interrupted
  /-- As a deadlock. -/
  | deadlock
  deriving DecidableEq, Repr, Inhabited

/-- The error of a wait that nothing can end. -/
def Endless.errno : Endless → Errno
  | interrupted => .interrupted
  | deadlock => .deadlock

/-- The failure of the scripted proactor when it is polled without an end in sight. -/
def deadlockError : IoError := .custom .other "deadlock"

/-- Lets the scripted proactor pass a time, unless its poll is to fail. -/
def pollScript (endless : Endless) (scripted : Scripted) (timeout : Option Nat) :
    WorldM (Except IoError Unit) := do
  let shown : Value := match timeout with
    | some time => .nat time
    | none => .null
  if (← get).host.journal.settings.polls then record "io" "poll" shown
  match scripted.failure with
  | some failure =>
    modify fun world => { world with completer := .scripted { scripted with failure := none } }
    return .error failure
  | none =>
    match timeout, endless with
    | some time, _ =>
      onHost (modify fun host => { host with kernel := host.kernel.advance time })
      return .ok ()
    | none, .interrupted => return .ok ()
    | none, .deadlock => return .error deadlockError

/-- Polls the completer for at most a time, or without an end. -/
def poll (endless : Endless) (timeout : Option Nat) : WorldM (Except IoError Unit) := do
  match (← get).completer with
  | .engine engine =>
    let (result, engine) ← engine.poll (system endless.errno) timeout
    setEngine engine
    return result
  | .scripted scripted => pollScript endless scripted timeout

end EventLoop.World
