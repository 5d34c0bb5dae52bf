import EventLoop.Address.Reader
import EventLoop.World.Waiting

/-!
# Instructions that finish at once

Each instruction is a step of the world that has a value. An instruction on a name without an object
does nothing and has no value.
-/
namespace EventLoop.World

open Script
open Sync (Semaphore)
open Net (Listener)

/-- Does something with a named object. -/
def onNamed (kind : ObjectClass) (name : String) (action : Nat → WorldM Value) : WorldM Value := do
  match ← named? kind name with
  | some id => action id
  | none => return .null

/-- The value that shows an address or why there is none. -/
def nameValue : Except IoError Address → Value
  | .ok address => .str address.text
  | .error error => ioErrorValue error

/-- The value that shows a timer. -/
def timerValue (id : TimerId) : WorldM Value := do
  match (← get).loop.timers.table.get? id with
  | some timer => return .object [("at", .nat timer.deadline), ("cancelled", .bool timer.cancelled)]
  | none => return .null

/-- How the handle of the loop shows itself. -/
def handleText (loop : Loop) : String :=
  "Handle \x7b running: " ++ Value.boolText loop.running ++ ", closed: "
    ++ Value.boolText loop.closed ++ " \x7d"

/-- Does an instruction on the loop. Closing it takes more than one step and is done elsewhere. -/
def doLoop : LoopInstruction → WorldM Value
  | .stop | .stopByHandle => do
    changeLoop fun loop => { loop with stopping := true }
    return .null
  | .close | .giveUp => return .null
  | .state => do
    let loop := (← get).loop
    return .object [("closed", .bool loop.closed), ("running", .bool loop.running)]
  | .handleState => do
    let loop := (← get).loop
    return .object [("closed", .bool loop.closed), ("debug", .str (handleText loop))]
  | .now => return .nat (← now)
  | .advance time => do
    onHost (modify fun host => { host with kernel := host.kernel.advance time })
    return .nat (← now)
  | .cancelTimer name => onNamed .timer name fun id => do
    changeLoop (·.cancelTimer id)
    return .null
  | .timerState name => onNamed .timer name timerValue
  | .remoteStop => do
    changeLoop fun loop => { loop with remoteStop := true }
    interrupt
    return .null
  | .failPoll error => do
    modify fun world => match world.completer with
      | .scripted scripted =>
        { world with completer := .scripted { scripted with failure := some error } }
      | .engine _ => world
    return .null

/-- The result that is supplied for a future of a type. -/
def suppliedPayload (kind : FutureKind) (supply : Supply) : WorldM Payload := do
  match kind with
  | .unit => return .unit
  | .bytes => return .bytes supply.data
  | .value => return .value supply.value
  | .connection =>
    let socket := (← named? .socket supply.socket).getD 0
    return .connection socket (supply.peer.getD (.of Ip.unspecified4 0))

/-- The value that shows a future. -/
def futureValue (id : FutureId) : WorldM Value := do
  let loop := (← get).loop
  match loop.futures.get? id with
  | none => return .null
  | some future =>
    let error := match future.error? with
      | some error => errorValue error
      | none => .null
    return .object [
      ("cancelled", .bool (future.state == .cancelled)),
      ("debug", .str future.debugText),
      ("done", .bool future.isDone),
      ("error", error),
      ("loop_closed", .bool loop.closed),
      ("state", .str future.state.text)]

/-- Does an instruction on a future. -/
def doFuture : FutureInstruction → WorldM Value
  | .make name kind timeout => do
    let time ← now
    store .future name (← onLoop (·.makeTimed kind time timeout))
    return .null
  | .sleep name delay => do
    let time ← now
    store .future name (← onLoop (·.makeSleep time delay))
    return .null
  | .setResult name supply => onNamed .future name fun id => do
    let kind := (((← get).loop.futures.get? id).map (·.kind)).getD .value
    return doneValue (← resolve id (.finish (.ok (← suppliedPayload kind supply))))
  | .setError name error => onNamed .future name fun id => do
    return doneValue (← resolve id (.finish (.error error)))
  | .cancel name => onNamed .future name fun id => do
    return .bool (← resolve id .cancel).toBool
  | .state name => onNamed .future name futureValue
  | .result name => onNamed .future name fun id => do
    let world ← get
    return world.outcomeValue (world.loop.resultOf id)
  | .clone name copy => onNamed .future name fun id => do
    store .future copy id
    return .null
  | .same name other => onNamed .future name fun first => onNamed .future other fun second =>
    return .bool (first == second)

/-- Cancels a task: its program is given up, unless it is being polled just now, and then its result
is cancelled. Says whether the task was not over yet. -/
def cancelTask (id : TaskId) : WorldM Bool := do
  match (← get).loop.tasks.get? id with
  | none => return false
  | some task =>
    if task.isOver then return false
    else
      let activity? ← onLoop (·.beginCancel id task)
      if let some activity := activity? then abandonProgram task.name activity
      cancelAll [task.result]
      return true

/-- Does an instruction on a task. -/
def doTask : TaskInstruction → WorldM Value
  | .cancel name => onNamed .task name fun id => return .bool (← cancelTask id)
  | .state name => onNamed .task name fun id => do
    let world ← get
    match world.loop.tasks.get? id with
    | none => return .null
    | some task =>
      let state := world.loop.futureState task.result
      return .object [
        ("cancelled", .bool (state == .cancelled)),
        ("done", .bool (state != .pending)),
        ("result", world.outcomeValue (world.loop.resultOf task.result))]
  | .resultFuture name future => onNamed .task name fun id => do
    if let some task := (← get).loop.tasks.get? id then store .future future task.result
    return .null
  | .wake name foreign => onNamed .waker name fun waker => do
    changeLoop fun loop => { loop with woken := loop.woken ++ [waker] }
    if foreign then interrupt
    return .null
  | .setVar name value => do
    modify fun world => { world with vars := (name, value) :: world.vars.filter (·.1 != name) }
    return .null

/-- Does an instruction on a primitive. -/
def doSync : SyncInstruction → WorldM Value
  | .makeLock name => do
    store .lock name (← makeLock)
    return .null
  | .releaseLock name => onNamed .lock name fun id => return doneValue (← releaseLock id)
  | .lockState name => onNamed .lock name fun id => do
    let lock ← lockAt id
    return .object [("locked", .bool lock.locked), ("text", .str lock.text)]
  | .makeSemaphore name mode permits => do
    let value := if mode = .default then 1 else permits
    store .semaphore name (← makeSemaphore value (mode == .bounded))
    return .null
  | .releaseSemaphore name => onNamed .semaphore name fun id =>
    return doneValue (← releaseSemaphore id)
  | .semaphoreState name => onNamed .semaphore name fun id => do
    let semaphore ← semaphoreAt id
    return .object [
      ("locked", .bool semaphore.locked),
      ("text", .str semaphore.text),
      ("value", .nat semaphore.value)]
  | .makeEvent name => do
    store .event name (← makeEvent)
    return .null
  | .setEvent name => onNamed .event name fun id => do
    raiseEvent id
    return .null
  | .clearEvent name => onNamed .event name fun id => do
    setEvent id (← eventAt id).clear
    return .null
  | .eventState name => onNamed .event name fun id => do
    let event ← eventAt id
    return .object [("set", .bool event.isSet), ("text", .str event.text)]
  | .makeCondition name lock? => do
    let shared ← match lock? with
      | some lock => named? .lock lock
      | none => pure none
    let lock ← match shared with
      | some lock => pure lock
      | none => makeLock
    store .condition name (← makeCondition lock)
    return .null
  | .conditionLock name lock => onNamed .condition name fun id => do
    store .lock lock (← conditionAt id).lock
    return .null
  | .releaseCondition name => onNamed .condition name fun id => do
    return doneValue (← releaseLock (← conditionAt id).lock)
  | .notify name count => onNamed .condition name fun id =>
    return doneValue (← notify id (some count))
  | .notifyAll name => onNamed .condition name fun id => return doneValue (← notify id none)
  | .conditionState name => onNamed .condition name fun id => do
    let locked ← isConditionLocked (← conditionAt id)
    return .object [("locked", .bool locked), ("text", .str (Sync.Condition.text locked))]

/-- The value of a socket that was made, after it was stored; or why there is none. -/
def storeSocket (name : String) : Except IoError SocketId → WorldM Value
  | .error error => return ioErrorValue error
  | .ok socket => do
    let value := Value.ok (Host.fdValue ((← get).fdOf socket))
    store .socket name socket
    return value

/-- Submits an operation on a named socket and stores its future. -/
def submitNamed (name : String) (subject : Proactor.Subject) (future : String) : WorldM Value :=
  onNamed .socket name fun socket => do
    store .future future (← submit socket subject)
    return .null

/-- Does an instruction on a socket. -/
def doSocket : SocketInstruction → WorldM Value
  | .pair first second => do
    match ← onHost Host.makePair with
    | .error error => return ioErrorValue (.os error)
    | .ok (firstFd, secondFd) =>
      let firstSocket ← makeSocket firstFd
      let secondSocket ← makeSocket secondFd
      store .socket first firstSocket
      store .socket second secondSocket
      return .ok (.list [Host.fdValue firstFd, Host.fdValue secondFd])
  | .stream name address => do
    match ← onHost (Host.makeSocket address.ip) with
    | .error error => return ioErrorValue (.os error)
    | .ok fd => storeSocket name (.ok (← makeSocket fd))
  | .listener name address => do storeSocket name (← bindListener (Address.ofText? address))
  | .state name => onNamed .socket name fun socket => do
    let fd := (← get).fdOf socket
    let own ← onHost (Host.ownName fd)
    let peer ← onHost (Host.peerName fd)
    return .object [
      ("closed", .bool (decide (fd < 0))),
      ("debug", .str (← socketText socket)),
      ("local", nameValue own),
      ("peer", nameValue peer)]
  | .close name => onNamed .socket name fun socket => do
    closeSocket socket
    return .null
  | .clone name copy => onNamed .socket name fun socket => do
    store .socket copy socket
    return .null
  | .receive name limit future => submitNamed name (.receive limit) future
  | .send name data future => submitNamed name (.send data) future
  | .connect name target future => do
    match ← targetAddress target with
    | .error error => return ioErrorValue error
    | .ok address => submitNamed name (.connect address) future
  | .accept name future => submitNamed name .accept future
  | .accepted future name => onNamed .future future fun id => do
    let world ← get
    match world.loop.resultOf id with
    | .ok (.connection socket _) => storeSocket name (.ok socket)
    | .ok _ => return .null
    | .error error => return errorValue error

/-- The name of the transport that a script refers to. The transport of a protocol is stored under the
name of the protocol. -/
def referenced? (protocol : Option String) : TransportRef → Option String
  | .own => protocol
  | .named name => some name

/-- Does something with the transport that a script refers to. -/
def onTransport (protocol : Option String) (reference : TransportRef)
    (action : TransportId → WorldM Value) : WorldM Value := do
  match referenced? protocol reference with
  | some name => onNamed .transport name action
  | none => return .null

/-- The value that shows a transport. -/
def transportValue (id : TransportId) : WorldM Value := do
  match ← transport? id with
  | none => return .null
  | some transport =>
    let world ← get
    return .object [
      ("closed", .bool (transport.status == .closed)),
      ("closing", .bool (transport.status != .active)),
      ("debug", .str (← transportText transport transport.status)),
      ("lost_writes", .nat transport.lost),
      ("peer", .text? (transport.peer.map Address.text)),
      ("sock_closed", .bool (!world.isOpen transport.socket))]

/-- Does an instruction on a transport or a server. -/
def doTransport (protocol : Option String) : TransportInstruction → WorldM Value
  | .write reference data => onTransport protocol reference fun id => do
    write id data
    return .null
  | .close reference => onTransport protocol reference fun id => do
    advance id (·.close)
    return .null
  | .abort reference => onTransport protocol reference fun id => do
    advance id (·.forceClose none)
    return .null
  | .state reference => onTransport protocol reference transportValue
  | .socket reference name => onTransport protocol reference fun id => do
    if let some transport ← transport? id then store .socket name transport.socket
    return .null
  | .closeServer name => onNamed .server name fun id => do
    closeServer id
    return .null
  | .serverState name => onNamed .server name fun id => do
    match ← server? id with
    | none => return .null
    | some server =>
      let own ← onHost (Host.ownName ((← get).fdOf server.socket))
      return .object [("local", nameValue own), ("serving", .bool server.serving)]
  | .closeOnConnection name closes => onNamed .server name fun id => do
    changeServer id fun server => { server with closes }
    return .null

/-- Makes a system call on a named socket past the completer, without writing it down. -/
def callKernel {α : Type} (name : String) (shown : α → Value)
    (call : Fd → Kernel → Except Errno α × Kernel) : WorldM Value :=
  onNamed .socket name fun socket => do
    let fd := (← get).fdOf socket
    return Host.resultValue shown (← onHost (Host.silent (call fd)))

/-- The value that lists an operation of the scripted proactor. -/
def submissionValue (world : World) (submission : Proactor.Submission) : Value :=
  .list [
    .str submission.subject.kind.text,
    Host.fdValue submission.fd,
    submission.subject.value,
    .str (world.loop.futureState submission.future).text]

/-- Does an instruction on what lies below the loop. -/
def doSystem : SystemInstruction → WorldM Value
  | .operations => do
    let world ← get
    match world.completer with
    | .engine _ => return .list []
    | .scripted scripted => return .list (scripted.submissions.map (submissionValue world))
  | .operation choice name => do
    match (← get).completer with
    | .engine _ => return .bool false
    | .scripted scripted =>
      let found := match choice with
        | .index index => scripted.byIndex? index
        | .latest kind => scripted.latest? kind
      if let some future := found then store .future name future
      return .bool found.isSome
  | .fault call error times socket => do
    let fd? ← match socket with
      | none => pure none
      | some name =>
        let world ← get
        pure ((← named? .socket name).map world.fdOf)
    onHost (modify fun host => { host with kernel := host.kernel.arm { call, error, times, fd? } })
    return .null
  | .send name data => callKernel name Value.nat fun fd kernel => kernel.send fd data
  | .receive name limit => callKernel name Value.ofBytes fun fd kernel => kernel.receive fd limit
  | .fail name error => callKernel name (fun _ => .null) fun fd kernel => kernel.leaveError fd error

/-- Forgets a name or a variable; answers whether there was one. -/
def doDrop (kind : ObjectClass) (name : String) : WorldM Value := do
  match kind with
  | .var =>
    let found := ((← get).vars.lookup name).isSome
    modify fun world => { world with vars := world.vars.filter (·.1 != name) }
    return .bool found
  | kind => return .bool (← forget kind name)

/-- Schedules a script for a time and stores its timer. -/
def callAt (name : String) (deadline : Nat) (body : Body) : WorldM Value := do
  let timer ← onLoop (·.callAt deadline (.script (.callback name) body))
  store .timer name timer
  timerValue timer

/-- Begins a task; on a closed loop its program ends at once. -/
def spawn (name : String) (body : Body) : WorldM TaskId := do
  let id ← onLoop (·.spawn name body)
  if (← get).loop.closed then recordEnd name
  return id

/-- Opens a transport on a named socket and stores it. -/
def doOpenTransport (name socket : String) (options : TransportOptions) (script : Protocol) :
    WorldM Value :=
  onNamed .socket socket fun socket => do
    let waiter ← match options.waiter with
      | some future => named? .future future
      | none => pure none
    let id ← openTransport socket ⟨name, script⟩ options.peer waiter options.writeOnly
    store .transport name id
    return .null

/-- Opens a server and stores it. -/
def doOpenServer (name : String) (source : ListenerSource) (script : Protocol) : WorldM Value := do
  match source with
  | .socket socket => onNamed .socket socket fun socket => do
    store .server name (← startServing name socket script)
    return .ok .null
  | .address text =>
    match ← bindListener (Address.ofText? text) with
    | .error error => return errorValue (.ofIo error)
    | .ok socket =>
      store .server name (← startServing name socket script)
      return .ok .null

/-- Does an instruction that finishes at once, perhaps for a protocol; one that does not finish at once
has no value here. -/
def doInstruction (protocol : Option String) : Instruction → WorldM Value
  | .loop instruction => doLoop instruction
  | .future instruction => doFuture instruction
  | .task instruction => doTask instruction
  | .sync instruction => doSync instruction
  | .socket instruction => doSocket instruction
  | .transport instruction => doTransport protocol instruction
  | .system instruction => doSystem instruction
  | .drop kind name => doDrop kind name
  | .callSoon name body => do
    callSoon (.script (.callback name) body)
    return .null
  | .callLater name delay body => do callAt name ((← now) + delay) body
  | .callAt name deadline body => callAt name deadline body
  | .callRemote name body => do
    changeLoop fun loop =>
      { loop with remote := loop.remote ++ [.script (.remote name) body] }
    interrupt
    return .null
  | .onDone future name body => onNamed .future future fun id => do
    changeLoop (·.whenDone id (.script name body))
    return .null
  | .onTaskDone task name body => onNamed .task task fun id => do
    if let some entry := (← get).loop.tasks.get? id then
      changeLoop (·.whenDone entry.result (.script name body))
    return .null
  | .spawn name body => do
    store .task name (← spawn name body)
    return .null
  | .openTransport name socket options script => doOpenTransport name socket options script
  | .openServer name source script => doOpenServer name source script
  | .runOnce _ | .runForever | .runUntilComplete .. | .wait _ | .guarded .. | .createConnection ..
  | .repeated .. | .join _ | .select _ | .ret _ | .retIf _ => return .null

end EventLoop.World
