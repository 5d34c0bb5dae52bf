import EventLoop.World.Submission

/-!
# Transports, servers and the loop's own pipe

What the transitions of transports ask for is done here: operations are submitted and cancelled, the
loss of a connection is made ready to be told, and messages are written. Protocols are not called from
here.
-/
namespace EventLoop.World

open Net (Transport Server Listener Effect Arrival Status Notice)

/-- The transport with a number. -/
def transport? (id : TransportId) : WorldM (Option Transport) :=
  return ((← get).transports.get? id).join

/-- Changes a transport. -/
def setTransport (id : TransportId) (transport : Transport) : WorldM Unit := modify fun world =>
  { world with transports := world.transports.modify id fun _ => some transport }

/-- Changes a transport that is still there. -/
def changeTransport (id : TransportId) (change : Transport → Transport) : WorldM Unit := do
  if let some transport ← transport? id then setTransport id (change transport)

/-- How a socket shows itself. -/
def socketText (socket : SocketId) : WorldM String :=
  return "Socket \x7b fd: " ++ toString ((← get).fdOf socket) ++ " \x7d"

/-- How a transport shows itself when its status is the given one. -/
def transportText (transport : Transport) (status : Status) : WorldM String :=
  return Transport.debugText ((← get).fdOf transport.socket) status

/-- Does what a transition of a transport asked for. -/
def perform (id : TransportId) (transport : Transport) : Effect → WorldM Unit
  | .receive => do
    let future ← submit transport.socket (.receive (← get).settings.readSize)
    changeTransport id fun transport => { transport.note .receiving with reading := some future }
    changeLoop (·.whenDone future (.received id))
  | .send data => do
    let future ← submit transport.socket (.send data)
    changeTransport id fun transport =>
      { transport.note (.submitted data) with writing := some future }
    changeLoop (·.whenDone future (.sent id))
  | .cancel future => cancelAll [future]
  | .announce error => do
    changeTransport id (·.note (.announced error))
    callSoon (.connectionLost id error)
  | .warnLostWrites => do
    message .warn ((← transportText transport transport.status) ++ ": socket.send() raised exception.")
  | .reportFatal status error => do
    message .error ("Fatal error for " ++ (← transportText transport status) ++ ": " ++ error.message)

/-- Applies a transition to a transport and does what it asks for. -/
def transition {α : Type} (id : TransportId) (otherwise : α)
    (step : Transport → α × List Effect × Transport) : WorldM α := do
  match ← transport? id with
  | none => return otherwise
  | some transport =>
    let (result, effects, transport) := step transport
    setTransport id transport
    effects.forM (perform id transport)
    return result

/-- Applies a transition without a result to a transport. -/
def advance (id : TransportId) (step : Transport → List Effect × Transport) : WorldM Unit :=
  transition id () fun transport => ((), step transport)

/-- Writes data to a transport. -/
def write (id : TransportId) (data : Bytes) : WorldM Unit := do
  let threshold := (← get).settings.lostWrites
  advance id (·.write data threshold)

/-- Writes data back for a protocol, to the transport that is stored under its name. -/
def echo (protocol : String) (data : Bytes) : WorldM Unit := do
  if let some id ← named? .transport protocol then write id data

/-- The data of an outcome. -/
def dataOf (outcome : Outcome) : Except Error Bytes :=
  outcome.map fun payload => match payload with
    | .bytes data => data
    | .unit | .value _ | .connection .. => []

/-- The error of an outcome. -/
def errorOf : Outcome → Option Error
  | .ok _ => none
  | .error error => some error

/-- Takes note that the receive of a transport ended; says what the protocol is to be told. -/
def receiveEnded (id : TransportId) (future : FutureId) : WorldM Arrival := do
  let outcome := (← get).loop.resultOf future
  transition id .nothing (·.receiveEnded (dataOf outcome))

/-- Takes note that the send of a transport ended. -/
def sendEnded (id : TransportId) (future : FutureId) : WorldM Unit := do
  let outcome := (← get).loop.resultOf future
  advance id (·.sendEnded (errorOf outcome))

/-- The address at the other side of a socket; the host is asked unless it is given. -/
def peerOf (socket : SocketId) (given : Option Address) : WorldM (Option Address) := do
  match given with
  | some peer => return some peer
  | none =>
    let fd := (← get).fdOf socket
    return (← onHost (Host.peerName fd)).toOption

/-- Adds a transport. Its protocol will be told that the connection is made, and then the transport may
begin to read. -/
def addTransport (transport : Transport) (reads : Bool) : WorldM TransportId := do
  let id := (← get).transports.size
  modify fun world => { world with transports := world.transports.push (some transport) }
  callSoon (.connectionMade id)
  if reads then callSoon (.startReading id)
  return id

/-- Opens a transport: its protocol is told, then it begins to read, then whoever waits is told; none
of this happens at once. -/
def openTransport (socket : SocketId) (protocol : Listener) (peer : Option Address)
    (waiter : Option FutureId) (writeOnly : Bool) : WorldM TransportId := do
  let peer ← peerOf socket peer
  let id ← addTransport { socket, peer, protocol := some protocol } !writeOnly
  if let some future := waiter then callSoon (.resolve future)
  return id

/-- The protocol of a transport that is told something, unless it was told that the connection is
lost. -/
def tellProtocol (id : TransportId) (notice : Notice) : WorldM (Option Listener) := do
  match ← transport? id with
  | none => return none
  | some transport =>
    setTransport id (transport.tell notice)
    return transport.protocol

/-- Takes the protocol of a transport whose connection is lost. -/
def takeProtocol (id : TransportId) (error : Option Error) : WorldM (Option Listener) := do
  match ← transport? id with
  | none => return none
  | some transport =>
    setTransport id (transport.connectionLost error)
    message .debug ((← transportText transport .closed) ++ ": connection lost")
    return transport.protocol

/-- Closes the socket of a transport, after its protocol was told. -/
def closeTransportSocket (id : TransportId) : WorldM Unit := do
  if let some transport ← transport? id then
    setTransport id (transport.note .shut)
    forgetSocket transport.socket
    closeSocket transport.socket

/-! ## Servers -/

/-- The server with a number. -/
def server? (id : ServerId) : WorldM (Option Server) := return ((← get).servers.get? id).join

/-- Changes a server. -/
def setServer (id : ServerId) (server : Server) : WorldM Unit := modify fun world =>
  { world with servers := world.servers.modify id fun _ => some server }

/-- Changes a server that is still there. -/
def changeServer (id : ServerId) (change : Server → Server) : WorldM Unit := do
  if let some server ← server? id then setServer id (change server)

/-- Begins to serve the connections of a listening socket. -/
def startServing (name : String) (socket : SocketId) (script : Script.Protocol) :
    WorldM ServerId := do
  message .debug ("start serving " ++ (← socketText socket))
  let world ← get
  let id := world.servers.size
  set { world with servers := world.servers.push (some { name, socket, script }) }
  callSoon (.startAccepting id)
  return id

/-- Stops serving: the accept under way is cancelled and the listening socket is closed. -/
def closeServer (id : ServerId) : WorldM Unit := do
  match ← server? id with
  | none => return ()
  | some server =>
    if server.serving then
      setServer id server.stop
      message .debug ("stop serving " ++ (← socketText server.socket))
      cancelAll server.accepting.toList
      forgetSocket server.socket
      closeSocket server.socket

/-- Closes the servers that have the given names. -/
def closeServers (names : List String) : WorldM Unit :=
  names.forM fun name => do
    if let some id ← named? .server name then closeServer id

/-- Accepts the next connection, if the server is serving. -/
def acceptNext (id : ServerId) : WorldM Unit := do
  match ← server? id with
  | none => return ()
  | some server =>
    if server.serving then
      let future ← submit server.socket .accept
      setServer id (server.beginAccept future)
      changeLoop (·.whenDone future (.accepted id))

/-- Takes note that an accept ended: a connection gets a protocol and a transport of its own, even if the
server does not serve any more, and a failure ends the service. -/
def acceptEnded (id : ServerId) (future : FutureId) : WorldM Unit := do
  match ← server? id with
  | none => return ()
  | some server =>
    let outcome := (← get).loop.resultOf future
    let server := server.endAccept future outcome
    match outcome with
    | .ok (.connection socket peer) =>
      let (protocol, server) := server.makeProtocol
      setServer id server
      closeServers server.closes
      let transport ← openTransport socket protocol (some peer) none false
      changeServer id (·.note (.opened transport protocol.name socket peer))
      drop (.transport transport)
      acceptNext id
    | .ok _ => setServer id server
    | .error error =>
      setServer id server
      if !error.isCancelled then
        message .error ("Accept failed on " ++ (← socketText server.socket) ++ ": "
          ++ error.message)
      closeServer id

/-- Makes a socket that listens at an address, given as text. -/
def bindListener (address : Option Address) : WorldM (Except IoError SocketId) := do
  match address with
  | none => return .error .invalidAddress
  | some address =>
    match ← onHost (Host.makeSocket address.ip) with
    | .error error => return .error (.os error)
    | .ok fd =>
      match ← onHost (Host.listenAt fd address) with
      | .error error =>
        onHost (Host.close fd)
        return .error (.os error)
      | .ok () => return .ok (← makeSocket fd)

/-! ## The loop's own pipe -/

/-- Interrupts a wait by writing to the loop's own pipe. -/
def interrupt : WorldM Unit := do
  let fd := (← get).wakeup
  if 0 ≤ fd then
    message .trace "writing to the self-pipe"
    let _ ← onHost (Host.send fd [120])

/-- Receives from the loop's own pipe. -/
def receiveFromPipe : WorldM Unit := do
  if let some pipe := (← get).pipe then
    let future ← submit pipe.reader (.receive (← get).settings.readSize)
    changeLoop (·.whenDone future .pipeRead)

/-- Takes note that a receive from the loop's own pipe ended, and receives again. -/
def pipeRead (future : FutureId) : WorldM Unit := do
  match (← get).loop.resultOf future with
  | .ok _ =>
    message .trace "event loop woken through the self-pipe"
    receiveFromPipe
  | .error error =>
    if !error.isCancelled then message .error ("self-pipe read failed: " ++ error.message)

/-- Makes the loop's own pipe, from which it will receive. -/
def makePipe : WorldM (Except Errno Unit) := do
  match ← onHost Host.makePair with
  | .error error => return .error error
  | .ok (readerFd, writerFd) =>
    let reader ← makeSocket readerFd
    let writer ← makeSocket writerFd
    modify fun world => { world with pipe := some { reader, writer }, wakeup := writerFd }
    callSoon .readPipe
    return .ok ()

/-- Closes the loop's own pipe. -/
def closePipe : WorldM Unit := do
  let pipe? := (← get).pipe
  modify fun world => { world with pipe := none, wakeup := Kernel.closedFd }
  if let some pipe := pipe? then
    forgetSocket pipe.reader
    closeSocket pipe.reader
    closeSocket pipe.writer

/-! ## Closing the loop -/

/-- Begins to close the loop: its own pipe is closed, nothing more is taken on, and all operations are
cancelled. -/
def beginClose : WorldM Unit := do
  closePipe
  changeLoop fun loop => { loop with closed := true }
  cancelOperations
  modify fun world => { world with submitting := false }

/-- Closes the poller and lets go of everything that waits in the loop. -/
def finishClose : WorldM Unit := do
  closePoller
  changeLoop (·.dropAll)

end EventLoop.World
