import EventLoop.Loop.Future

/-!
# Transports

A transport keeps a socket, the data that waits to be sent, the one receive and the one send that are
under way, and the protocol that is told about it all. It is active, then closing, then closed, and
never goes back. Data written while a send is under way is sent with the next one.

Each transition returns what has to be done outside: operations to submit or cancel, and messages. The
loss of the connection is announced once.
-/
namespace EventLoop.Net

/-- How far a transport is. -/
inductive Status
  /-- It reads and writes. -/
  | active
  /-- It is about to close. -/
  | closing
  /-- Its protocol was told that the connection is lost. -/
  | closed
  deriving DecidableEq, Repr, Inhabited

/-- The word for a status. -/
def Status.text : Status → String
  | active => "Open"
  | closing => "Closing"
  | closed => "Closed"

/-- A protocol that is told about a connection. -/
structure Listener where
  /-- Its name. -/
  name : String
  /-- What it does. -/
  script : Script.Protocol
  deriving Inhabited

/-- What a protocol is told about its connection. -/
inductive Notice
  /-- The connection is made. -/
  | made
  /-- Data was received. -/
  | data (data : Bytes)
  /-- The peer sends nothing more. -/
  | endOfStream
  /-- The connection is lost. -/
  | lost (error : Option Error)
  deriving DecidableEq, Repr, Inhabited

/-- Something that happened to a transport. -/
inductive Event
  /-- The protocol was told something. -/
  | told (notice : Notice)
  /-- Data was written, while the transport was active or not. -/
  | written (data : Bytes) (active : Bool)
  /-- Data was submitted to be sent. -/
  | submitted (data : Bytes)
  /-- The end of a send was noted, with the error if it failed. -/
  | sent (error : Option Error)
  /-- A receive was submitted. -/
  | receiving
  /-- The transport began to close and is going to send what waits. -/
  | closing
  /-- The transport was closed at once, and what waited was discarded. -/
  | discarded
  /-- The loss of the connection was announced. -/
  | announced (error : Option Error)
  /-- The socket was closed after the connection was lost. -/
  | shut
  deriving DecidableEq, Repr, Inhabited

/-- A connection that is read and written for a protocol. -/
structure Transport where
  /-- The socket. -/
  socket : SocketId
  /-- The peer's address, where it is known. -/
  peer : Option Address
  /-- The protocol, until it was told that the connection is lost. -/
  protocol : Option Listener
  /-- How far the transport is. -/
  status : Status := .active
  /-- The data that waits to be sent. -/
  buffer : Bytes := []
  /-- The receive under way. -/
  reading : Option FutureId := none
  /-- The send under way. -/
  writing : Option FutureId := none
  /-- Zero while the transport is active; afterwards one more than the writes that were lost. -/
  lost : Nat := 0
  /-- Whether the loss of the connection was announced. -/
  announced : Bool := false
  /-- What has happened so far, in order. Nothing depends on it. -/
  history : List Event := []
  deriving Inhabited

/-- What a transition asks for. -/
inductive Effect
  /-- Submit a receive. -/
  | receive
  /-- Submit a send. -/
  | send (data : Bytes)
  /-- Cancel an operation. -/
  | cancel (future : FutureId)
  /-- Tell the protocol, at the next iteration, that the connection is lost. -/
  | announce (error : Option Error)
  /-- Warn that writes are being lost. -/
  | warnLostWrites
  /-- Report an error that ends the connection of a transport of the given status. -/
  | reportFatal (status : Status) (error : Error)
  deriving Inhabited

/-- What the end of the receive under way calls for. -/
inductive Arrival
  /-- Nothing more. -/
  | nothing
  /-- To hand data to the protocol. -/
  | data (data : Bytes)
  /-- To tell the protocol that the peer sends nothing more. -/
  | endOfStream
  deriving Inhabited

namespace Transport

/-- Whether the transport reads and writes. -/
def isActive (transport : Transport) : Bool := transport.status == .active

/-- Takes down what has happened. -/
def note (transport : Transport) (event : Event) : Transport :=
  { transport with history := transport.history ++ [event] }

/-- Takes down that the protocol was told something, if it still listens. -/
def tell (transport : Transport) (notice : Notice) : Transport :=
  if transport.protocol.isSome then transport.note (.told notice) else transport

/-- Announces the loss of the connection, unless that was done already. -/
def announceLoss (transport : Transport) (error : Option Error) : List Effect × Transport :=
  if transport.announced then ([], transport)
  else ([.announce error], { transport with announced := true })

/-- Sends the data that waits. When there is none and the transport is closing, the connection is
lost now. -/
def sendNext (transport : Transport) : List Effect × Transport :=
  if transport.buffer.isEmpty then
    if transport.status = .closing then transport.announceLoss none else ([], transport)
  else
    ([.send transport.buffer], { transport with buffer := [] })

/-- Writes data. No data is no write; once the transport is closing the data is lost, and the write
with which the count of lost ones reaches the threshold is warned about. -/
def write (transport : Transport) (data : Bytes) (threshold : Nat) : List Effect × Transport :=
  let transport := transport.note (.written data transport.isActive)
  if data.isEmpty then ([], transport)
  else if 0 < transport.lost then
    let lost := transport.lost + 1
    (if lost = threshold then [.warnLostWrites] else [], { transport with lost })
  else
    let transport := { transport with buffer := transport.buffer ++ data }
    if transport.writing.isSome then ([], transport) else transport.sendNext

/-- Closes a transport once its data is sent. -/
def close (transport : Transport) : List Effect × Transport :=
  if transport.status = .active then
    let transport :=
      { transport.note .closing with status := .closing, lost := transport.lost + 1 }
    if transport.buffer.isEmpty && transport.writing.isNone then transport.announceLoss none
    else ([], transport)
  else ([], transport)

/-- Begins to close, if the transport is active. -/
def beginClosing (transport : Transport) : Transport :=
  if transport.status = .active then
    { transport with status := .closing, lost := transport.lost + 1 }
  else transport

/-- Closes a transport at once: what waits to be sent is discarded and the operations under way are
cancelled, the send before the receive. Once the loss is announced there is nothing left to do. -/
def forceClose (transport : Transport) (error : Option Error) : List Effect × Transport :=
  if transport.announced then ([], transport)
  else
    let cancels := (transport.writing.toList ++ transport.reading.toList).map Effect.cancel
    let (effects, transport) :=
      { transport.beginClosing.note .discarded with
        buffer := [], reading := none, writing := none }.announceLoss error
    (cancels ++ effects, transport)

/-- Closes a transport because of an error that ends the connection. -/
def fail (transport : Transport) (error : Error) : List Effect × Transport :=
  let status := transport.status
  let (effects, transport) := transport.forceClose (some error)
  (.reportFatal status error :: effects, transport)

/-- What a failed receive leads to. A cancelled one leads to nothing, and neither does one that was
aborted while the transport was closing. -/
def receiveFailed (transport : Transport) (error : Error) : List Effect × Transport :=
  if error.isCancelled then ([], transport)
  else if error.isConnectionAborted && !transport.isActive then ([], transport)
  else if error.isConnectionReset then transport.forceClose (some error)
  else transport.fail error

/-- What a failed send leads to. -/
def sendFailed (transport : Transport) (error : Error) : List Effect × Transport :=
  if error.isCancelled then ([], transport)
  else if error.isConnectionAborted && !transport.isActive then transport.forceClose none
  else if error.isConnectionReset then transport.forceClose (some error)
  else transport.fail error

/-- The end of the send under way, with its error if it failed. -/
def sendEnded (transport : Transport) (error : Option Error) : List Effect × Transport :=
  let transport := { transport.note (.sent error) with writing := none }
  match error with
  | some error => transport.sendFailed error
  | none => transport.sendNext

/-- The end of the receive under way. What arrives while the transport is not active is ignored. -/
def receiveEnded (transport : Transport) (outcome : Except Error Bytes) :
    Arrival × List Effect × Transport :=
  let transport := { transport with reading := none }
  match outcome with
  | .error error =>
    let (effects, transport) := transport.receiveFailed error
    (.nothing, effects, transport)
  | .ok data =>
    if !transport.isActive then (.nothing, [], transport)
    else if data.isEmpty then (.endOfStream, [], transport)
    else (.data data, [], transport)

/-- Receives the next data, if the transport is active. -/
def receiveNext (transport : Transport) : List Effect × Transport :=
  if transport.isActive then ([.receive], transport) else ([], transport)

/-- The loss of the connection: the protocol is told, and the transport is closed and lets go of it. -/
def connectionLost (transport : Transport) (error : Option Error) : Transport :=
  { transport.tell (.lost error) with status := .closed, protocol := none }

/-- How a transport shows itself, given the descriptor of its socket and its status. -/
def debugText (fd : Int) (status : Status) : String :=
  "Transport \x7b fd: " ++ toString fd ++ ", status: " ++ status.text ++ " \x7d"

/-- The objects that a transport keeps alive. -/
def refs (transport : Transport) : List Ref :=
  Ref.socket transport.socket ::
    (transport.reading.toList ++ transport.writing.toList).map Ref.future

end Transport

end EventLoop.Net
