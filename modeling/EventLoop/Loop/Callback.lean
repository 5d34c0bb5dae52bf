import EventLoop.Script.Activity

/-!
# Callbacks

A callback is something that the loop will do once. It keeps the objects alive that it will act on;
`Callback.refs` lists them in the order in which the callback lets go of them.
-/
namespace EventLoop

/-- A reference to an object that lives as long as something refers to it. -/
inductive Ref
  /-- A future. -/
  | future (id : FutureId)
  /-- A task. -/
  | task (id : TaskId)
  /-- A socket. -/
  | socket (id : SocketId)
  /-- A transport. -/
  | transport (id : TransportId)
  /-- A server. -/
  | server (id : ServerId)
  deriving DecidableEq, Repr, Inhabited

/-- Who runs a script. -/
inductive Actor
  /-- A callback. -/
  | callback (name : String)
  /-- A callback that another thread asked for. -/
  | remote (name : String)
  /-- The callback of a future that is done. -/
  | done (name : String)
  /-- A task. -/
  | task (name : String)
  /-- The protocol of a transport. -/
  | protocol (name : String)
  deriving DecidableEq, Repr, Inhabited

/-- The name of an actor in the journal. -/
def Actor.text : Actor → String
  | callback name => "cb:" ++ name
  | remote name => "remote:" ++ name
  | done name => "done:" ++ name
  | task name => "task:" ++ name
  | protocol name => "proto:" ++ name

/-- What is done once a future is done. -/
inductive Reaction
  /-- Run a script. -/
  | script (name : String) (body : Script.Body)
  /-- Wake the waker in a cell. -/
  | wake (cell : CellId)
  /-- Ask the running loop to return. -/
  | stopLoop
  /-- Read the loop's own pipe again. -/
  | pipeRead
  /-- Hand received data to a transport. -/
  | received (transport : TransportId)
  /-- Let a transport send more. -/
  | sent (transport : TransportId)
  /-- Let a server open a transport on an accepted connection. -/
  | accepted (server : ServerId)

/-- The objects that a reaction keeps alive. -/
def Reaction.refs : Reaction → List Ref
  | script .. | wake _ | stopLoop | pipeRead => []
  | received transport | sent transport => [.transport transport]
  | accepted server => [.server server]

/-- Something that the loop will do once. -/
inductive Callback
  /-- Run a script. -/
  | script (actor : Actor) (body : Script.Body)
  /-- Poll a task once. -/
  | step (task : TaskId)
  /-- Do what a future that is done was to bring about. -/
  | done (future : FutureId) (reaction : Reaction)
  /-- Begin to read the loop's own pipe. -/
  | readPipe
  /-- Resolve a future. -/
  | resolve (future : FutureId)
  /-- Cancel a future whose time is up, if it is still there. -/
  | expire (future : FutureId)
  /-- Tell the protocol of a transport that the connection is made. -/
  | connectionMade (transport : TransportId)
  /-- Begin to read from a transport. -/
  | startReading (transport : TransportId)
  /-- Tell the protocol of a transport that the connection is lost. -/
  | connectionLost (transport : TransportId) (error : Option Error)
  /-- Begin to accept connections. -/
  | startAccepting (server : ServerId)

/-- The objects that a callback keeps alive. -/
def Callback.refs : Callback → List Ref
  | script .. | readPipe | expire _ => []
  | step task => [.task task]
  | done future reaction => reaction.refs ++ [.future future]
  | resolve future => [.future future]
  | connectionMade transport | startReading transport | connectionLost transport _ =>
    [.transport transport]
  | startAccepting server => [.server server]

end EventLoop
