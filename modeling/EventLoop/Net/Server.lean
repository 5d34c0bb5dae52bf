import EventLoop.Net.Transport

/-!
# Servers

A server accepts connections on a listening socket, one after another, and gives each to a protocol
of its own. The protocols of a server are numbered in the order of their connections. Whoever makes them
may close servers on that occasion.
-/
namespace EventLoop.Net

/-- Something that happened to a server. -/
inductive ServerEvent
  /-- An accept was submitted. -/
  | accepting (future : FutureId)
  /-- The end of an accept was noted, with its outcome. -/
  | ended (future : FutureId) (outcome : Outcome)
  /-- A protocol was made for the next connection. -/
  | made (protocol : String)
  /-- A transport was opened for a protocol, on a socket with the peer's address. -/
  | opened (transport : TransportId) (protocol : String) (socket : SocketId) (peer : Address)
  /-- The server stopped serving. -/
  | stopped

/-- A listening socket with what is done about its connections. -/
structure Server where
  /-- The name of the server. -/
  name : String
  /-- The listening socket. -/
  socket : SocketId
  /-- The script of each protocol. -/
  script : Script.Protocol
  /-- The accept under way. -/
  accepting : Option FutureId := none
  /-- Whether connections are accepted. -/
  serving : Bool := true
  /-- How many protocols were made. -/
  made : Nat := 0
  /-- The names of the servers that are closed whenever a protocol is made. -/
  closes : List String := []
  /-- What has happened so far, in order. Nothing depends on it. -/
  history : List ServerEvent := []
  deriving Inhabited

namespace Server

/-- Takes down what has happened. -/
def note (server : Server) (event : ServerEvent) : Server :=
  { server with history := server.history ++ [event] }

/-- The name of the protocol for a connection, by the number of the connection. -/
def protocolName (server : Server) (number : Nat) : String := server.name ++ "#" ++ toString number

/-- Makes the protocol for the next connection. -/
def makeProtocol (server : Server) : Listener × Server :=
  let name := server.protocolName server.made
  (⟨name, server.script⟩, { server.note (.made name) with made := server.made + 1 })

/-- Begins an accept. -/
def beginAccept (server : Server) (future : FutureId) : Server :=
  { server.note (.accepting future) with accepting := some future }

/-- Takes note that an accept ended. -/
def endAccept (server : Server) (future : FutureId) (outcome : Outcome) : Server :=
  { server.note (.ended future outcome) with accepting := none }

/-- Stops serving. -/
def stop (server : Server) : Server :=
  { server.note .stopped with serving := false, accepting := none }

/-- The objects that a server keeps alive. -/
def refs (server : Server) : List Ref :=
  Ref.socket server.socket :: server.accepting.toList.map Ref.future

end Server

end EventLoop.Net
