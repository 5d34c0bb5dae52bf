import EventLoop.Address
import EventLoop.Errno
import EventLoop.Kernel.Flags

/-!
# Endpoints

An endpoint is one side of a stream connection, or a listener with its queue of connections that
wait to be accepted. Data sent to an endpoint waits in its buffer until it is received.
-/
namespace EventLoop.Kernel

/-- The number of an endpoint; it never changes and is never used again. -/
abbrev EndpointId := Nat

/-- The address family of an endpoint. -/
inductive Family
  /-- Sockets of one machine that have no internet address. -/
  | local
  /-- The first internet family. -/
  | inet4
  /-- The second internet family. -/
  | inet6
  deriving DecidableEq, Repr, Inhabited

/-- The family of an internet address. -/
def Family.ofIp : Ip → Family
  | .v4 .. => inet4
  | .v6 _ => inet6

/-- The loopback address of an internet family. -/
def Family.loopback? : Family → Option Ip
  | .local => none
  | inet4 => some .loopback4
  | inet6 => some .loopback6

/-- What an endpoint is doing. -/
inductive Phase
  /-- Nothing yet, or a connection attempt failed. -/
  | idle
  /-- A connection attempt that never ends. -/
  | connecting
  /-- Connected to another endpoint. -/
  | connected (peer : EndpointId)
  /-- Listening, with the endpoints that wait to be accepted, oldest first. -/
  | listening (queue : List EndpointId)
  deriving DecidableEq, Repr, Inhabited

/-- One side of a stream connection, or a listener. -/
structure Endpoint where
  /-- The address family. -/
  family : Family
  /-- The address on this machine, once it has one. -/
  address : Option Address := none
  /-- What the endpoint is doing. -/
  phase : Phase := .idle
  /-- Data received and not yet taken. -/
  buffer : List UInt8 := []
  /-- Whether the peer was closed. -/
  gone : Bool := false
  /-- An error that the next call will report. -/
  error : Option Errno := none
  deriving Inhabited

namespace Endpoint

/-- The address that the endpoint reports as its own, unless it is of the local family. -/
def ownAddress? (endpoint : Endpoint) : Option Address :=
  match endpoint.family with
  | .local => none
  | .inet4 => some (endpoint.address.getD (.of Ip.unspecified4 0))
  | .inet6 => some (endpoint.address.getD (.of Ip.unspecified6 0))

/-- What is ready at an endpoint, given whether its peer's buffer has room. -/
def readiness (endpoint : Endpoint) (room : Bool) : Flags :=
  let flags : Flags := match endpoint.phase with
    | .idle => { output := true, hangUp := true }
    | .connecting => .none
    | .listening queue => { input := !queue.isEmpty }
    | .connected _ =>
      if endpoint.gone then { input := true, output := true, hangUp := true, peerHangUp := true }
      else { input := !endpoint.buffer.isEmpty, output := room }
  if endpoint.error.isSome then flags.union { input := true, output := true, error := true }
  else flags

end Endpoint

end EventLoop.Kernel
