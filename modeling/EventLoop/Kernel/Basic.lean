import EventLoop.Table
import EventLoop.Kernel.Endpoint

/-!
# The kernel

The kernel owns time, descriptors, endpoints and the watched descriptors. Time moves only when it is
told to or when a wait runs out. A descriptor is the lowest free number from one hundred on. A fault
that was armed for a call makes that call fail before anything else is looked at.
-/
namespace EventLoop

/-- The number of a descriptor; a closed socket has the number minus one. -/
abbrev Fd := Int

namespace Kernel

/-- The number that stands for no descriptor. -/
def closedFd : Fd := -1

/-- The lowest number of a descriptor. -/
def firstFd : Nat := 100

/-- The first port that is handed out where none was asked for. -/
def firstPort : Nat := 40000

/-- The count of waits, also those that fail, after which every further wait fails. -/
def waitLimit : Nat := 20000

/-- The calls that a fault can be armed for. -/
inductive Call
  /-- Making a poller. -/
  | createPoller
  /-- Changing what a poller watches. -/
  | control
  /-- Waiting for something watched. -/
  | wait
  /-- Making two connected endpoints. -/
  | pair
  /-- Making an endpoint. -/
  | socket
  /-- Reading or setting the mode of a descriptor. -/
  | mode
  /-- Setting an option of an endpoint. -/
  | setOption
  /-- Reading an option of an endpoint. -/
  | getOption
  /-- Giving an endpoint its own address. -/
  | bind
  /-- Beginning to listen. -/
  | listen
  /-- Connecting. -/
  | connect
  /-- Accepting a connection. -/
  | accept
  /-- Sending. -/
  | send
  /-- Receiving. -/
  | receive
  /-- Asking for the own address. -/
  | ownName
  /-- Asking for the peer's address. -/
  | peerName
  /-- Reporting the address of an accepted connection; this fault spoils the address only. -/
  | acceptAddress
  deriving DecidableEq, Repr, Inhabited

/-- A failure armed for coming calls. -/
structure Fault where
  /-- The call that will fail. -/
  call : Call
  /-- The error that it will report. -/
  error : Errno
  /-- How many calls will fail. -/
  times : Nat
  /-- The descriptor that the call must be for, if one was given. -/
  fd? : Option Fd
  deriving Repr, Inhabited

/-- How a connection attempt to an internet address proceeds. -/
inductive ConnectMode
  /-- It is under way when the call returns, and over at the next look. -/
  | inProgress
  /-- It is over when the call returns. -/
  | immediate
  /-- It never ends. -/
  | hang
  deriving DecidableEq, Repr, Inhabited

/-- What a descriptor stands for. -/
inductive Resource
  /-- A poller. -/
  | poller
  /-- An endpoint. -/
  | endpoint (id : EndpointId)
  deriving DecidableEq, Repr, Inhabited

end Kernel

open Kernel in
/-- The state of the simulated operating system. -/
structure Kernel where
  /-- Time in nanoseconds. -/
  now : Nat := 0
  /-- How many bytes the buffer of an endpoint holds. -/
  capacity : Nat := 65536
  /-- How connection attempts proceed. -/
  mode : ConnectMode := .inProgress
  /-- The armed faults, in the order in which they were armed. -/
  faults : List Fault := []
  /-- Every endpoint that was ever made. -/
  endpoints : Table Endpoint := ∅
  /-- The open descriptors in ascending order. -/
  resources : List (Nat × Resource) := []
  /-- The watched descriptors in ascending order, each with what it is watched for. -/
  watches : List (Nat × Flags) := []
  /-- The next port that is handed out. -/
  nextPort : Nat := firstPort
  /-- How many waits there have been. -/
  waits : Nat := 0
  deriving Inhabited

namespace Kernel

/-- Moves time forward. -/
def advance (kernel : Kernel) (time : Nat) : Kernel := { kernel with now := kernel.now + time }

/-- Arms a fault. -/
def arm (kernel : Kernel) (fault : Fault) : Kernel :=
  { kernel with faults := kernel.faults ++ [fault] }

/-- Whether a fault applies to a call on a descriptor. -/
def Fault.appliesTo (fault : Fault) (call : Call) (fd? : Option Fd) : Bool :=
  fault.call == call && (fault.fd?.isNone || fault.fd? == fd?)

/-- Uses up the first fault that applies; returns its error and the faults that stay armed. -/
def useFault (call : Call) (fd? : Option Fd) : List Fault → Option Errno × List Fault
  | [] => (none, [])
  | fault :: rest =>
    if fault.appliesTo call fd? && 0 < fault.times then
      (some fault.error,
        if fault.times = 1 then rest else { fault with times := fault.times - 1 } :: rest)
    else
      let (error, rest) := useFault call fd? rest
      (error, fault :: rest)

/-- Makes a call unless a fault is armed for it. -/
def guarded {α : Type} (kernel : Kernel) (call : Call) (fd? : Option Fd)
    (body : Kernel → Except Errno α × Kernel) : Except Errno α × Kernel :=
  let (error?, faults) := useFault call fd? kernel.faults
  match error? with
  | some error => (.error error, { kernel with faults })
  | none => body kernel

/-- What a descriptor stands for. -/
def resource? (kernel : Kernel) (fd : Fd) : Option Resource :=
  match fd with
  | .ofNat number => kernel.resources.lookup number
  | .negSucc _ => none

/-- The endpoint behind a descriptor, with its number. -/
def endpoint? (kernel : Kernel) (fd : Fd) : Option (EndpointId × Endpoint) :=
  match kernel.resource? fd with
  | some (.endpoint id) => (kernel.endpoints.get? id).map fun endpoint => (id, endpoint)
  | _ => none

/-- Changes an endpoint. -/
def update (kernel : Kernel) (id : EndpointId) (change : Endpoint → Endpoint) : Kernel :=
  { kernel with endpoints := kernel.endpoints.modify id change }

/-- Makes a call on the endpoint behind a descriptor, unless a fault is armed for it. -/
def onEndpoint {α : Type} (kernel : Kernel) (call : Call) (fd : Fd)
    (body : Kernel → EndpointId → Endpoint → Except Errno α × Kernel) : Except Errno α × Kernel :=
  kernel.guarded call (some fd) fun kernel =>
    match kernel.endpoint? fd with
    | some (id, endpoint) => body kernel id endpoint
    | none => (.error .badDescriptor, kernel)

/-- The lowest number from a start on that ascending numbers leave free. -/
def lowestFree (start : Nat) : List Nat → Nat
  | [] => start
  | number :: rest =>
    if number < start then lowestFree start rest
    else if number = start then lowestFree (start + 1) rest
    else start

/-- Inserts an entry among entries in ascending order. -/
def insertAscending {α : Type} (key : Nat) (value : α) : List (Nat × α) → List (Nat × α)
  | [] => [(key, value)]
  | (other, entry) :: rest =>
    if key < other then (key, value) :: (other, entry) :: rest
    else (other, entry) :: insertAscending key value rest

/-- Gives a resource the lowest free descriptor. -/
def allocate (kernel : Kernel) (resource : Resource) : Fd × Kernel :=
  let number := lowestFree firstFd (kernel.resources.map (·.1))
  (number, { kernel with resources := insertAscending number resource kernel.resources })

/-- Adds an endpoint without a descriptor. -/
def addEndpoint (kernel : Kernel) (endpoint : Endpoint) : EndpointId × Kernel :=
  (kernel.endpoints.size, { kernel with endpoints := kernel.endpoints.push endpoint })

/-- Marks the peer of an endpoint as having lost its other side. -/
def abandonPeer (kernel : Kernel) (endpoint : Endpoint) : Kernel :=
  match endpoint.phase with
  | .connected peer => kernel.update peer fun other => { other with gone := true }
  | _ => kernel

/-- Closes an endpoint: its peer loses the other side, and so do the peers of the connections that
wait in its queue. -/
def closeEndpoint (kernel : Kernel) (id : EndpointId) : Kernel :=
  match kernel.endpoints.get? id with
  | none => kernel
  | some endpoint =>
    let kernel := kernel.abandonPeer endpoint
    match endpoint.phase with
    | .listening queue =>
      queue.foldl
        (fun kernel waiting => match kernel.endpoints.get? waiting with
          | some endpoint => kernel.abandonPeer endpoint
          | none => kernel)
        kernel
    | _ => kernel

/-- Closes a descriptor and frees its number; it is no longer watched. -/
def close (kernel : Kernel) (fd : Fd) : Except Errno Unit × Kernel :=
  match fd, kernel.resource? fd with
  | .ofNat number, some resource =>
    let kernel := { kernel with
      resources := kernel.resources.filter (·.1 != number)
      watches := kernel.watches.filter (·.1 != number) }
    match resource with
    | .poller => (.ok (), kernel)
    | .endpoint id => (.ok (), kernel.closeEndpoint id)
  | _, _ => (.error .badDescriptor, kernel)

/-- How much of data an endpoint's peer can take at once, given its buffer. -/
def room (kernel : Kernel) (buffer : List UInt8) : Nat := kernel.capacity - buffer.length

end Kernel

end EventLoop
