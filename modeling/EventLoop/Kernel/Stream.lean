import EventLoop.Kernel.Basic

/-!
# Calls on streams

Making, naming, connecting and using endpoints. A connection attempt finds its listener at once; the
mode decides only what the call reports. A pending error is reported by the next call that sends,
receives or asks for it, and is then forgotten.
-/
namespace EventLoop.Kernel

/-- Makes two endpoints that are connected to each other. -/
def makePair (kernel : Kernel) : Except Errno (Fd × Fd) × Kernel :=
  kernel.guarded .pair none fun kernel =>
    let first := kernel.endpoints.size
    let (_, kernel) := kernel.addEndpoint { family := .local, phase := .connected (first + 1) }
    let (_, kernel) := kernel.addEndpoint { family := .local, phase := .connected first }
    let (left, kernel) := kernel.allocate (.endpoint first)
    let (right, kernel) := kernel.allocate (.endpoint (first + 1))
    (.ok (left, right), kernel)

/-- Makes an endpoint of the family of an address. -/
def makeSocket (kernel : Kernel) (ip : Ip) : Except Errno Fd × Kernel :=
  kernel.guarded .socket none fun kernel =>
    let (id, kernel) := kernel.addEndpoint { family := .ofIp ip }
    let (fd, kernel) := kernel.allocate (.endpoint id)
    (.ok fd, kernel)

/-- Reads or sets the mode of a descriptor. -/
def setMode (kernel : Kernel) (fd : Fd) : Except Errno Unit × Kernel :=
  kernel.onEndpoint .mode fd fun kernel _ _ => (.ok (), kernel)

/-- Allows an address to be used again soon. -/
def setReuse (kernel : Kernel) (fd : Fd) : Except Errno Unit × Kernel :=
  kernel.onEndpoint .setOption fd fun kernel _ _ => (.ok (), kernel)

/-- Reports the pending error and forgets it. -/
def takeError (kernel : Kernel) (fd : Fd) : Except Errno (Option Errno) × Kernel :=
  kernel.onEndpoint .getOption fd fun kernel id endpoint =>
    (.ok endpoint.error, kernel.update id fun endpoint => { endpoint with error := none })

/-- The next port that is handed out. -/
def takePort (kernel : Kernel) : UInt16 × Kernel :=
  (UInt16.ofNat kernel.nextPort, { kernel with nextPort := kernel.nextPort + 1 })

/-- Whether an open endpoint has an address that leaves no place for another. -/
def isTaken (kernel : Kernel) (address : Address) : Bool :=
  kernel.resources.any fun (_, resource) => match resource with
    | .endpoint id => match (kernel.endpoints.get? id).bind (·.address) with
      | some other => other.port == address.port && other.ip.overlaps address.ip
      | none => false
    | .poller => false

/-- Gives an endpoint its own address. -/
def bind (kernel : Kernel) (fd : Fd) (address : Address) : Except Errno Unit × Kernel :=
  kernel.onEndpoint .bind fd fun kernel id _ =>
    if !address.ip.isLoopback && !address.ip.isUnspecified then (.error .addressUnavailable, kernel)
    else
      let (port, kernel) := if address.port = 0 then kernel.takePort else (address.port, kernel)
      let address := { address with port }
      if kernel.isTaken address then (.error .addressInUse, kernel)
      else (.ok (), kernel.update id fun endpoint => { endpoint with address := some address })

/-- Begins to listen. -/
def listen (kernel : Kernel) (fd : Fd) : Except Errno Unit × Kernel :=
  kernel.onEndpoint .listen fd fun kernel id _ =>
    (.ok (), kernel.update id fun endpoint => { endpoint with phase := .listening [] })

/-- Gives an endpoint without an address the loopback address of its own family and a port. -/
def ensureAddress (kernel : Kernel) (id : EndpointId) (endpoint : Endpoint) : Kernel :=
  match endpoint.address, endpoint.family.loopback? with
  | none, some ip =>
    let (port, kernel) := kernel.takePort
    kernel.update id fun endpoint => { endpoint with address := some (.of ip port) }
  | _, _ => kernel

/-- The listener that answers at an address, of several the one with the lowest descriptor. -/
def listenerAt? (kernel : Kernel) (target : Address) : Option (EndpointId × List EndpointId) :=
  kernel.resources.findSome? fun (_, resource) => match resource with
    | .poller => none
    | .endpoint id => match kernel.endpoints.get? id with
      | some { phase := .listening queue, address := some address, .. } =>
        if address.port == target.port && address.ip.sameFamily target.ip
            && (address.ip == target.ip || address.ip.isUnspecified) then some (id, queue)
        else none
      | _ => none

/-- Connects an endpoint with a new endpoint in the queue of a listener. -/
def joinListener (kernel : Kernel) (id listener : EndpointId) (queue : List EndpointId)
    (target : Address) : Kernel :=
  let (accepted, kernel) := kernel.addEndpoint {
    family := .ofIp target.ip, address := some target, phase := .connected id }
  let kernel := kernel.update id fun endpoint => { endpoint with phase := .connected accepted }
  kernel.update listener fun endpoint => { endpoint with phase := .listening (queue ++ [accepted]) }

/-- Connects to an address. -/
def connect (kernel : Kernel) (fd : Fd) (target : Address) : Except Errno Unit × Kernel :=
  kernel.onEndpoint .connect fd fun kernel id endpoint =>
    match endpoint.phase with
    | .connected _ | .listening _ => (.error .connected, kernel)
    | .connecting => (.error .already, kernel)
    | .idle =>
      let kernel := kernel.ensureAddress id endpoint
      match kernel.mode with
      | .hang =>
        (.error .inProgress, kernel.update id fun endpoint => { endpoint with phase := .connecting })
      | .inProgress =>
        match kernel.listenerAt? target with
        | some (listener, queue) =>
          (.error .inProgress, kernel.joinListener id listener queue target)
        | none =>
          (.error .inProgress,
            kernel.update id fun endpoint => { endpoint with error := some .refused })
      | .immediate =>
        match kernel.listenerAt? target with
        | some (listener, queue) => (.ok (), kernel.joinListener id listener queue target)
        | none => (.error .refused, kernel)

/-- The address that an endpoint's peer reports as its own, unless it is of the local family. -/
def peerAddress? (kernel : Kernel) (endpoint : Endpoint) : Option Address :=
  match endpoint.phase with
  | .connected peer => (kernel.endpoints.get? peer).bind (·.ownAddress?)
  | _ => none

/-- Accepts the connection that waits longest. Returns its descriptor and the address at the other
side, unless that is of another family. -/
def accept (kernel : Kernel) (fd : Fd) : Except Errno (Fd × Option Address) × Kernel :=
  kernel.onEndpoint .accept fd fun kernel id endpoint =>
    match endpoint.phase with
    | .listening [] => (.error .wouldBlock, kernel)
    | .listening (accepted :: queue) =>
      let kernel := kernel.update id fun endpoint => { endpoint with phase := .listening queue }
      let (number, kernel) := kernel.allocate (.endpoint accepted)
      let address? := (kernel.endpoints.get? accepted).bind kernel.peerAddress?
      let (spoiled?, faults) := useFault .acceptAddress (some fd) kernel.faults
      match spoiled? with
      | some _ => (.ok (number, none), { kernel with faults })
      | none => (.ok (number, address?), kernel)
    | _ => (.error .invalid, kernel)

/-- Puts as much data as fits into the buffer of the peer; a call that moves nothing would have to
wait. -/
def deliver (kernel : Kernel) (peer : EndpointId) (data : List UInt8) :
    Except Errno Nat × Kernel :=
  let buffer := ((kernel.endpoints.get? peer).map (·.buffer)).getD []
  let part := data.take (kernel.room buffer)
  if part.isEmpty then (.error .wouldBlock, kernel)
  else
    (.ok part.length,
      kernel.update peer fun endpoint => { endpoint with buffer := endpoint.buffer ++ part })

/-- Sends data; returns how many bytes were taken. -/
def send (kernel : Kernel) (fd : Fd) (data : List UInt8) : Except Errno Nat × Kernel :=
  kernel.onEndpoint .send fd fun kernel id endpoint =>
    match endpoint.error with
    | some error => (.error error, kernel.update id fun endpoint => { endpoint with error := none })
    | none =>
      match endpoint.phase with
      | .connecting => (.error .wouldBlock, kernel)
      | .idle | .listening _ => (.error .brokenPipe, kernel)
      | .connected peer =>
        if endpoint.gone then (.error .brokenPipe, kernel) else kernel.deliver peer data

/-- Takes data out of the buffer of an endpoint. -/
def takeData (kernel : Kernel) (id : EndpointId) (endpoint : Endpoint) (limit : Nat) :
    Except Errno (List UInt8) × Kernel :=
  if endpoint.buffer.isEmpty && !endpoint.gone && 0 < limit then (.error .wouldBlock, kernel)
  else
    (.ok (endpoint.buffer.take limit),
      kernel.update id fun endpoint => { endpoint with buffer := endpoint.buffer.drop limit })

/-- Receives at most the given number of bytes; none at all means that the peer is gone. -/
def receive (kernel : Kernel) (fd : Fd) (limit : Nat) : Except Errno (List UInt8) × Kernel :=
  kernel.onEndpoint .receive fd fun kernel id endpoint =>
    match endpoint.error with
    | some error => (.error error, kernel.update id fun endpoint => { endpoint with error := none })
    | none =>
      match endpoint.phase with
      | .connecting => (.error .wouldBlock, kernel)
      | .idle | .listening _ => (.error .notConnected, kernel)
      | .connected _ => kernel.takeData id endpoint limit

/-- Leaves an error pending at an endpoint, or none if the number is zero. This is no system call and
no fault is armed for it. -/
def leaveError (kernel : Kernel) (fd : Fd) (error : Errno) : Except Errno Unit × Kernel :=
  match kernel.endpoint? fd with
  | some (id, _) =>
    (.ok (), kernel.update id fun endpoint => { endpoint with error := error.nonzero? })
  | none => (.error .badDescriptor, kernel)

/-- The own address of an endpoint, unless it is of the local family. -/
def ownName (kernel : Kernel) (fd : Fd) : Except Errno (Option Address) × Kernel :=
  kernel.onEndpoint .ownName fd fun kernel _ endpoint => (.ok endpoint.ownAddress?, kernel)

/-- The address of the peer of an endpoint, unless it is of the local family. -/
def peerName (kernel : Kernel) (fd : Fd) : Except Errno (Option Address) × Kernel :=
  kernel.onEndpoint .peerName fd fun kernel _ endpoint =>
    match endpoint.phase with
    | .connected _ => (.ok (kernel.peerAddress? endpoint), kernel)
    | _ => (.error .notConnected, kernel)

end EventLoop.Kernel
