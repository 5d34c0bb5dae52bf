import EventLoop.Proofs.Proactor.Registrations

/-!
# The engine in service

A service lets sockets come and go while the engine works for them on any kernel. Sockets are opened with
descriptors that nobody else has at that moment, so that the descriptor of a closed socket is used again;
operations are submitted on them, also on closed ones; futures are cancelled from outside. The kernel
answers every call as it likes, but for what every kernel keeps to:

* it refuses whatever is asked of no descriptor,
* it hands out no more bytes than it was asked for,
* it changes only a watch that exists and adds only one that does not,
* it reports only what is watched, and a report uses up a watch for one report,
* a descriptor that is closed is not watched any more.

The site keeps a record of all calls that were made for operations, of what they handed out, and of how
the operations ended. A connection that was accepted becomes a socket when its holder takes it.
-/
namespace EventLoop.Proactor

open Kernel (Flags Control closedFd)

/-! ## Records -/

/-- The sockets. -/
structure Sockets where
  /-- How many there were so far. -/
  count : Nat
  /-- The descriptors of those that are open. -/
  fd? : SocketId → Option Fd

/-- An operation that was submitted. -/
structure Commission where
  /-- The socket. -/
  socket : SocketId
  /-- The descriptor of the socket at that moment. -/
  fd : Fd
  /-- The operation. -/
  operation : Operation

/-- How an operation ended. -/
structure Ending where
  /-- The verdict. -/
  verdict : Verdict
  /-- The sockets at that moment. -/
  sockets : Sockets

/-- The operations that were submitted and what became of them. -/
structure Roster where
  /-- How many futures were made. -/
  made : Nat
  /-- The operations in the order in which they were submitted. -/
  commissions : List Commission
  /-- How those that are over have ended. -/
  endings : FutureId → Option Ending

/-- A system call that was made for an operation. -/
structure Call where
  /-- The future of the operation. -/
  future : FutureId
  /-- The descriptor. -/
  fd : Fd
  /-- The data or the connection that the kernel handed out. -/
  handed : Option Completion
  /-- The sockets at that moment. -/
  sockets : Sockets
  /-- How the operations that were over at that moment had ended. -/
  endings : FutureId → Option Ending

/-- What the kernel watches each descriptor for; a watch that is used up is left with no flags. -/
abbrev Watches := Fd → Option Flags

/-- A kernel with its sockets, and the record of what the engine does there. -/
structure Site (σ : Type) where
  /-- The kernel. -/
  kernel : σ
  /-- The sockets. -/
  sockets : Sockets
  /-- The watches. -/
  watches : Watches
  /-- The operations. -/
  roster : Roster
  /-- The calls that were made, in order. -/
  calls : List Call

/-- What an operation brings that ends well. -/
def Verdict.completion? : Verdict → Option Completion
  | .over (.ok completion) => some completion
  | .over (.error _) | .cancelled | .abandoned => none

namespace Commission

/-- The future of the operation. -/
def future (commission : Commission) : FutureId := commission.operation.future

/-- The request of the operation. -/
def request (commission : Commission) : Request := commission.operation.request

/-- The queue in which the operation waits. -/
def direction (commission : Commission) : Direction := commission.request.direction

end Commission

namespace Sockets

/-- The descriptor of a socket; a closed one has none. -/
def fdOf (sockets : Sockets) (socket : SocketId) : Fd := (sockets.fd? socket).getD closedFd

/-- Opens a socket with a descriptor. -/
def push (sockets : Sockets) (fd : Fd) : Sockets where
  count := sockets.count + 1
  fd? := Function.update sockets.fd? sockets.count (some fd)

/-- Closes a socket. -/
def close (sockets : Sockets) (socket : SocketId) : Sockets :=
  { sockets with fd? := Function.update sockets.fd? socket none }

end Sockets

namespace Roster

/-- Whether an operation is not over. -/
def pending (roster : Roster) (future : FutureId) : Bool := (roster.endings future).isNone

/-- Submits an operation. -/
def enlist (roster : Roster) (commission : Commission) : Roster :=
  { roster with made := roster.made + 1, commissions := roster.commissions ++ [commission] }

/-- Ends an operation, unless it is over. -/
def conclude (roster : Roster) (future : FutureId) (ending : Ending) : Roster :=
  if roster.pending future then
    { roster with endings := Function.update roster.endings future (some ending) }
  else roster

/-- What an operation that ended well has brought. -/
def completion? (roster : Roster) (future : FutureId) : Option Completion :=
  (roster.endings future).bind (·.verdict.completion?)

/-- The operations that receive or accept on a socket, in the order in which they were submitted. -/
def readings (roster : Roster) (socket : SocketId) : List FutureId :=
  (roster.commissions.filter fun commission =>
    commission.socket = socket && commission.direction = .reading).map Commission.future

/-- What those operations that ended well have brought. -/
def brought (roster : Roster) (futures : List FutureId) : List (FutureId × Completion) :=
  futures.filterMap fun future => (roster.completion? future).map (future, ·)

end Roster

/-- What the kernel handed out, and for which operations, in order. -/
def Call.answers (calls : List Call) : List (FutureId × Completion) :=
  calls.filterMap fun call => call.handed.map (call.future, ·)

namespace Watches

/-- Changes what a descriptor is watched for. -/
def set (watches : Watches) (fd : Fd) (interest : Option Flags) : Watches :=
  Function.update watches fd interest

/-- Whether a descriptor is watched for a direction. -/
def Armed (watches : Watches) (fd : Fd) (direction : Direction) : Prop :=
  ∃ interest, watches fd = some interest ∧
    match direction with
    | .reading => interest.input = true ∧ interest.peerHangUp = true
    | .writing => interest.output = true

/-- A change that the kernel allows is made if it is possible. -/
def change (watches : Watches) (action : Control) (fd : Fd) (interest : Flags) :
    Except Errno Watches :=
  match action, watches fd with
  | .add, none | .modify, some _ => .ok (watches.set fd (some interest))
  | .delete, some _ => .ok (watches.set fd none)
  | .add, some _ => .error .alreadyExists
  | .modify, none | .delete, none => .error .noEntry

/-- The reports about descriptors that are watched, and the watches that they leave. -/
def collect : List (Nat × Flags) → Watches → List (Nat × Flags) × Watches
  | [], watches => ([], watches)
  | (number, flags) :: rest, watches =>
    match watches number with
    | none => collect rest watches
    | some interest =>
      if interest.isEmpty then collect rest watches
      else
        let left := if interest.once then .none else interest
        let (reports, watches) := collect rest (watches.set number (some left))
        ((number, flags) :: reports, watches)

end Watches

/-! ## The system -/

namespace Site

variable {σ α ε : Type}

/-- A call of the kernel that is not made for an operation. -/
def call (step : StateM σ α) : StateM (Site σ) α := fun site =>
  let (answer, kernel) := step site.kernel
  (answer, { site with kernel })

/-- A call that is made for an operation. -/
def ask (step : StateM σ (Except ε α)) (refusal : ε) (handed : α → Option Completion)
    (future : FutureId) (fd : Fd) : StateM (Site σ) (Except ε α) := fun site =>
  let (answer, kernel) := if fd = closedFd then (.error refusal, site.kernel) else step site.kernel
  (answer, { site with
    kernel
    calls := site.calls ++
      [⟨future, fd, answer.toOption.bind handed, site.sockets, site.roster.endings⟩] })

/-- A change of a watch, on an open poller. -/
def control (step : StateM σ (Except Errno Unit)) (poller : Fd) (action : Control) (fd : Fd)
    (interest : Flags) : StateM (Site σ) (Except Errno Unit) := fun site =>
  match step site.kernel with
  | (.error error, kernel) => (.error error, { site with kernel })
  | (.ok (), kernel) =>
    if poller = closedFd then (.error .badDescriptor, { site with kernel })
    else
      match site.watches.change action fd interest with
      | .error error => (.error error, { site with kernel })
      | .ok watches => (.ok (), { site with kernel, watches })

/-- A wait for reports. -/
def wait (step : StateM σ (Except Errno (List (Nat × Flags)))) :
    StateM (Site σ) (Except Errno (List (Nat × Flags))) := fun site =>
  match step site.kernel with
  | (.error error, kernel) => (.error error, { site with kernel })
  | (.ok reports, kernel) =>
    let (reports, watches) := Watches.collect reports site.watches
    (.ok reports, { site with kernel, watches })

/-- Ends an operation, unless it is over. -/
def conclude (site : Site σ) (future : FutureId) (verdict : Verdict) : Site σ :=
  { site with roster := site.roster.conclude future ⟨verdict, site.sockets⟩ }

/-- The system that the engine meets. -/
def system (kernel : System σ) : System (Site σ) where
  receive future fd limit := ask (Except.map (·.take limit) <$> kernel.receive future fd limit)
    .badDescriptor (fun data => some (.received data)) future fd
  send future fd data := ask (kernel.send future fd data) .badDescriptor (fun _ => none) future fd
  connect future fd target :=
    ask (kernel.connect future fd target) .badDescriptor (fun _ => none) future fd
  accept future fd := ask (kernel.accept future fd) (.os .badDescriptor)
    (fun (fd, peer) => some (.accepted fd peer)) future fd
  takeError future fd := ask (kernel.takeError future fd) .badDescriptor (fun _ => none) future fd
  control poller action fd interest :=
    control (kernel.control poller action fd interest) poller action fd interest
  wait poller limit timeout := wait (kernel.wait poller limit timeout)
  trace text := call (kernel.trace text)
  interruptions site := kernel.interruptions site.kernel
  isDone site future := !site.roster.pending future
  isOpen site socket := (site.sockets.fd? socket).isSome
  settle future verdict := modify (·.conclude future verdict)

end Site

/-! ## Runs -/

/-- The engine and the site where it works. -/
structure Service (σ : Type) where
  /-- The engine. -/
  engine : Engine
  /-- The site. -/
  site : Site σ

namespace Service

variable {σ : Type}

/-- A new engine where there are no sockets. -/
def new (poller : Fd) (limit : Nat) (kernel : σ) : Service σ where
  engine := .new poller limit
  site := ⟨kernel, ⟨0, fun _ => none⟩, fun _ => none, ⟨0, [], fun _ => none⟩, []⟩

/-- Lets the engine do something. -/
def act (service : Service σ) (step : Engine → StateM (Site σ) Engine) : Service σ :=
  let (engine, site) := step service.engine service.site
  { engine, site }

/-- The operation of a new future on a socket. -/
def commission (service : Service σ) (socket : SocketId) (request : Request) : Commission :=
  ⟨socket, service.site.sockets.fdOf socket, ⟨request, service.site.roster.made⟩⟩

/-- Puts an operation on the roster. -/
def enlist (service : Service σ) (commission : Commission) : Service σ :=
  { service with site := { service.site with roster := service.site.roster.enlist commission } }

/-- Submits a request on a socket, with a new future. -/
def submit (kernel : System σ) (service : Service σ) (socket : SocketId) (request : Request) :
    Service σ :=
  let new := service.commission socket request
  (service.enlist new).act fun engine =>
    engine.submit (Site.system kernel) new.socket new.fd new.direction new.operation

/-- Begins to connect a socket, with a new future. -/
def connect (kernel : System σ) (service : Service σ) (socket : SocketId) (target : Address) :
    Service σ :=
  let new := service.commission socket .connect
  (service.enlist new).act fun engine =>
    engine.connect (Site.system kernel) new.socket new.fd target new.future

/-- Closes the engine: all operations are cancelled, and nothing is watched any more. -/
def shut (kernel : System σ) (service : Service σ) : Service σ :=
  let closed := service.act fun engine => do
    Engine.settleAll (Site.system kernel) .cancelled engine.operations
    return { engine with poller := none, registrations := [] }
  { closed with site := { closed.site with watches := fun _ => none } }

/-- Opens a socket with a descriptor. -/
def openSocket (service : Service σ) (fd : Fd) : Service σ :=
  { service with site := { service.site with sockets := service.site.sockets.push fd } }

/-- Closes a socket; its descriptor is not watched any more. -/
def closeSocket (service : Service σ) (socket : SocketId) : Service σ :=
  { service with site := { service.site with
    sockets := service.site.sockets.close socket
    watches := fun fd =>
      if service.site.sockets.fd? socket = some fd then none else service.site.watches fd } }

/-- Polls the engine. -/
def poll (kernel : System σ) (service : Service σ) (timeout : Option Nat) : Service σ :=
  service.act fun engine => Prod.snd <$> engine.poll (Site.system kernel) timeout

/-- Lets something happen to the kernel. -/
def elapse (service : Service σ) (after : σ) : Service σ :=
  { service with site := { service.site with kernel := after } }

/-- One step of a service. -/
inductive Step (kernel : System σ) : Service σ → Service σ → Prop
  /-- A socket is opened with a descriptor that no open socket has. -/
  | opened {service : Service σ} (fd : Fd) (valid : fd ≠ closedFd)
      (free : ∀ socket, service.site.sockets.fd? socket ≠ some fd) :
      Step kernel service (service.openSocket fd)
  /-- A socket is closed. -/
  | closed {service : Service σ} (socket : SocketId) : Step kernel service (service.closeSocket socket)
  /-- An operation is submitted on a socket. -/
  | submitted {service : Service σ} (socket : SocketId) (known : socket < service.site.sockets.count)
      (request : Request) : Step kernel service (service.submit kernel socket request)
  /-- A socket begins to connect. -/
  | connected {service : Service σ} (socket : SocketId) (known : socket < service.site.sockets.count)
      (target : Address) : Step kernel service (service.connect kernel socket target)
  /-- The engine is polled. -/
  | polled {service : Service σ} (timeout : Option Nat) :
      Step kernel service (service.poll kernel timeout)
  /-- A descriptor is forgotten. -/
  | forgotten {service : Service σ} (fd : Fd) :
      Step kernel service (service.act fun engine => engine.unregister (Site.system kernel) fd)
  /-- A future is cancelled. -/
  | cancelled {service : Service σ} (future : FutureId) (made : future < service.site.roster.made) :
      Step kernel service { service with site := service.site.conclude future .cancelled }
  /-- The engine is closed. -/
  | shut {service : Service σ} : Step kernel service (service.shut kernel)
  /-- Something happens to the kernel. -/
  | elapsed {service : Service σ} (after : σ) : Step kernel service (service.elapse after)

/-- The states that a service reaches. -/
inductive Reached (kernel : System σ) : Service σ → Prop
  /-- The service begins. -/
  | begun (poller : Fd) (limit : Nat) (state : σ) : Reached kernel (new poller limit state)
  /-- A step is made. -/
  | step {before after : Service σ} (earlier : Reached kernel before)
      (step : Step kernel before after) : Reached kernel after

end Service

end EventLoop.Proactor
