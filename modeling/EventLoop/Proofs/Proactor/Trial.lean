import EventLoop.Proactor.Engine
import Mathlib.Data.List.Nodup

/-!
# The engine on trial

A trial puts the engine on any kernel and keeps a record: which data was offered to the kernel for which
operation, how the kernel answered, and how far the futures of all operations were at that moment. The
kernel has states of its own and answers every call as it likes, so a statement about all trials is one
about every pattern of answers.

A session is a run of the engine in which one socket is watched from its first send on. Other sockets
submit, connect and are forgotten as they like, futures are cancelled from outside at any time, and polls
report whatever the kernel makes up. While the socket is open nobody else has its descriptor.
-/
namespace EventLoop.Proactor

/-- A call that offered data to the kernel. -/
structure Offer where
  /-- The future of the operation that made the call. -/
  future : FutureId
  /-- The descriptor. -/
  fd : Fd
  /-- The data. -/
  data : Bytes
  /-- The answer of the kernel. -/
  answer : Except Errno Nat
  /-- How the operations that were over at that moment had ended. -/
  verdicts : FutureId → Option Verdict

namespace Offer

/-- The bytes that the kernel took. -/
def taken (offer : Offer) : Bytes :=
  match offer.answer with
  | .ok count => offer.data.take count
  | .error _ => []

/-- Whether an operation was over when the offer was made. -/
def wasOver (offer : Offer) (future : FutureId) : Prop := (offer.verdicts future).isSome = true

end Offer

/-- A kernel under observation, together with the futures of the operations. -/
structure Trial (σ : Type) where
  /-- The kernel. -/
  kernel : σ
  /-- How many futures were made. -/
  made : Nat
  /-- How the operations that are over have ended. -/
  verdicts : FutureId → Option Verdict
  /-- What was offered to the kernel, in order. -/
  offers : List Offer

namespace Trial

variable {σ α : Type}

/-- Whether an operation is over. -/
def isOver (trial : Trial σ) (future : FutureId) : Bool := (trial.verdicts future).isSome

/-- The bytes that the kernel took for an operation, in order. -/
def sent (trial : Trial σ) (future : FutureId) : Bytes :=
  (trial.offers.filter (·.future == future)).flatMap Offer.taken

/-- The bytes that the kernel took on a descriptor, in order. -/
def taken (trial : Trial σ) (fd : Fd) : Bytes :=
  (trial.offers.filter (·.fd == fd)).flatMap Offer.taken

/-- Ends an operation, unless it is over. -/
def conclude (trial : Trial σ) (future : FutureId) (verdict : Verdict) : Trial σ :=
  if trial.isOver future then trial
  else { trial with verdicts := Function.update trial.verdicts future (some verdict) }

/-- Puts an offer on record. -/
def offer (trial : Trial σ) (kernel : σ) (future : FutureId) (fd : Fd) (data : Bytes)
    (answer : Except Errno Nat) : Trial σ :=
  { trial with kernel, offers := trial.offers ++ [⟨future, fd, data, answer, trial.verdicts⟩] }

/-- A call of the kernel. -/
def call (step : StateM σ α) : StateM (Trial σ) α := fun trial =>
  let (answer, kernel) := step trial.kernel
  (answer, { trial with kernel })

/-- The system that the engine meets on trial. -/
def system (kernel : System σ) : System (Trial σ) where
  receive future fd limit := call (kernel.receive future fd limit)
  send future fd data := fun trial =>
    let (answer, after) := kernel.send future fd data trial.kernel
    (answer, trial.offer after future fd data answer)
  connect future fd target := call (kernel.connect future fd target)
  accept future fd := call (kernel.accept future fd)
  takeError future fd := call (kernel.takeError future fd)
  control poller action fd interest := call (kernel.control poller action fd interest)
  wait poller limit timeout := call (kernel.wait poller limit timeout)
  trace text := call (kernel.trace text)
  interruptions trial := kernel.interruptions trial.kernel
  isDone := isOver
  isOpen trial := kernel.isOpen trial.kernel
  settle future verdict := modify (·.conclude future verdict)

end Trial

/-- Whether a request is one to send. -/
def Request.isSend : Request → Bool
  | send _ => true
  | receive _ | connect | accept => false

/-- The queue in which a request waits. -/
def Request.direction : Request → Direction
  | receive _ | accept => .reading
  | send _ | connect => .writing

/-- A send that was submitted. -/
structure Sending where
  /-- The future that receives its outcome. -/
  future : FutureId
  /-- The data. -/
  data : Bytes

/-- The engine on trial, and the sends that were submitted on the socket that is watched. -/
structure Session (σ : Type) where
  /-- The engine. -/
  engine : Engine
  /-- The trial. -/
  trial : Trial σ
  /-- The sends in the order in which they were submitted. -/
  sends : List Sending

namespace Session

variable {σ : Type}

/-- Lets the engine do something. -/
def act (session : Session σ) (step : Engine → StateM (Trial σ) Engine) : Session σ :=
  let (engine, trial) := step session.engine session.trial
  { session with engine, trial }

/-- Makes a future. -/
def make (session : Session σ) : Session σ :=
  { session with trial := { session.trial with made := session.trial.made + 1 } }

/-- Submits a request on a socket, with a new future. -/
def submit (kernel : System σ) (session : Session σ) (socket : SocketId) (fd : Fd)
    (request : Request) : Session σ :=
  session.make.act fun engine => engine.submit (Trial.system kernel) socket fd request.direction
    ⟨request, session.trial.made⟩

/-- Submits a send on the socket that is watched. -/
def send (kernel : System σ) (session : Session σ) (socket : SocketId) (fd : Fd) (data : Bytes) :
    Session σ :=
  let listed := { session with sends := session.sends ++ [Sending.mk session.trial.made data] }
  listed.submit kernel socket fd (.send data)

/-- Nothing was sent yet on a socket, whatever else goes on. -/
structure Fresh (socket : SocketId) (fd : Fd) (session : Session σ) : Prop where
  /-- The operations that wait have futures that were made. -/
  made : ∀ operation ∈ session.engine.operations, operation.future < session.trial.made
  /-- No operation is over whose future was not made. -/
  pending : ∀ future, session.trial.made ≤ future → session.trial.isOver future = false
  /-- No send waits in the queues of the socket. -/
  unsent : ∀ {registration}, session.engine.registration? fd = some registration →
    registration.owner = socket → ∀ operation ∈ registration.operations,
      operation.request.isSend = false
  /-- Nothing is on record. -/
  unoffered : session.trial.offers = []
  /-- Nothing was submitted. -/
  empty : session.sends = []

/-- One step of a session on a socket with a descriptor. -/
inductive Step (kernel : System σ) (socket : SocketId) (fd : Fd) : Session σ → Session σ → Prop
  /-- A send is submitted on the socket. -/
  | sent {session : Session σ} (data : Bytes) :
      Step kernel socket fd session (session.send kernel socket fd data)
  /-- Something else is submitted on some socket. -/
  | submitted {session : Session σ} (other : SocketId) (descriptor : Fd) (request : Request)
      (owned : descriptor = fd → other = socket ∧ request.isSend = false) :
      Step kernel socket fd session (session.submit kernel other descriptor request)
  /-- A socket begins to connect. -/
  | connected {session : Session σ} (other : SocketId) (descriptor : Fd) (target : Address)
      (owned : descriptor = fd → other = socket) :
      Step kernel socket fd session (session.make.act fun engine =>
        engine.connect (Trial.system kernel) other descriptor target session.trial.made)
  /-- The engine is polled. -/
  | polled {session : Session σ} (timeout : Option Nat) :
      Step kernel socket fd session
        (session.act fun engine => Prod.snd <$> engine.poll (Trial.system kernel) timeout)
  /-- A descriptor is forgotten. -/
  | forgotten {session : Session σ} (descriptor : Fd) :
      Step kernel socket fd session
        (session.act fun engine => engine.unregister (Trial.system kernel) descriptor)
  /-- A future is cancelled. -/
  | cancelled {session : Session σ} (future : FutureId) (made : future < session.trial.made) :
      Step kernel socket fd session
        { session with trial := session.trial.conclude future .cancelled }
  /-- Something happens to the kernel. -/
  | elapsed {session : Session σ} (after : σ) :
      Step kernel socket fd session
        { session with trial := { session.trial with kernel := after } }

/-- The states of a session that begins with the first send on a socket. -/
inductive Reached (kernel : System σ) (socket : SocketId) (fd : Fd) : Session σ → Prop
  /-- The first send is submitted. -/
  | begun {session : Session σ} (fresh : session.Fresh socket fd) (data : Bytes) :
      Reached kernel socket fd (session.send kernel socket fd data)
  /-- A step is made. -/
  | step {before after : Session σ} (earlier : Reached kernel socket fd before)
      (step : Step kernel socket fd before after) : Reached kernel socket fd after

end Session

/-! ## Steps with a result -/

/-- From states of a sort a step leads to a result and a state that are related. -/
def Ensures {σ α : Type} (before : σ → Prop) (step : StateM σ α) (after : α → σ → Prop) : Prop :=
  ∀ state, before state → after (step state).1 (step state).2

namespace Ensures

variable {σ α β : Type} {before : σ → Prop} {after : β → σ → Prop}

/-- A step that goes on ensures what its second part does. -/
theorem bind (middle : α → σ → Prop) {step : StateM σ α} {next : α → StateM σ β}
    (first : Ensures before step middle)
    (second : ∀ result, Ensures (middle result) (next result) after) :
    Ensures before (step >>= next) after := fun state holds => second _ _ (first state holds)

/-- A value that is returned ensures what held before. -/
theorem pure {result : β} (holds : ∀ state, before state → after result state) :
    Ensures before (Pure.pure result) after := holds

/-- Less may hold before a step. -/
theorem weaken {weaker : σ → Prop} {step : StateM σ β} (ensures : Ensures weaker step after)
    (implied : ∀ state, before state → weaker state) : Ensures before step after :=
  fun state holds => ensures state (implied state holds)

/-- What holds in every state of the sort may be assumed. -/
theorem assuming {fact : Prop} {step : StateM σ β} (implied : ∀ state, before state → fact)
    (ensures : fact → Ensures before step after) : Ensures before step after :=
  fun state holds => ensures (implied state holds) state holds

/-- What follows a look at the state may use what is known of it. -/
theorem get {next : σ → StateM σ β}
    (second : ∀ state, Ensures (fun now => now = state ∧ before now) (next state) after) :
    Ensures before (MonadState.get >>= next) after :=
  fun state holds => second state state ⟨rfl, holds⟩

/-- What follows a step that is made only under a condition. -/
theorem choose {condition : Prop} [Decidable condition] {middle : α → σ → Prop} {step : StateM σ α}
    {result : α} {next : α → StateM σ β}
    (first : Ensures before (if condition then step else Pure.pure result) middle)
    (second : ∀ result, Ensures (middle result) (next result) after) :
    Ensures before (if condition then step >>= next else next result) after := by
  split at first
  · rw [if_pos ‹_›]
    exact bind middle first second
  · rw [if_neg ‹_›]
    exact fun state holds => second result state (first state holds)

end Ensures

end EventLoop.Proactor
