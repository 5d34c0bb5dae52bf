import EventLoop.Proofs.Descriptors.Trades

/-!
# The engine leaves nothing loose

The engine makes its calls through a system. If no call of the system leaves anything loose but a
connection that was accepted, and ending an operation takes such a connection on, then whatever the engine
does leaves nothing loose, and it keeps its poller.
-/
namespace EventLoop

open World (Trades cleared)
open World.Trades (gained completed ended)

namespace Proactor

variable {world : World} {takes : Multiset Fd}

/-- A system that leaves nothing loose: a connection that was accepted is taken on when its operation
ends. -/
structure System.IsFair (system : System World) : Prop where
  receive : ∀ future fd limit {world}, Trades 0 world (system.receive future fd limit) cleared
  send : ∀ future fd data {world}, Trades 0 world (system.send future fd data) cleared
  connect : ∀ future fd target {world}, Trades 0 world (system.connect future fd target) cleared
  accept : ∀ future fd {world}, Trades 0 world (system.accept future fd) fun result owed _ =>
    owed = gained (fun accepted => {accepted.1}) result
  takeError : ∀ future fd {world}, Trades 0 world (system.takeError future fd) cleared
  control : ∀ poller action fd interest {world},
    Trades 0 world (system.control poller action fd interest) cleared
  wait : ∀ poller limit timeout {world}, Trades 0 world (system.wait poller limit timeout) cleared
  trace : ∀ text {world}, Trades 0 world (system.trace text) cleared
  settle : ∀ future verdict {world}, Trades (ended verdict) world (system.settle future verdict) cleared

/-- The descriptor that a system call for an operation obtained. -/
def Progress.owes : Progress → Multiset Fd
  | done outcome => gained completed outcome
  | again _ | blocked _ => 0

/-- A call that failed obtained nothing. -/
theorem Progress.owes_ofFailure (error : IoError) (request : Request) :
    (Progress.ofFailure error request).owes = 0 := by
  unfold ofFailure
  split
  · rfl
  · rfl
  · rfl

/-- An engine is left that has a certain poller, and no descriptor is loose. -/
def Engine.HasPoller (poller : Option Fd) : Engine → Multiset Fd → World → Prop :=
  fun engine owed _ => owed = 0 ∧ engine.poller = poller

namespace System.IsFair

variable {system : System World} (fair : system.IsFair)

include fair

/-! ## Trying operations -/

/-- Trying an operation once leaves loose the descriptor of a connection that was accepted, and nothing
else. -/
theorem call (request : Request) (fd : Fd) (future : FutureId) :
    Trades 0 world (request.call system fd future) fun progress owed _ => owed = progress.owes := by
  cases request with
  | receive limit =>
    refine Trades.first (fair.receive future fd limit) fun result _ => ?_
    cases result with
    | ok data => exact Trades.pure rfl
    | error error => exact Trades.pure (Progress.owes_ofFailure _ _).symm
  | send data =>
    simp only [Request.call]
    split
    · exact Trades.pure rfl
    · refine Trades.first (fair.send future fd data) fun result _ => ?_
      cases result with
      | ok count => exact Trades.pure rfl
      | error error => exact Trades.pure (Progress.owes_ofFailure _ _).symm
  | connect =>
    refine Trades.first (fair.takeError future fd) fun result _ => ?_
    split
    · exact Trades.pure rfl
    · exact Trades.pure rfl
    · exact Trades.pure rfl
  | accept =>
    refine Trades.bind (fair.accept future fd) ?_
    rintro result _ reached rfl
    cases result with
    | ok accepted => exact Trades.pure rfl
    | error error => exact Trades.pure (Progress.owes_ofFailure _ _).symm

/-- Trying an operation while it is interrupted leaves loose the descriptor of a connection that was
accepted, and nothing else. -/
theorem attemptWithin (fd : Fd) (future : FutureId) (limit : Nat) (request : Request) :
    Trades 0 world (Request.attemptWithin system fd future limit request) fun result owed _ =>
      owed = gained (gained completed) result := by
  induction limit generalizing request world with
  | zero => exact Trades.pure rfl
  | succ limit ih =>
    refine Trades.bind (fair.call request fd future) ?_
    rintro progress _ reached rfl
    cases progress with
    | done outcome => exact Trades.pure rfl
    | blocked request => exact Trades.pure rfl
    | again request => exact ih request

/-- Trying an operation leaves loose what was gained by it, and nothing else. -/
theorem attempt (fd : Fd) (future : FutureId) (request : Request) :
    Trades 0 world (request.attempt system fd future) fun result owed _ =>
      owed = gained (gained completed) result :=
  Trades.get (fair.attemptWithin fd future _ request)

/-! ## Ending operations -/

/-- Settling operations with one verdict leaves nothing loose, if the verdict brings no descriptor. -/
theorem settleAll (operations : List Operation) {verdict : Verdict} (nothing : ended verdict = 0) :
    Trades 0 world (Engine.settleAll system verdict operations) cleared := by
  refine Trades.forM fun operation world => ?_
  rw [← nothing]
  exact fair.settle operation.future verdict

/-- Passing over operations whose futures are done leaves nothing loose. -/
theorem passOver (operations : List Operation) :
    Trades 0 world (Engine.passOver system operations) cleared := by
  induction operations generalizing world with
  | nil => exact Trades.nothing
  | cons operation rest ih =>
    unfold Engine.passOver
    refine Trades.get ?_
    split
    · exact Trades.first (fair.settle operation.future .abandoned) fun _ _ => ih
    · exact Trades.first ih fun _ _ => Trades.nothing

/-- Trying the operations of a queue again leaves nothing loose: what was gained is taken on when the
operation ends. -/
theorem retry (fd : Fd) (operations : List Operation) :
    Trades 0 world (Engine.retry system fd operations) cleared := by
  induction operations generalizing world with
  | nil => exact Trades.nothing
  | cons operation rest ih =>
    unfold Engine.retry
    refine Trades.get ?_
    split
    · exact Trades.first (fair.settle operation.future .abandoned) fun _ _ => ih
    · refine Trades.bind (fair.attempt fd operation.future operation.request) ?_
      rintro result _ reached rfl
      cases result with
      | error request => exact Trades.nothing
      | ok outcome =>
        refine Trades.bind (fair.settle operation.future (.over outcome)) ?_
        rintro _ _ reached rfl
        exact ih

/-! ## Registrations -/

/-- Removing the registration of a descriptor leaves nothing loose, and the engine keeps its poller. -/
theorem unregister (engine : Engine) (fd : Fd) :
    Trades 0 world (engine.unregister system fd) (Engine.HasPoller engine.poller) := by
  unfold Engine.unregister
  split
  · exact Trades.pure ⟨rfl, rfl⟩
  · refine Trades.first (fair.control _ _ _ _) fun _ _ => ?_
    exact Trades.first (fair.settleAll _ rfl) fun _ _ => Trades.pure ⟨rfl, rfl⟩

/-- Claiming a descriptor for a socket leaves nothing loose, and the engine keeps its poller. -/
theorem claim (engine : Engine) (socket : SocketId) (fd : Fd) :
    Trades 0 world (engine.claim system socket fd) fun claimed =>
      Engine.HasPoller engine.poller claimed.2 := by
  unfold Engine.claim
  dsimp only
  split
  · exact Trades.pure ⟨rfl, rfl⟩
  · split
    · exact Trades.pure ⟨rfl, rfl⟩
    · refine Trades.first (fair.trace _) fun _ _ => ?_
      refine Trades.bind (fair.unregister engine fd) ?_
      rintro left _ reached ⟨rfl, same⟩
      exact Trades.pure ⟨rfl, same⟩

/-- Telling the poller what to watch leaves nothing loose. -/
theorem watch (engine : Engine) (fd : Fd) (interest : Kernel.Flags) :
    Trades 0 world (engine.watch system fd interest) cleared := by
  unfold Engine.watch
  refine Trades.first (fair.control _ _ _ _) fun result _ => ?_
  split
  · split
    · exact fair.control _ _ _ _
    · exact Trades.nothing
  · exact Trades.nothing

/-- Arming the interest in a descriptor leaves nothing loose, and the engine keeps its poller. -/
theorem arm (engine : Engine) (fd : Fd) :
    Trades 0 world (engine.arm system fd) (Engine.HasPoller engine.poller) := by
  unfold Engine.arm
  split
  · exact Trades.pure ⟨rfl, rfl⟩
  · refine Trades.get ?_
    split
    · exact fair.unregister engine fd
    · refine Trades.first (fair.passOver _) fun readers _ => ?_
      refine Trades.first (fair.passOver _) fun writers _ => ?_
      dsimp only
      split
      · exact Trades.pure ⟨rfl, rfl⟩
      · refine Trades.first (fair.watch _ fd _) fun result _ => ?_
        split
        · exact Trades.pure ⟨rfl, rfl⟩
        · exact Trades.first (fair.settleAll _ rfl) fun _ _ => Trades.pure ⟨rfl, rfl⟩

/-! ## Submitting and polling -/

/-- Adding an operation to a queue leaves nothing loose, and the engine keeps its poller. -/
theorem enqueue (engine : Engine) (fd : Fd) (registration : Registration) (direction : Direction)
    (operation : Operation) :
    Trades 0 world (engine.enqueue system fd registration direction operation)
      (Engine.HasPoller engine.poller) := by
  have rest (queue : List Operation) (world : World) :
      Trades 0 world
        (let engine := engine.setRegistration fd (registration.setQueue direction queue)
        if queue.isEmpty then pure engine else engine.arm system fd)
        (Engine.HasPoller engine.poller) := by
    dsimp only
    split
    · exact Trades.pure ⟨rfl, rfl⟩
    · exact fair.arm _ fd
  unfold Engine.enqueue
  dsimp only
  split
  · exact Trades.first (fair.retry fd [operation]) rest
  · exact rest _ world

/-- Submitting an operation leaves nothing loose, and the engine keeps its poller. -/
theorem submit (engine : Engine) (socket : SocketId) (fd : Fd) (direction : Direction)
    (operation : Operation) :
    Trades 0 world (engine.submit system socket fd direction operation)
      (Engine.HasPoller engine.poller) := by
  refine Trades.bind (fair.claim engine socket fd) ?_
  rintro ⟨registration, claimed⟩ _ reached ⟨rfl, same⟩
  rw [← same]
  exact fair.enqueue claimed fd registration direction operation

/-- Beginning to connect leaves nothing loose, and the engine keeps its poller. -/
theorem beginConnect (engine : Engine) (socket : SocketId) (fd : Fd) (target : Address)
    (future : FutureId) :
    Trades 0 world (engine.connect system socket fd target future) (Engine.HasPoller engine.poller) := by
  refine Trades.first (fair.connect future fd target) fun result _ => ?_
  split
  · exact Trades.first (fair.settle future (.over (.ok .connected))) fun _ _ => Trades.pure ⟨rfl, rfl⟩
  · split
    · refine Trades.bind (fair.claim engine socket fd) ?_
      rintro ⟨registration, claimed⟩ _ reached ⟨rfl, same⟩
      rw [← same]
      exact fair.arm _ fd
    · exact Trades.first (fair.settle future (.over (.error _))) fun _ _ => Trades.pure ⟨rfl, rfl⟩

/-- Dispatching what a descriptor is ready for leaves nothing loose, and the engine keeps its poller. -/
theorem dispatch (engine : Engine) (fd : Fd) (readable writable : Bool) :
    Trades 0 world (engine.dispatch system fd readable writable) (Engine.HasPoller engine.poller) := by
  unfold Engine.dispatch
  split
  · exact Trades.pure ⟨rfl, rfl⟩
  · rename_i registration _
    have armed (readers writers : List Operation) (world : World) :
        Trades 0 world
          ((engine.setRegistration fd { registration with readers, writers }).arm system fd)
          (Engine.HasPoller engine.poller) := fair.arm _ fd
    cases readable with
    | false =>
      refine Trades.first Trades.nothing fun readers reached => ?_
      cases writable with
      | false => exact armed readers _ reached
      | true => exact Trades.first (fair.retry fd _) (armed readers)
    | true =>
      refine Trades.first (fair.retry fd registration.readers) fun readers reached => ?_
      cases writable with
      | false => exact armed readers _ reached
      | true => exact Trades.first (fair.retry fd _) (armed readers)

/-- Handling the reports of the poller leaves nothing loose, and the engine keeps its poller. -/
theorem handle (engine : Engine) (reports : List (Nat × Kernel.Flags)) :
    Trades 0 world (engine.handle system reports) (Engine.HasPoller engine.poller) := by
  induction reports generalizing engine world with
  | nil => exact Trades.pure ⟨rfl, rfl⟩
  | cons report rest ih =>
    obtain ⟨fd, flags⟩ := report
    refine Trades.first (fair.trace _) fun _ _ => ?_
    refine Trades.bind (fair.dispatch engine fd _ _) ?_
    rintro left _ reached ⟨rfl, same⟩
    rw [← same]
    exact ih left

/-- Polling the engine leaves nothing loose, and the engine keeps its poller. -/
theorem poll (engine : Engine) (timeout : Option Nat) :
    Trades 0 world (engine.poll system timeout) fun polled =>
      Engine.HasPoller engine.poller polled.2 := by
  unfold Engine.poll
  split
  · exact Trades.pure ⟨rfl, rfl⟩
  · refine Trades.first (fair.wait _ _ _) fun result _ => ?_
    split
    · split
      · exact Trades.pure ⟨rfl, rfl⟩
      · exact Trades.pure ⟨rfl, rfl⟩
    · refine Trades.bind (fair.handle engine _) ?_
      rintro left _ reached ⟨rfl, same⟩
      exact Trades.pure ⟨rfl, same⟩

end System.IsFair

end Proactor

namespace World.Trades

open Proactor (Engine System Scripted Subject)

variable {world : World}

/-- The calls of the engine's system leave nothing loose but accepted connections. -/
theorem system (endless : Errno) : (system endless).IsFair where
  receive _ fd limit := hosted (Host.stays_traced (by decide) (Kernel.stays_receive · fd limit))
  send _ fd data := hosted (Host.stays_traced (by decide) (Kernel.stays_send · fd data))
  connect _ fd target := hosted (Host.stays_traced (by decide) (Kernel.stays_connect · fd target))
  accept _ fd := hostAccept fd
  takeError _ fd := hosted (Host.stays_silent (Kernel.stays_takeError · fd))
  control poller action fd interest :=
    hosted (Host.stays_traced (by decide) (Kernel.stays_control · poller action fd interest))
  wait poller limit timeout :=
    hosted (Host.stays_traced (by decide) (Kernel.stays_wait · poller limit timeout endless))
  trace text := message .trace text
  settle future verdict := settle future verdict

/-- An engine with the same poller replaces the engine. -/
theorem setEngine {engine : Engine} (same : engine.poller = world.poller?) :
    Trades 0 world (World.setEngine engine) cleared :=
  still ⟨.refl _, rfl, same, Or.inl rfl, id⟩ rfl

/-- What the engine becomes replaces it. -/
theorem replacing {engine : Engine} {step : WorldM Engine} (found : world.poller? = engine.poller)
    (trades : Trades 0 world step (Engine.HasPoller engine.poller)) :
    Trades 0 world (step >>= World.setEngine) cleared := by
  refine bind trades.steady ?_
  rintro left _ reached ⟨⟨rfl, same⟩, kept⟩
  exact setEngine (same.trans (found.symm.trans kept.symm))

/-- The poller of the world is that of its engine. -/
theorem poller?_of_engine {engine : Engine} (found : world.completer = .engine engine) :
    world.poller? = engine.poller := by
  unfold poller?
  rw [found]

/-- Submitting to the engine leaves nothing loose. -/
theorem submitToEngine {engine : Engine} (found : world.poller? = engine.poller)
    (socket : SocketId) (subject : Subject) (future : FutureId) :
    Trades 0 world (World.submitToEngine engine socket subject future) cleared := by
  refine get ?_
  dsimp only
  cases subject with
  | receive | send | accept => exact replacing found ((system _).submit engine socket _ _ _)
  | connect => exact replacing found ((system _).beginConnect engine socket _ _ future)

/-- Submitting to the scripted completer leaves nothing loose. -/
theorem submitToScript (scripted : Scripted) (found : world.poller? = none) (socket : SocketId)
    (subject : Subject) (future : FutureId) :
    Trades 0 world (World.submitToScript scripted socket subject future) cleared :=
  get (first (still ⟨.refl _, rfl, found.symm, Or.inl rfl, id⟩ rfl) fun _ _ => record _ _ _)

/-- A scripted completer has no poller. -/
theorem poller?_of_scripted {scripted : Scripted} (found : world.completer = .scripted scripted) :
    world.poller? = none := by
  unfold poller?
  rw [found]

/-- An operation is submitted, or its future fails. -/
theorem submit (socket : SocketId) (subject : Subject) :
    Trades 0 world (World.submit socket subject) cleared := by
  refine first (onLoop _) fun future reached => get ?_
  split
  · refine thence (aside rfl) ?_
    split
    · rename_i engine found
      refine first (keeping ?_) fun _ _ => nothing
      refine submitToEngine ?_ socket subject future
      exact poller?_of_engine found
    · rename_i scripted found
      refine first (submitToScript scripted ?_ socket subject future) fun _ _ => nothing
      exact poller?_of_scripted found
  · exact first (resolve _ _) fun _ _ => nothing

/-- Cancelling the operations of a socket leaves nothing loose. -/
theorem forgetSocket (socket : SocketId) : Trades 0 world (World.forgetSocket socket) cleared := by
  refine get ?_
  split
  · split
    · rename_i engine found
      exact replacing (poller?_of_engine found) ((system _).unregister engine _)
    · exact first (record _ _ _) fun _ _ => cancelAll _
  · exact nothing

/-- Cancelling all operations leaves nothing loose. -/
theorem cancelOperations : Trades 0 world World.cancelOperations cleared := by
  refine get ?_
  split
  · rename_i engine found
    refine first (setEngine (poller?_of_engine found).symm) fun _ _ => first (aside rfl) fun _ _ => ?_
    exact forM fun operation _ => first (cancelAll _) fun _ _ => changeLoop _
  · exact first (record _ _ _) fun _ _ => cancelAll _

/-- Polling the scripted completer leaves nothing loose. -/
theorem pollScript (endless : Endless) (scripted : Scripted) (found : world.poller? = none)
    (timeout : Option Nat) : Trades 0 world (World.pollScript endless scripted timeout) cleared := by
  unfold World.pollScript
  refine get (optional (fun _ => record _ _ _) fun reached kept => ?_)
  have none := kept.trans found
  split
  · exact first (still ⟨.refl _, rfl, none.symm, Or.inl rfl, id⟩ rfl) fun _ _ => nothing
  · split
    · exact first (hosted fun host => ⟨Kernel.stays_advance _ _, .refl _⟩) fun _ _ => nothing
    · exact nothing
    · exact nothing

/-- Polling the completer leaves nothing loose. -/
theorem poll (endless : Endless) (timeout : Option Nat) :
    Trades 0 world (World.poll endless timeout) cleared := by
  refine get ?_
  split
  · rename_i engine found
    refine bind ((system _).poll engine timeout).steady ?_
    rintro ⟨result, left⟩ _ reached ⟨⟨rfl, same⟩, kept⟩
    refine first (setEngine ?_) fun _ _ => nothing
    exact same.trans ((poller?_of_engine found).symm.trans kept.symm)
  · rename_i scripted found
    exact pollScript endless scripted (poller?_of_scripted found) timeout

end World.Trades

end EventLoop
