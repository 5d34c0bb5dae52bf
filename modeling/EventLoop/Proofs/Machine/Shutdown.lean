import EventLoop.Proofs.Machine.Stages
import EventLoop.Proofs.Transport.Traffic

/-!
# What closing the loop cancels and closes

The first half of closing the loop cancels every operation that waits in the engine: those on the loop's own
pipe when their registration is forgotten, and then all others. No future is resolved in another way. Both
ends of the pipe are closed.
-/
namespace EventLoop

open Proactor (Engine Operation Registration)

/-- No future keeps a task alive. -/
theorem Future.task_not_mem_refs (future : Future) (id : TaskId) : Ref.task id ∉ future.refs := by
  intro member
  rcases future with ⟨kind, phase⟩
  cases phase with
  | pending reactions timer =>
    obtain ⟨reaction, -, mentioned⟩ := List.mem_flatMap.mp member
    cases reaction <;> simp [Reaction.refs] at mentioned
  | cancelled => cases member
  | finished outcome =>
    rcases outcome with _ | error | payload
    · cases member
    · cases member
    · cases payload <;> simp [Future.refs, Payload.refs] at member

/-- A future that was emptied is as far as it was. -/
theorem Future.state_emptied (future : Future) : future.emptied.state = future.state := by
  rcases future with ⟨kind, phase⟩
  cases phase with
  | pending | cancelled | finished => rfl

namespace Loop

variable {loop other : Loop} {id : FutureId}

/-- Some futures that were pending are cancelled, and nothing else becomes of any. -/
structure Cancels (loop other : Loop) : Prop where
  /-- There are as many futures as before. -/
  size : other.futures.size = loop.futures.size
  /-- The loop runs if it ran before. -/
  running : other.running = loop.running
  /-- It is not opened. -/
  closed : loop.closed = true → other.closed = true
  /-- Each is as far as it was, or was cancelled. -/
  state : ∀ id, other.futureState id = loop.futureState id ∨
    loop.futureState id = .pending ∧ other.futureState id = .cancelled

/-- Resolving a future neither makes the loop run or stop nor closes it. -/
theorem running_resolve (loop : Loop) (id : FutureId) (resolution : Resolution) :
    (loop.resolve id resolution).2.running = loop.running ∧
      (loop.resolve id resolution).2.closed = loop.closed := by
  rw [resolve_eq]
  split
  · rw [replaceFuture_eq]
    exact ⟨rfl, rfl⟩
  · exact ⟨rfl, rfl⟩

namespace Cancels

/-- The same futures are cancelled no further. -/
theorem of_futures (same : other.futures = loop.futures) (running : other.running = loop.running)
    (closed : loop.closed = true → other.closed = true) : loop.Cancels other := by
  refine ⟨by rw [same], running, closed, fun id => Or.inl ?_⟩
  unfold futureState
  rw [same]

/-- What cancels twice cancels. -/
theorem trans {last : Loop} (before : loop.Cancels other) (after : other.Cancels last) :
    loop.Cancels last := by
  refine ⟨after.size.trans before.size, after.running.trans before.running,
    fun closed => after.closed (before.closed closed), fun id => ?_⟩
  rcases before.state id with same | ⟨pending, cancelled⟩
  · rw [← same]
    exact after.state id
  · refine Or.inr ⟨pending, ?_⟩
    rcases after.state id with same | ⟨open_, -⟩
    · exact same.trans cancelled
    · rw [cancelled] at open_
      cases open_

/-- Cancelling a future cancels it at most. -/
theorem resolve (loop : Loop) (id : FutureId) : loop.Cancels (loop.resolve id .cancel).2 := by
  obtain ⟨running, closed⟩ := running_resolve loop id .cancel
  refine ⟨size_futures_resolve _ _ _, running, closed.trans, fun other => ?_⟩
  rw [futureState_eq, futureState_eq, fate_resolve]
  split
  · rename_i here
    refine Or.inr ⟨?_, rfl⟩
    rw [here.1, here.2.1]
    rfl
  · exact Or.inl rfl

/-- Emptying a future cancels none. -/
theorem emptied (loop : Loop) (id : FutureId) :
    loop.Cancels { loop with futures := loop.futures.modify id Future.emptied } := by
  refine ⟨Table.size_modify _ _ _, rfl, fun closed => closed, fun other => Or.inl ?_⟩
  unfold futureState
  dsimp only
  rw [Table.get?_modify]
  by_cases here : other = id
  · rw [if_pos here]
    cases loop.futures.get? other with
    | none => rfl
    | some future => exact future.state_emptied
  · rw [if_neg here]

/-- What was done is done. -/
theorem isDone (cancels : loop.Cancels other) (done : loop.isDone id = true) :
    other.isDone id = true := by
  unfold Loop.isDone at done ⊢
  rcases cancels.state id with same | ⟨pending, -⟩
  · rw [same]
    exact done
  · rw [pending] at done
    cases done

/-- Whatever is done now and was not before is cancelled. -/
theorem cancelled (cancels : loop.Cancels other) (pending : loop.isDone id = false)
    (done : other.isDone id = true) : other.futureState id = .cancelled := by
  unfold Loop.isDone at pending done
  rcases cancels.state id with same | ⟨-, cancelled⟩
  · rw [same, pending] at done
    cases done
  · exact cancelled

end Cancels

end Loop

namespace World

variable {α β : Type} {world : World}

/-! ## Steps that cancel and nothing else -/

/-- A step resolves no future in another way than by cancelling it. -/
def CancelsOnly (step : WorldM α) : Prop := ∀ world : World, world.loop.Cancels (step world).2.loop

namespace CancelsOnly

/-- The futures are left alone. -/
theorem aside {step : WorldM α} (same : ∀ world, (step world).2.loop.futures = world.loop.futures ∧
    (step world).2.loop.running = world.loop.running ∧
      (world.loop.closed = true → (step world).2.loop.closed = true)) : CancelsOnly step :=
  fun world => .of_futures (same world).1 (same world).2.1 (same world).2.2

/-- Doing nothing cancels nothing. -/
theorem pure {value : α} : CancelsOnly (Pure.pure value) := aside fun _ => ⟨rfl, rfl, fun closed => closed⟩

/-- A step that goes on cancels only, if both of its parts do. -/
theorem bind {step : WorldM α} {next : α → WorldM β} (first : CancelsOnly step)
    (second : ∀ value, CancelsOnly (next value)) : CancelsOnly (step >>= next) :=
  fun world => (first world).trans (second _ _)

/-- The state is read. -/
theorem get {next : World → WorldM α} (each : ∀ world, CancelsOnly (next world)) :
    CancelsOnly (MonadState.get >>= next) := fun world => each world world

/-- A step that is repeated cancels only, if it does so each time. -/
theorem forM {elements : List α} {action : α → WorldM PUnit}
    (each : ∀ element ∈ elements, CancelsOnly (action element)) : CancelsOnly (elements.forM action) := by
  induction elements with
  | nil => exact pure
  | cons element rest ih =>
    refine bind (each element List.mem_cons_self) fun _ => ih fun other member => ?_
    exact each other (List.mem_cons_of_mem element member)

/-- Cancelling futures cancels only. -/
theorem cancelAll (futures : List FutureId) : CancelsOnly (World.cancelAll futures) :=
  forM fun future _ world => .resolve world.loop future

/-- A step of the host resolves no future. -/
theorem onHost (step : HostM α) : CancelsOnly (World.onHost step) :=
  aside fun _ => ⟨rfl, rfl, fun closed => closed⟩

/-- Giving references up resolves no future. -/
theorem drop (refs : List Ref) : CancelsOnly (World.changeLoop (·.drop refs)) :=
  aside fun _ => ⟨rfl, rfl, fun closed => closed⟩

/-- Closing a socket resolves no future. -/
theorem closeSocket (socket : SocketId) : CancelsOnly (World.closeSocket socket) := by
  refine get fun world => ?_
  dsimp only
  split
  · exact bind (aside fun _ => ⟨rfl, rfl, fun closed => closed⟩) fun _ => onHost _
  · exact pure

/-- An object that is no task is released. -/
theorem release {ref : Ref} (other : ∀ id, ref ≠ .task id) : CancelsOnly (World.release ref) := by
  cases ref with
  | socket id => exact closeSocket id
  | task id => exact absurd rfl (other id)
  | future id =>
    refine get fun world => ?_
    split
    · exact fun world => (Loop.Cancels.emptied world.loop id).trans (.of_futures rfl rfl fun closed => closed)
    · exact pure
  | transport id | server id =>
    refine get fun world => ?_
    split
    · exact bind (aside fun _ => ⟨rfl, rfl, fun closed => closed⟩) fun _ => drop _
    · exact pure

/-- Releasing an object that nothing mentions cancels only, unless it is a task. -/
theorem releaseUnmentioned {ref : Ref} (other : ∀ id, ref ≠ .task id) :
    CancelsOnly (World.releaseUnmentioned ref) := by
  refine get fun world => ?_
  split
  · refine bind (aside fun _ => ⟨rfl, rfl, fun closed => closed⟩) fun _ => bind (release other) fun _ => ?_
    exact get fun _ => bind (aside fun _ => ⟨rfl, rfl, fun closed => closed⟩) fun _ => pure
  · exact pure

end CancelsOnly

/-- What a future gives up is what it kept alive. -/
theorem releaseUnmentioned_future_subset (future : FutureId) (world : World) :
    ∀ ref ∈ (releaseUnmentioned (.future future) world).1, ∀ id, ref ≠ .task id := by
  intro ref member id
  by_cases free : (world.isMissed (.future future) && !world.isMentioned (.future future)) = true
  · have missed : (world.loop.futures.get? future).any (·.isMissed) = true :=
      (Bool.and_eq_true_iff.mp free).1
    cases found : world.loop.futures.get? future with
    | none =>
      rw [found] at missed
      cases missed
    | some entry =>
      rw [releaseUnmentioned_of_free free (release_future found)] at member
      have listed : ref ∈ entry.refs := member
      rintro rfl
      exact entry.task_not_mem_refs id listed
  · rw [releaseUnmentioned_of_kept free] at member
    cases member

namespace CancelsOnly

/-- An operation that is over lets go of its future. -/
theorem letGo (future : FutureId) : CancelsOnly (World.letGo future) := by
  refine bind (aside fun _ => ⟨rfl, rfl, fun closed => closed⟩) fun _ world => ?_
  have first : CancelsOnly (World.releaseUnmentioned (.future future)) := releaseUnmentioned nofun
  refine (first world).trans ?_
  refine @forM _ _ (fun ref => do
    let given ← World.releaseUnmentioned ref
    World.changeLoop (·.drop given)) (fun ref member => ?_) _
  exact bind (releaseUnmentioned (releaseUnmentioned_future_subset future world ref member)) fun _ =>
    drop _

/-- Settling an operation as cancelled cancels only. -/
theorem settle (future : FutureId) : CancelsOnly (World.settle future .cancelled) :=
  bind (cancelAll [future]) fun _ => letGo future

/-- The engine cancels what it forgets. -/
theorem unregister (engine : Engine) (fd : Fd) : CancelsOnly (engine.unregister engineSystem fd) := by
  unfold Engine.unregister
  split
  · exact pure
  · refine bind (aside fun _ => ⟨rfl, rfl, fun closed => closed⟩) fun _ =>
      bind (forM fun operation _ => ?_) fun _ => pure
    exact settle operation.future

/-- Cancelling the operations of a socket cancels only. -/
theorem forgetSocket (socket : SocketId) : CancelsOnly (World.forgetSocket socket) := by
  refine get fun world => ?_
  split
  · dsimp only
    split
    · exact bind (unregister _ _) fun _ => aside fun _ => ⟨rfl, rfl, fun closed => closed⟩
    · exact bind (onHost _) fun _ => cancelAll _
  · exact pure

/-- Closing the loop's own pipe cancels only. -/
theorem closePipe : CancelsOnly World.closePipe := by
  refine get fun world => bind (aside fun _ => ⟨rfl, rfl, fun closed => closed⟩) fun _ => ?_
  split
  · exact bind (forgetSocket _) fun _ => bind (closeSocket _) fun _ => closeSocket _
  · exact pure

/-- Cancelling all operations cancels only. -/
theorem cancelOperations : CancelsOnly World.cancelOperations := by
  refine get fun world => ?_
  split
  · refine bind (aside fun _ => ⟨rfl, rfl, fun closed => closed⟩) fun _ =>
      bind (aside fun _ => ⟨rfl, rfl, fun closed => closed⟩) fun _ => forM fun operation _ => ?_
    exact bind (cancelAll _) fun _ => drop _
  · exact bind (onHost _) fun _ => cancelAll _

/-- Closing the loop resolves no future in another way than by cancelling it. -/
theorem beginClose : CancelsOnly World.beginClose :=
  bind closePipe fun _ => bind (aside fun _ => ⟨rfl, rfl, fun _ => rfl⟩) fun _ =>
    bind cancelOperations fun _ => aside fun _ => ⟨rfl, rfl, fun closed => closed⟩

end CancelsOnly

/-- The loop is closed after it began to close. -/
theorem closed_beginClose (world : World) : (beginClose world).2.loop.closed = true := by
  have shut : ({ (closePipe world).2 with
      loop := { (closePipe world).2.loop with closed := true } } : World).loop.closed = true := rfl
  exact (CancelsOnly.cancelOperations _).closed shut

/-! ## What is cancelled -/

/-- A future that exists is done after it was cancelled. -/
theorem isDone_cancel {future : FutureId} (exists_ : future < world.loop.futures.size) :
    (cancelAll [future] world).2.loop.isDone future = true := by
  rw [cancelAll_eq, Loop.isDone_iff]
  change (world.loop.resolve future .cancel).2.fate future ≠ .pending
  rw [Loop.fate_resolve]
  split
  · exact nofun
  · rename_i other
    exact fun pending => other ⟨rfl, pending, exists_⟩

/-- Whatever is cancelled for one operation after another is done afterwards. -/
theorem isDone_forM {operations : List Operation} {action : Operation → WorldM PUnit}
    (only : ∀ operation, CancelsOnly (action operation))
    (ends : ∀ operation (world : World), operation.future < world.loop.futures.size →
      (action operation world).2.loop.isDone operation.future = true)
    {operation : Operation} (member : operation ∈ operations)
    (exists_ : operation.future < world.loop.futures.size) :
    (operations.forM action world).2.loop.isDone operation.future = true := by
  induction operations generalizing world with
  | nil => cases member
  | cons first rest ih =>
    have later : CancelsOnly (rest.forM action) := .forM fun other _ => only other
    change (rest.forM action (action first world).2).2.loop.isDone operation.future = true
    rcases List.mem_cons.mp member with rfl | further
    · exact (later _).isDone (ends operation world exists_)
    · exact ih further ((only first world).size ▸ exists_)

/-- Whoever waits in the engine waits there still after a descriptor was forgotten, or is done. -/
theorem waits_unregister {engine : Engine} {fd : Fd} {operation : Operation} (keyed : engine.Keyed)
    (waits : operation ∈ engine.operations) (exists_ : operation.future < world.loop.futures.size) :
    operation ∈ (engine.unregister engineSystem fd world).1.operations ∨
      (engine.unregister engineSystem fd world).2.loop.isDone operation.future = true := by
  obtain ⟨place, registration, found, queued⟩ := keyed.registration_of_mem waits
  cases here : engine.registration? fd with
  | none =>
    have same : engine.unregister engineSystem fd world = (engine, world) := by
      unfold Engine.unregister
      rw [here]
      rfl
    rw [same]
    exact Or.inl waits
  | some forgotten =>
    have step : engine.unregister engineSystem fd world = (engine.eraseRegistration fd,
        (Engine.settleAll engineSystem .cancelled forgotten.operations
          (engineSystem.control engine.pollerFd .delete fd .none world).2).2) := by
      unfold Engine.unregister
      rw [here]
      rfl
    rw [step]
    by_cases same : place = fd
    · subst same
      rw [here] at found
      cases found
      refine Or.inr (isDone_forM (fun other => .settle other.future) (fun other world exists_ => ?_)
        queued exists_)
      exact (CancelsOnly.letGo other.future _).isDone (isDone_cancel exists_)
    · obtain ⟨before, after, split, -⟩ := List.lookup_eq_some_iff.mp found
      refine Or.inl (List.mem_flatMap.mpr ⟨(place, registration), List.mem_filter.mpr ⟨?_, ?_⟩, queued⟩)
      · rw [split]
        exact List.mem_append_right before List.mem_cons_self
      · exact bne_iff_ne.mpr same

/-- Whoever waits in the engine is done after all operations were cancelled. -/
theorem isDone_cancelOperations {engine : Engine} {operation : Operation}
    (found : world.completer = .engine engine) (waits : operation ∈ engine.operations)
    (exists_ : operation.future < world.loop.futures.size) :
    (cancelOperations world).2.loop.isDone operation.future = true := by
  have step : (cancelOperations world).2 = (engine.operations.forM (fun operation => do
      cancelAll [operation.future]
      drop (.future operation.future)) { world with
        completer := .engine { engine with registrations := [] }, operations := [] }).2 := by
    unfold cancelOperations
    simp only [StateM.bind_apply, StateM.get_apply, found]
    rfl
  rw [step]
  refine isDone_forM (fun other => .bind (.cancelAll _) fun _ => .drop _)
    (fun other world exists_ => ?_) waits exists_
  exact isDone_cancel exists_

/-! ## The loop's own pipe -/

/-- A socket that is closed stays closed when a socket is closed. -/
theorem isOpen_of_closeSocket {id : SocketId} (closed : world.isOpen id = false) (socket : SocketId) :
    (closeSocket socket world).2.isOpen id = false := by
  rw [snd_closeSocket]
  split
  · by_cases same : id = socket
    · subst same
      unfold isOpen fdOf
      rw [Table.get?_modify_self]
      cases world.sockets.get? id with
      | none => rfl
      | some fd => rfl
    · unfold isOpen fdOf
      rw [Table.get?_modify_of_ne _ _ same]
      exact closed
  · exact closed

/-- Cancelling all operations closes no socket. -/
theorem sockets_cancelOperations (world : World) :
    (cancelOperations world).2.sockets = world.sockets := by
  have each (operations : List Operation) (world : World) : (operations.forM (fun operation => do
      cancelAll [operation.future]
      drop (.future operation.future)) world).2.sockets = world.sockets := by
    induction operations generalizing world with
    | nil => rfl
    | cons operation rest ih => exact ih _
  unfold cancelOperations
  cases found : world.completer with
  | engine engine =>
    simp only [StateM.bind_apply, StateM.get_apply, found]
    exact each engine.operations _
  | scripted scripted =>
    simp only [StateM.bind_apply, StateM.get_apply, found]
    rw [cancelAll_eq]
    rfl

/-- Closing the loop closes both ends of its own pipe. -/
theorem isOpen_beginClose (world : World) : ∀ pipe, world.pipe = some pipe →
    (beginClose world).2.isOpen pipe.reader = false ∧ (beginClose world).2.isOpen pipe.writer = false := by
  intro pipe found
  have sockets : (beginClose world).2.sockets = (closePipe world).2.sockets :=
    sockets_cancelOperations { (closePipe world).2 with
      loop := { (closePipe world).2.loop with closed := true } }
  have same (id : SocketId) : (beginClose world).2.isOpen id = (closePipe world).2.isOpen id := by
    unfold isOpen fdOf
    rw [sockets]
  have step : (closePipe world).2 = (closeSocket pipe.writer (closeSocket pipe.reader
      (forgetSocket pipe.reader { world with pipe := none, wakeup := Kernel.closedFd }).2).2).2 := by
    unfold closePipe
    simp only [StateM.bind_apply, StateM.get_apply, found]
    rfl
  rw [same, same, step]
  exact ⟨isOpen_of_closeSocket (isOpen_closeSocket pipe.reader _) pipe.writer,
    isOpen_closeSocket pipe.writer _⟩

/-- Whoever waits in the engine waits there still after the pipe was closed, or is done. -/
theorem waits_closePipe {engine : Engine} {operation : Operation} (keyed : engine.Keyed)
    (found : world.completer = .engine engine) (waits : operation ∈ engine.operations)
    (exists_ : operation.future < world.loop.futures.size) :
    ∃ left, (closePipe world).2.completer = .engine left ∧
      (operation ∈ left.operations ∨ (closePipe world).2.loop.isDone operation.future = true) := by
  have closes (socket : SocketId) (world : World) :
      (closeSocket socket world).2.completer = world.completer ∧
        (closeSocket socket world).2.loop = world.loop := by
    rw [snd_closeSocket]
    split
    · exact ⟨rfl, rfl⟩
    · exact ⟨rfl, rfl⟩
  cases fitted : world.pipe with
  | none =>
    have step : (closePipe world).2 = { world with pipe := none, wakeup := Kernel.closedFd } := by
      unfold closePipe
      simp only [StateM.bind_apply, StateM.get_apply, fitted]
      rfl
    rw [step]
    exact ⟨engine, found, Or.inl waits⟩
  | some pipe =>
    have step : (closePipe world).2 = (closeSocket pipe.writer (closeSocket pipe.reader
        (forgetSocket pipe.reader { world with pipe := none, wakeup := Kernel.closedFd }).2).2).2 := by
      unfold closePipe
      simp only [StateM.bind_apply, StateM.get_apply, fitted]
      rfl
    rw [step, (closes _ _).1, (closes _ _).1, (closes _ _).2, (closes _ _).2]
    by_cases taken : world.submitting = true
    · have forgets : (forgetSocket pipe.reader
          { world with pipe := none, wakeup := Kernel.closedFd }).2 =
            (setEngine (engine.unregister engineSystem (world.fdOf pipe.reader)
              { world with pipe := none, wakeup := Kernel.closedFd }).1
              (engine.unregister engineSystem (world.fdOf pipe.reader)
                { world with pipe := none, wakeup := Kernel.closedFd }).2).2 := by
        unfold forgetSocket
        simp only [StateM.bind_apply, StateM.get_apply, taken, found]
        rfl
      rw [forgets]
      exact ⟨_, rfl, waits_unregister keyed waits exists_⟩
    · have nothing : (forgetSocket pipe.reader
          { world with pipe := none, wakeup := Kernel.closedFd }).2 =
            { world with pipe := none, wakeup := Kernel.closedFd } := by
        unfold forgetSocket
        simp only [StateM.bind_apply, StateM.get_apply, taken]
        rfl
      rw [nothing]
      exact ⟨engine, found, Or.inl waits⟩

/-- Closing the loop cancels every operation that waits in the engine and is pending. -/
theorem futureState_beginClose {engine : Engine} {operation : Operation} (keyed : engine.Keyed)
    (found : world.completer = .engine engine) (waits : operation ∈ engine.operations)
    (exists_ : operation.future < world.loop.futures.size)
    (pending : world.loop.isDone operation.future = false) :
    (beginClose world).2.loop.futureState operation.future = .cancelled := by
  refine (CancelsOnly.beginClose world).cancelled pending ?_
  obtain ⟨left, completer, waits | done⟩ := waits_closePipe keyed found waits exists_
  · have size := (CancelsOnly.closePipe world).size
    exact @isDone_cancelOperations { (closePipe world).2 with
      loop := { (closePipe world).2.loop with closed := true } } left operation completer waits
      (size.symm ▸ exists_)
  · exact (CancelsOnly.cancelOperations { (closePipe world).2 with
      loop := { (closePipe world).2.loop with closed := true } }).isDone done

/-! ## What stays cancelled -/

variable {scope : Scope} {aspect : Aspect} {aspects : List Aspect} {before after : World}

/-- A future that is cancelled stays cancelled, whatever changes. -/
theorem Change.staysCancelled {future : FutureId} (change : Change scope aspect before after)
    (cancelled : before.loop.fate future = .cancelled) : after.loop.fate future = .cancelled := by
  have bound : future < before.loop.futures.size := by
    cases found : before.loop.futures.get? future with
    | none =>
      rw [Loop.fate, found] at cancelled
      cases cancelled
    | some entry => exact Table.lt_size_of_get? found
  have resolved {loop : Loop} (id : FutureId) (resolution : Resolution)
      (cancelled : loop.fate future = .cancelled) :
      (loop.resolve id resolution).2.fate future = .cancelled := by
    rw [Loop.fate_resolve, if_neg]
    · exact cancelled
    · rintro ⟨rfl, pending, -⟩
      rw [pending] at cancelled
      cases cancelled
  cases change with
  | surroundings | held | dropped | names | devices | fitted | disarmed | asked | released | turned
  | retired | servers | woken | stopAsked | stopped | flags | shut | cleared | abandoned
  | primitives => exact cancelled
  | connected =>
    refine addTransport_loop (·.fate future = .cancelled) cancelled fun loop callback same => ?_
    exact (congrFun (Loop.fate_congr (Loop.futures_callSoon loop callback)) future).trans same
  | made _ kind now timeout => exact (Loop.fate_makeTimed kind now timeout bound).trans cancelled
  | resolved | granted | expired => exact resolved _ _ cancelled
  | registered | bound | enlisted =>
    rw [Loop.fate_whenDone]
    exact cancelled
  | awaited =>
    rw [Loop.fate_await]
    exact cancelled
  | taken _ id entry known found =>
    rw [Loop.fate_modify rfl]
    split
    · rename_i here
      subst here
      rw [Loop.fate, found] at cancelled
      rcases entry with ⟨kind, phase⟩
      rw [found]
      cases phase with
      | pending => cases cancelled
      | cancelled => rfl
      | finished outcome =>
        have cancelled : (⟨kind, .finished outcome⟩ : Future).fate = .cancelled := cancelled
        have state := Future.state_eq ⟨kind, .finished outcome⟩
        rw [cancelled] at state
        cases state
    · exact cancelled
  | emptied _ id entry found missed | deserted _ id entry found missed =>
    have emptied := @Loop.fate_modify before.loop { before.loop with
      futures := before.loop.futures.modify id Future.emptied } id _ rfl future
    refine emptied.trans ?_
    split
    · rename_i here
      subst here
      rw [Loop.fate, found] at cancelled
      rw [found]
      exact (Future.fate_emptied missed).trans cancelled
    · exact cancelled
  | called | announced | summoned =>
    rw [Loop.fate_congr (Loop.futures_callSoon _ _)]
    exact cancelled
  | scheduled =>
    rw [Loop.fate_congr (Loop.futures_callAt _ _ _)]
    exact cancelled
  | spawned _ name body =>
    unfold Loop.spawn Loop.makeFuture Loop.addFuture
    dsimp only
    split
    · exact resolved _ _ ((Loop.fate_push rfl bound).trans cancelled)
    · rw [Loop.fate_congr (Loop.futures_schedule _ _)]
      exact (Loop.fate_push rfl bound).trans cancelled
  | pollBegun =>
    rw [Loop.fate_congr (Loop.futures_beginPoll _ _)]
    exact cancelled
  | pollEnded =>
    rw [Loop.fate_congr (Loop.futures_endPoll _ _ _)]
    exact cancelled
  | completed _ id value =>
    unfold Loop.complete
    split
    · split
      · refine resolved _ _ ?_
        rw [Loop.fate_congr (Loop.futures_retire _ _)]
        exact cancelled
      · exact cancelled
    · exact cancelled
  | cancelled _ id task =>
    unfold Loop.beginCancel
    rw [Loop.fate_congr (Loop.futures_retire _ _)]
    exact cancelled
  | prepared =>
    rw [Loop.fate_congr (Loop.futures_prepare _ _)]
    exact cancelled
  | gathered =>
    rw [Loop.fate_congr (Loop.futures_gather _ _)]
    exact cancelled
  | readyTaken =>
    rw [Loop.fate_congr (Loop.futures_takeReady _)]
    exact cancelled

/-- The same goes for changes one after another. -/
theorem Changes.staysCancelled {future : FutureId} (changes : Changes scope aspects before after)
    (cancelled : before.loop.futureState future = .cancelled) :
    after.loop.futureState future = .cancelled := by
  rw [Loop.cancelled_iff] at cancelled ⊢
  exact @preserves scope aspects (·.loop.fate future = .cancelled)
    (fun _ change => change.staysCancelled) before after changes cancelled

end World

end EventLoop
