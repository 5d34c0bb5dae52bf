import EventLoop.Proofs.Effect.Calm

/-!
# The engine is calm

Whatever the engine does on a system whose calls are calm is calm, and the operations that wait in it
afterwards waited before or were just submitted.
-/
namespace EventLoop

open World (Does calm anyhow)

variable {scope : Scope} {n : Nat} {world : World}

namespace Proactor

/-- A system all of whose calls are calm. -/
structure System.IsCalm (scope : Scope) (n : Nat) (system : System World) : Prop where
  receive : ∀ future fd limit {world},
    Does scope n calm world (system.receive future fd limit) anyhow
  send : ∀ future fd data {world}, Does scope n calm world (system.send future fd data) anyhow
  connect : ∀ future fd target {world},
    Does scope n calm world (system.connect future fd target) anyhow
  accept : ∀ future fd {world}, Does scope n calm world (system.accept future fd) anyhow
  takeError : ∀ future fd {world}, Does scope n calm world (system.takeError future fd) anyhow
  control : ∀ poller action fd interest {world},
    Does scope n calm world (system.control poller action fd interest) anyhow
  wait : ∀ poller limit timeout {world},
    Does scope n calm world (system.wait poller limit timeout) anyhow
  trace : ∀ text {world}, Does scope n calm world (system.trace text) anyhow
  settle : ∀ future verdict {world}, scope.known future →
    (verdict = .abandoned → system.isDone world future = true) →
      Does scope n calm world (system.settle future verdict) anyhow

/-- The futures of operations are known. -/
def Known (scope : Scope) (n : Nat) (operations : List Operation) : Prop :=
  ∀ operation ∈ operations, scope.known operation.future ∧ operation.future < n

namespace Known

variable {operations : List Operation} {operation : Operation}

/-- No operation is unknown if there is none. -/
theorem nil : Known scope n [] := fun _ member => nomatch member

/-- The future of the first operation is known. -/
theorem head (known : Known scope n (operation :: operations)) : scope.known operation.future :=
  (known operation List.mem_cons_self).1

/-- The futures of the other operations are known. -/
theorem tail (known : Known scope n (operation :: operations)) : Known scope n operations :=
  fun other member => known other (List.mem_cons_of_mem operation member)

/-- An operation may be put first if its future is known. -/
theorem cons (first : scope.known operation.future ∧ operation.future < n)
    (rest : Known scope n operations) : Known scope n (operation :: operations) := by
  intro other member
  rcases List.mem_cons.mp member with rfl | old
  · exact first
  · exact rest other old

/-- Known operations may be put one after another. -/
theorem append {more : List Operation} (first : Known scope n operations)
    (second : Known scope n more) : Known scope n (operations ++ more) := by
  intro other member
  rcases List.mem_append.mp member with left | right
  · exact first other left
  · exact second other right

end Known

namespace Registration

variable {registration : Registration}

/-- The operations of one direction are among those of the registration. -/
theorem known_queue (known : Known scope n registration.operations) (direction : Direction) :
    Known scope n (registration.queue direction) := by
  intro operation member
  cases direction with
  | reading => exact known operation (List.mem_append_left _ member)
  | writing => exact known operation (List.mem_append_right _ member)

/-- A queue of known operations may be set. -/
theorem known_setQueue {queue : List Operation} (known : Known scope n registration.operations)
    (new : Known scope n queue) (direction : Direction) :
    Known scope n (registration.setQueue direction queue).operations := by
  cases direction with
  | reading => exact new.append (registration.known_queue known .writing)
  | writing => exact (registration.known_queue known .reading).append new

end Registration

namespace Engine

variable {engine : Engine} {fd : Fd}

/-- The operations of a registration wait in the engine. -/
theorem known_registration? {registration : Registration}
    (known : Known scope n engine.operations)
    (found : engine.registration? fd = some registration) :
    Known scope n registration.operations := by
  intro operation member
  obtain ⟨before, rest, registrations, -⟩ := List.lookup_eq_some_iff.mp found
  refine known operation (List.mem_flatMap.mpr ⟨(fd, registration), ?_, member⟩)
  rw [registrations]
  exact List.mem_append_right before List.mem_cons_self

/-- Removing a registration adds no operation. -/
theorem known_eraseRegistration (known : Known scope n engine.operations) (fd : Fd) :
    Known scope n (engine.eraseRegistration fd).operations := by
  intro operation member
  obtain ⟨entry, kept, owned⟩ := List.mem_flatMap.mp member
  exact known operation (List.mem_flatMap.mpr ⟨entry, (List.mem_filter.mp kept).1, owned⟩)

/-- A registration of known operations may be set. -/
theorem known_setRegistration {registration : Registration}
    (known : Known scope n engine.operations) (new : Known scope n registration.operations)
    (fd : Fd) : Known scope n (engine.setRegistration fd registration).operations := by
  intro operation member
  obtain ⟨entry, kept, owned⟩ := List.mem_flatMap.mp member
  rcases List.mem_append.mp kept with old | last
  · exact known operation (List.mem_flatMap.mpr ⟨entry, (List.mem_filter.mp old).1, owned⟩)
  · rw [List.mem_singleton.mp last] at owned
    exact new operation owned

end Engine

namespace System.IsCalm

variable {system : System World} (calls : system.IsCalm scope n)

include calls

/-! ## Trying operations -/

/-- Trying an operation once is calm. -/
theorem call (request : Request) (fd : Fd) (future : FutureId) :
    Does scope n calm world (request.call system fd future) anyhow := by
  cases request with
  | receive limit =>
    refine Does.bind (calls.receive future fd limit) fun result _ _ => ?_
    cases result <;> exact Does.pure trivial
  | send data =>
    simp only [Request.call]
    split
    · exact Does.pure trivial
    · refine Does.bind (calls.send future fd data) fun result _ _ => ?_
      cases result <;> exact Does.pure trivial
  | connect =>
    refine Does.bind (calls.takeError future fd) fun result _ _ => ?_
    split <;> exact Does.pure trivial
  | accept =>
    refine Does.bind (calls.accept future fd) fun result _ _ => ?_
    split <;> exact Does.pure trivial

/-- Trying an operation while it is interrupted is calm. -/
theorem attemptWithin (fd : Fd) (future : FutureId) (limit : Nat) (request : Request) :
    Does scope n calm world (Request.attemptWithin system fd future limit request) anyhow := by
  induction limit generalizing request world with
  | zero => exact Does.pure trivial
  | succ limit ih =>
    refine Does.bind (calls.call request fd future) fun progress reached _ => ?_
    cases progress with
    | done outcome => exact Does.pure trivial
    | blocked request => exact Does.pure trivial
    | again request => exact ih request

/-- Trying an operation is calm. -/
theorem attempt (fd : Fd) (future : FutureId) (request : Request) :
    Does scope n calm world (request.attempt system fd future) anyhow :=
  Does.get (calls.attemptWithin fd future _ request)

/-! ## Ending operations -/

/-- Settling operations with one verdict is calm. -/
theorem settleAll {operations : List Operation} (known : Known scope n operations)
    {verdict : Verdict} (ends : verdict ≠ .abandoned) :
    Does scope n calm world (Engine.settleAll system verdict operations) anyhow :=
  Does.forM fun operation member _ =>
    calls.settle operation.future verdict (known operation member).1 fun same => absurd same ends

/-- Passing over operations whose futures are done is calm, and those that are left are known. -/
theorem passOver {operations : List Operation} (known : Known scope n operations) :
    Does scope n calm world (Engine.passOver system operations) fun left _ =>
      Known scope n left := by
  induction operations generalizing world with
  | nil => exact Does.pure Known.nil
  | cons operation rest ih =>
    unfold Engine.passOver
    refine Does.get ?_
    split
    · rename_i done
      exact Does.bind (calls.settle operation.future .abandoned known.head fun _ => done)
        fun _ _ _ => ih known.tail
    · refine Does.bind (ih known.tail) fun left _ knownLeft => Does.pure ?_
      exact knownLeft.cons (known operation List.mem_cons_self)

/-- Trying the operations of a queue again is calm, and those that are left are known. -/
theorem retry {operations : List Operation} (known : Known scope n operations) (fd : Fd) :
    Does scope n calm world (Engine.retry system fd operations) fun left _ =>
      Known scope n left := by
  induction operations generalizing world with
  | nil => exact Does.pure Known.nil
  | cons operation rest ih =>
    unfold Engine.retry
    refine Does.get ?_
    split
    · rename_i done
      exact Does.bind (calls.settle operation.future .abandoned known.head fun _ => done)
        fun _ _ _ => ih known.tail
    · refine Does.bind (calls.attempt fd operation.future operation.request) fun result _ _ => ?_
      cases result with
      | error request =>
        exact Does.pure (known.tail.cons (known operation List.mem_cons_self))
      | ok outcome =>
        exact Does.bind (calls.settle operation.future (.over outcome) known.head Verdict.noConfusion)
          fun _ _ _ => ih known.tail

/-! ## Registrations -/

variable {engine : Engine} (known : Known scope n engine.operations)

include known

/-- Removing the registration of a descriptor is calm, and the operations that remain are known. -/
theorem unregister (fd : Fd) :
    Does scope n calm world (engine.unregister system fd) fun engine _ =>
      Known scope n engine.operations := by
  unfold Engine.unregister
  split
  · exact Does.pure known
  · rename_i registration found
    refine Does.bind (calls.control _ _ _ _) fun _ _ _ => ?_
    refine Does.bind (calls.settleAll (Engine.known_registration? known found) Verdict.noConfusion) ?_
    exact fun _ _ _ => Does.pure (Engine.known_eraseRegistration known fd)

/-- Claiming a descriptor for a socket is calm, and the operations of the registration and of the engine
are known. -/
theorem claim (socket : SocketId) (fd : Fd) :
    Does scope n calm world (engine.claim system socket fd) fun claimed _ =>
      Known scope n claimed.1.operations ∧ Known scope n claimed.2.operations := by
  have fresh : Known scope n ({ owner := socket } : Registration).operations := Known.nil
  unfold Engine.claim
  dsimp only
  split
  · exact Does.pure ⟨fresh, Engine.known_setRegistration known fresh fd⟩
  · rename_i registration found
    split
    · exact Does.pure ⟨Engine.known_registration? known found, known⟩
    · refine Does.bind (calls.trace _) fun _ _ _ => ?_
      refine Does.bind (calls.unregister known fd) fun engine _ left => ?_
      exact Does.pure ⟨fresh, Engine.known_setRegistration left fresh fd⟩

omit known in
/-- Telling the poller what to watch is calm. -/
theorem watch (engine : Engine) (fd : Fd) (interest : Kernel.Flags) :
    Does scope n calm world (engine.watch system fd interest) anyhow := by
  unfold Engine.watch
  refine Does.bind (calls.control _ _ _ _) fun result _ _ => ?_
  split
  · split
    · exact calls.control _ _ _ _
    · exact Does.pure trivial
  · exact Does.pure trivial

/-- Arming the interest in a descriptor is calm, and the operations that remain are known. -/
theorem arm (fd : Fd) :
    Does scope n calm world (engine.arm system fd) fun engine _ =>
      Known scope n engine.operations := by
  unfold Engine.arm
  split
  · exact Does.pure known
  · rename_i registration found
    have knownHere := Engine.known_registration? known found
    refine Does.get ?_
    split
    · exact calls.unregister known fd
    · refine Does.bind (calls.passOver (registration.known_queue knownHere .reading)) ?_
      intro readers _ knownReaders
      refine Does.bind (calls.passOver (registration.known_queue knownHere .writing)) ?_
      intro writers _ knownWriters
      have left : Known scope n (readers ++ writers) := knownReaders.append knownWriters
      have kept := @Engine.known_setRegistration _ _ _ { registration with readers, writers }
        known left fd
      dsimp only
      split
      · exact Does.pure kept
      · refine Does.bind (calls.watch _ fd _) fun result _ _ => ?_
        split
        · exact Does.pure kept
        · refine Does.bind (calls.settleAll left Verdict.noConfusion) fun _ _ _ => ?_
          exact Does.pure (Engine.known_eraseRegistration kept fd)

/-! ## Submitting and polling -/

/-- Adding an operation to a queue is calm, if the future of the operation is known. -/
theorem enqueue {registration : Registration} {operation : Operation}
    (waits : Known scope n registration.operations) (fd : Fd) (direction : Direction)
    (new : scope.known operation.future ∧ operation.future < n) :
    Does scope n calm world (engine.enqueue system fd registration direction operation)
      fun engine _ => Known scope n engine.operations := by
  have single : Known scope n [operation] := Known.nil.cons new
  have waiting := registration.known_queue waits direction
  have rest (queue : List Operation) (left : Known scope n queue) (world : World) :
      Does scope n calm world
        (let engine := engine.setRegistration fd (registration.setQueue direction queue)
        if queue.isEmpty then pure engine else engine.arm system fd)
        fun engine _ => Known scope n engine.operations := by
    have stored := Engine.known_setRegistration known
      (registration.known_setQueue waits left direction) fd
    dsimp only
    split
    · exact Does.pure stored
    · exact calls.arm stored fd
  unfold Engine.enqueue
  dsimp only
  split
  · exact Does.bind (calls.retry single fd) fun queue reached left => rest queue left reached
  · exact Does.bind (Does.pure (waiting.append single)) fun queue reached left =>
      rest queue left reached

/-- Submitting an operation is calm, if the future of the operation is known. -/
theorem submit {operation : Operation} (socket : SocketId) (fd : Fd) (direction : Direction)
    (new : scope.known operation.future ∧ operation.future < n) :
    Does scope n calm world (engine.submit system socket fd direction operation) fun engine _ =>
      Known scope n engine.operations := by
  unfold Engine.submit
  refine Does.bind (calls.claim known socket fd) ?_
  rintro ⟨registration, engine⟩ reached ⟨knownHere, knownThere⟩
  exact calls.enqueue knownThere knownHere fd direction new

/-- Beginning to connect is calm, if the future of the operation is known. -/
theorem beginConnect {future : FutureId} (socket : SocketId) (fd : Fd) (target : Address)
    (new : scope.known future ∧ future < n) :
    Does scope n calm world (engine.connect system socket fd target future) fun engine _ =>
      Known scope n engine.operations := by
  unfold Engine.connect
  refine Does.bind (calls.connect future fd target) fun result _ _ => ?_
  split
  · exact Does.bind (calls.settle future _ new.1 Verdict.noConfusion) fun _ _ _ => Does.pure known
  · split
    · refine Does.bind (calls.claim known socket fd) ?_
      rintro ⟨registration, engine⟩ reached ⟨knownHere, knownThere⟩
      have single : Known scope n [⟨.connect, future⟩] := Known.nil.cons new
      have left := registration.known_setQueue knownHere
        ((registration.known_queue knownHere .writing).append single) .writing
      exact calls.arm (Engine.known_setRegistration knownThere left fd) fd
    · exact Does.bind (calls.settle future _ new.1 Verdict.noConfusion) fun _ _ _ => Does.pure known

/-- Dispatching what a descriptor is ready for is calm, and the operations that remain are known. -/
theorem dispatch (fd : Fd) (readable writable : Bool) :
    Does scope n calm world (engine.dispatch system fd readable writable) fun engine _ =>
      Known scope n engine.operations := by
  unfold Engine.dispatch
  split
  · exact Does.pure known
  · rename_i registration found
    have knownHere := Engine.known_registration? known found
    have retried (ready : Bool) (direction : Direction) (world : World) :
        Does scope n calm world
          (if ready then Engine.retry system fd (registration.queue direction)
            else pure (registration.queue direction))
          fun left _ => Known scope n left := by
      split
      · exact calls.retry (registration.known_queue knownHere direction) fd
      · exact Does.pure (registration.known_queue knownHere direction)
    have armed (readers writers : List Operation) (knownReaders : Known scope n readers)
        (knownWriters : Known scope n writers) (world : World) :
        Does scope n calm world
          ((engine.setRegistration fd { registration with readers, writers }).arm system fd)
          fun engine _ => Known scope n engine.operations :=
      calls.arm (@Engine.known_setRegistration _ _ _ { registration with readers, writers } known
        (knownReaders.append knownWriters) fd) fd
    dsimp only
    refine Does.choose (retried readable .reading world) fun readers first knownReaders => ?_
    refine Does.choose (retried writable .writing first) fun writers second knownWriters => ?_
    exact armed readers writers knownReaders knownWriters second

/-- Handling the reports of the poller is calm, and the operations that remain are known. -/
theorem handle (reports : List (Nat × Kernel.Flags)) :
    Does scope n calm world (engine.handle system reports) fun engine _ =>
      Known scope n engine.operations := by
  induction reports generalizing engine world with
  | nil => exact Does.pure known
  | cons report rest ih =>
    refine Does.bind (calls.trace _) fun _ _ _ => ?_
    exact Does.bind (calls.dispatch known _ _ _) fun engine _ left => ih left

/-- Polling the engine is calm, and the operations that remain are known. -/
theorem poll (timeout : Option Nat) :
    Does scope n calm world (engine.poll system timeout) fun result _ =>
      Known scope n result.2.operations := by
  unfold Engine.poll
  split
  · exact Does.pure known
  · refine Does.bind (calls.wait _ _ _) fun result _ _ => ?_
    split
    · split
      · exact Does.pure known
      · exact Does.pure known
    · exact Does.bind (calls.handle known _) fun engine _ left => Does.pure left

end System.IsCalm

end Proactor

end EventLoop
