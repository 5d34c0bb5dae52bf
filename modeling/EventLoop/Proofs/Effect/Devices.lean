import EventLoop.Proofs.Effect.Engine

/-!
# Operations, transports and servers are calm

Submitting an operation makes a future that the operation may resolve. Everything that transports,
servers and the loop's own pipe do is made of that and of calm steps.
-/
namespace EventLoop

/-- Futures that are made from now on may be resolved by anything. -/
def Scope.Fresh (scope : Scope) (n : Nat) : Prop := ∀ future, n ≤ future → scope.known future

namespace World.Calm

open Proactor (Known)
open Net (Transport Server Effect Listener)

variable {α β : Type} {scope : Scope} {n : Nat} {world : World}

/-- A future that is resolved after a delay. -/
theorem makeSleep (fresh : scope.Fresh n) (now delay : Nat) :
    Does scope n calm world (onLoop (·.makeSleep now delay)) fun future reached =>
      reached.loop.Knows scope.known future := by
  intro within
  have new : ({ world.loop with futures := world.loop.futures.push (.new .unit) } : Loop).Knows
      scope.known world.loop.futures.size :=
    ⟨fresh _ within.loop.base, by rw [Table.size_push]; exact Nat.lt_succ_self _⟩
  have made : Changes scope calm world { world with loop := { world.loop with
      futures := world.loop.futures.push (.new .unit) } } :=
    .single (by decide) (.made world .unit 0 none)
  have scheduled := @Change.scheduled scope { world with loop := { world.loop with
    futures := world.loop.futures.push (.new .unit) } } (now + delay)
    (.resolve world.loop.futures.size) rfl (fun future resolved => Option.some.inj resolved ▸ new) rfl rfl
    rfl rfl
  refine ⟨made.trans (.single (by decide) scheduled), ?_⟩
  exact ⟨new.1, Nat.lt_of_lt_of_le new.2 scheduled.grows.loop.futures⟩

/-! ## The completer -/

/-- The operations of the engine are known. -/
theorem known_operations {engine : Proactor.Engine} (within : world.Within scope n)
    (found : world.completer = .engine engine) :
    Known scope world.loop.futures.size engine.operations := by
  intro operation member
  refine within.completer operation.future ?_
  rw [found]
  exact List.mem_map.mpr ⟨operation, member, rfl⟩

/-- The engine has one registration at most for each descriptor. -/
theorem keyed_engine {engine : Proactor.Engine} (within : world.Within scope n)
    (found : world.completer = .engine engine) : engine.Keyed := by
  have keyed := within.keyed
  rw [found] at keyed
  exact keyed

/-- The operations of the scripted proactor are known. -/
theorem known_submissions {scripted : Proactor.Scripted} (within : world.Within scope n)
    (found : world.completer = .scripted scripted) :
    ∀ future ∈ scripted.futures, world.loop.Knows scope.known future := by
  intro future member
  refine within.completer future ?_
  rw [found]
  exact member

/-- Making the payload of a completion is calm. -/
theorem payloadOf (completion : Proactor.Completion) :
    Does scope n calm world (payloadOf completion) anyhow := by
  cases completion with
  | received | sent | connected => exact Does.pure trivial
  | accepted fd peer => exact Does.bind (makeSocket fd) fun _ _ _ => Does.pure trivial

/-- Settling an operation is calm, if its future is known. -/
theorem settle {future : FutureId} {verdict : Proactor.Verdict} (known : scope.known future)
    (done : verdict = .abandoned → world.loop.isDone future = true) :
    Does scope n calm world (settle future verdict) anyhow := by
  unfold World.settle
  dsimp only
  split
  · refine Does.bind (payloadOf _) fun payload _ _ => ?_
    exact Does.bind (resolve _ known) fun _ _ resolved => letGo resolved
  · exact Does.bind (resolve _ known) fun _ _ resolved => letGo resolved
  · exact Does.bind (resolve .cancel known) fun _ _ resolved => letGo resolved
  · exact letGo (Loop.isResolved_of_isDone (done rfl))

/-- The calls of the engine's system are calm. -/
theorem system (endless : Errno) : (system endless).IsCalm scope n where
  receive _ _ _ _ := onHost _
  send _ _ _ _ := onHost _
  connect _ _ _ _ := onHost _
  accept _ _ _ := onHost _
  takeError _ _ _ := onHost _
  control _ _ _ _ _ := onHost _
  wait _ _ _ _ := onHost _
  trace _ _ := message _ _
  settle _ _ _ known done := settle known done

/-- Changing the engine is calm, if its operations are known and no descriptor has two registrations. -/
theorem setEngine {engine : Proactor.Engine} (known : Known scope n engine.operations)
    (keyed : engine.Keyed) : Does scope n calm world (setEngine engine) anyhow := by
  refine Does.assuming fun within => Does.modify (by decide)
    (.devices world _ (.engine engine) _ ?_ keyed (lasts_refl _)) trivial
  intro future member
  obtain ⟨operation, waits, rfl⟩ := List.mem_map.mp member
  have knownHere := known operation waits
  exact ⟨knownHere.1, Nat.lt_of_lt_of_le knownHere.2 within.loop.base⟩

/-- Submitting an operation to the engine is calm, if its future is known. -/
theorem submitToEngine {engine : Proactor.Engine} {future : FutureId}
    (known : Known scope n engine.operations) (keyed : engine.Keyed) (new : scope.known future ∧ future < n)
    (socket : SocketId) (subject : Proactor.Subject) :
    Does scope n calm world (submitToEngine engine socket subject future) anyhow := by
  have calls := @system scope n .deadlock
  unfold World.submitToEngine
  refine Does.get ?_
  dsimp only
  split
  · exact Does.bind ((calls.submit known socket _ _ new).also (keyed.submit _ _ _ _ world trivial))
      fun _ _ left => setEngine left.1 left.2
  · exact Does.bind ((calls.submit known socket _ _ new).also (keyed.submit _ _ _ _ world trivial))
      fun _ _ left => setEngine left.1 left.2
  · exact Does.bind
      ((calls.beginConnect known socket _ _ new).also (keyed.connect _ _ _ _ world trivial))
      fun _ _ left => setEngine left.1 left.2
  · exact Does.bind ((calls.submit known socket _ _ new).also (keyed.submit _ _ _ _ world trivial))
      fun _ _ left => setEngine left.1 left.2

/-- Submitting an operation to the scripted completer is calm, if its future is known. -/
theorem submitToScript {scripted : Proactor.Scripted} {future : FutureId}
    (known : ∀ other ∈ scripted.futures, world.loop.Knows scope.known other)
    (new : world.loop.Knows scope.known future) (socket : SocketId) (subject : Proactor.Subject) :
    Does scope n calm world (submitToScript scripted socket subject future) anyhow := by
  refine Does.get (Does.through anyhow (Does.modify (by decide)
    (.devices world _ _ _ ?_ trivial (lasts_refl _)) trivial) fun _ _ _ => record _ _ _)
  intro other member
  simp only [Completer.futures, Proactor.Scripted.futures, List.map_append, List.mem_append,
    List.map_cons, List.map_nil, List.mem_singleton] at member
  rcases member with old | rfl
  · exact known other old
  · exact new

/-- The future of an operation that is submitted is known. -/
theorem submit (fresh : scope.Fresh n) (socket : SocketId) (subject : Proactor.Subject) :
    Does scope n calm world (submit socket subject) fun future reached =>
      reached.loop.Knows scope.known future := by
  refine Does.assuming fun within => ?_
  refine Does.bind (makeFuture _) ?_
  rintro future made ⟨rfl, size, -⟩
  have new : made.loop.Knows scope.known world.loop.futures.size :=
    ⟨fresh _ within.loop.base, by rw [size]; exact Nat.lt_succ_self _⟩
  have finish {before : World} {step : WorldM Unit} (does : Does scope n calm before step anyhow)
      (known : before.loop.Knows scope.known world.loop.futures.size) :
      Does scope n calm before (step >>= fun _ => pure world.loop.futures.size)
        fun future reached => reached.loop.Knows scope.known future := by
    refine Does.bind (does.means .future known) ?_
    exact fun _ _ holds => Does.pure holds.2
  refine Does.assuming fun withinMade => Does.get ?_
  dsimp only
  split
  · refine Does.through (fun _ reached => reached.loop = made.loop)
      (Does.set (by decide)
        (.devices made _ _ _ withinMade.completer withinMade.keyed (lasts_refl _)) rfl) ?_
    intro _ listed same
    have newListed : listed.loop.Knows scope.known world.loop.futures.size := by
      rw [same]
      exact new
    split
    · rename_i engine found
      have submitted : Does scope made.loop.futures.size calm
          { listed with held := .future world.loop.futures.size :: listed.held }
          (World.submitToEngine engine socket subject world.loop.futures.size) anyhow :=
        submitToEngine (known_operations withinMade found) (keyed_engine withinMade found) new socket
          subject
      have closer : made.loop.futures.size ≤ listed.loop.futures.size :=
        Nat.le_of_eq (by rw [same])
      exact finish (keeping (submitted.rebase closer) fun _ _ _ _ => trivial) newListed
    · rename_i scripted found
      refine finish (submitToScript ?_ newListed socket subject) newListed
      rw [same]
      exact known_submissions withinMade found
  · exact Does.bind ((resolve _ new.1).means .future new)
      fun _ _ holds => Does.pure holds.2

/-- Cancelling the operations of a socket is calm. -/
theorem forgetSocket (socket : SocketId) :
    Does scope n calm world (forgetSocket socket) anyhow := by
  refine Does.assuming fun within => Does.get ?_
  split
  · dsimp only
    split
    · rename_i engine found
      have calls := @system scope world.loop.futures.size .deadlock
      refine Does.rebase (Nat.le_refl _) ?_
      exact Does.bind ((calls.unregister (known_operations within found) _).also
        ((keyed_engine within found).unregister _ world trivial)) fun _ _ left =>
          setEngine left.1 left.2
    · rename_i scripted found
      refine Does.bind (record _ _ _) fun _ _ _ => cancelAll fun future member => ?_
      obtain ⟨submission, listed, rfl⟩ := List.mem_map.mp member
      exact (known_submissions within found submission.future
        (List.mem_map.mpr ⟨submission, (List.mem_filter.mp listed).1, rfl⟩)).1
  · exact Does.pure trivial

/-- Cancelling all operations is calm. -/
theorem cancelOperations : Does scope n calm world cancelOperations anyhow := by
  refine Does.assuming fun within => Does.get ?_
  split
  · rename_i engine found
    refine Does.bind (setEngine Known.nil List.nodup_nil) fun _ emptied _ => ?_
    refine Does.assuming fun withinEmptied => Does.through anyhow
      (Does.modify (by decide)
        (.devices emptied _ _ _ withinEmptied.completer withinEmptied.keyed (lasts_refl _)) trivial)
        fun _ _ _ => ?_
    refine Does.forM fun operation member _ => ?_
    refine Does.bind (cancelAll fun future same => ?_) fun _ _ _ => drop _
    rw [List.mem_singleton.mp same]
    exact (known_operations within found operation member).1
  · rename_i scripted found
    refine Does.bind (record _ _ _) fun _ _ _ => cancelAll fun future member => ?_
    exact (known_submissions within found future member).1

/-- Closing the poller is calm. -/
theorem closePoller : Does scope n calm world closePoller anyhow := by
  refine Does.assuming fun within => Does.get ?_
  split
  · rename_i engine found
    split
    · have left := known_operations within found
      have keyed := keyed_engine within found
      refine Does.rebase (Nat.le_refl _) ?_
      exact Does.bind (setEngine left keyed) fun _ _ _ => onHost _
    · exact Does.pure trivial
  · exact Does.pure trivial

/-- Polling the scripted completer is calm. -/
theorem pollScript {scripted : Proactor.Scripted}
    (known : ∀ future ∈ scripted.futures, scope.known future ∧ future < n) (endless : Endless)
    (timeout : Option Nat) :
    Does scope n calm world (pollScript endless scripted timeout) anyhow := by
  refine Does.get ?_
  dsimp only
  refine Does.optional (fun _ => record _ _ _) fun reached => ?_
  split
  · refine Does.assuming fun within => Does.through anyhow
      (Does.modify (by decide) (.devices reached _ _ _ ?_ trivial (lasts_refl _)) trivial)
      fun _ _ _ => Does.pure trivial
    intro future member
    have knownHere := known future member
    exact ⟨knownHere.1, Nat.lt_of_lt_of_le knownHere.2 within.loop.base⟩
  · split
    · exact Does.bind (onHost _) fun _ _ _ => Does.pure trivial
    · exact Does.pure trivial
    · exact Does.pure trivial

/-- Polling the completer is calm. -/
theorem poll (endless : Endless) (timeout : Option Nat) :
    Does scope n calm world (poll endless timeout) anyhow := by
  refine Does.assuming fun within => Does.get ?_
  split
  · rename_i engine found
    have calls := @system scope world.loop.futures.size endless.errno
    refine Does.rebase (Nat.le_refl _) ?_
    have keyed : (engine.poll (World.system endless.errno) timeout world).1.2.Keyed :=
      (keyed_engine within found).poll timeout world trivial
    have polls : Does scope world.loop.futures.size calm world
        (engine.poll (World.system endless.errno) timeout)
        fun polled _ => Known scope world.loop.futures.size polled.2.operations ∧ polled.2.Keyed :=
      (calls.poll (known_operations within found) timeout).also keyed
    refine Does.bind polls fun _ _ left => ?_
    exact Does.bind (setEngine left.1 left.2) fun _ _ _ => Does.pure trivial
  · rename_i scripted found
    refine Does.rebase (Nat.le_refl _) (pollScript ?_ endless timeout)
    exact known_submissions within found

end World.Calm

end EventLoop
