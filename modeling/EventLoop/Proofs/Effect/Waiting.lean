import EventLoop.Proofs.Effect.Primitives
import EventLoop.Proofs.Program

/-!
# Instructions that wait

An instruction that goes on waiting after it was tried waits for a future whose wakeup is still to
come.
-/
namespace EventLoop

open Script (Leaf)

namespace World

open Script (Goal Predicate WaitInstruction GuardInstruction Target)

variable {scope : Scope} {n : Nat} {world : World} {waiter : Waiter}

/-- An instruction that goes on waiting is to be woken. -/
def Answer.Armed (waiter : Waiter) (answer : Answer) (world : World) : Prop :=
  ∀ leaf, answer = .error leaf → ∀ wait ∈ leaf.waits, world.loop.Armed waiter.waker wait

/-- A call that has its value waits for nothing. -/
theorem Answer.Armed.value (value : Value) : Answer.Armed waiter (.ok value) world :=
  fun _ waits => nomatch waits

/-- A call that waits for one future is armed if that wait is. -/
theorem Answer.Armed.single {leaf : Leaf} {wait : Wait} (waits : leaf.waits = [wait])
    (armed : world.loop.Armed waiter.waker wait) : Answer.Armed waiter (.error leaf) world := by
  intro other same wait' member
  cases same
  rw [waits, List.mem_singleton] at member
  exact member ▸ armed

/-- Whether an instruction waits for a connection. -/
def isConnecting : Leaf → Bool
  | .connecting .. | .establishing .. => true
  | .nextPoll | .result _ | .turn .. | .notice .. | .relock .. => false

/-- An instruction that goes on waiting is to be woken, and waits for a connection. -/
structure Answer.Connects (waiter : Waiter) (answer : Answer) (world : World) : Prop where
  /-- It is to be woken. -/
  armed : answer.Armed waiter world
  /-- It waits for a connection. -/
  connecting : ∀ leaf, answer = .error leaf → isConnecting leaf = true

/-- A call that has its value does not connect any more. -/
theorem Answer.Connects.value (value : Value) : Answer.Connects waiter (.ok value) world :=
  ⟨.value value, fun _ same => nomatch same⟩

/-- A call that waits for a connection is armed if its one wait is. -/
theorem Answer.Connects.single {leaf : Leaf} {wait : Wait} (waits : leaf.waits = [wait])
    (connecting : isConnecting leaf = true) (armed : world.loop.Armed waiter.waker wait) :
    Answer.Connects waiter (.error leaf) world := by
  refine ⟨.single waits armed, fun other same => ?_⟩
  cases same
  exact connecting

/-- A wait that goes on is to be woken. -/
def Resumes {α : Type} (waiter : Waiter) (result : Except Wait α) (world : World) : Prop :=
  ∀ wait, result = .error wait → world.loop.Armed waiter.waker wait

/-- A wait for a future that exists is tied before it has a cell. -/
theorem tied_none {loop : Loop} {future : FutureId} {waker : Nat}
    (bound : future < loop.futures.size) : loop.Tied waker { future, cell := none } :=
  ⟨bound, fun _ none => (Option.not_mem_none _ none).elim,
    fun _ none => (Option.not_mem_none _ none).elim⟩

namespace Waiting

variable {wait : Wait}

/-- Waiting at a place in a queue ends, or arms the wait with which it goes on. -/
theorem awaitPlace (gate : Gate) (tied : world.loop.Tied waiter.waker wait) :
    Does scope n sync world (awaitPlace waiter gate wait) (Resumes waiter) := by
  refine Does.bind (Calm.await tied).sync ?_
  rintro result reached ⟨-, armed⟩
  split
  · rename_i after
    refine Does.pure fun other same => ?_
    cases same
    exact (armed after rfl).2
  · refine Does.bind (Primitives.settlePlace gate wait.future) fun _ _ _ => ?_
    exact Does.bind (Calm.drop _).sync fun _ _ _ => Does.pure fun other same => nomatch same

/-- Waiting for one's turn ends, or arms the wait with which it goes on. -/
theorem awaitTurn (gate : Gate) (tied : world.loop.Tied waiter.waker wait) :
    Does scope n sync world (awaitTurn waiter gate wait) (Resumes waiter) := by
  refine Does.bind (awaitPlace gate tied) fun result reached armed => ?_
  split
  · rename_i after
    refine Does.pure fun other same => ?_
    cases same
    exact armed after rfl
  · refine Does.optional (fun _ => Primitives.takeTurn gate) fun _ => ?_
    exact Does.pure fun other same => nomatch same

/-- Asking for a turn ends, or arms the wait with which it goes on. -/
theorem beginTurn (gate : Gate) (timeout : Option Nat) :
    Does scope n sync world (beginTurn waiter gate timeout) (Resumes waiter) := by
  refine Does.bind (Primitives.isOpenGate gate) ?_
  rintro isOpen _ rfl
  split
  · exact Does.bind (Primitives.takeTurn gate) fun _ _ _ =>
      Does.pure fun other same => nomatch same
  · refine Does.bind (Primitives.park gate timeout) ?_
    rintro future reached ⟨bound, -⟩
    exact awaitTurn gate (tied_none bound)

/-- A caller that begins to wait for a condition is to be woken. -/
theorem beginNotice (id : ConditionId) (timeout : Option Nat) (goal : Goal) :
    Does scope n sync world (beginNotice waiter id timeout goal) fun result reached =>
      ∀ leaf, result = .ok leaf → ∀ wait ∈ leaf.waits,
        reached.loop.Armed waiter.waker wait := by
  refine Does.bind (Primitives.conditionAt id) ?_
  rintro condition _ ⟨rfl, -⟩
  refine Does.bind (Primitives.isConditionLocked condition) ?_
  rintro locked _ rfl
  split
  · refine Does.bind (Primitives.releaseLock _) fun _ _ _ => ?_
    refine Does.bind (Primitives.park _ timeout) ?_
    rintro future parked ⟨bound, pending⟩
    refine Does.bind (Calm.await (tied_none bound)).sync ?_
    rintro result reached ⟨finished, armed⟩
    split
    · rename_i after
      refine Does.pure fun leaf same wait member => ?_
      cases same
      rw [Leaf.waits, List.mem_singleton] at member
      exact member ▸ (armed after rfl).2
    · rename_i outcome
      obtain ⟨-, done, -⟩ := finished outcome rfl
      rw [pending] at done
      cases done
  · exact Does.pure fun leaf same => nomatch same

/-- Asking a predicate is calm. -/
theorem ask (predicate : Predicate) :
    Does scope n calm world (ask waiter predicate) anyhow := by
  cases predicate with
  | holds name value =>
    refine Does.get (Does.bind (Does.nothing) fun answered _ _ => ?_)
    exact Does.bind (Calm.record _ _ _) fun _ _ _ => Does.pure trivial
  | asked needed made =>
    refine Does.bind (Does.nothing) fun answered _ _ => ?_
    exact Does.bind (Calm.record _ _ _) fun _ _ _ => Does.pure trivial

/-- Asking a predicate, and waiting if it does not hold, ends, or arms the wait with which it goes on. -/
theorem seek (id : ConditionId) (deadline : Option Nat) (predicate : Predicate) :
    Does scope n sync world (seek waiter id deadline predicate) (Answer.Armed waiter) := by
  refine Does.bind (ask predicate).sync ?_
  rintro ⟨answer, predicate⟩ asked -
  dsimp only
  split
  · exact Does.pure (.value _)
  · refine Does.get ?_
    split
    · exact Does.pure (.value _)
    · refine Does.bind (beginNotice id _ _) fun result reached armed => ?_
      split
      · rename_i leaf
        refine Does.pure fun other same => ?_
        cases same
        exact armed leaf rfl
      · exact Does.pure (.value _)

/-- Going on once the lock is taken again ends, or arms the wait with which it goes on. -/
theorem afterRelock (id : ConditionId) (notified : Bool) (goal : Goal) :
    Does scope n sync world (afterRelock waiter id notified goal) (Answer.Armed waiter) := by
  cases goal with
  | notification => exact Does.pure (.value _)
  | predicate deadline predicate => exact seek id deadline predicate

/-- Taking the lock of a condition again ends, or arms the wait with which it goes on. -/
theorem relock (id : ConditionId) (notified : Bool) (goal : Goal) :
    Does scope n sync world (relock waiter id notified goal) (Answer.Armed waiter) := by
  refine Does.bind (Primitives.conditionAt id) ?_
  rintro condition _ ⟨rfl, -⟩
  refine Does.bind (beginTurn _ none) fun result reached armed => ?_
  split
  · exact Does.pure (.single rfl (armed _ rfl))
  · exact afterRelock id notified goal

/-! ## Connections -/

/-- Waiting for a transport to be set up ends, or arms the wait with which it goes on; it is calm. -/
theorem awaitTransport (transport : TransportId) (target : Address)
    (tied : world.loop.Tied waiter.waker wait) :
    Does scope n calm world (awaitTransport waiter transport wait target)
      (Answer.Connects waiter) := by
  refine Does.bind (Calm.await tied) ?_
  rintro result reached ⟨-, armed⟩
  split
  · rename_i after
    exact Does.pure (.single rfl rfl (armed after rfl).2)
  · refine Does.bind (Calm.drop _) fun _ _ _ => ?_
    refine Does.bind (Calm.drop _) fun _ _ _ => ?_
    split
    · exact Does.pure (.value _)
    · exact Does.pure (.value _)

/-- Waiting for a connection and its transport ends, or arms the wait with which it goes on; it is calm.
-/
theorem awaitConnection (fresh : scope.Fresh n) (socket : SocketId) (target : Address)
    (name : String) (script : Script.Protocol) (tied : world.loop.Tied waiter.waker wait) :
    Does scope n calm world (awaitConnection waiter socket wait target name script)
      (Answer.Connects waiter) := by
  refine Does.bind (Calm.await tied) ?_
  rintro result reached ⟨-, armed⟩
  split
  · rename_i after
    exact Does.pure (.single rfl rfl (armed after rfl).2)
  · refine Does.bind (Calm.drop _) fun _ _ _ => ?_
    exact Does.bind (Calm.drop _) fun _ _ _ => Does.pure (.value _)
  · refine Does.bind (Calm.drop _) fun _ dropped _ => ?_
    refine Does.assuming fun within => Does.bind (Calm.makeFuture _) ?_
    rintro ready made ⟨rfl, size, -⟩
    have new : made.loop.Knows scope.known dropped.loop.futures.size :=
      ⟨fresh _ within.loop.base, by rw [size]; exact Nat.lt_succ_self _⟩
    have told : ∀ future ∈ (some dropped.loop.futures.size).toList,
        made.loop.Knows scope.known future :=
      fun future member => List.mem_singleton.mp member ▸ new
    have opened := Calm.openTransport (n := n) socket ⟨name, script⟩ (some target) told false
    refine Does.bind (opened.means .future new) ?_
    rintro transport reached ⟨-, known⟩
    exact awaitTransport transport target (tied_none known.2)

/-- Trying a waiting instruction again. -/
theorem tryLeaf (fresh : scope.Fresh n) {leaf : Leaf}
    (tied : ∀ wait ∈ leaf.waits, world.loop.Tied waiter.waker wait) :
    Does scope n sync world (tryLeaf waiter leaf) (Answer.Armed waiter) := by
  cases leaf with
  | nextPoll => exact Does.pure (.value _)
  | result wait =>
    have tied := tied wait List.mem_cons_self
    refine Does.bind (Calm.await tied).sync ?_
    rintro result reached ⟨-, armed⟩
    split
    · rename_i after
      exact Does.pure (.single rfl (armed after rfl).2)
    · exact Does.bind (Calm.drop _).sync fun _ _ _ => Does.get (Does.pure (.value _))
  | turn gate wait =>
    have tied := tied wait List.mem_cons_self
    refine Does.bind (awaitTurn gate tied) fun result reached armed => ?_
    split
    · rename_i after
      exact Does.pure (.single rfl (armed after rfl))
    · exact Does.pure (.value _)
  | notice id wait goal =>
    have tied := tied wait List.mem_cons_self
    refine Does.bind (awaitPlace _ tied) fun result reached armed => ?_
    split
    · rename_i after
      exact Does.pure (.single rfl (armed after rfl))
    · exact relock id _ goal
  | relock id lock wait notified goal =>
    have tied := tied wait List.mem_cons_self
    refine Does.bind (awaitTurn _ tied) fun result reached armed => ?_
    split
    · rename_i after
      exact Does.pure (.single rfl (armed after rfl))
    · exact afterRelock id notified goal
    · exact relock id notified goal
  | connecting socket wait target name script =>
    have tied := tied wait List.mem_cons_self
    exact (awaitConnection fresh socket target name script tied).sync.weaken
      fun _ _ connects => connects.armed
  | establishing transport wait target =>
    have tied := tied wait List.mem_cons_self
    exact (awaitTransport transport target tied).sync.weaken fun _ _ connects => connects.armed

/-! ## Beginning to wait -/

/-- Beginning to wait for a future ends, or arms the wait with which it goes on. -/
theorem beginResult (fresh : scope.Fresh n) {future : FutureId}
    (bound : future < world.loop.futures.size) :
    Does scope n sync world (beginResult waiter future) (Answer.Armed waiter) :=
  tryLeaf fresh fun _ member => List.mem_singleton.mp member ▸ tied_none bound

/-- Beginning to wait at a gate ends, or arms the wait with which it goes on. -/
theorem beginGate (gate : Gate) (timeout : Option Nat) :
    Does scope n sync world (beginGate waiter gate timeout) (Answer.Armed waiter) := by
  refine Does.bind (beginTurn gate timeout) fun result reached armed => ?_
  split
  · rename_i after
    exact Does.pure (.single rfl (armed after rfl))
  · exact Does.pure (.value _)

/-- Beginning something on a named object ends, or arms the wait with which it goes on. -/
theorem withNamed {kind : ObjectClass} {name : String} {action : Nat → WorldM Answer}
    (does : ∀ id reached, reached.Means scope kind id →
      Does scope n sync reached (action id) (Answer.Armed waiter)) :
    Does scope n sync world (withNamed kind name action) (Answer.Armed waiter) := by
  refine Does.bind (Calm.named? kind name).sync fun found reached means => ?_
  split
  · rename_i id
    exact does id reached (means id rfl)
  · exact Does.pure (.value _)

/-- Beginning an instruction that may have to wait ends, or arms the wait with which it goes on. -/
theorem beginWait (fresh : scope.Fresh n) (instruction : WaitInstruction) :
    Does scope n sync world (beginWait waiter instruction) (Answer.Armed waiter) := by
  cases instruction with
  | future name => exact withNamed fun id _ means => beginResult fresh means.2
  | task name =>
    refine withNamed fun id _ means => ?_
    refine Does.bind ((Calm.forget _ _).means .task means).sync ?_
    rintro _ reached ⟨-, means⟩
    refine Does.assuming fun within => Does.get ?_
    split
    · rename_i task found
      exact beginResult fresh (within.loop.result found).2
    · exact Does.pure (.value _)
  | sleep delay =>
    refine Does.get (Does.bind (Calm.makeSleep fresh _ _).sync fun future reached known => ?_)
    exact beginResult fresh known.2
  | lock name timeout => exact withNamed fun id _ _ => beginGate _ timeout
  | semaphore name timeout => exact withNamed fun id _ _ => beginGate _ timeout
  | event name timeout => exact withNamed fun id _ _ => beginGate _ timeout
  | conditionLock name timeout =>
    refine withNamed fun id _ _ => ?_
    exact Does.bind (Primitives.conditionAt id) fun condition _ _ => beginGate _ timeout
  | condition name timeout =>
    refine withNamed fun id _ _ => ?_
    refine Does.bind (beginNotice id timeout _) fun result reached armed => ?_
    split
    · rename_i leaf
      refine Does.pure fun other same => ?_
      cases same
      exact armed leaf rfl
    · exact Does.pure (.value _)
  | conditionUntil name timeout predicate =>
    exact withNamed fun id _ _ => Does.get (seek id _ predicate)
  | yield =>
    refine Does.through anyhow (Does.changeLoop (by decide)
      (.woken world waiter.waker) trivial) fun _ _ _ => Does.pure fun leaf same => ?_
    cases same
    exact fun wait member => absurd member List.not_mem_nil
  | park name =>
    refine Does.bind (Calm.store .waker name trivial nofun).sync fun _ _ _ => ?_
    refine Does.pure fun leaf same => ?_
    cases same
    exact fun wait member => absurd member List.not_mem_nil

/-- Asking for the address of a target is calm. -/
theorem targetAddress (target : Target) :
    Does scope n calm world (targetAddress target) anyhow := by
  unfold World.targetAddress
  split
  · exact Does.pure trivial
  · refine Does.bind (Calm.named? _ _) fun _ _ _ => ?_
    split
    · exact Does.pure trivial
    · refine Does.bind (Calm.server? _) fun _ _ _ => ?_
      split
      · exact Does.pure trivial
      · exact Does.get (Calm.onHost _)

/-- Beginning to connect ends, or arms the wait with which it goes on; it is calm. -/
theorem beginConnection (fresh : scope.Fresh n) (name : String) (target : Target)
    (script : Script.Protocol) :
    Does scope n calm world (beginConnection waiter name target script)
      (Answer.Connects waiter) := by
  refine Does.bind (targetAddress target) fun _ _ _ => ?_
  split
  · exact Does.pure (.value _)
  · refine Does.bind (Calm.onHost _) fun _ _ _ => ?_
    split
    · exact Does.pure (.value _)
    · refine Does.bind (Calm.makeSocket _) fun _ _ _ => ?_
      refine Does.bind (Calm.submit fresh _ _) fun future reached known => ?_
      exact awaitConnection fresh _ _ name script (tied_none known.2)

/-- What a guard is asked for exists. -/
theorem guardFor? (instruction : GuardInstruction) :
    Does scope n calm world (guardFor? instruction) fun guard reached => ∀ asked, guard = some asked →
      match asked with
      | .lock id => reached.Means scope .lock id
      | .semaphore id => reached.Means scope .semaphore id := by
  cases instruction with
  | lock name =>
    refine Does.bind (Calm.named? _ _) fun found reached means => Does.pure fun guard same => ?_
    obtain ⟨id, rfl, rfl⟩ := Option.map_eq_some_iff.mp same
    exact means id rfl
  | semaphore name =>
    refine Does.bind (Calm.named? _ _) fun found reached means => Does.pure fun guard same => ?_
    obtain ⟨id, rfl, rfl⟩ := Option.map_eq_some_iff.mp same
    exact means id rfl

end Waiting

end World

end EventLoop
