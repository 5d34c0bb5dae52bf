import EventLoop.Proofs.Sync.Relock

/-!
# Who takes a lock

A program takes a lock when it goes on with it after it has waited at a place in the queue, or when it finds
the lock free and nobody in its queue. A lock counts how often it was taken: it is taken once by each of
these, and in no other step.
-/
namespace EventLoop.World

open Script (Goal)
open Sync (Lock)

variable {held : List Ref} {aspects : List Aspect} {stakes left : Multiset Stake}
variable {world before after : World} {gate : Gate} {id : LockId}

/-! ## What takes no lock -/

/-- A deed takes no lock, unless it gives a caller its turn. -/
theorem Deed.taken_eq (deed : Deed held aspects stakes before left after)
    (settled : Settled held stakes before) (plain : .turns ∉ aspects) (id : LockId) :
    (lockAt id after).1.taken = (lockAt id before).1.taken := by
  have orderly := settled.orderly
  have undisturbed (same : Undisturbed (.lock id) before after) :
      (lockAt id after).1.taken = (lockAt id before).1.taken := congrArg Lock.taken (same.lock rfl)
  cases deed with
  | took _ _ _ member | resumed _ _ _ _ member => exact absurd member plain
  | changed _ _ calm early change => exact undisturbed (.changed orderly change calm early)
  | madeLock => exact congrArg Lock.taken (Table.getD_push before.locks rfl id)
  | expired | madeSemaphore | madeEvent | madeCondition | cleared | kept | recalled | renewed | repaid
  | waived | forgiven => rfl
  | raised _ _ event =>
    exact undisturbed (.touches orderly (orderly.touches_raiseEvent event) Gate.noConfusion)
  | notified _ _ condition count =>
    exact undisturbed (.touches orderly (orderly.touches_notify condition count) Gate.noConfusion)
  | released | lent => exact (Recedes.releaseLock _ before).taken id
  | returned => exact (Recedes.releaseSemaphore _ before).taken id
  | dropped => exact (Recedes.releaseGuard _ before).taken id
  | left _ _ gate future => exact (Requeued.settlePlace gate future before).taken id
  | abandoned => exact (Recedes.abandonPlace _ _ before).taken id

/-- Whoever takes a place in a queue takes no lock. -/
theorem Parking.taken_eq (parking : Parking stakes before left after) (id : LockId) :
    (World.lockAt id after).1.taken = (World.lockAt id before).1.taken := by
  cases parking with
  | parked gate timeout waiter => exact (Requeued.park gate timeout before).taken id

/-- Deeds take no lock, unless one of them gives a caller its turn. -/
theorem Deeds.taken_eq {start last : Multiset Stake × World} (deeds : Deeds held aspects start last)
    (settled : Settled held start.1 start.2) (plain : .turns ∉ aspects) (id : LockId) :
    (lockAt id last.2).1.taken = (lockAt id start.2).1.taken := by
  induction deeds with
  | refl => rfl
  | tail earlier last ih => exact (last.taken_eq (Deeds.settled earlier settled) plain id).trans ih

/-- On its way a move takes no lock, unless it asks for a turn. -/
theorem Course.taken_eq {start last : Multiset Stake × World} (course : Course held aspects start last)
    (settled : Settled held start.1 start.2) (plain : .turns ∉ aspects) (id : LockId) :
    (lockAt id last.2).1.taken = (lockAt id start.2).1.taken := by
  rcases course with deeds | ⟨middle, deeds, parking⟩
  · exact deeds.taken_eq settled plain id
  · exact (parking.taken_eq id).trans (deeds.taken_eq settled plain id)

/-! ## How often a lock is taken -/

section Taken

variable {waiter : Waiter} {condition : ConditionId} {goal : Goal} {timeout : Option Nat}

/-- Whoever begins to wait for a condition takes no lock. -/
theorem taken_beginNotice (waiter : Waiter) (condition : ConditionId) (timeout : Option Nat) (goal : Goal)
    (world : World) (id : LockId) :
    (lockAt id (beginNotice waiter condition timeout goal world).2).1.taken =
      (lockAt id world).1.taken := by
  have asked : isConditionLocked (conditionAt condition world).1 world =
      ((lockAt (world.lockOf condition) world).1.locked, world) := rfl
  unfold beginNotice
  rw [StateM.bind_apply, conditionAt_eq, StateM.bind_apply, asked]
  cases (lockAt (world.lockOf condition) world).1.locked with
  | false => rfl
  | true =>
    have released := (Recedes.releaseLock (conditionAt condition world).1.lock world).taken id
    simp only [if_true, StateM.bind_apply]
    generalize (releaseLock (conditionAt condition world).1.lock world).2 = reached at released ⊢
    have parked := (Requeued.park (.condition condition) timeout reached).taken id
    generalize park (.condition condition) timeout reached = parking at parked ⊢
    have awaited : (lockAt id (await waiter ⟨parking.1, none⟩ parking.2).2).1.taken =
        (lockAt id parking.2).1.taken := rfl
    rw [← released, ← parked, ← awaited]
    generalize await waiter ⟨parking.1, none⟩ parking.2 = result
    obtain ⟨wait | outcome, last⟩ := result <;> rfl

/-- Whoever goes on after it took the lock of a condition again takes no lock any more. -/
theorem taken_afterRelock (waiter : Waiter) (condition : ConditionId) (notified : Bool) (goal : Goal)
    (world : World) (id : LockId) :
    (lockAt id (afterRelock waiter condition notified goal world).2).1.taken =
      (lockAt id world).1.taken := by
  cases goal with
  | notification => rfl
  | predicate deadline predicate =>
    have asked := (requeued_ask waiter predicate world).taken id
    change (lockAt id (seek waiter condition deadline predicate world).2).1.taken = _
    rw [seek_eq, ← asked]
    obtain ⟨⟨answer, predicate⟩, reached⟩ := ask waiter predicate world
    cases answer with
    | true => rfl
    | false =>
      dsimp only
      cases timeLeft deadline reached.host.kernel.now with
      | none => rfl
      | some timeout =>
        have begun := taken_beginNotice waiter condition timeout (.predicate deadline predicate) reached id
        dsimp only
        rw [← begun]
        obtain ⟨error | leaf, last⟩ :=
          beginNotice waiter condition timeout (.predicate deadline predicate) reached <;> rfl

/-- A lock is taken once by a caller that has its turn, and by one that has it at once. -/
theorem Asks.taken {answer : Except Wait Bool × World} (asks : Asks (.lock id) world answer)
    (exists_ : world.HasGate (.lock id)) (turn : answer.1 = .ok true) :
    (lockAt id answer.2).1.taken = (lockAt id world).1.taken + 1 :=
  (asks.lock exists_ (congrArg hasTurn turn)).2.1

/-- Whoever asks for a turn takes no lock but the one of the gate, and that one only in its turn. -/
theorem Asks.taken_or {answer : Except Wait Bool × World} (asks : Asks gate world answer) (id : LockId) :
    (lockAt id answer.2).1.taken = (lockAt id world).1.taken ∨
      gate = .lock id ∧ answer.1 = .ok true := by
  obtain ⟨reached, requeued, same⟩ := asks
  obtain ⟨wait | granted, last⟩ := answer
  · exact Or.inl (same ▸ requeued.taken id)
  · cases granted with
    | false => exact Or.inl (same ▸ requeued.taken id)
    | true =>
      have same : last = (takeTurn gate reached).2 := same
      refine or_iff_not_imp_right.mpr fun other => ?_
      rw [same, ← requeued.taken id]
      cases gate with
      | lock taken =>
        have lock := lockAt_setLock id taken (lockAt taken reached).1.take reached
        rw [if_neg fun here => other ⟨congrArg Gate.lock here.1.symm, rfl⟩] at lock
        exact congrArg Lock.taken lock
      | semaphore | event | condition => rfl

/-- Whoever goes on to take the lock of a condition again takes no other lock, and that one only in its
turn. -/
theorem taken_relock_or (waiter : Waiter) (condition : ConditionId) (notified : Bool) (goal : Goal)
    (world : World) (id : LockId) :
    (lockAt id (relock waiter condition notified goal world).2).1.taken = (lockAt id world).1.taken ∨
      world.lockOf condition = id ∧ (beginTurn waiter (.lock id) none world).1 = .ok true := by
  rcases (asks_beginTurn waiter (.lock (world.lockOf condition)) none world).taken_or id with
    same | ⟨here, turn⟩
  · refine Or.inl ?_
    rw [relock_eq, ← same]
    generalize beginTurn waiter (.lock (world.lockOf condition)) none world = result
    obtain ⟨wait | granted, reached⟩ := result
    · rfl
    · exact taken_afterRelock _ _ _ _ _ _
  · cases here
    exact Or.inr ⟨rfl, turn⟩

/-- Whoever finds the lock of a condition free takes it once. -/
theorem taken_relock (notified : Bool) (goal : Goal) {reached : World} (requeued : Requeued world reached)
    (exists_ : world.HasGate (.lock (world.lockOf condition)))
    (turn : (beginTurn waiter (.lock (reached.lockOf condition)) none reached).1 = .ok true) :
    (lockAt (reached.lockOf condition) (relock waiter condition notified goal reached).2).1.taken =
      (lockAt (reached.lockOf condition) world).1.taken + 1 := by
  have exists_ : reached.HasGate (.lock (reached.lockOf condition)) := by
    rw [requeued.lockOf]
    exact requeued.exists_ _ exists_
  have once := (asks_beginTurn waiter _ none reached).taken exists_ turn
  rw [requeued.taken] at once
  rw [relock_eq, ← once]
  generalize beginTurn waiter (.lock (reached.lockOf condition)) none reached = result at turn
  obtain ⟨answer, last⟩ := result
  cases turn
  exact taken_afterRelock _ _ _ _ _ _

/-- Whoever waited for a lock and has its turn does nothing else. -/
theorem world_tryLeaf_turn (waiter : Waiter) (gate : Gate) (wait : Wait) (world : World) :
    (tryLeaf waiter (.turn gate wait) world).2 = (awaitTurn waiter gate wait world).2 := by
  simp only [tryLeaf, StateM.bind_apply]
  generalize awaitTurn waiter gate wait world = result
  obtain ⟨after | granted, reached⟩ := result <;> rfl

/-- Whoever has the lock of a condition again that it waited for takes no lock any more. -/
theorem taken_tryLeaf_relock {wait : Wait} (notified : Bool) (goal : Goal)
    (turn : (awaitTurn waiter (.lock id) wait world).1 = .ok true) :
    (lockAt id (tryLeaf waiter (.relock condition id wait notified goal) world).2).1.taken =
      (lockAt id (awaitTurn waiter (.lock id) wait world).2).1.taken := by
  rw [tryLeaf_relock]
  generalize awaitTurn waiter (.lock id) wait world = result at turn
  obtain ⟨answer, reached⟩ := result
  cases turn
  exact taken_afterRelock _ _ _ _ _ _

/-- What is begun on an object that has a name. -/
theorem withNamed_eq {kind : ObjectClass} {name : String} {object : Nat}
    (named : world.names.lookup (kind, name) = some object) (action : Nat → WorldM Answer) :
    withNamed kind name action world = action object world := by
  unfold withNamed named?
  simp only [StateM.bind_apply, StateM.get_apply, named]
  rfl

/-- Nothing is begun on an object without a name. -/
theorem withNamed_of_none {kind : ObjectClass} {name : String}
    (unnamed : world.names.lookup (kind, name) = none) (action : Nat → WorldM Answer) :
    (withNamed kind name action world).2 = world := by
  unfold withNamed named?
  simp only [StateM.bind_apply, StateM.get_apply, unnamed]
  rfl

/-- Whoever asks at a gate does nothing but to ask for a turn. -/
theorem world_beginGate (waiter : Waiter) (gate : Gate) (timeout : Option Nat) (world : World) :
    (beginGate waiter gate timeout world).2 = (beginTurn waiter gate timeout world).2 := by
  unfold beginGate
  rw [StateM.bind_apply]
  generalize beginTurn waiter gate timeout world = result
  obtain ⟨after | granted, reached⟩ := result <;> rfl

end Taken

end EventLoop.World

namespace EventLoop.Machine

open Script (Instruction Pending Goal)

variable {machine after : Machine} {id : LockId} {future : FutureId}

/-! ## Calls for a lock -/

/-- Who waits when a task is polled. -/
def waiter (machine : Machine) (task : TaskId) : World.Waiter :=
  (machine.inWorld (World.waiterOf task)).1

/-- A program waits at a place in the queue of a lock: it asked for the lock itself, or for a guard, or it
waited for a condition and takes the lock again. -/
inductive AwaitsLock (id : LockId) : Pending → Wait → Prop
  /-- It asked for the lock. -/
  | turn (wait : Wait) : AwaitsLock id (.leaf (.turn (.lock id) wait)) wait
  /-- It asked for a guard. -/
  | entering (wait : Wait) (body : Script.Body) : AwaitsLock id (.entering (.lock id) wait body) wait
  /-- It waited for a condition. -/
  | relock (condition : ConditionId) (wait : Wait) (notified : Bool) (goal : Goal) :
      AwaitsLock id (.leaf (.relock condition id wait notified goal)) wait

/-- The next thing that happens is that a call for a lock which has taken a place goes on with the lock. -/
inductive Acquires (id : LockId) (future : FutureId) (machine : Machine) : Prop
  /-- Its task is polled, and it is answered that it has its turn. -/
  | granted {task : TaskId} {pending : Pending} {wait : Wait}
      (clean : machine.world.loop.dropped = []) (polled : machine.signal = .retry task pending)
      (awaits : AwaitsLock id pending wait) (same : wait.future = future)
      (turn : (machine.inWorld (World.awaitTurn (machine.waiter task) (.lock id) wait)).1 = .ok true)

/-- An instruction asks for a lock, for at most a timeout. -/
inductive AsksFor (world : World) (id : LockId) : Instruction → Option Nat → Prop
  /-- It asks for the lock by its name. -/
  | lock {name : String} (timeout : Option Nat) (named : world.names.lookup (.lock, name) = some id) :
      AsksFor world id (.wait (.lock name timeout)) timeout
  /-- It asks for the lock of a condition. -/
  | conditionLock {name : String} {condition : ConditionId} (timeout : Option Nat)
      (named : world.names.lookup (.condition, name) = some condition)
      (lock : world.lockOf condition = id) :
      AsksFor world id (.wait (.conditionLock name timeout)) timeout
  /-- It asks for a guard. -/
  | guarded {name : String} (timeout : Option Nat) (body : Script.Body)
      (named : world.names.lookup (.lock, name) = some id) :
      AsksFor world id (.guarded (.lock name) timeout body) timeout

/-- The next thing that happens is that a call for a lock begins and goes on with the lock at once. -/
inductive AcquiresAtOnce (id : LockId) (machine : Machine) : Prop
  /-- A program asks for the lock. -/
  | begins {task : TaskId} {last : Value} {instruction : Instruction} {rest : Script.Body}
      {timeout : Option Nat} (clean : machine.world.loop.dropped = [])
      (runs : machine.signal = .program task last (instruction :: rest))
      (asks : AsksFor machine.world id instruction timeout)
      (turn : (machine.inWorld (World.beginTurn (machine.waiter task) (.lock id) timeout)).1 = .ok true)
  /-- A program that waited to be notified takes the lock of the condition again. -/
  | notified {task : TaskId} {condition : ConditionId} {wait : Wait} {goal : Goal} {notified : Bool}
      {reached : World} (clean : machine.world.loop.dropped = [])
      (polled : machine.signal = .retry task (.leaf (.notice condition wait goal)))
      (answered : machine.inWorld (World.awaitPlace (machine.waiter task) (.condition condition) wait) =
        (.ok notified, reached)) (lock : reached.lockOf condition = id)
      (turn : (World.beginTurn (machine.waiter task) (.lock id) none reached).1 = .ok true)
  /-- A program that could not take the lock of the condition again tries once more. -/
  | again {task : TaskId} {condition : ConditionId} {old : LockId} {wait : Wait} {notified : Bool}
      {goal : Goal} {reached : World} (clean : machine.world.loop.dropped = [])
      (polled : machine.signal = .retry task (.leaf (.relock condition old wait notified goal)))
      (refused : machine.inWorld (World.awaitTurn (machine.waiter task) (.lock old) wait) =
        (.ok false, reached)) (lock : reached.lockOf condition = id)
      (turn : (World.beginTurn (machine.waiter task) (.lock id) none reached).1 = .ok true)

/-- A program that waits at a place in the queue of a lock has that place at stake. -/
theorem AwaitsLock.place_mem {pending : Pending} {wait : Wait} (awaits : AwaitsLock id pending wait) :
    .place (.lock id) wait.future ∈ stakesOf pending.stations := by
  cases awaits <;> simp [Pending.stations, Script.Station.stakes, Guard.gate]

/-- What an instruction has at stake that is tried again is at stake. -/
theorem stakes_of_retry {task : TaskId} {pending : Pending} (polled : machine.signal = .retry task pending)
    {stake : Stake} (member : stake ∈ stakesOf pending.stations) : stake ∈ machine.stakes := by
  unfold stakes stations
  rw [polled, stakesOf_append]
  exact Multiset.mem_add.mpr (Or.inl (Multiset.mem_add.mpr (Or.inl member)))

/-! ## Going on with a lock is taking it -/

/-- What is done when an instruction that waits at a leaf is tried again. -/
theorem world_stepRetry (task : TaskId) (leaf : Script.Leaf) (world : World) :
    (stepRetry task (.leaf leaf) world).2 =
      (World.tryLeaf (World.waiterOf task world).1 leaf world).2 := by
  change (World.tryLeaf (World.waiterOf task world).1 leaf (World.waiterOf task world).2).2 = _
  rw [waiterOf_same]

/-- What is answered when an instruction that waits at a leaf is tried again. -/
theorem signal_stepRetry (task : TaskId) (leaf : Script.Leaf) (world : World) :
    (stepRetry task (.leaf leaf) world).1.2 =
      ofAnswer (World.tryLeaf (World.waiterOf task world).1 leaf world).1 := by
  change ofAnswer (World.tryLeaf (World.waiterOf task world).1 leaf (World.waiterOf task world).2).1 = _
  rw [waiterOf_same]

/-- What is done when an instruction is tried again that waits for something to hold. -/
theorem world_stepRetry_entering (task : TaskId) (guard : Guard) (wait : Wait) (body : Script.Body)
    (world : World) : (stepRetry task (.entering guard wait body) world).2 =
      (tryEnter (World.waiterOf task world).1 guard body
        (World.awaitTurn (World.waiterOf task world).1 guard.gate wait world).1
        (World.awaitTurn (World.waiterOf task world).1 guard.gate wait world).2).2 := by
  change (tryEnter (World.waiterOf task world).1 guard body
    (World.awaitTurn (World.waiterOf task world).1 guard.gate wait (World.waiterOf task world).2).1
    (World.awaitTurn (World.waiterOf task world).1 guard.gate wait (World.waiterOf task world).2).2).2 = _
  rw [waiterOf_same]

/-- Whoever enters a guarded body takes no lock any more. -/
theorem taken_tryEnter (waiter : World.Waiter) (guard : Guard) (body : Script.Body)
    (granted : Except Wait Bool) (world : World) (id : LockId) :
    (World.lockAt id (tryEnter waiter guard body granted world).2).1.taken =
      (World.lockAt id world).1.taken := by
  obtain wait | answer := granted
  · rfl
  · cases answer <;> rfl

/-- A move leaves the world that its step leaves. -/
theorem world_move (machine : Machine) (below : List Frame) (step : WorldM Move) :
    (machine.move below step).world = (step machine.holding).2 := rfl

/-- Whoever goes on with a lock has taken it once. -/
theorem Acquires.takes (acquires : Acquires id future machine) (reachable : machine.Reachable)
    (step : Step machine after) : (World.lockAt id after.world).1.taken =
      (World.lockAt id machine.world).1.taken + 1 := by
  cases acquires with
  | @granted task pending wait clean polled awaits same turn =>
    have acts : act? machine.signal = some (stepRetry task pending) := by rw [polled]; rfl
    obtain rfl := step.eq_of_next (next_of_act clean acts)
    have exists_ : machine.holding.HasGate (.lock id) :=
      (Reachable.sound reachable).settled.stands _ (stakes_of_retry polled awaits.place_mem)
    have once := (World.asks_awaitTurn (machine.waiter task) (.lock id) wait machine.holding).taken
      exists_ turn
    rw [world_move]
    refine Eq.trans ?_ once
    cases awaits with
    | turn =>
      rw [world_stepRetry, World.world_tryLeaf_turn]
      rfl
    | relock condition wait notified goal =>
      rw [world_stepRetry]
      exact World.taken_tryLeaf_relock notified goal turn
    | entering wait body =>
      rw [world_stepRetry_entering, taken_tryEnter]
      rfl

/-- What is done when a program begins to wait. -/
theorem world_stepProgram_wait (task : TaskId) (last : Value) (instruction : Script.WaitInstruction)
    (rest : Script.Body) (world : World) :
    (stepProgram task last (.wait instruction :: rest) world).2 =
      (World.beginWait (World.waiterOf task world).1 instruction world).2 := by
  change (World.beginWait (World.waiterOf task world).1 instruction (World.waiterOf task world).2).2 = _
  rw [waiterOf_same]

/-- A name that asks for a lock stands for the guard of that lock. -/
theorem guardFor?_lock {name : String} {world : World} {found : Option Nat}
    (named : world.names.lookup (.lock, name) = found) :
    World.guardFor? (.lock name) world = (found.map Guard.lock, world) := by
  rw [← named]
  rfl

/-- A name that asks for a semaphore stands for the guard of that semaphore. -/
theorem guardFor?_semaphore {name : String} {world : World} {found : Option Nat}
    (named : world.names.lookup (.semaphore, name) = found) :
    World.guardFor? (.semaphore name) world = (found.map Guard.semaphore, world) := by
  rw [← named]
  rfl

/-- What is done when a program asks for a guard. -/
theorem world_stepProgram_guarded {resource : Script.GuardInstruction} {guard : Guard} {world : World}
    (found : World.guardFor? resource world = (some guard, world)) (task : TaskId) (last : Value)
    (timeout : Option Nat) (body rest : Script.Body) :
    (stepProgram task last (.guarded resource timeout body :: rest) world).2 =
      (tryEnter (World.waiterOf task world).1 guard body
        (World.beginTurn (World.waiterOf task world).1 guard.gate timeout world).1
        (World.beginTurn (World.waiterOf task world).1 guard.gate timeout world).2).2 := by
  change (beginProgramInstruction task (.guarded resource timeout body) world).2 = _
  simp only [beginProgramInstruction, StateM.bind_apply, waiterOf_same, found]

/-- Nothing is done when a program asks for a guard of nothing. -/
theorem world_stepProgram_unguarded {resource : Script.GuardInstruction} {world : World}
    (missing : World.guardFor? resource world = (none, world)) (task : TaskId) (last : Value)
    (timeout : Option Nat) (body rest : Script.Body) :
    (stepProgram task last (.guarded resource timeout body :: rest) world).2 = world := by
  change (beginProgramInstruction task (.guarded resource timeout body) world).2 = _
  simp only [beginProgramInstruction, StateM.bind_apply, waiterOf_same, missing]
  rfl

/-- Who asks for a lock takes it as often as it has its turn at once. -/
theorem AsksFor.taken {world : World} {instruction : Instruction} {timeout : Option Nat}
    (asks : AsksFor world id instruction timeout) (task : TaskId) (last : Value) (rest : Script.Body) :
    (World.lockAt id (stepProgram task last (instruction :: rest) world).2).1.taken =
      (World.lockAt id (World.beginTurn (World.waiterOf task world).1 (.lock id) timeout
        world).2).1.taken := by
  cases asks with
  | lock timeout named =>
    rw [world_stepProgram_wait, World.beginWait, World.withNamed_eq named, World.world_beginGate]
  | conditionLock timeout named lock =>
    subst lock
    rw [world_stepProgram_wait, World.beginWait, World.withNamed_eq named, StateM.bind_apply,
      World.conditionAt_eq, World.world_beginGate]
    rfl
  | guarded timeout body named =>
    rw [world_stepProgram_guarded (guardFor?_lock named)]
    exact taken_tryEnter _ _ _ _ _ _

/-- The lock that a program asks for exists. -/
theorem AsksFor.hasGate {world : World} {scope : Scope} {n : Nat} {instruction : Instruction}
    {timeout : Option Nat} (asks : AsksFor world id instruction timeout) (within : world.Within scope n) :
    world.HasGate (.lock id) := by
  cases asks with
  | lock _ named | guarded _ _ named => exact within.names (World.mem_names named)
  | conditionLock _ named lock => exact lock ▸ within.hasGate_lockOf (within.names (World.mem_names named))

/-- What a program asks for depends on names and conditions only. -/
theorem AsksFor.congr {world other : World} {instruction : Instruction} {timeout : Option Nat}
    (asks : AsksFor world id instruction timeout) (names : other.names = world.names)
    (conditions : other.conditions = world.conditions) : AsksFor other id instruction timeout := by
  have locks (condition : ConditionId) : other.lockOf condition = world.lockOf condition := by
    change ((other.conditions.get? condition).getD (.new 0)).lock = _
    rw [conditions]
    rfl
  cases asks with
  | lock _ named => exact .lock _ (names ▸ named)
  | conditionLock _ named lock => exact .conditionLock _ (names ▸ named) ((locks _).trans lock)
  | guarded _ _ named => exact .guarded _ _ (names ▸ named)

/-- Whoever has a lock at once has taken it once. -/
theorem AcquiresAtOnce.takes (acquires : AcquiresAtOnce id machine) (reachable : machine.Reachable)
    (step : Step machine after) : (World.lockAt id after.world).1.taken =
      (World.lockAt id machine.world).1.taken + 1 := by
  have settled := (Reachable.sound reachable).settled
  have within : machine.holding.Within _ 0 := (settled.holding machine.held).orderly.within
  cases acquires with
  | @begins task last instruction rest timeout clean runs asks turn =>
    have acts : act? machine.signal = some (stepProgram task last (instruction :: rest)) := by
      rw [runs]
      rfl
    obtain rfl := step.eq_of_next (next_of_act clean acts)
    have asked : AsksFor machine.holding id instruction timeout := asks.congr rfl rfl
    have once := (World.asks_beginTurn (machine.waiter task) (.lock id) timeout machine.holding).taken
      (asked.hasGate within) turn
    rw [world_move]
    exact (asked.taken task last rest).trans once
  | @notified task condition wait goal notified reached clean polled answered lock turn =>
    have acts : act? machine.signal = some (stepRetry task (.leaf (.notice condition wait goal))) := by
      rw [polled]
      rfl
    obtain rfl := step.eq_of_next (next_of_act clean acts)
    have known : condition < machine.world.conditions.size :=
      settled.stands (.loan condition) (stakes_of_retry polled (by
        simp [Pending.stations, Script.Station.stakes]))
    have answered : World.awaitPlace (machine.waiter task) (.condition condition) wait machine.holding =
      (.ok notified, reached) := answered
    have requeued := World.requeued_awaitPlace (machine.waiter task) (.condition condition) wait
      machine.holding
    have goes : World.tryLeaf (machine.waiter task) (.notice condition wait goal) machine.holding =
        World.relock (machine.waiter task) condition notified goal reached := by
      rw [World.tryLeaf_notice, answered]
    rw [answered] at requeued
    subst lock
    have once := World.taken_relock notified goal requeued (within.hasGate_lockOf known) turn
    rw [← goes] at once
    rw [world_move, world_stepRetry]
    exact once
  | @again task condition old wait notified goal reached clean polled refused lock turn =>
    have acts : act? machine.signal =
        some (stepRetry task (.leaf (.relock condition old wait notified goal))) := by
      rw [polled]
      rfl
    obtain rfl := step.eq_of_next (next_of_act clean acts)
    have debt : Stake.Stands machine.world (.debt condition old) :=
      settled.stands _ (stakes_of_retry polled (by simp [Pending.stations, Script.Station.stakes]))
    have refused : World.awaitTurn (machine.waiter task) (.lock old) wait machine.holding =
      (.ok false, reached) := refused
    have asks := World.asks_awaitTurn (machine.waiter task) (.lock old) wait machine.holding
    have goes : World.tryLeaf (machine.waiter task) (.relock condition old wait notified goal)
        machine.holding = World.relock (machine.waiter task) condition notified goal reached := by
      rw [World.tryLeaf_relock, refused]
    rw [refused] at asks
    subst lock
    have once := World.taken_relock notified goal (asks.requeued rfl) (within.hasGate_lockOf debt.1) turn
    rw [← goes] at once
    rw [world_move, world_stepRetry]
    exact once

/-! ## Nobody else takes a lock -/

/-- A move gives turns only where a program asks for one. -/
theorem turns_not_mem_changing
    (plain : machine.world.loop.dropped = [] → machine.signal.asks = false) :
    .turns ∉ machine.changing := by
  unfold changing
  cases dropped : machine.world.loop.dropped with
  | cons ref refs => exact ref.turns_not_mem
  | nil =>
    cases act? machine.signal with
    | some step =>
      rw [Signal.aspects_of_plain (plain dropped)]
      exact (machine.signal.isPlain_base machine.world.loop).turns_not_mem
    | none =>
      cases machine.frames with
      | nil => exact IsPlain.turns_not_mem (Or.inl rfl)
      | cons frame => exact frame.turns_not_mem

/-- A program that begins an instruction takes no lock but one that it asks for, and that one only if it
has it at once. -/
def TakesAsked (waiter : World.Waiter) (instruction : Instruction) (id : LockId)
    (world reached : World) : Prop :=
  (World.lockAt id reached).1.taken = (World.lockAt id world).1.taken ∨
    ∃ timeout, AsksFor world id instruction timeout ∧
      (World.beginTurn waiter (.lock id) timeout world).1 = .ok true

namespace TakesAsked

variable {waiter : World.Waiter} {instruction : Instruction} {world reached : World}

/-- It asks for a turn at a gate. -/
theorem gated {gate : Gate} {timeout : Option Nat}
    (asks : gate = .lock id → AsksFor world id instruction timeout)
    (same : (World.lockAt id reached).1.taken =
      (World.lockAt id (World.beginTurn waiter gate timeout world).2).1.taken) :
    TakesAsked waiter instruction id world reached := by
  rcases (World.asks_beginTurn waiter gate timeout world).taken_or id with kept | ⟨here, turn⟩
  · exact Or.inl (same.trans kept)
  · subst here
    exact Or.inr ⟨timeout, asks rfl, turn⟩

/-- It asks for a turn at the gate of an object with a name. -/
theorem named {kind : ObjectClass} {name : String} {action : Nat → WorldM World.Answer}
    {gate : Nat → Gate} {timeout : Option Nat}
    (asks : ∀ found, world.names.lookup (kind, name) = some found → gate found = .lock id →
      AsksFor world id instruction timeout)
    (begins : ∀ found, (action found world).2 =
      (World.beginTurn waiter (gate found) timeout world).2) :
    TakesAsked waiter instruction id world (World.withNamed kind name action world).2 := by
  cases named : world.names.lookup (kind, name) with
  | none => exact Or.inl (by rw [World.withNamed_of_none named])
  | some found =>
    rw [World.withNamed_eq named]
    exact gated (asks found named) (by rw [begins])

end TakesAsked

/-- An instruction that asks for a turn takes no lock but one that it asks for. -/
theorem takesAsked_stepProgram {instruction : Instruction} (asks : instruction.asks = true)
    (task : TaskId) (last : Value) (rest : Script.Body) (world : World) (id : LockId) :
    TakesAsked (World.waiterOf task world).1 instruction id world
      (stepProgram task last (instruction :: rest) world).2 := by
  cases instruction with
  | wait instruction =>
    rw [world_stepProgram_wait]
    cases instruction with
    | lock name timeout =>
      refine .named (fun found named same => ?_) fun found => World.world_beginGate _ _ timeout _
      exact .lock timeout (Gate.lock.inj same ▸ named)
    | semaphore name timeout =>
      exact .named (fun _ _ => Gate.noConfusion) fun found => World.world_beginGate _ _ timeout _
    | event name timeout =>
      exact .named (fun _ _ => Gate.noConfusion) fun found => World.world_beginGate _ _ timeout _
    | conditionLock name timeout =>
      have begins (found : ConditionId) : ((do
          World.beginGate (World.waiterOf task world).1 (.lock (← World.conditionAt found).lock)
            timeout : WorldM World.Answer) world).2 =
          (World.beginTurn (World.waiterOf task world).1 (.lock (world.lockOf found)) timeout
            world).2 := by
        rw [StateM.bind_apply, World.conditionAt_eq]
        exact World.world_beginGate _ _ timeout world
      exact .named (fun found named same => .conditionLock timeout named (Gate.lock.inj same)) begins
    | _ => cases asks
  | guarded resource timeout body =>
    cases resource with
    | lock name =>
      cases named : world.names.lookup (.lock, name) with
      | none =>
        rw [world_stepProgram_unguarded (guardFor?_lock named)]
        exact Or.inl rfl
      | some found =>
        rw [world_stepProgram_guarded (guardFor?_lock named)]
        refine .gated (fun same => ?_) (taken_tryEnter _ _ _ _ _ _)
        exact .guarded timeout body (Gate.lock.inj same ▸ named)
    | semaphore name =>
      cases named : world.names.lookup (.semaphore, name) with
      | none =>
        rw [world_stepProgram_unguarded (guardFor?_semaphore named)]
        exact Or.inl rfl
      | some found =>
        rw [world_stepProgram_guarded (guardFor?_semaphore named)]
        exact .gated Gate.noConfusion (taken_tryEnter _ _ _ _ _ _)
  | _ => cases asks

/-- A program that is polled and asks for a turn takes no lock, or it goes on with the lock. -/
theorem taken_stepRetry_or {task : TaskId} {pending : Pending} (clean : machine.world.loop.dropped = [])
    (polled : machine.signal = .retry task pending) (asks : pending.asks = true) (id : LockId) :
    (World.lockAt id (stepRetry task pending machine.holding).2).1.taken =
        (World.lockAt id machine.world).1.taken ∨
      (∃ future, Acquires id future machine) ∨ AcquiresAtOnce id machine := by
  have relocks {condition : ConditionId} {notified : Bool} {goal : Goal} {reached : World}
      (kept : (World.lockAt id reached).1.taken = (World.lockAt id machine.world).1.taken)
      (acquires : reached.lockOf condition = id →
        (World.beginTurn (machine.waiter task) (.lock id) none reached).1 = .ok true →
        AcquiresAtOnce id machine) :
      (World.lockAt id (World.relock (machine.waiter task) condition notified goal
          reached).2).1.taken = (World.lockAt id machine.world).1.taken ∨
        (∃ future, Acquires id future machine) ∨ AcquiresAtOnce id machine := by
    rcases World.taken_relock_or (machine.waiter task) condition notified goal reached id with
      same | ⟨lock, turn⟩
    · exact Or.inl (same.trans kept)
    · exact Or.inr (Or.inr (acquires lock turn))
  cases pending with
  | leaf leaf =>
    rw [world_stepRetry]
    cases leaf with
    | turn gate wait =>
      rw [World.world_tryLeaf_turn]
      rcases (World.asks_awaitTurn (machine.waiter task) gate wait machine.holding).taken_or id with
        same | ⟨here, turn⟩
      · exact Or.inl same
      · subst here
        exact Or.inr (Or.inl ⟨_, .granted clean polled (.turn wait) rfl turn⟩)
    | notice condition wait goal =>
      have requeued := World.requeued_awaitPlace (machine.waiter task) (.condition condition) wait
        machine.holding
      change (World.lockAt id (World.tryLeaf (machine.waiter task) _ machine.holding).2).1.taken = _ ∨ _
      rw [World.tryLeaf_notice]
      generalize answered : World.awaitPlace (machine.waiter task) (.condition condition) wait
        machine.holding = answer at requeued ⊢
      obtain ⟨after | notified, reached⟩ := answer
      · exact Or.inl (requeued.taken id)
      · exact relocks (requeued.taken id) fun lock turn =>
          .notified clean polled answered lock turn
    | relock condition old wait notified goal =>
      change (World.lockAt id (World.tryLeaf (machine.waiter task) _ machine.holding).2).1.taken = _ ∨ _
      rw [World.tryLeaf_relock]
      rcases (World.asks_awaitTurn (machine.waiter task) (.lock old) wait machine.holding).taken_or id with
        same | ⟨here, turn⟩
      · generalize refused : World.awaitTurn (machine.waiter task) (.lock old) wait machine.holding =
          answer at same ⊢
        obtain ⟨after | granted, reached⟩ := answer
        · exact Or.inl same
        · cases granted with
          | true => exact Or.inl ((World.taken_afterRelock _ _ _ _ _ _).trans same)
          | false => exact relocks same fun lock turn => .again clean polled refused lock turn
      · cases here
        exact Or.inr (Or.inl ⟨_, .granted clean polled (.relock condition wait notified goal) rfl turn⟩)
    | _ => cases asks
  | entering guard wait body =>
    rw [world_stepRetry_entering, taken_tryEnter]
    rcases (World.asks_awaitTurn (machine.waiter task) guard.gate wait machine.holding).taken_or id with
      same | ⟨here, turn⟩
    · exact Or.inl same
    · cases guard with
      | lock taken =>
        cases here
        exact Or.inr (Or.inl ⟨_, .granted clean polled (.entering wait body) rfl turn⟩)
      | semaphore => cases here
  | _ => cases asks

/-- A step takes a lock only if someone goes on with the lock. -/
theorem Reachable.taken_or (reachable : machine.Reachable) (step : Step machine after) (id : LockId) :
    (World.lockAt id after.world).1.taken = (World.lockAt id machine.world).1.taken ∨
      (∃ future, Acquires id future machine) ∨ AcquiresAtOnce id machine := by
  have sound := Reachable.sound reachable
  by_cases asking : machine.world.loop.dropped = [] ∧ machine.signal.asks = true
  · obtain ⟨clean, asks⟩ := asking
    cases signal : machine.signal with
    | program task last body =>
      rw [signal] at asks
      cases body with
      | nil => cases asks
      | cons instruction rest =>
        have acts : act? machine.signal = some (stepProgram task last (instruction :: rest)) := by
          rw [signal]
          rfl
        obtain rfl := step.eq_of_next (next_of_act clean acts)
        rw [world_move]
        rcases takesAsked_stepProgram asks task last rest machine.holding id with
          same | ⟨timeout, asksFor, turn⟩
        · exact Or.inl same
        · exact Or.inr (Or.inr (.begins clean signal (asksFor.congr rfl rfl) turn))
    | retry task pending =>
      rw [signal] at asks
      have acts : act? machine.signal = some (stepRetry task pending) := by
        rw [signal]
        rfl
      obtain rfl := step.eq_of_next (next_of_act clean acts)
      rw [world_move]
      exact taken_stepRetry_or clean signal asks id
    | _ =>
      rw [signal] at asks
      cases asks
  · refine Or.inl ?_
    cases step with
    | moved moves =>
      have passes := (sound.next moves fun asked => asked.elim).2
      refine World.Course.taken_eq passes sound.settled (turns_not_mem_changing fun clean => ?_) id
      exact Bool.eq_false_iff.mpr fun asks => asking ⟨clean, asks⟩
    | begun halted instruction =>
      have passes := (sound.instructed halted instruction).2
      exact World.Course.taken_eq passes sound.settled
        (isPlain_bodyAspects machine.world.loop [instruction]).turns_not_mem id

end EventLoop.Machine
