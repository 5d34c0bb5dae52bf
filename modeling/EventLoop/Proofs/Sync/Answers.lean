import EventLoop.Proofs.Sync.Turn

/-!
# What callers that ask for their turn are answered

While a caller waits, nothing changes at the primitives apart from their queues. A caller that is answered
that it has its turn has taken it just then.
-/
namespace EventLoop.World

open Sync (Lock Semaphore Condition WaiterQueue)

variable {world before after : World} {waiter : Waiter} {gate : Gate} {wait : Wait}

/-! ## Primitives apart from their queues -/

/-- Locks, semaphores and conditions stay as they are, apart from their queues. -/
structure Requeued (before after : World) : Prop where
  /-- Every lock does. -/
  lock : ∀ id, ∃ waiters, (lockAt id after).1 = { (lockAt id before).1 with waiters }
  /-- Every semaphore does. -/
  semaphore : ∀ id, ∃ waiters, (semaphoreAt id after).1 = { (semaphoreAt id before).1 with waiters }
  /-- Every condition does. -/
  condition : ∀ id, ∃ waiters, (conditionAt id after).1 = { (conditionAt id before).1 with waiters }
  /-- Nothing ceases to exist. -/
  exists_ : ∀ gate, before.HasGate gate → after.HasGate gate

/-- The entry of a table after one was changed. -/
theorem getD_modify_eq {α : Type} (table : Table α) (entry default : α) (id other : Nat) :
    ((table.modify other fun _ => entry).get? id).getD default =
      if id = other ∧ id < table.size then entry else (table.get? id).getD default := by
  by_cases same : id = other
  · subst same
    by_cases found : id < table.size
    · rw [if_pos ⟨rfl, found⟩, getD_modify found]
    · rw [if_neg fun here => found here.2, Table.get?_modify_self,
        Table.get?_eq_none (Nat.le_of_not_lt found)]
      rfl
  · rw [if_neg fun here => same here.1, Table.get?_modify_of_ne _ _ same]

/-- A lock that exists is what it was set to, and the others stay as they are. -/
theorem lockAt_setLock (id other : LockId) (lock : Lock) (world : World) :
    (lockAt id (setLock other lock world).2).1 =
      if id = other ∧ id < world.locks.size then lock else (lockAt id world).1 :=
  getD_modify_eq world.locks lock .new id other

/-- A semaphore that exists is what it was set to, and the others stay as they are. -/
theorem semaphoreAt_setSemaphore (id other : SemaphoreId) (semaphore : Semaphore) (world : World) :
    (semaphoreAt id (setSemaphore other semaphore world).2).1 =
      if id = other ∧ id < world.semaphores.size then semaphore else (semaphoreAt id world).1 :=
  getD_modify_eq world.semaphores semaphore (.new 0 false) id other

/-- A condition that exists is what it was set to, and the others stay as they are. -/
theorem conditionAt_setCondition (id other : ConditionId) (condition : Condition) (world : World) :
    (conditionAt id (setCondition other condition world).2).1 =
      if id = other ∧ id < world.conditions.size then condition else (conditionAt id world).1 :=
  getD_modify_eq world.conditions condition (.new 0) id other

namespace Requeued

/-- Nothing changes apart from queues when nothing happens. -/
theorem refl (world : World) : Requeued world world :=
  ⟨fun _ => ⟨_, rfl⟩, fun _ => ⟨_, rfl⟩, fun _ => ⟨_, rfl⟩, fun _ here => here⟩

/-- What changes queues only, twice, changes queues only. -/
theorem trans {middle : World} (first : Requeued before middle) (second : Requeued middle after) :
    Requeued before after where
  lock id := by
    obtain ⟨_, one⟩ := first.lock id
    obtain ⟨waiters, two⟩ := second.lock id
    exact ⟨waiters, by rw [two, one]⟩
  semaphore id := by
    obtain ⟨_, one⟩ := first.semaphore id
    obtain ⟨waiters, two⟩ := second.semaphore id
    exact ⟨waiters, by rw [two, one]⟩
  condition id := by
    obtain ⟨_, one⟩ := first.condition id
    obtain ⟨waiters, two⟩ := second.condition id
    exact ⟨waiters, by rw [two, one]⟩
  exists_ gate here := second.exists_ gate (first.exists_ gate here)

/-- Whatever happens in the loop does not matter. -/
theorem loop (world : World) (loop : Loop) : Requeued world { world with loop } where
  lock _ := ⟨_, rfl⟩
  semaphore _ := ⟨_, rfl⟩
  condition _ := ⟨_, rfl⟩
  exists_ gate here := by cases gate <;> exact here

/-- The queue of a gate is changed. -/
theorem setQueue (gate : Gate) (queue : WaiterQueue) (world : World) :
    Requeued world (setQueue gate queue world).2 where
  lock id := by
    cases gate with
    | lock other =>
      have same := lockAt_setLock id other { (lockAt other world).1 with waiters := queue } world
      change (lockAt id (World.setQueue (.lock other) queue world).2).1 = _ at same
      rw [same]
      split
      · rename_i here
        exact ⟨queue, here.1 ▸ rfl⟩
      · exact ⟨_, rfl⟩
    | semaphore | event | condition => exact ⟨_, rfl⟩
  semaphore id := by
    cases gate with
    | semaphore other =>
      have same := semaphoreAt_setSemaphore id other
        { (semaphoreAt other world).1 with waiters := queue } world
      change (semaphoreAt id (World.setQueue (.semaphore other) queue world).2).1 = _ at same
      rw [same]
      split
      · rename_i here
        exact ⟨queue, here.1 ▸ rfl⟩
      · exact ⟨_, rfl⟩
    | lock | event | condition => exact ⟨_, rfl⟩
  condition id := by
    cases gate with
    | condition other =>
      have same := conditionAt_setCondition id other
        { (conditionAt other world).1 with waiters := queue } world
      change (conditionAt id (World.setQueue (.condition other) queue world).2).1 = _ at same
      rw [same]
      split
      · rename_i here
        exact ⟨queue, here.1 ▸ rfl⟩
      · exact ⟨_, rfl⟩
    | lock | semaphore | event => exact ⟨_, rfl⟩
  exists_ other here := by
    cases gate <;> cases other <;>
      first
      | exact here
      | exact Nat.lt_of_lt_of_eq here (Table.size_modify _ _ _).symm

/-- Whether a lock is held stays as it is. -/
theorem locked (requeued : Requeued before after) (id : LockId) :
    (lockAt id after).1.locked = (lockAt id before).1.locked := by
  obtain ⟨waiters, same⟩ := requeued.lock id
  rw [same]

/-- A lock is not taken. -/
theorem taken (requeued : Requeued before after) (id : LockId) :
    (lockAt id after).1.taken = (lockAt id before).1.taken := by
  obtain ⟨waiters, same⟩ := requeued.lock id
  rw [same]

/-- A lock is not released. -/
theorem released (requeued : Requeued before after) (id : LockId) :
    (lockAt id after).1.released = (lockAt id before).1.released := by
  obtain ⟨waiters, same⟩ := requeued.lock id
  rw [same]

/-- A condition keeps its lock. -/
theorem lockOf (requeued : Requeued before after) (id : ConditionId) :
    after.lockOf id = before.lockOf id := by
  obtain ⟨waiters, same⟩ := requeued.condition id
  unfold World.lockOf
  rw [same]

/-- Removing a caller from its queue changes a queue only. -/
theorem settlePlace (gate : Gate) (future : FutureId) (world : World) :
    Requeued world (settlePlace gate future world).2 := by
  rw [settlePlace_eq]
  exact setQueue _ _ _

/-- Parking a caller changes a queue only. -/
theorem park (gate : Gate) (timeout : Option Nat) (world : World) :
    Requeued world (park gate timeout world).2 := by
  rw [park_eq]
  exact (loop world _).trans (setQueue _ _ _)

end Requeued

/-! ## Waiting -/

/-- Awaiting a future that is done answers with its outcome at once. -/
theorem await_of_done (done : world.loop.isDone wait.future = true) :
    await waiter wait world = (.ok (world.loop.resultOf wait.future), world) := by
  have same : world.loop.await wait waiter.waker = (.ok (world.loop.resultOf wait.future), world.loop) :=
    if_pos done
  change ((world.loop.await wait waiter.waker).1,
    { world with loop := (world.loop.await wait waiter.waker).2 }) = _
  rw [same]

/-- Awaiting a future that is not done goes on. -/
theorem await_of_pending (pending : world.loop.isDone wait.future = false) :
    ∃ after, (await waiter wait world).1 = .error after := by
  have open_ : ¬ world.loop.isDone wait.future = true := Bool.eq_false_iff.mp pending
  change ∃ after, (world.loop.await wait waiter.waker).1 = .error after
  unfold Loop.await
  rw [if_neg open_]
  split
  · exact ⟨_, rfl⟩
  · exact ⟨_, rfl⟩

/-- What a caller is answered that waits for its turn depends on the outcome of its future. -/
theorem answer_awaitTurn (waiter : Waiter) (gate : Gate) (wait : Wait) (world : World) :
    (awaitTurn waiter gate wait world).1 = (await waiter wait world).1.map Except.toBool := by
  rw [awaitTurn_eq, StateM.bind_apply]
  cases (await waiter wait world).1 <;> rfl

/-- A caller that goes on was granted if it is answered that it has its turn, and cancelled otherwise. -/
theorem fate_of_answer {granted : Bool} (sound : world.loop.fate wait.future ≠ .failed)
    (answered : (awaitTurn waiter gate wait world).1 = .ok granted) :
    world.loop.fate wait.future = if granted then .granted else .cancelled := by
  rw [answer_awaitTurn] at answered
  cases done : world.loop.isDone wait.future with
  | false =>
    obtain ⟨after, goes⟩ : ∃ after, (await waiter wait world).1 = .error after :=
      await_of_pending done
    rw [goes] at answered
    cases answered
  | true =>
    rw [await_of_done done] at answered
    cases fate : world.loop.fate wait.future with
    | pending => exact absurd fate (Loop.isDone_iff.mp done)
    | failed => exact absurd fate sound
    | granted =>
      rw [Loop.resultOf_of_granted fate] at answered
      cases answered
      rfl
    | cancelled =>
      rw [Loop.resultOf_of_cancelled fate] at answered
      cases answered
      rfl

/-- Waiting at a place changes nothing but the queue. -/
theorem requeued_awaitPlace (waiter : Waiter) (gate : Gate) (wait : Wait) (world : World) :
    Requeued world (awaitPlace waiter gate wait world).2 := by
  have awaited : Requeued world (await waiter wait world).2 := .loop _ _
  unfold awaitPlace
  rw [StateM.bind_apply]
  generalize await waiter wait world = result at awaited ⊢
  rcases result with ⟨after | outcome, reached⟩
  · exact awaited
  · exact awaited.trans ((Requeued.settlePlace gate wait.future reached).trans (.loop _ _))

/-! ## Turns -/

/-- Whether a caller is answered that it has its turn. -/
def hasTurn : Except Wait Bool → Bool
  | .ok granted => granted
  | .error _ => false

/-- A caller asks for its turn: apart from queues nothing changes, unless the caller is answered that it
has its turn. Then it has taken it just now. -/
def Asks (gate : Gate) (world : World) (answer : Except Wait Bool × World) : Prop :=
  ∃ reached, Requeued world reached ∧
    answer.2 = if hasTurn answer.1 then (takeTurn gate reached).2 else reached

/-- A caller that waits for its turn takes it when it is answered so. -/
theorem asks_awaitTurn (waiter : Waiter) (gate : Gate) (wait : Wait) (world : World) :
    Asks gate world (awaitTurn waiter gate wait world) := by
  refine ⟨_, requeued_awaitPlace waiter gate wait world, ?_⟩
  unfold awaitTurn
  rw [StateM.bind_apply]
  generalize awaitPlace waiter gate wait world = result
  rcases result with ⟨after | granted, reached⟩
  · rfl
  · cases granted <;> rfl

/-- A caller has its turn at once if the gate is open. -/
theorem beginTurn_of_open (waiter : Waiter) (timeout : Option Nat)
    (isOpen : (isOpenGate gate world).1 = true) :
    beginTurn waiter gate timeout world = (.ok true, (takeTurn gate world).2) := by
  unfold beginTurn
  rw [StateM.bind_apply, isOpenGate_same, isOpen]
  rfl

/-- A caller has to wait if the gate is shut. -/
theorem beginTurn_of_shut (waiter : Waiter) (timeout : Option Nat)
    (shut : (isOpenGate gate world).1 = false) :
    (∃ after, (beginTurn waiter gate timeout world).1 = .error after) ∧
      Requeued world (beginTurn waiter gate timeout world).2 := by
  have begun : beginTurn waiter gate timeout world =
      awaitTurn waiter gate ⟨(park gate timeout world).1, none⟩ (park gate timeout world).2 := by
    unfold beginTurn
    rw [StateM.bind_apply, isOpenGate_same, shut]
    rfl
  have number : (park gate timeout world).1 = world.loop.futures.size := by rw [park_eq]
  have new := Parking.pending_park gate timeout world
  obtain ⟨after, goes, -⟩ : ∃ after, (await waiter ⟨world.loop.futures.size, none⟩
      (park gate timeout world).2).1 = .error after ∧ after.future = world.loop.futures.size :=
    Turn.await_pending new.1 new.2
  have waits : awaitTurn waiter gate ⟨world.loop.futures.size, none⟩ (park gate timeout world).2 =
      (.error after, (await waiter ⟨world.loop.futures.size, none⟩ (park gate timeout world).2).2) := by
    unfold awaitTurn awaitPlace
    rw [StateM.bind_apply, StateM.bind_apply, goes]
    rfl
  rw [begun, number, waits]
  exact ⟨⟨after, rfl⟩, (Requeued.park gate timeout world).trans (.loop _ _)⟩

/-- A caller that asks for its turn takes it when it is answered so. -/
theorem asks_beginTurn (waiter : Waiter) (gate : Gate) (timeout : Option Nat) (world : World) :
    Asks gate world (beginTurn waiter gate timeout world) := by
  cases isOpen : (isOpenGate gate world).1 with
  | true =>
    rw [beginTurn_of_open waiter timeout isOpen]
    exact ⟨world, .refl world, rfl⟩
  | false =>
    obtain ⟨⟨after, goes⟩, requeued⟩ := beginTurn_of_shut waiter timeout isOpen
    refine ⟨_, requeued, ?_⟩
    rw [goes]
    rfl

namespace Asks

variable {answer : Except Wait Bool × World}

/-- A caller that is not answered that it has its turn has taken nothing. -/
theorem requeued (asks : Asks gate world answer) (none : hasTurn answer.1 = false) :
    Requeued world answer.2 := by
  obtain ⟨reached, requeued, same⟩ := asks
  rw [none] at same
  exact same ▸ requeued

/-- A lock was taken once more if a caller is answered that it has its turn; it is held then. -/
theorem lock {id : LockId} (asks : Asks (.lock id) world answer) (exists_ : world.HasGate (.lock id))
    (turn : hasTurn answer.1 = true) : (lockAt id answer.2).1.locked = true ∧
      (lockAt id answer.2).1.taken = (lockAt id world).1.taken + 1 ∧
        (lockAt id answer.2).1.released = (lockAt id world).1.released := by
  obtain ⟨reached, requeued, same⟩ := asks
  obtain ⟨waiters, lock⟩ := requeued.lock id
  have taken : (lockAt id (takeTurn (.lock id) reached).2).1 = (lockAt id reached).1.take :=
    getD_modify (requeued.exists_ _ exists_)
  rw [turn] at same
  rw [same, if_pos rfl, taken, lock]
  exact ⟨rfl, rfl, rfl⟩

/-- A lock counts the callers that are answered that they have their turn. -/
theorem lock_taken {id : LockId} (asks : Asks (.lock id) world answer)
    (exists_ : world.HasGate (.lock id)) : (lockAt id answer.2).1.taken =
      (lockAt id world).1.taken + (hasTurn answer.1).toNat := by
  cases turn : hasTurn answer.1 with
  | false => exact (asks.requeued turn).taken id
  | true => exact (asks.lock exists_ turn).2.1

/-- A semaphore counts the callers that are answered that they have their turn. -/
theorem semaphore {id : SemaphoreId} (asks : Asks (.semaphore id) world answer)
    (exists_ : world.HasGate (.semaphore id)) : (semaphoreAt id answer.2).1.taken =
      (semaphoreAt id world).1.taken + (hasTurn answer.1).toNat := by
  obtain ⟨reached, requeued, same⟩ := asks
  obtain ⟨waiters, semaphore⟩ := requeued.semaphore id
  have taken : (semaphoreAt id (takeTurn (.semaphore id) reached).2).1 =
      (semaphoreAt id reached).1.take := getD_modify (requeued.exists_ _ exists_)
  rw [same]
  cases hasTurn answer.1 with
  | false =>
    rw [if_neg Bool.false_ne_true, semaphore]
    rfl
  | true =>
    rw [if_pos rfl, taken, semaphore]
    rfl

end Asks

end EventLoop.World
