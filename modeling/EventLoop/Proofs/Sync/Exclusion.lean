import EventLoop.Proofs.Sync.Answers
import EventLoop.Proofs.Sync.Turnover

/-!
# Locks exclude each other's holders

Between a release of a lock and the moment at which the caller that was granted resumes, the lock is free
and its queue is not empty. In that window newcomers, timeouts, stray releases and callers that are gone
may come. Whatever happens, there is one holder or one grant at most, and a lock that is free never
strands its queue.
-/
namespace EventLoop.World

open Sync (Lock WaiterQueue)

variable {held : List Ref} {places : Multiset (Gate × FutureId)} {stakes rest : Multiset Stake}
variable {world before after : World} {future : FutureId} {id : LockId}

/-! ## The law of a lock -/

/-- A lock that does not exist is a new one. -/
theorem lockAt_of_missing (missing : ¬ world.HasGate (.lock id)) : (lockAt id world).1 = .new := by
  have absent : world.locks.get? id = none := Table.get?_eq_none (Nat.le_of_not_lt missing)
  exact congrArg (fun found => Option.getD found Lock.new) absent

/-- A lock that is free cannot be released, and nothing changes. -/
theorem releaseLock_of_free (free : (lockAt id world).1.locked = false) :
    releaseLock id world = (.error .lockNotHeld, world) := by
  have same : lockAt id world = ((lockAt id world).1, world) := rfl
  unfold releaseLock
  rw [StateM.bind_apply, same]
  simp only [StateM.bind_apply, StateM.get_apply, Lock.release]
  rw [if_neg (Bool.eq_false_iff.mp free)]
  rfl

/-- A lock that is held is free after its release, which is counted. -/
theorem releaseLock_of_locked (exists_ : world.HasGate (.lock id))
    (locked : (lockAt id world).1.locked = true) : (releaseLock id world).1 = .ok () ∧
      (lockAt id (releaseLock id world).2).1.locked = false ∧
      (lockAt id (releaseLock id world).2).1.taken = (lockAt id world).1.taken ∧
      (lockAt id (releaseLock id world).2).1.released = (lockAt id world).1.released + 1 := by
  have read : lockAt id world = ((lockAt id world).1, world) := rfl
  refine ⟨?_, ?_⟩
  · unfold releaseLock
    rw [StateM.bind_apply, read]
    simp only [StateM.bind_apply, StateM.get_apply, Lock.release]
    rw [if_pos locked]
    rfl
  · rw [releaseLock_eq, if_pos locked, grant_eq]
    have same : (lockAt id (setLock id { (lockAt id world).1 with
        locked := false
        waiters := ((world.queue (.lock id)).wake world.view 1).2
        released := (lockAt id world).1.released + 1 } world).2).1 = _ := getD_modify exists_
    have taken := congrArg Lock.taken same
    exact ⟨congrArg Lock.locked same, taken, congrArg Lock.released same⟩

/-- The law of a lock. -/
structure Exclusive (id : LockId) (world : World) : Prop where
  /-- The grant of a caller that is gone passes to the next one. -/
  handoff : (lockAt id world).1.waiters.handoff = true
  /-- The lock was taken once more than it was released exactly if it is held. -/
  balance : (lockAt id world).1.taken =
    (lockAt id world).1.released + (lockAt id world).1.locked.toNat
  /-- There is one holder or one grant at most. -/
  single : (world.granted (.lock id)).length + (lockAt id world).1.locked.toNat ≤ 1
  /-- While the lock is free and callers wait, one of them was granted. -/
  served : (lockAt id world).1.locked = false → world.entries (.lock id) ≠ [] →
    0 < (world.granted (.lock id)).length

namespace Exclusive

/-- A lock that is free and for which nobody waits satisfies the law if it was released as often as it
was taken. -/
theorem of_empty (empty : world.entries (.lock id) = []) {lock : Lock}
    (same : (lockAt id world).1 = lock) (handoff : lock.waiters.handoff = true)
    (balance : lock.taken = lock.released + lock.locked.toNat) : world.Exclusive id := by
  have none : world.granted (.lock id) = [] := by rw [granted, empty]; rfl
  refine ⟨same ▸ handoff, same ▸ balance, ?_, fun _ waits => absurd empty waits⟩
  rw [none, List.length_nil, Nat.zero_add]
  exact Bool.toNat_le _

/-- A lock that does not exist satisfies the law. -/
theorem of_missing (missing : ¬ world.HasGate (.lock id)) : world.Exclusive id := by
  exact of_empty (entries_of_not_hasGate missing) (lockAt_of_missing missing) rfl rfl

/-- What leaves a lock and its grants undisturbed keeps the law. -/
theorem undisturbed (exclusive : before.Exclusive id) (same : Undisturbed (.lock id) before after) :
    after.Exclusive id := by
  have lock := same.lock rfl
  have entries : after.entries (.lock id) = before.entries (.lock id) :=
    congrArg (fun lock => lock.waiters.entries) lock
  have granted : after.granted (.lock id) = before.granted (.lock id) := same.granted
  obtain ⟨handoff, balance, single, served⟩ := exclusive
  refine ⟨?_, ?_, ?_, ?_⟩
  · rw [lock]
    exact handoff
  · rw [lock]
    exact balance
  · rw [lock, granted]
    exact single
  · rw [lock, granted, entries]
    exact served

/-- The law of a lock that was set, after something happened in the loop. -/
theorem of_set (exists_ : world.HasGate (.lock id)) (lock : Lock) (loop : Loop)
    (handoff : lock.waiters.handoff = true)
    (balance : lock.taken = lock.released + lock.locked.toNat)
    (single : (grantedOf loop lock.waiters.entries).length + lock.locked.toNat ≤ 1)
    (served : lock.locked = false → lock.waiters.entries ≠ [] →
      0 < (grantedOf loop lock.waiters.entries).length) :
    { (setLock id lock world).2 with loop }.Exclusive id := by
  have same : (lockAt id { (setLock id lock world).2 with loop }).1 = lock := getD_modify exists_
  have entries : { (setLock id lock world).2 with loop }.entries (.lock id) = lock.waiters.entries :=
    congrArg (fun lock => lock.waiters.entries) same
  have granted : { (setLock id lock world).2 with loop }.granted (.lock id) =
      grantedOf loop lock.waiters.entries := by
    rw [World.granted, entries]
  refine ⟨?_, ?_, ?_, ?_⟩
  · rw [same]
    exact handoff
  · rw [same]
    exact balance
  · rw [same, granted]
    exact single
  · rw [same, granted, entries]
    exact served

/-- A lock that is held exists. -/
theorem hasGate_of_locked (locked : (lockAt id world).1.locked = true) : world.HasGate (.lock id) := by
  by_contra missing
  rw [lockAt_of_missing missing] at locked
  cases locked

/-- There is no grant while the lock is held. -/
theorem none_of_locked (exclusive : world.Exclusive id) (locked : (lockAt id world).1.locked = true) :
    (world.granted (.lock id)).length = 0 := by
  have single := exclusive.single
  rw [locked] at single
  exact Nat.le_zero.mp (Nat.le_of_succ_le_succ single)

/-- While someone is granted the lock is free. -/
theorem free_of_granted (exclusive : world.Exclusive id)
    (some : 0 < (world.granted (.lock id)).length) : (lockAt id world).1.locked = false := by
  by_contra locked
  rw [Bool.not_eq_false] at locked
  exact Nat.ne_of_gt some (exclusive.none_of_locked locked)

/-- A release grants the first caller that waits. -/
theorem released (exclusive : world.Exclusive id) (orderly : Orderly held places world) :
    (releaseLock id world).2.Exclusive id := by
  rw [releaseLock_eq]
  by_cases locked : (lockAt id world).1.locked = true
  · rw [if_pos locked, grant_eq]
    have bound (future : FutureId) (waits : future ∈ world.entries (.lock id)) :
        future < world.loop.futures.size := orderly.bound (Or.inl ⟨.lock id, waits⟩)
    have grants := length_grantedOf_wake_le (orderly.single (.lock id)) bound
    have none := exclusive.none_of_locked locked
    have balance := exclusive.balance
    rw [locked] at balance
    refine of_set (hasGate_of_locked locked) _ _ exclusive.handoff balance ?_
      fun _ waits => List.length_pos_iff.mpr (grantedOf_wake_ne_nil bound waits)
    exact Nat.le_trans grants (Nat.le_of_eq (congrArg (· + 1) none))
  · rw [if_neg locked]
    exact exclusive

/-- A caller that has its turn at once holds the lock. -/
theorem took (exclusive : world.Exclusive id) (exists_ : world.HasGate (.lock id))
    (isOpen : (isOpenGate (.lock id) world).1 = true) :
    (takeTurn (.lock id) world).2.Exclusive id := by
  have free : ((lockAt id world).1.waiters.isEmpty && !(lockAt id world).1.locked) = true := isOpen
  rw [Bool.and_eq_true, Bool.not_eq_true'] at free
  have empty : (lockAt id world).1.waiters.entries = [] := List.isEmpty_iff.mp free.1
  have balance := exclusive.balance
  rw [free.2] at balance
  refine of_set exists_ (lockAt id world).1.take world.loop exclusive.handoff
    (congrArg (· + 1) balance) ?_ fun held => nomatch held
  change (grantedOf world.loop (lockAt id world).1.waiters.entries).length + 1 ≤ 1
  rw [empty]
  exact Nat.le_refl 1

/-- The world after a caller was removed from the queue of a lock, which is set again. -/
theorem of_removed (exists_ : world.HasGate (.lock id)) (queue : WaiterQueue) (loop : Loop)
    (exclusive : world.Exclusive id) (handoff : queue.handoff = true)
    (single : (grantedOf loop queue.entries).length ≤ (world.granted (.lock id)).length)
    (served : (lockAt id world).1.locked = false → queue.entries ≠ [] →
      0 < (grantedOf loop queue.entries).length) :
    { (setQueue (.lock id) queue world).2 with loop }.Exclusive id :=
  of_set exists_ { (lockAt id world).1 with waiters := queue } loop handoff exclusive.balance
    (Nat.le_trans (Nat.add_le_add_right single _) exclusive.single) served

/-- A caller that was granted resumes and holds the lock. -/
theorem resumed (exclusive : world.Exclusive id) (waits : future ∈ world.entries (.lock id))
    (finished : world.loop.futureState future = .finished) :
    (takeTurn (.lock id) (settlePlace (.lock id) future world).2).2.Exclusive id := by
  have exists_ := hasGate_of_mem waits
  have free := exclusive.free_of_granted (length_granted_pos waits finished)
  have one : (world.granted (.lock id)).length ≤ 1 :=
    Nat.le_trans (Nat.le_add_right _ _) exclusive.single
  have balance := exclusive.balance
  rw [free] at balance
  let removed : Lock := { (lockAt id world).1 with
    waiters := (world.queue (.lock id)).remove future }
  have settled : (settlePlace (.lock id) future world).2 = (setLock id removed world).2 :=
    settlePlace_eq _ _ _
  have same : (lockAt id (setLock id removed world).2).1 = removed := getD_modify exists_
  have still : (setLock id removed world).2.HasGate (.lock id) :=
    Nat.lt_of_lt_of_eq exists_ (Table.size_modify _ _ _).symm
  have taken : (takeTurn (.lock id) (setLock id removed world).2).2 =
      (setLock id removed.take (setLock id removed world).2).2 := by
    change (setLock id (lockAt id (setLock id removed world).2).1.take _).2 = _
    rw [same]
  rw [settled, taken]
  refine of_set still removed.take world.loop exclusive.handoff (congrArg (· + 1) balance) ?_
    fun held => nomatch held
  have fewer := length_grantedOf_erase waits finished
  change (grantedOf world.loop ((world.entries (.lock id)).erase future)).length + 1 ≤ 1
  rw [fewer]
  exact one

/-- A caller that gives its place up leaves no more grants, and none only if nobody waits. -/
theorem vacated {queue : WaiterQueue} (exclusive : before.Exclusive id)
    (vacates : Vacates (.lock id) before queue after) : after.Exclusive id := by
  rw [vacates.set]
  by_cases exists_ : before.HasGate (.lock id)
  · exact of_removed exists_ queue after.loop exclusive (vacates.handoff.trans exclusive.handoff)
      vacates.fewer fun free waits => vacates.served waits (exclusive.served free)
  · exact of_missing ((Sets.setQueue (.lock id) queue before).missing exists_)

/-- Whatever may happen to a lock keeps the law. -/
theorem turnover (exclusive : before.Exclusive id) (orderly : Orderly held places before)
    (turnover : Turnover (.lock id) before after) : after.Exclusive id := by
  cases turnover with
  | made _ _ last => cases last
  | released => exact exclusive.released orderly
  | took exists_ isOpen => exact exclusive.took exists_ isOpen
  | resumed future waits granted =>
    refine exclusive.resumed waits ?_
    rw [Loop.futureState_eq, granted]
    rfl
  | left future cancelled =>
    refine exclusive.vacated (vacates_settlePlace ?_)
    rw [Loop.cancelled_iff.mpr cancelled]
    exact FutureState.noConfusion
  | abandoned future bound waits =>
    have handoff : (before.queue (.lock id)).handoff = true := exclusive.handoff
    obtain ⟨queue, vacates⟩ := vacates_abandonPlace orderly handoff bound waits
    exact exclusive.vacated vacates

/-- A caller that takes a place was not granted. -/
theorem parked (exclusive : before.Exclusive id) (orderly : Orderly held places before)
    (parking : Parking stakes before rest after) : after.Exclusive id := by
  have granted := parking.granted orderly (.lock id)
  rcases parking.lockAt id with same | ⟨same, shut⟩
  · have lock : ∀ {other}, Guard.lock id = .lock other →
        (lockAt other after).1 = (lockAt other before).1 := by
      rintro other ⟨⟩
      exact same
    exact exclusive.undisturbed ⟨lock, fun other => (nomatch other), granted⟩
  · obtain ⟨handoff, balance, single, served⟩ := exclusive
    refine ⟨?_, ?_, ?_, ?_⟩
    · rw [same]
      exact handoff
    · rw [same]
      exact balance
    · rw [same, granted]
      exact single
    · rw [same, granted]
      refine fun free _ => served free fun empty => ?_
      have isOpen : (isOpenGate (.lock id) before).1 = true := by
        change ((lockAt id before).1.waiters.entries.isEmpty && !(lockAt id before).1.locked) = true
        have none : (lockAt id before).1.waiters.entries = [] := empty
        have unlocked : (lockAt id before).1.locked = false := free
        rw [none, unlocked]
        rfl
      rw [shut] at isOpen
      cases isOpen

end Exclusive

end EventLoop.World

namespace EventLoop.Machine

open World (Exclusive hasTurn)

/-- The law of a lock lasts. -/
theorem lasting_exclusive (id : LockId) : Lasting (World.Exclusive id) where
  bare isBare := by
    cases isBare
    exact Exclusive.of_missing (Nat.not_lt_zero id)
  deed deed settled holds := (deed.turnover settled (.lock id)).elim
    (holds.turnover settled.orderly) holds.undisturbed
  parking parking settled holds := holds.parked settled.orderly parking

/-- In every state of every run, there is one holder of a lock or one caller that was granted at most; a
lock that is free has no queue or exactly one caller in it that was granted; and the lock was taken once
more than it was released if it is held, and as often otherwise. A release fails exactly if the lock is
free, and then it changes nothing; otherwise it is counted and leaves the lock free. A caller that asks for
its turn is counted exactly if it is answered that it has it. -/
theorem lock_excludes {machine : Machine} (reachable : machine.Reachable) {id : LockId}
    {lock : Sync.Lock} (found : machine.world.locks.get? id = some lock) :
    (machine.world.granted (.lock id)).length + (if lock.locked then 1 else 0) ≤ 1 ∧
      (lock.locked = false → lock.waiters.entries ≠ [] →
        (machine.world.granted (.lock id)).length = 1) ∧
      (lock.taken : Int) - lock.released = (if lock.locked then 1 else 0) ∧
      (match machine.inWorld (World.releaseLock id) with
        | (.error _, after) => after = machine.holding ∧ lock.locked = false
        | (.ok _, after) => (World.lockAt id after).1.released = lock.released + 1 ∧
          (World.lockAt id after).1.taken = lock.taken ∧
          (World.lockAt id after).1.locked = false ∧ lock.locked = true) ∧
      (∀ waiter timeout, match machine.inWorld (World.beginTurn waiter (.lock id) timeout) with
        | (answer, after) => (World.lockAt id after).1.taken = lock.taken + (hasTurn answer).toNat) ∧
      (∀ waiter wait, match machine.inWorld (World.awaitTurn waiter (.lock id) wait) with
        | (answer, after) => (World.lockAt id after).1.taken =
          lock.taken + (hasTurn answer).toNat) := by
  have law := (lasting_exclusive id).reachable reachable
  have same : (World.lockAt id machine.world).1 = lock :=
    congrArg (fun found => Option.getD found Sync.Lock.new) found
  have entries : machine.world.entries (.lock id) = lock.waiters.entries :=
    congrArg (fun lock => lock.waiters.entries) same
  have exists_ : machine.holding.HasGate (.lock id) := Table.lt_size_of_get? found
  have holding : (World.lockAt id machine.holding).1 = lock := same
  obtain ⟨-, balance, single, served⟩ := law
  rw [same] at balance single served
  rw [entries] at served
  have flag : lock.locked.toNat = if lock.locked then 1 else 0 := by cases lock.locked <;> rfl
  refine ⟨flag ▸ single, fun free waits => ?_, ?_, ?_, fun waiter timeout => ?_, fun waiter wait => ?_⟩
  · exact Nat.le_antisymm (Nat.le_trans (Nat.le_add_right _ _) single) (served free waits)
  · rw [balance]
    cases lock.locked <;> simp
  · change match World.releaseLock id machine.holding with
      | (.error _, after) => _
      | (.ok _, after) => _
    cases locked : lock.locked with
    | false =>
      rw [World.releaseLock_of_free (holding ▸ locked)]
      exact ⟨rfl, rfl⟩
    | true =>
      have freed := World.releaseLock_of_locked exists_ (holding ▸ locked)
      rw [holding] at freed
      generalize World.releaseLock id machine.holding = result at freed ⊢
      obtain ⟨answer, after⟩ := result
      obtain ⟨rfl, free, taken, released⟩ := freed
      exact ⟨released, taken, free, rfl⟩
  · exact holding ▸ (World.asks_beginTurn waiter _ timeout machine.holding).lock_taken exists_
  · exact holding ▸ (World.asks_awaitTurn waiter _ wait machine.holding).lock_taken exists_

/-- One task holds a lock for which another one waits, and then the lock is released by a stranger. -/
def snatched : Machine := scripted.drive (fun _ => true) 40
  [.sync (.makeLock "l"), .spawn "holder" [.wait (.lock "l" none)],
    .spawn "next" [.wait (.lock "l" none)], .runOnce 1, .sync (.releaseLock "l")]

/-- The one who waits was granted the lock and has not resumed. -/
theorem lock_excludes_snatched : (snatched.world.granted (.lock 0)).length = 1 := by
  have reachable : snatched.Reachable := by
    unfold snatched
    exact reachable_drive _ _
  have state : (snatched.world.locks.get? 0).map (fun lock => (lock.locked, lock.waiters.isEmpty)) =
      some (false, false) := by decide +kernel
  obtain ⟨lock, found, same⟩ := Option.map_eq_some_iff.mp state
  obtain ⟨free, waits⟩ := Prod.mk.inj same
  refine (lock_excludes reachable found).2.1 free fun empty => ?_
  rw [Sync.WaiterQueue.isEmpty, empty] at waits
  cases waits

end EventLoop.Machine
