import EventLoop.Proofs.Sync.Exclusion
import EventLoop.Proofs.Sync.Withdrawal

/-!
# Waiting for a condition

A caller that waits for a condition gives the lock of the condition up, waits to be notified and then
waits for the lock. However its wait to be notified ends, it goes on only after it has taken the lock
just then. A task that is cancelled in the meantime leaves both queues, takes no lock any more, and
passes on the lock if it was granted it.
-/
namespace EventLoop.World

open Script (Leaf Goal Predicate Station Activity)

variable {held : List Ref} {stakes : Multiset Stake}
variable {world reached : World} {waiter : Waiter} {id : ConditionId} {goal : Goal} {leaf : Leaf}
variable {gate : Gate} {wait : Wait} {result : Answer × World}

/-- A caller waits for a condition with a goal: it has a place at which it waits to be notified, or one at
which it waits for a lock. -/
inductive AwaitsCondition (id : ConditionId) (goal : Goal) : Leaf → Gate → Wait → Prop
  /-- It waits to be notified. -/
  | notice (wait : Wait) : AwaitsCondition id goal (.notice id wait goal) (.condition id) wait
  /-- It waits for the lock that it gave up. -/
  | relock (lock : LockId) (wait : Wait) (notified : Bool) :
      AwaitsCondition id goal (.relock id lock wait notified goal) (.lock lock) wait

/-- The place of a caller that waits for a condition is at stake. -/
theorem AwaitsCondition.place_mem (awaits : AwaitsCondition id goal leaf gate wait) :
    .place gate wait.future ∈ (Station.leaf leaf).stakes := by
  cases awaits with
  | notice =>
    rw [Station.stakes]
    exact Multiset.mem_cons_self _ _
  | relock =>
    rw [Station.stakes]
    exact Multiset.mem_cons_self _ _

/-- The program of a caller that waits for a condition owns its place. -/
theorem AwaitsCondition.part_mem (awaits : AwaitsCondition id goal leaf gate wait) :
    .place gate wait.future ∈ leaf.parts := by
  cases awaits with
  | notice => exact List.mem_cons_self
  | relock => exact List.mem_cons_self

/-! ## Taking the lock again -/

/-- A lock was taken once, and is held by whoever did it: it was taken once more than it was released. -/
structure Retaken (lock : LockId) (before after : World) : Prop where
  /-- The lock is held. -/
  locked : (lockAt lock after).1.locked = true
  /-- It was taken once since. -/
  taken : (lockAt lock after).1.taken = (lockAt lock before).1.taken + 1
  /-- It was not released since. -/
  released : (lockAt lock after).1.released = (lockAt lock before).1.released
  /-- It was taken once more than it was released. -/
  balance : (lockAt lock after).1.taken = (lockAt lock after).1.released + 1

/-- What comes of a poll of a caller that waits for a condition. -/
inductive Polled (waiter : Waiter) (id : ConditionId) (goal : Goal) (world : World) :
    Answer × World → Prop
  /-- It goes on waiting, and locks stay as they are apart from their queues. -/
  | waits {leaf : Leaf} {gate : Gate} {wait : Wait} {reached : World}
      (awaits : AwaitsCondition id goal leaf gate wait) (requeued : Requeued world reached) :
      Polled waiter id goal world (.error leaf, reached)
  /-- It goes on after it has taken the lock of the condition just now. -/
  | relocked {notified : Bool} {reached : World} (same : reached.lockOf id = world.lockOf id)
      (retaken : Retaken (world.lockOf id) world reached) :
      Polled waiter id goal world (afterRelock waiter id notified goal reached)

/-- What happens to queues does not matter. -/
theorem Polled.of_requeued (polled : Polled waiter id goal reached result)
    (requeued : Requeued world reached) : Polled waiter id goal world result := by
  cases polled with
  | waits awaits more => exact .waits awaits (requeued.trans more)
  | relocked known retaken =>
    rw [requeued.lockOf] at known retaken
    refine .relocked known ⟨retaken.locked, ?_, ?_, retaken.balance⟩
    · rw [retaken.taken, requeued.taken]
    · rw [retaken.released, requeued.released]

/-- A caller that is answered that it has its turn at a lock that was free has taken it. -/
theorem Asks.retaken {lock : LockId} {answer : Except Wait Bool × World}
    (asks : Asks (.lock lock) world answer) (exists_ : world.HasGate (.lock lock))
    (turn : hasTurn answer.1 = true) (free : (lockAt lock world).1.locked = false)
    (balance : (lockAt lock world).1.taken =
      (lockAt lock world).1.released + (lockAt lock world).1.locked.toNat) :
    Retaken lock world answer.2 := by
  obtain ⟨locked, taken, released⟩ := asks.lock exists_ turn
  refine ⟨locked, taken, released, ?_⟩
  rw [taken, released, balance, free]
  rfl

/-- Asking for one's turn at a lock leaves the locks of conditions alone. -/
theorem Asks.lockOf {lock : LockId} {answer : Except Wait Bool × World}
    (asks : Asks (.lock lock) world answer) (id : ConditionId) :
    answer.2.lockOf id = world.lockOf id := by
  obtain ⟨reached, requeued, same⟩ := asks
  rw [same, ← requeued.lockOf]
  split
  · rfl
  · rfl

/-- Taking the lock of a condition again is asking for one's turn at it. -/
theorem relock_eq (waiter : Waiter) (id : ConditionId) (notified : Bool) (goal : Goal) (world : World) :
    relock waiter id notified goal world =
      match beginTurn waiter (.lock (world.lockOf id)) none world with
      | (.error wait, reached) => (.error (.relock id (world.lockOf id) wait notified goal), reached)
      | (.ok _, reached) => afterRelock waiter id notified goal reached := by
  unfold relock lockOf
  rw [StateM.bind_apply, StateM.bind_apply, conditionAt_eq]
  generalize beginTurn waiter (.lock (conditionAt id world).1.lock) none world = answer
  rcases answer with ⟨wait | granted, reached⟩
  · rfl
  · rfl

/-- A caller that waits to be notified takes the lock again after that. -/
theorem tryLeaf_notice (waiter : Waiter) (id : ConditionId) (wait : Wait) (goal : Goal)
    (world : World) : tryLeaf waiter (.notice id wait goal) world =
      match awaitPlace waiter (.condition id) wait world with
      | (.error after, reached) => (.error (.notice id after goal), reached)
      | (.ok notified, reached) => relock waiter id notified goal reached := by
  simp only [tryLeaf, StateM.bind_apply]
  generalize awaitPlace waiter (.condition id) wait world = answer
  rcases answer with ⟨after | notified, reached⟩
  · rfl
  · rfl

/-- A caller that waits for the lock goes on when it has its turn, and asks once more if it has not. -/
theorem tryLeaf_relock (waiter : Waiter) (id : ConditionId) (lock : LockId) (wait : Wait)
    (notified : Bool) (goal : Goal) (world : World) :
    tryLeaf waiter (.relock id lock wait notified goal) world =
      match awaitTurn waiter (.lock lock) wait world with
      | (.error after, reached) => (.error (.relock id lock after notified goal), reached)
      | (.ok true, reached) => afterRelock waiter id notified goal reached
      | (.ok false, reached) => relock waiter id notified goal reached := by
  simp only [tryLeaf, StateM.bind_apply]
  generalize awaitTurn waiter (.lock lock) wait world = answer
  rcases answer with ⟨after | turn, reached⟩
  · rfl
  · cases turn <;> rfl

/-- A caller that was notified, or gave up waiting for that, takes the lock or waits for it. -/
theorem polled_relock (requeued : Requeued world reached)
    (exists_ : world.HasGate (.lock (world.lockOf id)))
    (exclusive : world.Exclusive (world.lockOf id)) (notified : Bool) :
    Polled waiter id goal world (relock waiter id notified goal reached) := by
  have exists_ : reached.HasGate (.lock (reached.lockOf id)) := by
    rw [requeued.lockOf]
    exact requeued.exists_ _ exists_
  have balance : (lockAt (reached.lockOf id) reached).1.taken =
      (lockAt (reached.lockOf id) reached).1.released +
        (lockAt (reached.lockOf id) reached).1.locked.toNat := by
    rw [requeued.lockOf, requeued.taken, requeued.released, requeued.locked]
    exact exclusive.balance
  refine Polled.of_requeued ?_ requeued
  have asks := asks_beginTurn waiter (.lock (reached.lockOf id)) none reached
  rw [relock_eq]
  cases isOpen : (isOpenGate (.lock (reached.lockOf id)) reached).1 with
  | true =>
    rw [beginTurn_of_open waiter none isOpen] at asks ⊢
    have free : ((lockAt (reached.lockOf id) reached).1.waiters.isEmpty &&
      !(lockAt (reached.lockOf id) reached).1.locked) = true := isOpen
    rw [Bool.and_eq_true, Bool.not_eq_true'] at free
    exact .relocked (asks.lockOf id) (asks.retaken exists_ rfl free.2 balance)
  | false =>
    obtain ⟨⟨after, goes⟩, parked⟩ := beginTurn_of_shut waiter none isOpen
    generalize beginTurn waiter (.lock (reached.lockOf id)) none reached = answer at goes parked
    obtain ⟨answer, last⟩ := answer
    cases goes
    exact .waits (.relock _ after notified) parked

/-- A caller that is polled while it waits for a condition goes on waiting or has taken the lock of the
condition just then. -/
theorem polled_tryLeaf (awaits : AwaitsCondition id goal leaf gate wait)
    (settled : Settled held stakes world) (owned : (Station.leaf leaf).stakes ≤ stakes)
    (exclusive : ∀ lock, world.Exclusive lock) :
    Polled waiter id goal world (tryLeaf waiter leaf world) := by
  have place := Multiset.mem_of_le owned awaits.place_mem
  cases awaits with
  | notice wait =>
    have exists_ : world.HasGate (.lock (world.lockOf id)) :=
      settled.orderly.within.hasGate_lockOf (settled.stands _ place)
    have requeued := requeued_awaitPlace waiter (.condition id) wait world
    rw [tryLeaf_notice]
    generalize awaitPlace waiter (.condition id) wait world = answer at requeued ⊢
    rcases answer with ⟨after | notified, reached⟩
    · exact .waits (.notice after) requeued
    · exact polled_relock requeued exists_ (exclusive _) notified
  | relock lock wait notified =>
    have debt : Stake.Stands world (.debt id lock) :=
      settled.stands _ (Multiset.mem_of_le owned (by simp [Station.stakes]))
    obtain ⟨known, rfl⟩ := debt
    have exists_ := settled.orderly.within.hasGate_lockOf known
    have asks := asks_awaitTurn waiter (.lock (world.lockOf id)) wait world
    have granted : (awaitTurn waiter (.lock (world.lockOf id)) wait world).1 = .ok true →
        world.loop.fate wait.future = .granted :=
      fate_of_answer (settled.orderly.sound (Or.inr ⟨_, mem_placesOf place⟩))
    rw [tryLeaf_relock]
    generalize awaitTurn waiter (.lock (world.lockOf id)) wait world = answer at asks granted ⊢
    rcases answer with ⟨after | turn, reached⟩
    · exact .waits (.relock _ after notified) (asks.requeued rfl)
    · cases turn with
      | false => exact polled_relock (asks.requeued rfl) exists_ (exclusive _) notified
      | true =>
        have fate := granted rfl
        have finished : world.loop.futureState wait.future = .finished := by
          rw [Loop.futureState_eq, fate]
          rfl
        have waits : wait.future ∈ world.entries (.lock (world.lockOf id)) := by
          refine (settled.orderly.placed (mem_placesOf place)).resolve_right fun cancelled => ?_
          rw [fate] at cancelled
          cases cancelled
        have free := (exclusive _).free_of_granted (length_granted_pos waits finished)
        exact .relocked (asks.lockOf id) (asks.retaken exists_ rfl free (exclusive _).balance)

/-! ## Giving the lock up -/

/-- A caller gave up a lock that was held. -/
structure GivenUp (lock : LockId) (before after : World) : Prop where
  /-- The lock was held. -/
  held : (lockAt lock before).1.locked = true
  /-- It is free. -/
  free : (lockAt lock after).1.locked = false
  /-- It was released once since. -/
  released : (lockAt lock after).1.released = (lockAt lock before).1.released + 1
  /-- It was not taken since. -/
  taken : (lockAt lock after).1.taken = (lockAt lock before).1.taken

/-- A lock that is held is free after its release. -/
theorem givenUp_releaseLock {lock : LockId} (locked : (lockAt lock world).1.locked = true) :
    GivenUp lock world (releaseLock lock world).2 := by
  have exists_ : lock < world.locks.size := Exclusive.hasGate_of_locked locked
  rw [releaseLock_eq, if_pos locked, grant_eq]
  have same := lockAt_setLock lock lock { (lockAt lock world).1 with
    locked := false
    waiters := ((world.queue (.lock lock)).wake world.view 1).2
    released := (lockAt lock world).1.released + 1 } world
  rw [if_pos ⟨rfl, exists_⟩] at same
  exact ⟨locked, congrArg Sync.Lock.locked same, congrArg Sync.Lock.released same,
    (congrArg Sync.Lock.taken same :)⟩

/-- What happens to queues afterwards does not matter. -/
theorem GivenUp.requeued {lock : LockId} {after : World} (givenUp : GivenUp lock world reached)
    (requeued : Requeued reached after) : GivenUp lock world after where
  held := givenUp.held
  free := (requeued.locked lock).trans givenUp.free
  released := (requeued.released lock).trans givenUp.released
  taken := (requeued.taken lock).trans givenUp.taken

/-- What comes of beginning to wait for a condition. -/
inductive Begun (id : ConditionId) (goal : Goal) (world : World) : Except Error Leaf × World → Prop
  /-- The caller gave the lock up and waits to be notified. -/
  | waits {reached : World} (wait : Wait) (givenUp : GivenUp (world.lockOf id) world reached) :
      Begun id goal world (.ok (.notice id wait goal), reached)
  /-- The lock is free, and nothing happens. -/
  | refused (free : (lockAt (world.lockOf id) world).1.locked = false) :
      Begun id goal world (.error .waitWithoutLock, world)

/-- A caller that begins to wait for a condition does not go on at once: it has given the lock up, unless
it failed. -/
theorem begun_beginNotice (waiter : Waiter) (id : ConditionId) (timeout : Option Nat) (goal : Goal)
    (world : World) : Begun id goal world (beginNotice waiter id timeout goal world) := by
  have asked : isConditionLocked (conditionAt id world).1 world =
      ((lockAt (world.lockOf id) world).1.locked, world) := rfl
  have lock : (conditionAt id world).1.lock = world.lockOf id := rfl
  unfold beginNotice
  rw [StateM.bind_apply, conditionAt_eq, StateM.bind_apply, asked, lock]
  cases locked : (lockAt (world.lockOf id) world).1.locked with
  | false => exact .refused locked
  | true =>
    have released := givenUp_releaseLock locked
    simp only [if_true, StateM.bind_apply]
    generalize (releaseLock (world.lockOf id) world).2 = reached at released ⊢
    have givenUp := (released.requeued (.park (.condition id) timeout reached)).requeued
      (.loop _ ((park (.condition id) timeout reached).2.loop.await
        ⟨(park (.condition id) timeout reached).1, none⟩ waiter.waker).2)
    change GivenUp _ _ (await waiter ⟨(park (.condition id) timeout reached).1, none⟩
      (park (.condition id) timeout reached).2).2 at givenUp
    generalize park (.condition id) timeout reached = parked at givenUp ⊢
    generalize await waiter ⟨parked.1, none⟩ parked.2 = awaited at givenUp ⊢
    rcases awaited with ⟨wait | outcome, last⟩
    · exact .waits wait givenUp
    · exact .waits ⟨parked.1, none⟩ givenUp

/-! ## Going on -/

/-- What happens to queues afterwards does not matter. -/
theorem Retaken.requeued {lock : LockId} {before : World} (retaken : Retaken lock before world)
    (requeued : Requeued world reached) : Retaken lock before reached where
  locked := (requeued.locked lock).trans retaken.locked
  taken := (requeued.taken lock).trans retaken.taken
  released := (requeued.released lock).trans retaken.released
  balance := by
    rw [requeued.taken, requeued.released]
    exact retaken.balance

/-- Asking a predicate leaves the primitives alone. -/
theorem requeued_ask (waiter : Waiter) (predicate : Predicate) (world : World) :
    Requeued world (ask waiter predicate world).2 := by
  have same : ∃ host, (ask waiter predicate world).2 = { world with host } := by
    cases predicate with
    | holds name value => exact ⟨_, rfl⟩
    | asked needed made => exact ⟨_, rfl⟩
  obtain ⟨host, same⟩ := same
  rw [same]
  exact ⟨fun _ => ⟨_, rfl⟩, fun _ => ⟨_, rfl⟩, fun _ => ⟨_, rfl⟩,
    fun gate here => by cases gate <;> exact here⟩

/-- Seeking a predicate to hold is asking it and, if it does not hold and time is left, beginning to wait. -/
theorem seek_eq (waiter : Waiter) (id : ConditionId) (deadline : Option Nat) (predicate : Predicate)
    (world : World) : seek waiter id deadline predicate world =
      match ask waiter predicate world with
      | ((true, _), reached) => (.ok (.ok (.bool true)), reached)
      | ((false, predicate), reached) =>
        match timeLeft deadline reached.host.kernel.now with
        | none => (.ok (.ok (.bool false)), reached)
        | some timeout =>
          match beginNotice waiter id timeout (.predicate deadline predicate) reached with
          | (.ok leaf, last) => (.error leaf, last)
          | (.error error, last) => (.ok (errorValue error), last) := by
  unfold seek
  rw [StateM.bind_apply]
  generalize ask waiter predicate world = result
  obtain ⟨⟨answer, predicate⟩, reached⟩ := result
  cases answer with
  | true => rfl
  | false =>
    have time : now reached = (reached.host.kernel.now, reached) := rfl
    simp only [Bool.false_eq_true, if_false, StateM.bind_apply, time]
    cases timeLeft deadline reached.host.kernel.now with
    | none => rfl
    | some timeout =>
      simp only [StateM.bind_apply]
      generalize beginNotice waiter id timeout (.predicate deadline predicate) reached = begins
      rcases begins with ⟨error | leaf, last⟩ <;> rfl

/-- A caller that holds the lock of a condition and seeks a predicate to hold answers whether it does while
it holds the lock, or waits once more. -/
theorem answer_seek {deadline : Option Nat} {predicate : Predicate} {value : Value}
    (locked : (lockAt (world.lockOf id) world).1.locked = true)
    (answered : (seek waiter id deadline predicate world).1 = .ok value) :
    Requeued world (seek waiter id deadline predicate world).2 ∧
      ∃ answer, value = .ok (.bool answer) := by
  have asked := requeued_ask waiter predicate world
  rw [seek_eq] at answered ⊢
  generalize ask waiter predicate world = result at asked answered ⊢
  obtain ⟨⟨answer, predicate⟩, reached⟩ := result
  cases answer with
  | true =>
    cases answered
    exact ⟨asked, true, rfl⟩
  | false =>
    dsimp only at answered ⊢
    cases left : timeLeft deadline reached.host.kernel.now with
    | none =>
      simp only [left] at answered ⊢
      cases answered
      exact ⟨asked, false, rfl⟩
    | some timeout =>
      have begun := begun_beginNotice waiter id timeout (.predicate deadline predicate) reached
      simp only [left] at answered
      generalize beginNotice waiter id timeout (.predicate deadline predicate) reached = begins
        at begun answered
      cases begun with
      | waits => cases answered
      | refused free =>
        rw [asked.lockOf, asked.locked, locked] at free
        cases free

/-- Whoever took the lock of a condition again still holds it when it goes on with a value. -/
theorem retaken_afterRelock {notified : Bool} {value : Value} {before : World}
    (retaken : Retaken (world.lockOf id) before world)
    (answered : (afterRelock waiter id notified goal world).1 = .ok value) :
    Retaken (world.lockOf id) before (afterRelock waiter id notified goal world).2 ∧
      ∃ answer, value = .ok (.bool answer) := by
  cases goal with
  | notification =>
    cases answered
    exact ⟨retaken, notified, rfl⟩
  | predicate deadline predicate =>
    obtain ⟨requeued, known⟩ := answer_seek retaken.locked answered
    exact ⟨retaken.requeued requeued, known⟩

/-! ## Being cancelled -/

/-- A program in which a caller has a place is gone. -/
structure Withdrawn (activity : Activity) (gate : Gate) (future : FutureId) (before after : World) :
    Prop where
  /-- No queue has the entry of the caller any more. -/
  gone : ∀ other, future ∉ after.entries other
  /-- Whoever waits and has no place in the program goes on waiting. -/
  kept : ∀ other waiting, Queued other waiting before →
    (∀ place, .place place waiting ∉ activity.parts) → waiting ∈ after.entries other
  /-- No lock was taken. -/
  taken : ∀ lock, (lockAt lock after).1.taken = (lockAt lock before).1.taken
  /-- A lock that is held was held before. -/
  freed : ∀ lock, (lockAt lock after).1.locked = true → (lockAt lock before).1.locked = true
  /-- If the caller had been granted a lock, then another one that waits is granted it now. -/
  passedOn : ∀ lock, gate = .lock lock → future ∈ before.granted gate → after.entries gate ≠ [] →
    ∃ other ∈ before.entries gate, other ∉ before.granted gate ∧ after.granted gate = [other]

/-- The only one of a list of one at most that has an element. -/
theorem eq_singleton_of_mem {α : Type} {elements : List α} {element : α}
    (single : elements.length ≤ 1) (member : element ∈ elements) : elements = [element] := by
  match elements, single, member with
  | [only], _, member => rw [List.mem_singleton.mp member]

/-- A program that is given up with a place has left its queue; if it had been granted a lock, then
another caller is granted the lock, if any waits. -/
theorem withdrawn {before after : World} {activity : Activity} {future : FutureId}
    (recedes : Recedes before after) (gone : ∀ other, future ∉ after.entries other)
    (kept : ∀ other waiting, Queued other waiting before →
      (∀ place, .place place waiting ∉ activity.parts) → waiting ∈ after.entries other)
    (exclusive : ∀ lock, before.Exclusive lock) (exclusive' : ∀ lock, after.Exclusive lock) :
    Withdrawn activity gate future before after := by
  refine ⟨gone, kept, recedes.taken, recedes.freed, ?_⟩
  rintro lock rfl granted waits
  have some := List.length_pos_of_mem granted
  have free := (exclusive lock).free_of_granted some
  have alone : before.granted (.lock lock) = [future] :=
    eq_singleton_of_mem (Nat.le_trans (Nat.le_add_right _ _) (exclusive lock).single) granted
  have still : (lockAt lock after).1.locked = false := by
    by_contra locked
    rw [Bool.not_eq_false] at locked
    rw [recedes.freed lock locked] at free
    cases free
  obtain ⟨other, next⟩ := List.exists_mem_of_length_pos ((exclusive' lock).served still waits)
  have last : other ∈ after.entries (.lock lock) := (List.mem_filter.mp next).1
  refine ⟨other, (recedes.thins _).subset last, ?_, ?_⟩
  · rw [alone, List.mem_singleton]
    rintro rfl
    exact gone _ last
  · exact eq_singleton_of_mem (Nat.le_trans (Nat.le_add_right _ _) (exclusive' lock).single) next

end EventLoop.World

namespace EventLoop.Machine

open Script (Leaf Goal Station Activity)
open World (AwaitsCondition Begun Deeds Occupied Performs Polled Retaken Withdrawn leaving revoking)

variable {machine : Machine} {strict : Prop}

/-- A step that leaves alone what is at stake for whoever is under way is made of deeds. -/
theorem Sound.deeds {α : Type} (sound : machine.Sound strict) {step : WorldM α}
    (performs : Performs machine.held revoking (stakesOf machine.stations) machine.holding step
      (leaving (stakesOf machine.stations))) :
    Deeds [] revoking (machine.stakes, machine.world)
      ({ machine with world := (machine.inWorld step).2 }.stakes, (machine.inWorld step).2) := by
  obtain ⟨left, deeds, rfl⟩ := performs (sound.settled.holding machine.held)
  refine .head ?_ (deeds.weaken (List.Subset.refl _) (List.nil_subset _))
  exact .changed _ (by decide) Aspect.noConfusion Aspect.noConfusion
    (.held machine.world machine.held (List.nil_subset _))

/-- A place belongs to one gate only. -/
theorem Sound.gate_eq (sound : machine.Sound strict) {gate other : Gate} {future : FutureId}
    (here : (gate, future) ∈ placesOf machine.stakes)
    (there : (other, future) ∈ placesOf machine.stakes) : other = gate :=
  congrArg Prod.fst
    (Multiset.inj_on_of_nodup_map sound.settled.orderly.distinct _ there _ here rfl)

/-- A task that is cancelled while it waits for a condition leaves both queues. It takes no lock any more,
and passes on the one that it was granted. -/
theorem withdrawn_cancelTask (reachable : machine.Reachable) {task : TaskId} {activity : Activity}
    {leaf : Leaf} {id : ConditionId} {goal : Goal} {gate : Gate} {wait : Wait}
    (holds : machine.world.loop.activityOf task = some activity)
    (member : .leaf leaf ∈ activity.stations) (awaits : AwaitsCondition id goal leaf gate wait) :
    Withdrawn activity gate wait.future machine.world (machine.inWorld (World.cancelTask task)).2 ∧
      Occupied { machine with world := (machine.inWorld (World.cancelTask task)).2 }.stakes
        (machine.inWorld (World.cancelTask task)).2 := by
  have sound := Reachable.sound reachable
  have deeds := sound.deeds (World.Giving.cancelTask task)
  have exclusive (lock : LockId) := (lasting_exclusive lock).reachable reachable
  have occupied := entries_occupied reachable
  have owned : (Station.leaf leaf).stakes ≤ machine.stakes :=
    ((stakes_le_stakesOf member).trans (Loop.stakesAt_le_stakes holds)).trans
      (Multiset.le_add_left _ _)
  have place := mem_placesOf (Multiset.mem_of_le owned awaits.place_mem)
  have part : .place gate wait.future ∈ activity.parts := by
    rw [activity.parts_eq]
    exact List.mem_flatMap.mpr ⟨_, member, awaits.part_mem⟩
  have queues : machine.holding.queue = machine.world.queue := World.queue_congr rfl rfl rfl rfl
  have held : World.Recedes machine.world machine.holding := .of_tables rfl queues
  have holds : machine.holding.loop.activityOf task = some activity := holds
  have recedes := held.trans (World.recedes_cancelTask holds)
  refine ⟨World.withdrawn recedes (fun other waits => ?_)
    (fun other waiting queued stranger => ?_) exclusive fun lock => ?_, ?_⟩
  · have there := occupied other _ ((recedes.thins other).subset waits)
    obtain rfl := sound.gate_eq place there
    have single := (held.thins other).nodup (sound.settled.orderly.single other)
    exact World.not_mem_cancelTask holds single part waits
  · refine (World.queued_cancelTask holds (queued.of_queue queues queued.live) stranger
      fun task found => ?_).member
    -- The result of a task is known, so nobody waits in a queue for it.
    have known := sound.settled.orderly.within.loop.result found
    rintro rfl
    exact known.1 (Or.inl ⟨other, queued.member⟩)
  · exact (lasting_exclusive lock).upheld.deeds deeds sound.settled (exclusive lock)
  · exact upheld_occupied.deeds deeds sound.settled occupied

/-- The caller that is polled goes on waiting for a condition or takes its lock; so would any other one that has
the same at stake. -/
theorem Reachable.polled (reachable : machine.Reachable) {task : TaskId} {leaf other : Leaf}
    {id : ConditionId} {goal : Goal} {gate : Gate} {wait : Wait}
    (retried : machine.signal = .retry task (.leaf leaf)) (waiter : World.Waiter)
    (same : (Station.leaf other).stakes = (Station.leaf leaf).stakes)
    (awaits : AwaitsCondition id goal other gate wait) :
    Polled waiter id goal machine.holding (machine.inWorld (World.tryLeaf waiter other)) := by
  have sound := Reachable.sound reachable
  have settled := sound.settled.holding machine.held
  have exclusive (lock : LockId) : machine.holding.Exclusive lock := by
    obtain ⟨handoff, balance, single, served⟩ := (lasting_exclusive lock).reachable reachable
    exact ⟨handoff, balance, single, served⟩
  have member : .leaf leaf ∈ machine.stations := by
    rw [stations, retried]
    exact List.mem_cons_self
  have owned := (stakes_le_stakesOf member).trans (Multiset.le_add_right _ machine.world.loop.stakes)
  exact World.polled_tryLeaf awaits settled (same ▸ owned) exclusive

/-- In every state of every run, however many share the lock of a condition:

* Whoever begins to wait for the condition gives its lock up, or fails because the lock is free; it does
  not go on at once.
* A caller that is polled while it waits, be it to be notified or for the lock, goes on waiting and takes no
  lock; or it goes on, notified or not, after it has taken the lock just then. If it has a value then, it
  still holds the lock, which was taken once more than it was released, the last time by this caller.
* A task that is cancelled while it waits leaves every queue. It takes no lock any more, and if it was
  granted the lock, another caller that waits is granted it instead. Those that wait elsewhere go on
  waiting, and every entry that is left is the place of a program that still waits. -/
theorem condition_relocks {machine : Machine} (reachable : machine.Reachable) :
    (∀ waiter id timeout goal, Begun id goal machine.holding
      (machine.inWorld (World.beginNotice waiter id timeout goal))) ∧
    (∀ task leaf id goal gate wait waiter, machine.signal = .retry task (.leaf leaf) →
      AwaitsCondition id goal leaf gate wait →
        Polled waiter id goal machine.holding (machine.inWorld (World.tryLeaf waiter leaf)) ∧
        ∀ value, (machine.inWorld (World.tryLeaf waiter leaf)).1 = .ok value →
          Retaken (machine.world.lockOf id) machine.holding
            (machine.inWorld (World.tryLeaf waiter leaf)).2 ∧ ∃ answer, value = .ok (.bool answer)) ∧
    (∀ task activity leaf id goal gate wait,
      machine.world.loop.activityOf task = some activity → .leaf leaf ∈ activity.stations →
      AwaitsCondition id goal leaf gate wait →
        Withdrawn activity gate wait.future machine.world (machine.inWorld (World.cancelTask task)).2 ∧
        Occupied { machine with world := (machine.inWorld (World.cancelTask task)).2 }.stakes
          (machine.inWorld (World.cancelTask task)).2) := by
  refine ⟨fun waiter id timeout goal => World.begun_beginNotice waiter id timeout goal machine.holding,
    fun task leaf id goal gate wait waiter retried awaits => ?_,
    fun task activity leaf id goal gate wait holds member awaits =>
      withdrawn_cancelTask reachable holds member awaits⟩
  have polled := reachable.polled retried waiter rfl awaits
  refine ⟨polled, fun value answered => ?_⟩
  generalize machine.inWorld (World.tryLeaf waiter leaf) = result at polled answered ⊢
  cases polled with
  | waits => cases answered
  | relocked same retaken =>
    rw [← same] at retaken
    have goes := World.retaken_afterRelock retaken answered
    rw [same] at goes
    exact goes

/-- One task waited for a condition, was notified while another one held the lock, and was then granted the
lock, for which a third one waits. -/
def promised : Machine := scripted.drive (fun _ => true) 60
  [.sync (.makeLock "l"), .sync (.makeCondition "c" (some "l")),
    .spawn "waiter" [.wait (.lock "l" none), .wait (.condition "c" none)], .runOnce 1,
    .spawn "holder" [.wait (.lock "l" none)], .runOnce 1, .sync (.notify "c" 1), .runOnce 2,
    .spawn "next" [.wait (.lock "l" none)], .runOnce 1, .sync (.releaseLock "l")]

/-- The one that was granted the lock is about to be polled. -/
def retrying : Machine := promised.drive (fun _ => true) 9 [.runOnce 2]

/-- Whether the lock was granted to the first task, and another one would get it next. -/
def isPromised (machine : Machine) : Bool :=
  match machine.world.loop.activityOf 0 with
  | some (.paused (.leaf (.relock _ 0 wait _ _)) _ _) =>
    decide (wait.future ∈ machine.world.granted (.lock 0)) &&
      !((machine.inWorld (World.cancelTask 0)).2.entries (.lock 0)).isEmpty
  | _ => false

/-- Whether the first task waits for the lock and goes on when it is polled. -/
def isRetrying (machine : Machine) : Bool :=
  match machine.signal with
  | .retry 0 (.leaf (.relock id lock wait notified .notification)) =>
    (machine.inWorld (World.tryLeaf ⟨0, "waiter", 0⟩
      (.relock id lock wait notified .notification))).1.toBool
  | _ => false

/-- If the one that was granted the lock is cancelled, the third one is granted it instead; otherwise it
takes the lock when it is polled, and goes on. -/
theorem condition_relocks_promised :
    (∃ other, (promised.inWorld (World.cancelTask 0)).2.granted (.lock 0) = [other]) ∧
    ∃ id leaf, retrying.signal = .retry 0 (.leaf leaf) ∧ Retaken (retrying.world.lockOf id)
      retrying.holding (retrying.inWorld (World.tryLeaf ⟨0, "waiter", 0⟩ leaf)).2 := by
  have reachable : promised.Reachable := by
    unfold promised
    exact reachable_drive _ _
  have later : retrying.Reachable := by
    unfold retrying
    exact Visits.reachable (.drive (reachable.mono fun _ _ => rfl) _ _)
  have cancels : promised.isPromised = true := by decide +kernel
  have polls : retrying.isRetrying = true := by decide +kernel
  have first := condition_relocks reachable
  have second := condition_relocks later
  -- From here on it does not matter how the states were reached.
  generalize promised = machine at first cancels ⊢
  generalize retrying = next at second polls ⊢
  refine ⟨?_, ?_⟩
  · unfold isPromised at cancels
    split at cancels
    · rename_i id wait notified goal label rest holds
      rw [Bool.and_eq_true, decide_eq_true_iff, Bool.not_eq_true'] at cancels
      obtain ⟨withdrawn, -⟩ := first.2.2 0 _ _ id goal _ wait holds List.mem_cons_self
        (.relock 0 wait notified)
      obtain ⟨other, -, -, granted⟩ := withdrawn.passedOn 0 rfl cancels.1 fun empty => by
        rw [empty] at cancels
        cases cancels.2
      exact ⟨other, granted⟩
    · cases cancels
  · unfold isRetrying at polls
    split at polls
    · rename_i id lock wait notified retried
      have goes := (second.2.1 0 _ id .notification _ wait ⟨0, "waiter", 0⟩ retried
        (.relock lock wait notified)).2
      cases answered : (next.inWorld (World.tryLeaf ⟨0, "waiter", 0⟩
          (.relock id lock wait notified .notification))).1 with
      | error =>
        rw [answered] at polls
        cases polls
      | ok value => exact ⟨id, _, retried, (goes value answered).1⟩
    · cases polls

end EventLoop.Machine
