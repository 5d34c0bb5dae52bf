import EventLoop.Proofs.Sync.Answers
import EventLoop.Proofs.Sync.Turnover

/-!
# Semaphores account for their permits

The permit of a caller that was granted counts as available until the caller resumes, and a caller that
is gone passes its grant on without touching the count. So the permits that are available are those of
the beginning, with those that were given back and without those that were taken, and they cover every
grant that was not taken up yet.
-/
namespace EventLoop

namespace Sync.Semaphore

variable {semaphore : Semaphore}

/-- The accounts of a semaphore. -/
structure Balanced (semaphore : Semaphore) : Prop where
  /-- The grant of a caller that is gone passes to the next one. -/
  handoff : semaphore.waiters.handoff = true
  /-- Every permit is available or was taken. -/
  balance : semaphore.value + semaphore.taken = semaphore.initial + semaphore.released
  /-- The semaphore is locked if no permit is available. -/
  flag : semaphore.locked = (semaphore.value == 0)
  /-- A semaphore that is bounded never has more permits than in the beginning. -/
  bounded : ∀ most, semaphore.bound = some most →
    most = semaphore.initial ∧ semaphore.value ≤ semaphore.initial

/-- The accounts of a new semaphore are in order. -/
theorem balanced_new (value : Nat) (bounded : Bool) : (new value bounded).Balanced where
  handoff := rfl
  balance := rfl
  flag := rfl
  bounded most same := by
    cases bounded with
    | true =>
      cases same
      exact ⟨rfl, Nat.le_refl _⟩
    | false => cases same

/-- A semaphore is full if it is bounded and has as many permits as in the beginning. -/
theorem Balanced.isFull_iff (balanced : semaphore.Balanced) : semaphore.isFull = true ↔
    semaphore.bound ≠ none ∧ semaphore.value = semaphore.initial := by
  unfold isFull
  cases bound : semaphore.bound with
  | none => exact ⟨fun full => Bool.noConfusion full, fun full => absurd rfl full.1⟩
  | some most =>
    obtain ⟨rfl, most⟩ := balanced.bounded most bound
    rw [Option.any_some, decide_eq_true_iff]
    exact ⟨fun full => ⟨Option.some_ne_none _, Nat.le_antisymm most full⟩,
      fun full => Nat.le_of_eq full.2.symm⟩

/-- A permit that is available may be taken. -/
theorem Balanced.take (balanced : semaphore.Balanced) (available : 0 < semaphore.value) :
    semaphore.take.Balanced where
  handoff := balanced.handoff
  balance := by
    have balance := balanced.balance
    change semaphore.value - 1 + (semaphore.taken + 1) = semaphore.initial + semaphore.released
    omega
  flag := by
    have unlocked : semaphore.locked = false := by
      rw [balanced.flag, beq_eq_false_iff_ne]
      exact Nat.ne_of_gt available
    change (semaphore.value - 1 == 0 || semaphore.locked) = _
    rw [unlocked, Bool.or_false]
    rfl
  bounded most same := by
    have bounded := balanced.bounded most same
    exact ⟨bounded.1, Nat.le_trans (Nat.sub_le _ 1) bounded.2⟩

/-- A semaphore that is not full may get a permit back. -/
theorem Balanced.release (balanced : semaphore.Balanced) (room : ¬ semaphore.isFull = true)
    (waiters : WaiterQueue) (handoff : waiters.handoff = true) :
    Balanced { semaphore with
      value := semaphore.value + 1
      locked := false
      waiters
      released := semaphore.released + 1 } where
  handoff := handoff
  balance := by
    have balance := balanced.balance
    dsimp only
    omega
  flag := rfl
  bounded most same := by
    obtain ⟨bound, most⟩ := balanced.bounded most same
    have bounded : semaphore.bound ≠ none := fun none => Option.some_ne_none _ (same.symm.trans none)
    have differ : semaphore.value ≠ semaphore.initial :=
      fun equal => room (balanced.isFull_iff.mpr ⟨bounded, equal⟩)
    exact ⟨bound, Nat.lt_of_le_of_ne most differ⟩

/-- The accounts do not depend on who waits. -/
theorem Balanced.requeue (balanced : semaphore.Balanced) (waiters : WaiterQueue)
    (handoff : waiters.handoff = true) : Balanced { semaphore with waiters } :=
  ⟨handoff, balanced.balance, balanced.flag, balanced.bounded⟩

end Sync.Semaphore

namespace World

open Sync (Semaphore WaiterQueue)

variable {held : List Ref} {places : Multiset (Gate × FutureId)} {stakes rest : Multiset Stake}
variable {world before after : World} {future : FutureId} {id : SemaphoreId}

/-- A semaphore that does not exist has no permits. -/
theorem semaphoreAt_of_missing (missing : ¬ world.HasGate (.semaphore id)) :
    (semaphoreAt id world).1 = .new 0 false := by
  have absent : world.semaphores.get? id = none := Table.get?_eq_none (Nat.le_of_not_lt missing)
  exact congrArg (fun found => Option.getD found (Semaphore.new 0 false)) absent

/-- A full semaphore refuses a permit, and nothing changes. -/
theorem releaseSemaphore_of_full (full : (semaphoreAt id world).1.isFull = true) :
    releaseSemaphore id world = (.error .releasedTooOften, world) := by
  unfold releaseSemaphore
  rw [StateM.bind_apply, semaphoreAt_eq]
  simp only [StateM.bind_apply, StateM.get_apply, Semaphore.release]
  rw [if_pos full]
  rfl

/-- A semaphore that is not full gets a permit back. -/
theorem releaseSemaphore_of_room (exists_ : world.HasGate (.semaphore id))
    (room : ¬ (semaphoreAt id world).1.isFull = true) :
    (releaseSemaphore id world).1 = .ok () ∧
      (semaphoreAt id (releaseSemaphore id world).2).1.released =
        (semaphoreAt id world).1.released + 1 ∧
      (semaphoreAt id (releaseSemaphore id world).2).1.value =
        (semaphoreAt id world).1.value + 1 := by
  refine ⟨?_, ?_⟩
  · unfold releaseSemaphore
    rw [StateM.bind_apply, semaphoreAt_eq]
    simp only [StateM.bind_apply, StateM.get_apply, Semaphore.release]
    rw [if_neg room]
    rfl
  · rw [releaseSemaphore_eq, if_neg room, grant_eq]
    have same : (semaphoreAt id (setSemaphore id { (semaphoreAt id world).1 with
        value := (semaphoreAt id world).1.value + 1
        locked := false
        waiters := ((world.queue (.semaphore id)).wake world.view 1).2
        released := (semaphoreAt id world).1.released + 1 } world).2).1 = _ := getD_modify exists_
    refine ⟨congrArg Semaphore.released same, congrArg Semaphore.value same⟩

/-- The law of a semaphore. -/
structure Counted (id : SemaphoreId) (world : World) : Prop where
  /-- Its accounts are in order. -/
  balanced : (semaphoreAt id world).1.Balanced
  /-- Every caller that was granted and has not resumed will find a permit. -/
  covered : (world.granted (.semaphore id)).length ≤ (semaphoreAt id world).1.value

namespace Counted

/-- A semaphore that is new satisfies the law. -/
theorem of_new {value : Nat} {bounded : Bool}
    (same : (semaphoreAt id world).1 = .new value bounded) : world.Counted id := by
  have entries : world.entries (.semaphore id) = [] :=
    congrArg (fun semaphore => semaphore.waiters.entries) same
  refine ⟨?_, ?_⟩
  · rw [same]
    exact Semaphore.balanced_new value bounded
  · rw [granted, entries]
    exact Nat.zero_le _

/-- A semaphore that does not exist satisfies the law. -/
theorem of_missing (missing : ¬ world.HasGate (.semaphore id)) : world.Counted id :=
  of_new (semaphoreAt_of_missing missing)

/-- The law of a semaphore that was set, after something happened in the loop. -/
theorem of_set (semaphore : Semaphore) (loop : Loop) (balanced : semaphore.Balanced)
    (covered : (grantedOf loop semaphore.waiters.entries).length ≤ semaphore.value) :
    { (setSemaphore id semaphore world).2 with loop }.Counted id := by
  by_cases exists_ : world.HasGate (.semaphore id)
  · have same : (semaphoreAt id { (setSemaphore id semaphore world).2 with loop }).1 = semaphore :=
      getD_modify exists_
    have entries : { (setSemaphore id semaphore world).2 with loop }.entries (.semaphore id) =
        semaphore.waiters.entries := congrArg (fun semaphore => semaphore.waiters.entries) same
    refine ⟨?_, ?_⟩
    · rw [same]
      exact balanced
    · rw [same, granted, entries]
      exact covered
  · exact of_missing ((Sets.setSemaphore id semaphore world).missing exists_)

/-- What leaves a semaphore and its grants undisturbed keeps the law. -/
theorem undisturbed (counted : before.Counted id)
    (same : Undisturbed (.semaphore id) before after) : after.Counted id := by
  have semaphore := same.semaphore rfl
  have granted : after.granted (.semaphore id) = before.granted (.semaphore id) := same.granted
  refine ⟨?_, ?_⟩
  · rw [semaphore]
    exact counted.balanced
  · rw [semaphore, granted]
    exact counted.covered

/-- A permit that is given back covers the grant of the first caller that waits. -/
theorem released (counted : world.Counted id) (orderly : Orderly held places world) :
    (releaseSemaphore id world).2.Counted id := by
  rw [releaseSemaphore_eq]
  by_cases full : (semaphoreAt id world).1.isFull = true
  · rw [if_pos full]
    exact counted
  · rw [if_neg full, grant_eq]
    have bound (future : FutureId) (waits : future ∈ world.entries (.semaphore id)) :
        future < world.loop.futures.size := orderly.bound (Or.inl ⟨.semaphore id, waits⟩)
    have grants := length_grantedOf_wake_le (orderly.single (.semaphore id)) bound
    exact of_set _ _ (counted.balanced.release full _ counted.balanced.handoff)
      (Nat.le_trans grants (Nat.succ_le_succ counted.covered))

/-- A caller that has its turn at once finds a permit and nobody before it. -/
theorem took (counted : world.Counted id)
    (isOpen : (isOpenGate (.semaphore id) world).1 = true) :
    (takeTurn (.semaphore id) world).2.Counted id := by
  have free : ((semaphoreAt id world).1.waiters.isEmpty &&
      decide (0 < (semaphoreAt id world).1.value)) = true := isOpen
  rw [Bool.and_eq_true, decide_eq_true_iff] at free
  have empty : (semaphoreAt id world).1.waiters.entries = [] := List.isEmpty_iff.mp free.1
  refine of_set (semaphoreAt id world).1.take world.loop (counted.balanced.take free.2) ?_
  change (grantedOf world.loop (semaphoreAt id world).1.waiters.entries).length ≤ _
  rw [empty]
  exact Nat.zero_le _

/-- A caller that was granted resumes and finds its permit. -/
theorem resumed (counted : world.Counted id) (waits : future ∈ world.entries (.semaphore id))
    (finished : world.loop.futureState future = .finished) :
    (takeTurn (.semaphore id) (settlePlace (.semaphore id) future world).2).2.Counted id := by
  have exists_ := hasGate_of_mem waits
  let removed : Semaphore := { (semaphoreAt id world).1 with
    waiters := (world.queue (.semaphore id)).remove future }
  have settled : (settlePlace (.semaphore id) future world).2 = (setSemaphore id removed world).2 :=
    settlePlace_eq _ _ _
  have same : (semaphoreAt id (setSemaphore id removed world).2).1 = removed := getD_modify exists_
  have taken : (takeTurn (.semaphore id) (setSemaphore id removed world).2).2 =
      (setSemaphore id removed.take (setSemaphore id removed world).2).2 := by
    change (setSemaphore id (semaphoreAt id (setSemaphore id removed world).2).1.take _).2 = _
    rw [same]
  have fewer := length_grantedOf_erase waits finished
  have covered : (grantedOf world.loop (world.entries (.semaphore id))).length ≤
      (semaphoreAt id world).1.value := counted.covered
  have available : 0 < (semaphoreAt id world).1.value :=
    Nat.lt_of_lt_of_le (length_granted_pos waits finished) counted.covered
  have balanced : removed.Balanced := counted.balanced.requeue _ counted.balanced.handoff
  rw [settled, taken]
  change Counted id { (setSemaphore id removed.take (setSemaphore id removed world).2).2 with
    loop := world.loop }
  refine of_set removed.take world.loop (balanced.take available) ?_
  change (grantedOf world.loop ((world.entries (.semaphore id)).erase future)).length ≤
    (semaphoreAt id world).1.value - 1
  omega

/-- A caller that gives its place up leaves no more grants. -/
theorem vacated {queue : WaiterQueue} (counted : before.Counted id)
    (vacates : Vacates (.semaphore id) before queue after) : after.Counted id := by
  rw [vacates.set]
  have handoff : queue.handoff = true := vacates.handoff.trans counted.balanced.handoff
  exact of_set { (semaphoreAt id before).1 with waiters := queue } after.loop
    (counted.balanced.requeue queue handoff) (Nat.le_trans vacates.fewer counted.covered)

/-- Whatever may happen to a semaphore keeps the law. -/
theorem turnover (counted : before.Counted id) (orderly : Orderly held places before)
    (turnover : Turnover (.semaphore id) before after) : after.Counted id := by
  cases turnover with
  | made value bounded last =>
    cases last
    have pushed : (before.semaphores.push (.new value bounded)).get? before.semaphores.size =
        some (.new value bounded) := by rw [Table.get?_push, if_pos rfl]
    exact of_new (congrArg (fun found => Option.getD found (Semaphore.new 0 false)) pushed)
  | released => exact counted.released orderly
  | took exists_ isOpen => exact counted.took isOpen
  | resumed future waits granted =>
    refine counted.resumed waits ?_
    rw [Loop.futureState_eq, granted]
    rfl
  | left future cancelled =>
    refine counted.vacated (vacates_settlePlace ?_)
    rw [Loop.cancelled_iff.mpr cancelled]
    exact FutureState.noConfusion
  | abandoned future bound waits =>
    have handoff : (before.queue (.semaphore id)).handoff = true := counted.balanced.handoff
    obtain ⟨queue, vacates⟩ := vacates_abandonPlace orderly handoff bound waits
    exact counted.vacated vacates

/-- A caller that takes a place was not granted. -/
theorem parked (counted : before.Counted id) (orderly : Orderly held places before)
    (parking : Parking stakes before rest after) : after.Counted id := by
  have granted := parking.granted orderly (.semaphore id)
  have covered := counted.covered
  rw [← granted] at covered
  rcases parking.semaphoreAt id with same | same
  · refine ⟨?_, ?_⟩
    · rw [same]
      exact counted.balanced
    · rw [same]
      exact covered
  · refine ⟨?_, ?_⟩
    · rw [same]
      exact counted.balanced.requeue _ counted.balanced.handoff
    · rw [same]
      exact covered

end Counted

end World

namespace Machine

open World (Counted hasTurn)

/-- The law of a semaphore lasts. -/
theorem lasting_counted (id : SemaphoreId) : Lasting (World.Counted id) where
  bare isBare := by
    cases isBare
    exact Counted.of_missing (Nat.not_lt_zero id)
  deed deed settled holds := (deed.turnover settled (.semaphore id)).elim
    (holds.turnover settled.orderly) holds.undisturbed
  parking parking settled holds := holds.parked settled.orderly parking

/-- In every state of every run, a semaphore has the permits of the beginning, with those that were given
back and without those that were taken. They cover all callers that were granted and have not resumed. The
semaphore is locked exactly if it has no permit. If it is bounded, it never has more permits than in the
beginning. A release fails exactly if the semaphore is bounded and has as many permits as in the
beginning, and then it changes nothing; otherwise it is counted. A caller that asks for its turn is counted
exactly if it is answered that it has it. -/
theorem semaphore_counts {machine : Machine} (reachable : machine.Reachable) {id : SemaphoreId}
    {semaphore : Sync.Semaphore} (found : machine.world.semaphores.get? id = some semaphore) :
    (semaphore.value : Int) = semaphore.initial + semaphore.released - semaphore.taken ∧
    (machine.world.granted (.semaphore id)).length ≤ semaphore.value ∧
    (semaphore.locked = true ↔ semaphore.value = 0) ∧
    (∀ most, semaphore.bound = some most →
      most = semaphore.initial ∧ semaphore.value ≤ semaphore.initial) ∧
    (match machine.inWorld (World.releaseSemaphore id) with
      | (.error _, after) => after = machine.holding ∧
        semaphore.bound ≠ none ∧ semaphore.value = semaphore.initial
      | (.ok _, after) => (World.semaphoreAt id after).1.released = semaphore.released + 1 ∧
        (World.semaphoreAt id after).1.value = semaphore.value + 1 ∧
        ¬ (semaphore.bound ≠ none ∧ semaphore.value = semaphore.initial)) ∧
    (∀ waiter timeout, match machine.inWorld (World.beginTurn waiter (.semaphore id) timeout) with
      | (answer, after) => (World.semaphoreAt id after).1.taken =
        semaphore.taken + (hasTurn answer).toNat) ∧
    (∀ waiter wait, match machine.inWorld (World.awaitTurn waiter (.semaphore id) wait) with
      | (answer, after) => (World.semaphoreAt id after).1.taken =
        semaphore.taken + (hasTurn answer).toNat) := by
  have law := (lasting_counted id).reachable reachable
  have same : (World.semaphoreAt id machine.world).1 = semaphore :=
    congrArg (fun found => Option.getD found (Sync.Semaphore.new 0 false)) found
  obtain ⟨balanced, covered⟩ := law
  rw [same] at balanced covered
  have exists_ : machine.holding.HasGate (.semaphore id) := Table.lt_size_of_get? found
  have holding : (World.semaphoreAt id machine.holding).1 = semaphore := same
  have balance := balanced.balance
  refine ⟨by omega, covered, ?_, balanced.bounded, ?_, fun waiter timeout => ?_, fun waiter wait => ?_⟩
  · rw [balanced.flag, beq_iff_eq]
  · change match World.releaseSemaphore id machine.holding with
      | (.error _, after) => _
      | (.ok _, after) => _
    by_cases full : semaphore.isFull = true
    · rw [World.releaseSemaphore_of_full (holding ▸ full)]
      exact ⟨rfl, balanced.isFull_iff.mp full⟩
    · have room := World.releaseSemaphore_of_room exists_ (holding ▸ full)
      rw [holding] at room
      generalize World.releaseSemaphore id machine.holding = result at room ⊢
      obtain ⟨answer, after⟩ := result
      obtain ⟨rfl, released, value⟩ := room
      exact ⟨released, value, fun there => full (balanced.isFull_iff.mpr there)⟩
  · exact holding ▸ (World.asks_beginTurn waiter _ timeout machine.holding).semaphore exists_
  · exact holding ▸ (World.asks_awaitTurn waiter _ wait machine.holding).semaphore exists_

/-- One task has taken the only permit of a semaphore for which another one waits, and then the permit is
given back by a stranger. -/
def refunded : Machine := scripted.drive (fun _ => true) 40
  [.sync (.makeSemaphore "s" .bounded 1), .spawn "holder" [.wait (.semaphore "s" none)],
    .spawn "next" [.wait (.semaphore "s" none)], .runOnce 1, .sync (.releaseSemaphore "s")]

/-- The one who waits was granted and has not resumed, so its permit counts as available, and another
release fails. -/
theorem semaphore_counts_refunded : (refunded.world.granted (.semaphore 0)).length ≤ 1 ∧
    ∃ error, (refunded.inWorld (World.releaseSemaphore 0)).1 = .error error := by
  have reachable : refunded.Reachable := by
    unfold refunded
    exact reachable_drive _ _
  have state : (refunded.world.semaphores.get? 0).map (fun semaphore =>
      (semaphore.value, semaphore.bound, semaphore.initial)) = some (1, some 1, 1) := by decide +kernel
  obtain ⟨semaphore, found, same⟩ := Option.map_eq_some_iff.mp state
  obtain ⟨value, rest⟩ := Prod.mk.inj same
  obtain ⟨bound, initial⟩ := Prod.mk.inj rest
  have counts := semaphore_counts reachable found
  -- From here on it does not matter how the state was reached.
  generalize refunded = machine at counts ⊢
  obtain ⟨-, covered, -, -, released, -⟩ := counts
  rw [value] at covered
  refine ⟨covered, ?_⟩
  generalize machine.inWorld (World.releaseSemaphore 0) = result at released ⊢
  obtain ⟨error | ⟨⟩, after⟩ := result
  · exact ⟨error, rfl⟩
  · refine absurd ⟨?_, ?_⟩ released.2.2
    · rw [bound]
      exact Option.some_ne_none 1
    · rw [value, initial]

end Machine

end EventLoop
