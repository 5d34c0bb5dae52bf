import EventLoop.Proofs.Sync.Grants

/-!
# What happens to a lock or a semaphore

A deed leaves a lock or a semaphore and its grants undisturbed, or it is one of the few that are listed
by `Turnover`: a release, a caller that takes its turn, or a caller that leaves the queue.
-/
namespace EventLoop.World

open Sync (Lock Semaphore WaiterQueue)

variable {held : List Ref} {places : Multiset (Gate × FutureId)} {stakes left : Multiset Stake}
variable {aspects : List Aspect} {world before after : World} {gate other : Gate} {future : FutureId}
variable {queue : WaiterQueue} {guard : Guard}

/-! ## What is done at one gate -/

/-- The primitive of a gate is changed and nobody is resolved. -/
theorem Sets.touched (sets : Sets gate queue before after) : Touches gate before after := by
  change Touches gate before { after with loop := after.loop.resolveAll [] .cancel }
  exact sets.touches (by decide) (by decide) (fun _ member => nomatch member)
    (fun _ member => nomatch member)

/-- The primitive of a gate is changed and some that wait there are granted. -/
theorem Sets.granting {futures : List FutureId} (sets : Sets gate queue before after)
    (orderly : Orderly held places before) (waits : ∀ future ∈ futures, future ∈ before.entries gate) :
    Touches gate before (grant futures after).2 := by
  rw [grant_eq]
  exact sets.touches (by decide) (by decide)
    (fun future member => orderly.bound (Or.inl ⟨gate, waits future member⟩))
    fun future member _ => waits future member

/-- No queue is touched when nothing happens. -/
theorem Touches.refl (gate : Gate) (world : World) : Touches gate world world :=
  ⟨fun _ => rfl, fun _ => rfl, fun _ => rfl, fun _ => rfl, fun _ => rfl, rfl, fun _ => rfl, id⟩

namespace Orderly

/-- Releasing a lock touches the queue of the lock alone. -/
theorem touches_releaseLock (orderly : Orderly held places world) (id : LockId) :
    Touches (.lock id) world (World.releaseLock id world).2 := by
  rw [releaseLock_eq]
  split
  · exact (Sets.setLock id _ world).granting orderly fun _ => mem_of_wake
  · exact .refl _ _

/-- Giving a permit back touches the queue of the semaphore alone. -/
theorem touches_releaseSemaphore (orderly : Orderly held places world) (id : SemaphoreId) :
    Touches (.semaphore id) world (World.releaseSemaphore id world).2 := by
  rw [releaseSemaphore_eq]
  split
  · exact .refl _ _
  · exact (Sets.setSemaphore id _ world).granting orderly fun _ => mem_of_wake

/-- Giving up what a guard holds touches the queue of the guard alone. -/
theorem touches_releaseGuard (orderly : Orderly held places world) (guard : Guard) :
    Touches guard.gate world (World.releaseGuard guard world).2 := by
  cases guard with
  | lock id => exact orderly.touches_releaseLock id
  | semaphore id => exact orderly.touches_releaseSemaphore id

/-- Setting an event touches the queue of the event alone. -/
theorem touches_raiseEvent (orderly : Orderly held places world) (id : EventId) :
    Touches (.event id) world (World.raiseEvent id world).2 := by
  rw [raiseEvent_eq, Sync.Event.set]
  split
  · exact (Sets.setEvent id _ world).granting orderly fun _ member => absurd member List.not_mem_nil
  · exact (Sets.setEvent id _ world).granting orderly fun _ => mem_of_wake

/-- Notifying callers touches the queue of the condition alone. -/
theorem touches_notify (orderly : Orderly held places world) (id : ConditionId)
    (count : Option Nat) : Touches (.condition id) world (World.notify id count world).2 := by
  obtain ⟨count', form⟩ := notify_eq id count world
  rw [form]
  split
  · exact (Sets.setCondition id _ world).granting orderly fun _ => mem_of_wake
  · exact .refl _ _

/-- Giving up a place touches the queue in which it was, whoever it is handed on to. -/
theorem touches_abandonPlace (orderly : Orderly held places world)
    (place : (gate, future) ∈ places) :
    Touches gate world (World.abandonPlace gate future world).2 := by
  rw [abandonPlace_eq]
  cases settled : world.view future with
  | finished =>
    simp only [WaiterQueue.abandon, settled]
    by_cases handoff : ((world.queue gate).remove future).handoff = true
    · simp only [handoff, if_true]
      refine (Sets.setQueue gate _ world).granting orderly fun other granted => ?_
      have removed : other ∈ (world.entries gate).erase future := mem_of_wake granted
      exact List.erase_sublist.subset removed
    · simp only [handoff, Bool.false_eq_true, if_false]
      exact (Sets.setQueue gate _ world).granting orderly fun _ member => absurd member List.not_mem_nil
  | pending | cancelled =>
    simp only [WaiterQueue.abandon, settled]
    rw [cancelAll_eq]
    refine (Sets.setQueue gate _ world).touches (by decide) (by decide) ?_ ?_
    · intro other member
      rw [List.mem_singleton.mp member]
      exact orderly.bound (Or.inr ⟨gate, place⟩)
    · intro other member pending
      rw [List.mem_singleton.mp member] at pending ⊢
      rcases orderly.placed place with waits | cancelled
      · exact waits
      · rw [cancelled] at pending
        cases pending

end Orderly

/-- Taking a turn touches the gate alone. -/
theorem touches_takeTurn (gate : Gate) (world : World) : Touches gate world (takeTurn gate world).2 := by
  cases gate with
  | lock id => exact (Sets.setLock id (lockAt id world).1.take world).touched
  | semaphore id => exact (Sets.setSemaphore id (semaphoreAt id world).1.take world).touched
  | event id => exact .refl _ _
  | condition id => exact .refl _ _

/-- Removing a caller from its queue touches that queue alone. -/
theorem touches_settlePlace (gate : Gate) (future : FutureId) (world : World) :
    Touches gate world (settlePlace gate future world).2 := by
  rw [settlePlace_eq]
  exact (Sets.setQueue gate _ world).touched

/-! ## What happens to a lock or a semaphore -/

/-- A lock or a semaphore stays as it is, and so do the grants of its queue. -/
structure Undisturbed (guard : Guard) (before after : World) : Prop where
  /-- The lock stays as it is. -/
  lock : ∀ {id}, guard = .lock id → (lockAt id after).1 = (lockAt id before).1
  /-- The semaphore stays as it is. -/
  semaphore : ∀ {id}, guard = .semaphore id → (semaphoreAt id after).1 = (semaphoreAt id before).1
  /-- The grants stay as they are. -/
  granted : after.granted guard.gate = before.granted guard.gate

namespace Undisturbed

/-- A lock or a semaphore is undisturbed when nothing happens. -/
theorem refl (guard : Guard) (world : World) : Undisturbed guard world world :=
  ⟨fun _ => rfl, fun _ => rfl, rfl⟩

/-- What is undisturbed twice is undisturbed. -/
theorem trans {middle : World} (first : Undisturbed guard before middle)
    (second : Undisturbed guard middle after) : Undisturbed guard before after :=
  ⟨fun same => (second.lock same).trans (first.lock same),
    fun same => (second.semaphore same).trans (first.semaphore same),
    second.granted.trans first.granted⟩

/-- What is done at another gate does not disturb. -/
theorem touches (orderly : Orderly held places before) (touches : Touches other before after)
    (differ : guard.gate ≠ other) : Undisturbed guard before after where
  lock := by
    rintro id rfl
    exact congrArg (Option.getD · .new) (touches.locks differ)
  semaphore := by
    rintro id rfl
    exact congrArg (Option.getD · (.new 0 false)) (touches.semaphores differ)
  granted := granted_touches orderly touches differ

/-- What leaves the primitives alone and finishes no future that waits does not disturb. -/
theorem of_primitives
    (locks : ∀ {id}, guard = .lock id → (lockAt id after).1 = (lockAt id before).1)
    (semaphores : ∀ {id}, guard = .semaphore id →
      (semaphoreAt id after).1 = (semaphoreAt id before).1)
    (states : ∀ future ∈ before.entries guard.gate, after.loop.futureState future = .finished ↔
      before.loop.futureState future = .finished) : Undisturbed guard before after where
  lock := locks
  semaphore := semaphores
  granted := by
    have entries : after.entries guard.gate = before.entries guard.gate := by
      cases guard with
      | lock id => exact congrArg (fun lock => lock.waiters.entries) (locks rfl)
      | semaphore id =>
        exact congrArg (fun semaphore => semaphore.waiters.entries) (semaphores rfl)
    unfold World.granted
    rw [entries]
    exact grantedOf_congr states

end Undisturbed

/-- What may happen to a lock or a semaphore. -/
inductive Turnover (guard : Guard) : World → World → Prop
  /-- It is made, if it is a semaphore. -/
  | made (world : World) (value : Nat) (bounded : Bool)
      (last : guard = .semaphore world.semaphores.size) :
      Turnover guard world (makeSemaphore value bounded world).2
  /-- It is released. -/
  | released (world : World) : Turnover guard world (releaseGuard guard world).2
  /-- A caller has its turn at once. -/
  | took (world : World) (exists_ : world.HasGate guard.gate)
      (isOpen : (isOpenGate guard.gate world).1 = true) :
      Turnover guard world (takeTurn guard.gate world).2
  /-- A caller that was granted resumes and has its turn. -/
  | resumed (world : World) (future : FutureId) (waits : future ∈ world.entries guard.gate)
      (granted : world.loop.fate future = .granted) :
      Turnover guard world (takeTurn guard.gate (settlePlace guard.gate future world).2).2
  /-- A caller that was cancelled resumes. -/
  | left (world : World) (future : FutureId) (cancelled : world.loop.fate future = .cancelled) :
      Turnover guard world (settlePlace guard.gate future world).2
  /-- A caller is gone before it resumed. -/
  | abandoned (world : World) (future : FutureId) (bound : future < world.loop.futures.size)
      (waits : future ∈ world.entries guard.gate ∨ world.loop.fate future = .cancelled) :
      Turnover guard world (abandonPlace guard.gate future world).2

/-- A release of a lock or a semaphore. -/
theorem released_cases (orderly : Orderly held places world) (guard other : Guard) :
    Turnover guard world (releaseGuard other world).2 ∨
      Undisturbed guard world (releaseGuard other world).2 := by
  by_cases same : other = guard
  · subst same
    exact Or.inl (.released world)
  · refine Or.inr (.touches orderly (orderly.touches_releaseGuard other) fun gates => same ?_)
    cases guard <;> cases other <;> cases gates <;> rfl

/-- A change that is neither one of primitives nor a timeout does not disturb. -/
theorem Undisturbed.changed {aspect : Aspect} (orderly : Orderly held places before)
    (change : Change (shelter held places before) aspect before after)
    (calm : aspect ≠ .primitives) (early : aspect ≠ .timeouts) : Undisturbed guard before after := by
  obtain ⟨locks, semaphores, -, -⟩ := change.primitives_eq calm
  refine .of_primitives (fun {id} _ => ?_) (fun {id} _ => ?_) fun future waits => ?_
  · change (after.locks.get? id).getD .new = (before.locks.get? id).getD .new
    rw [locks]
  · change (after.semaphores.get? id).getD (.new 0 false) =
      (before.semaphores.get? id).getD (.new 0 false)
    rw [semaphores]
  · have engaged : Engaged places before future := Or.inl ⟨guard.gate, waits⟩
    rw [Loop.futureState_eq, Loop.futureState_eq, change.fate orderly.within calm early
      (fun free => free engaged) (orderly.bound engaged)]

/-- A future whose time is up was not granted. -/
theorem Undisturbed.expired (guard : Guard) (world : World) (future : FutureId) :
    Undisturbed guard world { world with loop := (world.loop.resolve future .cancel).2 } := by
  refine .of_primitives (fun _ => rfl) (fun _ => rfl) fun other _ => ?_
  dsimp only
  rw [Loop.futureState_eq, Loop.fate_resolve]
  split
  · rename_i here
    rw [here.1, Loop.futureState_eq, here.2.1]
    decide
  · rw [Loop.futureState_eq]

/-- A deed is one of those that may happen to a lock or a semaphore, or leaves it undisturbed. -/
theorem Deed.turnover (deed : Deed held aspects stakes before left after)
    (settled : Settled held stakes before) (guard : Guard) :
    Turnover guard before after ∨ Undisturbed guard before after := by
  have orderly := settled.orderly
  have elsewhere {other : Gate} (touches : Touches other before after)
      (differ : guard.gate ≠ other) : Turnover guard before after ∨ Undisturbed guard before after :=
    Or.inr (.touches orderly touches differ)
  cases deed with
  | changed _ member calm early change => exact Or.inr (.changed orderly change calm early)
  | expired => exact Or.inr (.expired guard before _)
  | madeLock =>
    exact Or.inr (.of_primitives (fun {id} _ => Table.getD_push before.locks rfl id) (fun _ => rfl)
      fun _ _ => Iff.rfl)
  | madeSemaphore _ _ value bounded =>
    by_cases last : guard = .semaphore before.semaphores.size
    · exact Or.inl (.made before value bounded last)
    · refine Or.inr (.of_primitives (fun _ => rfl) ?_ fun _ _ => Iff.rfl)
      rintro id rfl
      have old : (before.semaphores.push (.new value bounded)).get? id =
          before.semaphores.get? id := by
        rw [Table.get?_push, if_neg fun same => last (congrArg Guard.semaphore same)]
      exact congrArg (Option.getD · (.new 0 false)) old
  | madeEvent => exact Or.inr (.of_primitives (fun _ => rfl) (fun _ => rfl) fun _ _ => Iff.rfl)
  | madeCondition => exact Or.inr (.of_primitives (fun _ => rfl) (fun _ => rfl) fun _ _ => Iff.rfl)
  | released _ _ id => exact released_cases orderly guard (.lock id)
  | returned _ _ id => exact released_cases orderly guard (.semaphore id)
  | raised _ _ id =>
    exact elsewhere (orderly.touches_raiseEvent id) (by cases guard <;> exact Gate.noConfusion)
  | cleared _ _ id =>
    exact elsewhere (Sets.setEvent id _ before).touched (by cases guard <;> exact Gate.noConfusion)
  | notified _ _ id count =>
    exact elsewhere (orderly.touches_notify id count) (by cases guard <;> exact Gate.noConfusion)
  | took _ _ gate member exists_ isOpen =>
    by_cases same : guard.gate = gate
    · subst same
      exact Or.inl (.took before exists_ isOpen)
    · exact elsewhere (touches_takeTurn gate before) same
  | resumed stakes _ gate future member granted =>
    by_cases same : guard.gate = gate
    · subst same
      have place : (guard.gate, future) ∈ placesOf (.place guard.gate future ::ₘ stakes) := by simp
      refine Or.inl (.resumed before future ((orderly.placed place).resolve_right ?_) granted)
      rw [granted]
      exact Fate.noConfusion
    · rw [placesOf_place] at orderly
      have first := Undisturbed.touches orderly (touches_settlePlace gate future before) same
      exact Or.inr (first.trans
        (.touches orderly.settlePlace (touches_takeTurn gate _) same))
  | left _ _ gate future cancelled =>
    by_cases same : guard.gate = gate
    · subst same
      exact Or.inl (.left before future cancelled)
    · exact elsewhere (touches_settlePlace gate future before) same
  | abandoned stakes _ gate future =>
    have place : (gate, future) ∈ placesOf (.place gate future ::ₘ left) := by simp
    by_cases same : guard.gate = gate
    · subst same
      exact Or.inl (.abandoned before future (orderly.bound (Or.inr ⟨_, place⟩))
        (orderly.placed place))
    · exact elsewhere (orderly.touches_abandonPlace place) same
  | dropped _ _ other => exact released_cases orderly guard other
  | lent _ _ id => exact released_cases orderly guard (.lock (before.lockOf id))
  | kept | recalled | renewed | repaid | waived | forgiven => exact Or.inr (.refl guard before)

/-! ## Giving a place up -/

/-- The queue of a gate after a caller gave its place up. -/
structure Vacates (gate : Gate) (before : World) (queue : WaiterQueue) (after : World) : Prop where
  /-- The queue is set. -/
  set : after = { (setQueue gate queue before).2 with loop := after.loop }
  /-- It hands grants on as before. -/
  handoff : queue.handoff = (before.queue gate).handoff
  /-- There are no more grants than before. -/
  fewer : (grantedOf after.loop queue.entries).length ≤ (before.granted gate).length
  /-- If someone was granted before, then someone is as long as anyone waits. -/
  served : queue.entries ≠ [] → (before.entries gate ≠ [] → 0 < (before.granted gate).length) →
    0 < (grantedOf after.loop queue.entries).length

namespace Vacates

/-- A caller that was not granted is removed, and no grant is given or taken back. -/
theorem unfinished (queue : WaiterQueue) (same : queue = (world.queue gate).remove future) {loop : Loop}
    (states : grantedOf loop queue.entries = grantedOf world.loop queue.entries)
    (unfinished : world.loop.futureState future ≠ .finished) :
    Vacates gate world queue { (setQueue gate queue world).2 with loop } := by
  subst same
  have grants : (grantedOf loop ((world.queue gate).remove future).entries).length =
      (world.granted gate).length := by
    rw [states]
    exact length_grantedOf_erase_of_ne unfinished
  refine ⟨rfl, rfl, Nat.le_of_eq grants, fun waits served => ?_⟩
  change 0 < (grantedOf loop ((world.queue gate).remove future).entries).length
  rw [grants]
  refine served fun empty => waits ?_
  change (world.entries gate).erase future = []
  rw [empty]
  rfl

end Vacates

/-- A caller that was not granted resumes. -/
theorem vacates_settlePlace (unfinished : world.loop.futureState future ≠ .finished) :
    Vacates gate world ((world.queue gate).remove future) (settlePlace gate future world).2 := by
  rw [settlePlace_eq]
  have loop := (Sets.setQueue gate ((world.queue gate).remove future) world).loop
  have same : (setQueue gate ((world.queue gate).remove future) world).2 =
      { (setQueue gate ((world.queue gate).remove future) world).2 with loop := world.loop } := by
    rw [← loop]
  rw [same]
  exact .unfinished _ rfl rfl unfinished

/-- A caller that was granted and has its place is in the queue. -/
theorem mem_of_finished (waits : future ∈ world.entries gate ∨ world.loop.fate future = .cancelled)
    (finished : world.view future = .finished) : future ∈ world.entries gate := by
  refine waits.resolve_right fun cancelled => ?_
  have state : world.view future = .cancelled := Loop.cancelled_iff.mpr cancelled
  rw [finished] at state
  cases state

/-- A caller is gone before it resumed; its grant passes to the next one. -/
theorem vacates_abandonPlace (orderly : Orderly held places world)
    (handoff : (world.queue gate).handoff = true) (bound : future < world.loop.futures.size)
    (waits : future ∈ world.entries gate ∨ world.loop.fate future = .cancelled) :
    ∃ queue, Vacates gate world queue (abandonPlace gate future world).2 := by
  by_cases finished : world.view future = .finished
  · have here := mem_of_finished waits finished
    have loop := (Sets.setQueue gate (((world.queue gate).remove future).wake world.view 1).2 world).loop
    rw [abandonPlace_of_finished handoff finished, grant_eq, loop]
    have known (other : FutureId) (member : other ∈ ((world.queue gate).remove future).entries) :
        other < world.loop.futures.size :=
      orderly.bound (Or.inl ⟨gate, List.erase_sublist.subset member⟩)
    have grants := length_grantedOf_wake_le (List.erase_sublist.nodup (orderly.single gate)) known
    have fewer := length_grantedOf_erase here finished
    refine ⟨_, rfl, rfl, Nat.le_trans grants (Nat.le_of_eq fewer), fun waits _ => ?_⟩
    exact List.length_pos_iff.mpr (grantedOf_wake_ne_nil known waits)
  · have loop := (Sets.setQueue gate ((world.queue gate).remove future) world).loop
    rw [abandonPlace_of_unfinished finished, cancelAll_eq, loop]
    refine ⟨_, .unfinished _ rfl ?_ finished⟩
    exact grantedOf_cancel fun other member => List.mem_singleton.mp member ▸ bound

/-! ## Taking a place -/

namespace Parking

/-- A place that is taken is one more entry of a queue, and its future is pending. -/
theorem form (parking : Parking stakes before left after) : ∃ gate loop, before.HasGate gate ∧
    (isOpenGate gate before).1 = false ∧
      after = { (setQueue gate ((before.queue gate).park before.loop.futures.size) before).2 with loop } ∧
      (∀ future, future < before.loop.futures.size →
        loop.fate future = before.loop.fate future) ∧
      loop.fate before.loop.futures.size = .pending := by
  cases parking with
  | parked gate timeout waiter exists_ shut =>
    let made := (before.loop.makeTimed .unit before.host.kernel.now timeout).2
    let wait : Wait := ⟨before.loop.futures.size, none⟩
    refine ⟨gate, (made.await wait waiter.waker).2, exists_, shut, ?_, ?_, ?_⟩
    · rw [park_eq]
      cases gate <;> rfl
    · intro future bound
      rw [Loop.fate_await]
      exact Loop.fate_makeTimed .unit before.host.kernel.now timeout bound
    · rw [Loop.fate_await]
      exact Loop.fate_makeTimed_new before.loop .unit before.host.kernel.now timeout

/-- A caller that takes a place is not granted, and the grants of others stay as they are. -/
theorem granted (parking : Parking stakes before left after) (orderly : Orderly held places before)
    (gate : Gate) : after.granted gate = before.granted gate := by
  obtain ⟨parked, loop, exists_, -, rfl, old, new⟩ := parking.form
  have sets := Sets.setQueue parked ((before.queue parked).park before.loop.futures.size) before
  have fates (future : FutureId) (waits : future ∈ before.entries gate) :
      loop.fate future = before.loop.fate future := old future (orderly.bound (Or.inl ⟨gate, waits⟩))
  by_cases same : gate = parked
  · subst same
    have entries : { (setQueue gate ((before.queue gate).park before.loop.futures.size) before).2 with
        loop }.entries gate = before.entries gate ++ [before.loop.futures.size] := by
      rw [World.entries, queue_loop, sets.present exists_]
      rfl
    have pending : loop.futureState before.loop.futures.size ≠ .finished := by
      rw [Loop.futureState_eq, new]
      decide
    rw [World.granted, entries]
    refine (grantedOf_append_of_ne pending).trans (grantedOf_congr fun future waits => ?_)
    rw [Loop.futureState_eq, Loop.futureState_eq, fates future waits]
  · refine granted_congr ?_ fates
    rw [World.entries, queue_loop, sets.queues same]
    rfl

/-- A lock at which a place is taken was not free, and has one more entry. -/
theorem lockAt (parking : Parking stakes before left after) (id : LockId) :
    (lockAt id after).1 = (World.lockAt id before).1 ∨
      (World.lockAt id after).1 = { (World.lockAt id before).1 with
        waiters := (World.lockAt id before).1.waiters.park before.loop.futures.size } ∧
        (isOpenGate (.lock id) before).1 = false := by
  obtain ⟨gate, loop, exists_, shut, rfl, -, -⟩ := parking.form
  by_cases same : Gate.lock id = gate
  · subst same
    exact Or.inr ⟨getD_modify exists_, shut⟩
  · refine Or.inl ?_
    have sets := Sets.setQueue gate ((before.queue gate).park before.loop.futures.size) before
    exact congrArg (fun found => Option.getD found Lock.new) (sets.locks same)

/-- A semaphore at which a place is taken has one more entry. -/
theorem semaphoreAt (parking : Parking stakes before left after) (id : SemaphoreId) :
    (semaphoreAt id after).1 = (World.semaphoreAt id before).1 ∨
      (World.semaphoreAt id after).1 = { (World.semaphoreAt id before).1 with
        waiters := (World.semaphoreAt id before).1.waiters.park before.loop.futures.size } := by
  obtain ⟨gate, loop, exists_, -, rfl, -, -⟩ := parking.form
  by_cases same : Gate.semaphore id = gate
  · subst same
    exact Or.inr (getD_modify exists_)
  · refine Or.inl ?_
    have sets := Sets.setQueue gate ((before.queue gate).park before.loop.futures.size) before
    exact congrArg (fun found => Option.getD found (Semaphore.new 0 false)) (sets.semaphores same)

end Parking

end EventLoop.World
