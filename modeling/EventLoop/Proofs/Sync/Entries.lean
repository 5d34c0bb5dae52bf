import EventLoop.Proofs.Machine.Run

/-!
# Whose the entries of queues are

An entry is added together with the place of a program and is removed, at the latest, when the program
gives the place up, be it that it resumes or that it is gone. So every entry of every queue is the place
of a program that has not given it up.
-/
namespace EventLoop.World

open Sync (WaiterQueue)

variable {held : List Ref} {aspects : List Aspect} {stakes left : Multiset Stake}
variable {world before after : World} {gate : Gate} {future : FutureId}

/-! ## Queues that get no new entries -/

/-- No queue gets a new entry. -/
def Thins (before after : World) : Prop :=
  ∀ gate, (after.entries gate).Sublist (before.entries gate)

namespace Thins

/-- Queues that get no new entries twice get none. -/
theorem trans {middle : World} (first : Thins before middle) (second : Thins middle after) :
    Thins before after :=
  fun gate => (second gate).trans (first gate)

/-- The queues stay as they are. -/
theorem of_queue (same : after.queue = before.queue) : Thins before after := fun gate => by
  unfold entries
  rw [same]

/-- Queues get no new entries when nothing happens. -/
theorem refl (world : World) : Thins world world := of_queue rfl

/-- Whatever happens in the loop does not matter. -/
theorem loop (world : World) (loop : Loop) : Thins world { world with loop } :=
  of_queue (queue_loop world loop)

/-- The queue of a gate is set to a part of what it was. -/
theorem of_sets {queue : WaiterQueue} (sets : Sets gate queue before after)
    (sublist : queue.entries.Sublist (before.entries gate)) : Thins before after := fun other => by
  by_cases same : other = gate
  · exact same ▸ sets.entries_sublist sublist
  · rw [entries, sets.queues same]
    exact List.Sublist.refl _

/-- Granting callers adds no entry to a queue. -/
theorem grant (futures : List FutureId) (world : World) : Thins world (grant futures world).2 := by
  rw [grant_eq]
  exact loop _ _

/-- Cancelling futures adds no entry to a queue. -/
theorem cancelAll (futures : List FutureId) (world : World) :
    Thins world (cancelAll futures world).2 := by
  rw [cancelAll_eq]
  exact loop _ _

/-- Releasing a lock adds no entry to a queue. -/
theorem releaseLock (id : LockId) (world : World) : Thins world (releaseLock id world).2 := by
  rw [releaseLock_eq]
  split
  · exact (of_sets (.setLock id _ world) List.filter_sublist).trans (grant _ _)
  · exact refl world

/-- Giving a permit back adds no entry to a queue. -/
theorem releaseSemaphore (id : SemaphoreId) (world : World) :
    Thins world (releaseSemaphore id world).2 := by
  rw [releaseSemaphore_eq]
  split
  · exact refl world
  · exact (of_sets (.setSemaphore id _ world) List.filter_sublist).trans (grant _ _)

/-- Giving up what a guard holds adds no entry to a queue. -/
theorem releaseGuard (guard : Guard) (world : World) : Thins world (releaseGuard guard world).2 := by
  cases guard with
  | lock id => exact releaseLock id world
  | semaphore id => exact releaseSemaphore id world

/-- Setting an event adds no entry to a queue. -/
theorem raiseEvent (id : EventId) (world : World) : Thins world (raiseEvent id world).2 := by
  rw [raiseEvent_eq, Sync.Event.set]
  split
  · exact (of_sets (.setEvent id _ world) (List.Sublist.refl _)).trans (grant _ _)
  · exact (of_sets (.setEvent id _ world) List.filter_sublist).trans (grant _ _)

/-- Notifying callers adds no entry to a queue, and removes those that were cancelled. -/
theorem notify (id : ConditionId) (count : Option Nat) (world : World) :
    Thins world (notify id count world).2 := by
  obtain ⟨count', form⟩ := notify_eq id count world
  rw [form]
  split
  · exact (of_sets (.setCondition id _ world) List.filter_sublist).trans (grant _ _)
  · exact refl world

/-- Taking a turn adds no entry to a queue. -/
theorem takeTurn (gate : Gate) (world : World) : Thins world (takeTurn gate world).2 := by
  cases gate with
  | lock id => exact of_sets (.setLock id _ world) (List.Sublist.refl _)
  | semaphore id => exact of_sets (.setSemaphore id _ world) (List.Sublist.refl _)
  | event id => exact refl world
  | condition id => exact refl world

/-- Removing a caller from its queue adds no entry to a queue. -/
theorem settlePlace (gate : Gate) (future : FutureId) (world : World) :
    Thins world (settlePlace gate future world).2 := by
  rw [settlePlace_eq]
  exact of_sets (.setQueue gate _ world) List.erase_sublist

end Thins

/-! ## Places that are given up -/

/-- A caller that gave up its place has left the queue. -/
theorem not_mem_of_sets {queue : WaiterQueue} (single : (before.entries gate).Nodup)
    (sets : Sets gate queue before after)
    (sublist : queue.entries.Sublist ((before.entries gate).erase future)) :
    future ∉ after.entries gate :=
  fun waits => single.not_mem_erase ((sets.entries_sublist sublist).subset waits)

/-- A caller that was removed is in the queue no more. -/
theorem not_mem_settlePlace (single : (world.entries gate).Nodup) (future : FutureId) :
    future ∉ (settlePlace gate future world).2.entries gate := by
  rw [settlePlace_eq]
  exact not_mem_of_sets single (.setQueue gate _ world) (List.Sublist.refl _)

/-- The queue that a caller leaves behind which is gone has a part of the other entries. -/
theorem abandon_sublist (queue : WaiterQueue) (view : Sync.FutureView) (future : FutureId) :
    (queue.abandon view future).2.entries.Sublist (queue.entries.erase future) := by
  unfold WaiterQueue.abandon
  cases view future with
  | finished =>
    dsimp only
    split
    · exact List.filter_sublist
    · exact List.Sublist.refl _
  | pending | cancelled => exact List.Sublist.refl _

/-- A caller that is gone sets the queue, and then something happens in the loop. -/
theorem abandonPlace_form (gate : Gate) (future : FutureId) (world : World) :
    ∃ loop, (abandonPlace gate future world).2 = { (setQueue gate
      ((world.queue gate).abandon world.view future).2 world).2 with loop } := by
  rw [abandonPlace_eq]
  split
  · rw [grant_eq]
    exact ⟨_, rfl⟩
  · rw [cancelAll_eq]
    exact ⟨_, rfl⟩

/-- Giving up the place of a caller that is gone adds no entry to a queue. -/
theorem Thins.abandonPlace (gate : Gate) (future : FutureId) (world : World) :
    Thins world (abandonPlace gate future world).2 := by
  obtain ⟨reached, form⟩ := abandonPlace_form gate future world
  have sublist := (abandon_sublist (world.queue gate) world.view future).trans List.erase_sublist
  rw [form]
  exact (Thins.of_sets (.setQueue gate _ world) sublist).trans (.loop _ _)

/-- A caller that gave its place up is in the queue no more. -/
theorem not_mem_abandonPlace (single : (world.entries gate).Nodup) (future : FutureId) :
    future ∉ (abandonPlace gate future world).2.entries gate := by
  obtain ⟨loop, form⟩ := abandonPlace_form gate future world
  rw [form, entries, queue_loop]
  exact not_mem_of_sets single (.setQueue gate _ world) (abandon_sublist _ _ _)

/-- No deed adds an entry to a queue. -/
theorem Deed.thins (deed : Deed held aspects stakes before left after)
    (orderly : Orderly held (placesOf stakes) before) : Thins before after := by
  cases deed with
  | changed _ _ calm early change => exact .of_queue (orderly.changed change calm early).2
  | expired => exact .loop _ _
  | madeLock => exact .of_queue (queue_makeLock before)
  | madeSemaphore => exact .of_queue (queue_makeSemaphore _ _ before)
  | madeEvent => exact .of_queue (queue_makeEvent before)
  | madeCondition _ _ lock => exact .of_queue (queue_makeCondition lock before)
  | released _ _ id => exact .releaseLock id before
  | returned _ _ id => exact .releaseSemaphore id before
  | raised _ _ id => exact .raiseEvent id before
  | cleared _ _ id =>
    exact .of_sets (.setEvent id (eventAt id before).1.clear before) (List.Sublist.refl _)
  | notified _ _ id count => exact .notify id count before
  | took _ _ gate => exact .takeTurn gate before
  | resumed _ _ gate future =>
    exact (Thins.settlePlace gate future before).trans (.takeTurn gate _)
  | left _ _ gate future => exact .settlePlace gate future before
  | abandoned _ _ gate future => exact .abandonPlace gate future before
  | dropped _ _ guard => exact .releaseGuard guard before
  | lent _ _ id => exact .releaseLock (before.lockOf id) before
  | kept | recalled | renewed | repaid | waived | forgiven => exact .refl before

/-! ## The law of entries -/

/-- Every entry of a queue is the place of a program. -/
def Occupied (stakes : Multiset Stake) (world : World) : Prop :=
  ∀ gate, ∀ future ∈ world.entries gate, (gate, future) ∈ placesOf stakes

namespace Occupied

/-- If no queue gets a new entry, every entry is the place of a program as long as no place is given
up. -/
theorem thins (occupied : Occupied stakes before) (thins : Thins before after)
    (places : placesOf left = placesOf stakes) : Occupied left after := fun gate future waits => by
  rw [places]
  exact occupied gate future ((thins gate).subset waits)

/-- If no queue gets a new entry, a place may be given up whose entry is removed. -/
theorem vacated (occupied : Occupied (.place gate future ::ₘ stakes) before)
    (thins : Thins before after) (gone : future ∉ after.entries gate)
    (places : placesOf left = placesOf stakes) : Occupied left after := fun other waiting waits => by
  have placed := occupied other waiting ((thins other).subset waits)
  rw [placesOf_place, Multiset.mem_cons] at placed
  rw [places]
  refine placed.resolve_left ?_
  rintro ⟨⟩
  exact gone waits

/-- Every deed keeps the law. -/
theorem deed (occupied : Occupied stakes before)
    (deed : Deed held aspects stakes before left after)
    (orderly : Orderly held (placesOf stakes) before) : Occupied left after := by
  have thins := deed.thins orderly
  cases deed with
  | changed | expired | madeLock | madeSemaphore | madeEvent | madeCondition | released | returned
  | raised | cleared | notified => exact occupied.thins thins rfl
  | took | dropped | kept | lent | recalled | renewed | repaid | waived | forgiven =>
    exact occupied.thins thins (by simp)
  | resumed stakes _ gate future =>
    have gone := not_mem_settlePlace (orderly.single gate) future
    have turn := Thins.takeTurn gate (settlePlace gate future before).2
    exact occupied.vacated thins (fun waits => gone ((turn gate).subset waits)) (by simp)
  | left _ _ gate future =>
    exact occupied.vacated thins (not_mem_settlePlace (orderly.single gate) future) rfl
  | abandoned _ _ gate future =>
    exact occupied.vacated thins (not_mem_abandonPlace (orderly.single gate) future) rfl

/-- A caller that takes a place adds the entry of its place. -/
theorem parked (occupied : Occupied stakes before) (parking : Parking stakes before left after) :
    Occupied left after := fun other waiting waits => by
  cases parking with
  | parked gate timeout waiter exists_ =>
    have waits := (Thins.loop (park gate timeout before).2 _ other).subset waits
    rw [placesOf_place, Multiset.mem_cons]
    rcases (parks_park exists_ timeout).of_mem_entries waits with old | ⟨rfl, rfl⟩
    · exact Or.inr (occupied other waiting old)
    · exact Or.inl rfl

end Occupied

end EventLoop.World

namespace EventLoop.Machine

open World (Occupied)

/-- The law of entries is upheld. -/
theorem upheld_occupied : Upheld Occupied where
  bare isBare gate future waits := by
    cases isBare
    cases gate <;> cases waits
  deed deed settled holds := holds.deed deed settled.orderly
  parking parking _ holds := holds.parked parking

/-- In every state of every run, every entry of a queue is the place of a program that has not given it
up. -/
theorem entries_occupied {machine : Machine} (reachable : machine.Reachable) :
    Occupied machine.stakes machine.world :=
  upheld_occupied.reachable reachable

end EventLoop.Machine
