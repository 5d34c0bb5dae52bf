import EventLoop.Proofs.Sync.Lobby

/-!
# The queues of the primitives

What is done to a primitive is one of the things that may happen to a queue and those who wait in it. So in
every state of every run the queue of every gate is one that has come about in this way, and those who wait
in it are the programs that have a place there.
-/
namespace EventLoop.World

open Sync (WaiterQueue Lobby)

variable {held : List Ref} {aspects : List Aspect} {stakes left : Multiset Stake}
variable {world before middle after : World} {gate other : Gate} {future : FutureId}

/-- The queue of a gate has come about with those waiting in it who have a place there. -/
def LobbyAt (gate : Gate) (stakes : Multiset Stake) (world : World) : Prop :=
  ∃ waiters : List FutureId, Lobby.Reached ⟨world.loop, world.queue gate, waiters⟩ ∧
    ∀ future, future ∈ waiters ↔ (gate, future) ∈ placesOf stakes

/-- A gate without a primitive has an empty queue. -/
theorem queue_of_not_hasGate (missing : ¬ world.HasGate gate) :
    ∃ handoff, world.queue gate = .empty handoff := by
  cases gate with
  | lock id =>
    refine ⟨true, ?_⟩
    change ((world.locks.get? id).getD .new).waiters = _
    rw [Table.get?_eq_none (Nat.le_of_not_lt missing)]
    rfl
  | semaphore id =>
    refine ⟨true, ?_⟩
    change ((world.semaphores.get? id).getD (.new 0 false)).waiters = _
    rw [Table.get?_eq_none (Nat.le_of_not_lt missing)]
    rfl
  | event id =>
    refine ⟨false, ?_⟩
    change ((world.events.get? id).getD .new).waiters = _
    rw [Table.get?_eq_none (Nat.le_of_not_lt missing)]
    rfl
  | condition id =>
    refine ⟨false, ?_⟩
    change ((world.conditions.get? id).getD (.new 0)).waiters = _
    rw [Table.get?_eq_none (Nat.le_of_not_lt missing)]
    rfl

/-- Awaiting a future neither makes nor forgets one. -/
theorem size_futures_await (loop : Loop) (wait : Wait) (waker : Nat) :
    (loop.await wait waker).2.futures.size = loop.futures.size := by
  unfold Loop.await
  split
  · rfl
  · split
    · rfl
    · dsimp only
      rw [Loop.whenDone_eq]
      split
      · exact Table.size_modify _ _ _
      · rw [Loop.callSoon_eq]

/-- Whoever has a place waits at a gate that exists. -/
theorem Settled.hasGate (settled : Settled held stakes world)
    (place : (gate, future) ∈ placesOf stakes) : world.HasGate gate := by
  obtain ⟨stake, member, same⟩ := (Multiset.mem_filterMap Stake.place? stakes).mp place
  have stands := settled.stands stake member
  cases stake with
  | place =>
    cases same
    exact stands
  | hold | loan | debt => cases same

/-- What is at stake is settled after a caller resumed. -/
theorem Settled.settlePlace (settled : Settled held (.place gate future ::ₘ stakes) world) :
    Settled held stakes (settlePlace gate future world).2 := by
  have orderly := settled.orderly
  have changes := (Primitives.settlePlace gate future orderly.within).1
  rw [placesOf_place] at orderly
  exact ⟨orderly.settlePlace, fun stake member =>
    (settled.stands stake (Multiset.mem_cons_of_mem member)).grows changes.grows⟩

namespace LobbyAt

/-- Nobody waits at a gate without a primitive. -/
theorem missing (missing : ¬ after.HasGate gate)
    (nobody : ∀ future, (gate, future) ∉ placesOf stakes) : LobbyAt gate stakes after := by
  obtain ⟨handoff, empty⟩ := queue_of_not_hasGate missing
  refine ⟨[], ?_, fun future => iff_of_false List.not_mem_nil (nobody future)⟩
  rw [empty]
  exact .opened after.loop handoff

/-- A queue that stays as it is while nobody who waits in it is resolved. -/
theorem stays (lobby : LobbyAt gate stakes before) (queue : after.queue gate = before.queue gate)
    (size : before.loop.futures.size ≤ after.loop.futures.size)
    (fates : ∀ future, (gate, future) ∈ placesOf stakes →
      after.loop.fate future = before.loop.fate future)
    (places : ∀ future, (gate, future) ∈ placesOf left ↔ (gate, future) ∈ placesOf stakes) :
    LobbyAt gate left after := by
  obtain ⟨waiters, reached, waits⟩ := lobby
  refine ⟨waiters, ?_, fun future => (waits future).trans (places future).symm⟩
  have step : Lobby.Step ⟨before.loop, before.queue gate, waiters⟩
      ⟨after.loop, before.queue gate, waiters⟩ := by
    refine .elsewhere after.loop size fun future member => ?_
    change after.loop.futureState future = before.loop.futureState future
    rw [Loop.futureState_eq, Loop.futureState_eq, fates future ((waits future).mp member)]
  rw [queue]
  exact .step reached step

/-- The primitive of a gate is changed, but not its queue. -/
theorem sets {queue : WaiterQueue} (lobby : LobbyAt gate stakes before)
    (settled : Settled held stakes before) (sets : Sets gate queue before after)
    (same : queue = before.queue gate) : LobbyAt gate stakes after := by
  by_cases exists_ : before.HasGate gate
  · exact lobby.stays ((sets.present exists_).trans same) (Nat.le_of_eq (by rw [sets.loop]))
      (fun future _ => by rw [sets.loop]) fun _ => Iff.rfl
  · exact missing (sets.missing exists_) fun future place => exists_ (settled.hasGate place)

/-- The queue of a gate is woken. -/
theorem woken {queue : WaiterQueue} (lobby : LobbyAt gate stakes before)
    (settled : Settled held stakes before) (count : Nat) (sets : Sets gate queue before middle)
    (same : queue = ((before.queue gate).wake before.view count).2) :
    LobbyAt gate stakes (grant ((before.queue gate).wake before.view count).1 middle).2 := by
  rw [grant_eq, sets.loop]
  by_cases exists_ : before.HasGate gate
  · obtain ⟨waiters, reached, waits⟩ := lobby
    refine ⟨waiters, ?_, waits⟩
    have woken := (congrFun (queue_loop middle (before.loop.resolveAll
      ((before.queue gate).wake before.view count).1 (.finish (.ok .unit)))) gate).trans
        ((sets.present exists_).trans same)
    rw [woken]
    exact .step reached (.woken count)
  · refine missing (fun there => sets.missing exists_ ?_)
      fun future place => exists_ (settled.hasGate place)
    cases gate with
    | lock | semaphore | event | condition => exact there

/-- A caller gives its place up. -/
theorem vacated (lobby : LobbyAt gate (.place gate future ::ₘ stakes) before)
    (settled : Settled held (.place gate future ::ₘ stakes) before)
    (places : placesOf left = placesOf stakes)
    (step : ∀ waiters, future ∈ waiters → Lobby.Step ⟨before.loop, before.queue gate, waiters⟩
      ⟨after.loop, after.queue gate, waiters.erase future⟩) : LobbyAt gate left after := by
  obtain ⟨waiters, reached, waits⟩ := lobby
  have orderly := settled.orderly
  rw [placesOf_place] at orderly waits
  have here : future ∈ waiters := (waits future).mpr (Multiset.mem_cons_self _ _)
  refine ⟨waiters.erase future, .step reached (step waiters here), fun waiting => ?_⟩
  rw [reached.holds.distinct.mem_erase_iff, waits, Multiset.mem_cons, places]
  constructor
  · rintro ⟨differ, same | place⟩
    · exact absurd (congrArg Prod.snd same) differ
    · exact place
  · intro place
    refine ⟨?_, .inr place⟩
    rintro rfl
    exact orderly.not_mem_of_cons gate place

end LobbyAt

/-- The queue of every gate has come about with those waiting in it who have a place there. -/
def Lobbies (stakes : Multiset Stake) (world : World) : Prop := ∀ gate, LobbyAt gate stakes world

namespace Lobbies

/-- What is done at one gate leaves the queues of the others as they are. -/
theorem touched (lobbies : Lobbies stakes before) (settled : Settled held stakes before)
    (touches : Touches gate before after) (here : LobbyAt gate left after)
    (places : ∀ other, other ≠ gate → ∀ future,
      (other, future) ∈ placesOf left ↔ (other, future) ∈ placesOf stakes) :
    Lobbies left after := by
  intro other
  by_cases same : other = gate
  · exact same ▸ here
  · refine (lobbies other).stays (touches.queues same) (Nat.le_of_eq touches.size.symm)
      (fun future place => touches.fates fun listed => ?_) (places other same)
    -- Whoever is in the queue of the gate has a place there, and so none anywhere else.
    obtain ⟨waiters, reached, waits⟩ := lobbies gate
    have there := (waits future).mp (reached.holds.entries.subset listed)
    have one := Multiset.inj_on_of_nodup_map settled.orderly.distinct _ place _ there rfl
    exact same (congrArg Prod.fst one)

/-- Releasing a lock keeps each queue a lobby of those who wait in it. -/
theorem releaseLock (lobbies : Lobbies stakes before) (settled : Settled held stakes before)
    (id : LockId) : Lobbies stakes (releaseLock id before).2 := by
  refine lobbies.touched settled (settled.orderly.touches_releaseLock id) ?_ fun _ _ _ => Iff.rfl
  rw [releaseLock_eq]
  split
  · exact (lobbies (.lock id)).woken settled 1 (.setLock id _ before) rfl
  · exact lobbies (.lock id)

/-- Giving a permit back keeps each queue a lobby of those who wait in it. -/
theorem releaseSemaphore (lobbies : Lobbies stakes before) (settled : Settled held stakes before)
    (id : SemaphoreId) : Lobbies stakes (releaseSemaphore id before).2 := by
  refine lobbies.touched settled (settled.orderly.touches_releaseSemaphore id) ?_
    fun _ _ _ => Iff.rfl
  rw [releaseSemaphore_eq]
  split
  · exact lobbies (.semaphore id)
  · exact (lobbies (.semaphore id)).woken settled 1 (.setSemaphore id _ before) rfl

/-- Setting an event keeps each queue a lobby of those who wait in it. -/
theorem raiseEvent (lobbies : Lobbies stakes before) (settled : Settled held stakes before)
    (id : EventId) : Lobbies stakes (raiseEvent id before).2 := by
  refine lobbies.touched settled (settled.orderly.touches_raiseEvent id) ?_ fun _ _ _ => Iff.rfl
  rw [raiseEvent_eq, Sync.Event.set]
  split
  · exact (lobbies (.event id)).sets settled (.setEvent id (eventAt id before).1 before) rfl
  · exact (lobbies (.event id)).woken settled _ (.setEvent id _ before) rfl

/-- Notifying callers keeps each queue a lobby of those who wait in it. -/
theorem notify (lobbies : Lobbies stakes before) (settled : Settled held stakes before)
    (id : ConditionId) (count : Option Nat) : Lobbies stakes (notify id count before).2 := by
  refine lobbies.touched settled (settled.orderly.touches_notify id count) ?_ fun _ _ _ => Iff.rfl
  obtain ⟨count', form⟩ := notify_eq id count before
  rw [form]
  split
  · exact (lobbies (.condition id)).woken settled count' (.setCondition id _ before) rfl
  · exact lobbies (.condition id)

/-- Taking a turn keeps each queue a lobby of those who wait in it. -/
theorem takeTurn (lobbies : Lobbies stakes before) (settled : Settled held stakes before)
    (gate : Gate) : Lobbies stakes (takeTurn gate before).2 := by
  refine lobbies.touched settled (touches_takeTurn gate before) ?_ fun _ _ _ => Iff.rfl
  cases gate with
  | lock id => exact (lobbies _).sets settled (.setLock id (lockAt id before).1.take before) rfl
  | semaphore id =>
    exact (lobbies _).sets settled (.setSemaphore id (semaphoreAt id before).1.take before) rfl
  | event id => exact lobbies (.event id)
  | condition id => exact lobbies (.condition id)

/-- Only the places among the stakes matter. -/
theorem congr (lobbies : Lobbies stakes world) (places : placesOf left = placesOf stakes) :
    Lobbies left world := fun gate =>
  (lobbies gate).stays rfl (Nat.le_refl _) (fun _ _ => rfl) fun _ => by rw [places]

/-- The time of a future is up, be it that of someone who waits or another one. -/
theorem expire (lobbies : Lobbies stakes before) (future : FutureId) :
    Lobbies stakes { before with loop := (before.loop.resolve future .cancel).2 } := by
  intro gate
  obtain ⟨waiters, reached, waits⟩ := lobbies gate
  refine ⟨waiters, ?_, waits⟩
  rw [congrFun (queue_loop before (before.loop.resolve future .cancel).2) gate]
  by_cases here : future ∈ waiters
  · exact .step reached (.expired future here)
  · refine .step reached (.elsewhere _ (Nat.le_of_eq (Loop.size_futures_resolve _ _ _).symm) ?_)
    intro other member
    have differ : other ≠ future := fun same => here (same ▸ member)
    change (before.loop.resolve future .cancel).2.futureState other = before.loop.futureState other
    rw [Loop.futureState_eq, Loop.futureState_eq, Loop.fate_resolve, if_neg fun both => differ both.1]

/-- The places are the same but for one that is given up. -/
theorem places_vacated (places : placesOf left = placesOf stakes) (differ : other ≠ gate)
    (waiting : FutureId) : (other, waiting) ∈ placesOf left ↔
      (other, waiting) ∈ placesOf (.place gate future ::ₘ stakes) := by
  rw [places, placesOf_place, Multiset.mem_cons]
  refine ⟨.inr, fun place => place.resolve_left fun same => differ (congrArg Prod.fst same)⟩

/-- Removing a caller from its queue keeps each queue a lobby of those who wait in it. -/
theorem settlePlace (lobbies : Lobbies (.place gate future ::ₘ stakes) before)
    (settled : Settled held (.place gate future ::ₘ stakes) before)
    (done : before.loop.fate future ≠ .pending) :
    Lobbies stakes (settlePlace gate future before).2 := by
  refine lobbies.touched settled (touches_settlePlace gate future before) ?_
    fun other differ => places_vacated rfl differ
  refine (lobbies gate).vacated settled rfl fun waiters waits => ?_
  have sets := Sets.setQueue gate ((before.queue gate).remove future) before
  have exists_ := settled.stands _ (Multiset.mem_cons_self _ _)
  rw [settlePlace_eq, sets.loop, sets.present exists_]
  exact .resumed future waits (Loop.isDone_iff.mpr done)

/-- Giving up the place of a caller that is gone keeps each queue a lobby of those who wait in it. -/
theorem abandonPlace (lobbies : Lobbies (.place gate future ::ₘ stakes) before)
    (settled : Settled held (.place gate future ::ₘ stakes) before) :
    Lobbies stakes (abandonPlace gate future before).2 := by
  have place : (gate, future) ∈ placesOf (.place gate future ::ₘ stakes) :=
    mem_placesOf (Multiset.mem_cons_self _ _)
  refine lobbies.touched settled (settled.orderly.touches_abandonPlace place) ?_
    fun other differ => places_vacated rfl differ
  refine (lobbies gate).vacated settled rfl fun waiters waits => ?_
  have exists_ := settled.stands _ (Multiset.mem_cons_self _ _)
  have left : Lobby.Step ⟨before.loop, before.queue gate, waiters⟩ _ := .left future waits
  have sets := Sets.setQueue gate ((before.queue gate).abandon before.view future).2 before
  have queue (loop : Loop) : World.queue { (setQueue gate
      ((before.queue gate).abandon before.view future).2 before).2 with loop } gate =
        ((before.queue gate).abandon before.view future).2 :=
    (congrFun (queue_loop _ loop) gate).trans (sets.present exists_)
  rw [abandonPlace_eq]
  cases settlement : ((before.queue gate).abandon before.view future).1 with
  | passOn granted =>
    rw [Lobby.leave_of_passOn settlement] at left
    dsimp only
    rw [grant_eq, queue, sets.loop]
    exact left
  | cancel =>
    rw [Lobby.leave_of_cancel settlement] at left
    dsimp only
    rw [cancelAll_eq, queue, sets.loop]
    exact left

/-- Every deed keeps the queues as they should be. -/
theorem deed (lobbies : Lobbies stakes before) (settled : Settled held stakes before)
    (deed : Deed held aspects stakes before left after) : Lobbies left after := by
  have made (queues : after.queue = before.queue) (loop : after.loop = before.loop) :
      Lobbies stakes after := fun gate =>
    (lobbies gate).stays (congrFun queues gate) (Nat.le_of_eq (by rw [loop]))
      (fun _ _ => by rw [loop]) fun _ => Iff.rfl
  cases deed with
  | changed _ member calm early change =>
    intro gate
    have orderly := settled.orderly
    refine (lobbies gate).stays (congrFun (orderly.changed change calm early).2 gate)
      change.grows.loop.futures (fun future place => ?_) fun _ => Iff.rfl
    have engaged : Engaged (placesOf stakes) before future := .inr ⟨gate, place⟩
    exact change.fate orderly.within calm early (fun free => free engaged) (orderly.bound engaged)
  | expired _ _ future => exact lobbies.expire future
  | madeLock => exact made (queue_makeLock before) rfl
  | madeSemaphore => exact made (queue_makeSemaphore _ _ before) rfl
  | madeEvent => exact made (queue_makeEvent before) rfl
  | madeCondition _ _ lock => exact made (queue_makeCondition lock before) rfl
  | released _ _ id => exact lobbies.releaseLock settled id
  | returned _ _ id => exact lobbies.releaseSemaphore settled id
  | raised _ _ id => exact lobbies.raiseEvent settled id
  | cleared _ _ id =>
    have sets := Sets.setEvent id (eventAt id before).1.clear before
    exact lobbies.touched settled sets.touched ((lobbies (.event id)).sets settled sets rfl)
      fun _ _ _ => Iff.rfl
  | notified _ _ id count => exact lobbies.notify settled id count
  | took _ _ gate => exact (lobbies.takeTurn settled gate).congr (by simp)
  | resumed _ _ gate future _ granted =>
    have left := lobbies.settlePlace settled (by rw [granted]; decide)
    exact (left.takeTurn settled.settlePlace gate).congr (by simp)
  | left _ _ gate future cancelled =>
    exact lobbies.settlePlace settled (by rw [cancelled]; decide)
  | abandoned _ _ gate future => exact lobbies.abandonPlace settled
  | dropped _ _ guard =>
    have fewer : Settled held left before :=
      ⟨by simpa using settled.orderly, fun stake member =>
        settled.stands stake (Multiset.mem_cons_of_mem member)⟩
    have kept : Lobbies left before := lobbies.congr (by simp)
    cases guard with
    | lock id => exact kept.releaseLock fewer id
    | semaphore id => exact kept.releaseSemaphore fewer id
  | lent _ _ id => exact (lobbies.releaseLock settled _).congr (by simp)
  | kept | recalled | renewed | repaid | waived | forgiven => exact lobbies.congr (by simp)

/-- A caller that takes a place arrives at its gate. -/
theorem park (lobbies : Lobbies stakes before) (settled : Settled held stakes before)
    (exists_ : before.HasGate gate) (timeout : Option Nat) :
    Lobbies (.place gate before.loop.futures.size ::ₘ stakes) (park gate timeout before).2 := by
  have parks := parks_park exists_ timeout
  have loop := loop_park gate timeout before
  have sets := Sets.setQueue gate ((before.queue gate).park before.loop.futures.size)
    { before with loop := (before.loop.makeTimed .unit before.host.kernel.now timeout).2 }
  intro other
  by_cases same : other = gate
  · subst same
    obtain ⟨waiters, reached, waits⟩ := lobbies other
    refine ⟨waiters ++ [before.loop.futures.size], ?_, fun future => ?_⟩
    · have there : World.HasGate { before with
          loop := (before.loop.makeTimed .unit before.host.kernel.now timeout).2 } other := by
        cases other with
        | lock | semaphore | event | condition => exact exists_
      have queue : (World.park other timeout before).2.queue other =
          (before.queue other).park before.loop.futures.size := by
        rw [park_eq]
        exact sets.present there
      have arrived := Lobby.Reached.step reached (.parked before.host.kernel.now timeout)
      unfold Lobby.park at arrived
      dsimp only at arrived
      rw [Loop.id_makeTimed] at arrived
      rw [loop, queue]
      exact arrived
    · rw [placesOf_place, Multiset.mem_cons, List.mem_append, List.mem_singleton, waits]
      constructor
      · rintro (place | rfl)
        · exact .inr place
        · exact .inl rfl
      · rintro (here | place)
        · exact .inr (congrArg Prod.snd here)
        · exact .inl place
  · have queue : (World.park gate timeout before).2.queue other = before.queue other := by
      rw [park_eq]
      exact (sets.queues same).trans (congrFun (queue_loop before _) other)
    refine (lobbies other).stays queue (by rw [parks.size]; exact Nat.le_succ _)
      (fun future place => parks.old (settled.orderly.bound (.inr ⟨other, place⟩))) fun future => ?_
    rw [placesOf_place, Multiset.mem_cons]
    exact ⟨fun place => place.resolve_left fun here => same (congrArg Prod.fst here), .inr⟩

/-- A caller that parks is one more who waits in its lobby. -/
theorem parking (lobbies : Lobbies stakes before) (settled : Settled held stakes before)
    (parking : Parking stakes before left after) : Lobbies left after := by
  cases parking with
  | parked gate timeout waiter exists_ =>
    let wait : Wait := ⟨before.loop.futures.size, none⟩
    intro other
    refine (lobbies.park settled exists_ timeout other).stays (congrFun (queue_loop _ _) other)
      (Nat.le_of_eq (size_futures_await _ wait waiter.waker).symm)
      (fun future _ => congrFun (Loop.fate_await _ wait waiter.waker) future) fun _ => Iff.rfl

end Lobbies

end EventLoop.World

namespace EventLoop.Machine

open Sync (Lobby)
open World (Lobbies)

/-- The law of queues is upheld. -/
theorem upheld_lobbies : Upheld Lobbies where
  bare := by
    intro world isBare gate
    refine .missing ?_ fun future => Multiset.notMem_zero _
    cases isBare
    cases gate with
    | lock | semaphore | event | condition => exact Nat.not_lt_zero _
  deed deed settled holds := holds.deed settled deed
  parking parking settled holds := holds.parking settled parking

/-- In every state of every run those who have a place at a gate wait in its queue, with one entry each
unless they were cancelled, and nobody else has an entry there. -/
theorem keepsPlaces_of_reachable {machine : Machine} (reachable : machine.Reachable) (gate : Gate) :
    ∃ waiters : List FutureId,
      (∀ future, future ∈ waiters ↔ (gate, future) ∈ placesOf machine.stakes) ∧
        Lobby.KeepsPlaces ⟨machine.world.loop, machine.world.queue gate, waiters⟩ := by
  obtain ⟨waiters, reached, waits⟩ := upheld_lobbies.reachable reachable gate
  exact ⟨waiters, waits, reached.holds.places⟩

end EventLoop.Machine
