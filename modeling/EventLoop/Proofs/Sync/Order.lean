import EventLoop.Proofs.Effect.Primitives
import EventLoop.Proofs.Sync.Form
import EventLoop.Proofs.Sync.Stake

/-!
# What is done to primitives keeps things orderly

Entries are added to a queue together with a place and are removed only when they were cancelled, or
when their callers resume or are gone. So queues and places fit together whatever is done to a
primitive.
-/
namespace EventLoop.World

open Sync (Lock Semaphore Event Condition WaiterQueue)

variable {held : List Ref} {places left : Multiset (Gate × FutureId)}
variable {world before after : World} {gate : Gate} {future : FutureId}

namespace Orderly

/-- Everything that was done to primitives keeps futures known that were known. -/
theorem reached {α : Type} {step : WorldM α} {condition : α → World → Prop}
    (orderly : Orderly held places world)
    (does : Does (shelter held places world) 0 sync world step condition) :
    (step world).2.Within (shelter held places world) 0 :=
  (does orderly.within).1.within orderly.within

/-- The primitive of a gate is changed and some that waited there are resolved. Entries are only
removed, and none that has a place unless it was cancelled. -/
theorem set {queue : WaiterQueue} {futures : List FutureId} {resolution : Resolution}
    (orderly : Orderly held places before) (fewer : left ≤ places)
    (sets : Sets gate queue before after)
    (within : { after with loop := after.loop.resolveAll futures resolution }.Within
      (shelter held places before) 0)
    (decided : resolution.fate ≠ .pending) (sound : resolution.fate ≠ .failed)
    (engaged : ∀ future ∈ futures, Engaged places before future)
    (waits : ∀ future ∈ futures, before.loop.fate future = .pending →
      future ∈ before.entries gate)
    (sublist : queue.entries.Sublist (before.entries gate))
    (lost : ∀ future, (gate, future) ∈ left → future ∈ before.entries gate →
      future ∈ queue.entries ∨ before.loop.fate future = .cancelled) :
    Orderly held left { after with loop := after.loop.resolveAll futures resolution } := by
  have touches := sets.touches decided sound
    (fun future member => orderly.bound (engaged future member)) waits
  refine orderly.touched fewer touches within ?_ ?_
  · rw [entries, queue_loop]
    exact sets.entries_sublist sublist
  · intro future member here
    rcases lost future member here with stays | cancelled
    · rw [entries, queue_loop]
      exact Or.inl (sets.mem_entries (hasGate_of_mem here) stays)
    · exact Or.inr (touches.cancelled cancelled)

/-- The primitive of a gate is changed and nobody is resolved. -/
theorem kept {queue : WaiterQueue} (orderly : Orderly held places before) (fewer : left ≤ places)
    (sets : Sets gate queue before after) (within : after.Within (shelter held places before) 0)
    (sublist : queue.entries.Sublist (before.entries gate))
    (lost : ∀ future, (gate, future) ∈ left → future ∈ before.entries gate →
      future ∈ queue.entries ∨ before.loop.fate future = .cancelled) :
    Orderly held left after := by
  change Orderly held left { after with loop := after.loop.resolveAll [] .cancel }
  exact orderly.set fewer sets within Fate.noConfusion Fate.noConfusion
    (fun _ member => nomatch member) (fun _ member => nomatch member) sublist lost

/-- The primitive of a gate is changed, and some that wait there may be granted. Only entries that were
cancelled are removed. -/
theorem woken {queue : WaiterQueue} {futures : List FutureId}
    (orderly : Orderly held places before) (fewer : left ≤ places)
    (sets : Sets gate queue before after)
    (within : (grant futures after).2.Within (shelter held places before) 0)
    (waits : ∀ future ∈ futures, future ∈ before.entries gate)
    (sublist : queue.entries.Sublist (before.entries gate))
    (lost : ∀ future ∈ before.entries gate, before.loop.fate future ≠ .cancelled →
      future ∈ queue.entries) :
    Orderly held left (grant futures after).2 := by
  rw [grant_eq] at within ⊢
  refine orderly.set fewer sets within Fate.noConfusion Fate.noConfusion
    (fun future member => Or.inl ⟨gate, waits future member⟩)
    (fun future member _ => waits future member) sublist fun future _ here => ?_
  by_cases cancelled : before.loop.fate future = .cancelled
  · exact Or.inr cancelled
  · exact Or.inl (lost future here cancelled)

end Orderly

/-- Waking a queue grants entries of it. -/
theorem mem_of_wake {queue : WaiterQueue} {view : Sync.FutureView} {count : Nat}
    (granted : future ∈ (queue.wake view count).1) : future ∈ queue.entries :=
  (WaiterQueue.pending_of_mem_wake granted).1

/-- Waking a queue removes only entries that were cancelled. -/
theorem mem_wake {queue : WaiterQueue} (member : future ∈ queue.entries)
    (kept : world.loop.fate future ≠ .cancelled) :
    future ∈ queue.entries.filter fun entry => world.view entry != .cancelled := by
  rw [List.mem_filter, bne_iff_ne]
  refine ⟨member, fun cancelled => kept ?_⟩
  exact Loop.cancelled_iff.mp cancelled

namespace Orderly

/-- With fewer places, things are still orderly. -/
theorem mono (orderly : Orderly held places world) (fewer : left ≤ places) :
    Orderly held left world := by
  have engaged {future : FutureId} (used : Engaged left world future) :
      Engaged places world future := by
    rcases used with here | ⟨gate, member⟩
    · exact Or.inl here
    · exact Or.inr ⟨gate, Multiset.mem_of_le fewer member⟩
  refine ⟨?_, fun used => orderly.bound (engaged used), fun used => orderly.sound (engaged used),
    fun member => orderly.placed (Multiset.mem_of_le fewer member),
    Multiset.nodup_of_le (Multiset.map_le_map fewer) orderly.distinct, orderly.single, orderly.apart⟩
  exact orderly.within.widen (fun future free used => free (engaged used)) (List.Subset.refl _)

/-- If neither the queues nor the loop change, things are still orderly. -/
theorem same (orderly : Orderly held places before)
    (within : after.Within (shelter held places before) 0) (queues : after.queue = before.queue)
    (loop : after.loop = before.loop) : Orderly held places after := by
  have engaged : Engaged places after = Engaged places before := engaged_congr queues
  refine ⟨?_, ?_, ?_, ?_, orderly.distinct, ?_, ?_⟩
  · unfold shelter at within ⊢
    rw [engaged]
    exact within
  · rw [engaged, loop]
    exact orderly.bound
  · rw [engaged, loop]
    exact orderly.sound
  · unfold entries
    rw [queues, loop]
    exact orderly.placed
  · unfold entries
    rw [queues]
    exact orderly.single
  · unfold entries
    rw [queues]
    exact orderly.apart

/-! ### What is done to a primitive as a whole -/

/-- Releasing a lock keeps the queues in order. -/
theorem releaseLock (orderly : Orderly held places world) (fewer : left ≤ places) (id : LockId) :
    Orderly held left (releaseLock id world).2 := by
  have within := orderly.reached (Primitives.releaseLock id)
  rw [releaseLock_eq] at within ⊢
  by_cases locked : (lockAt id world).1.locked = true
  · rw [if_pos locked] at within ⊢
    exact orderly.woken fewer (.setLock id _ world) within (fun _ => mem_of_wake)
      List.filter_sublist fun _ => mem_wake
  · rw [if_neg locked]
    exact orderly.mono fewer

/-- Giving a permit back keeps the queues in order. -/
theorem releaseSemaphore (orderly : Orderly held places world) (fewer : left ≤ places)
    (id : SemaphoreId) : Orderly held left (releaseSemaphore id world).2 := by
  have within := orderly.reached (Primitives.releaseSemaphore id)
  rw [releaseSemaphore_eq] at within ⊢
  by_cases full : (semaphoreAt id world).1.isFull = true
  · rw [if_pos full]
    exact orderly.mono fewer
  · rw [if_neg full] at within ⊢
    exact orderly.woken fewer (.setSemaphore id _ world) within (fun _ => mem_of_wake)
      List.filter_sublist fun _ => mem_wake

/-- Giving up what a guard holds keeps the queues in order. -/
theorem releaseGuard (orderly : Orderly held places world) (fewer : left ≤ places)
    (guard : Guard) : Orderly held left (releaseGuard guard world).2 := by
  cases guard with
  | lock id => exact orderly.releaseLock fewer id
  | semaphore id => exact orderly.releaseSemaphore fewer id

/-- Setting an event keeps the queues in order. -/
theorem raiseEvent (orderly : Orderly held places world) (id : EventId) :
    Orderly held places (raiseEvent id world).2 := by
  have within := orderly.reached (Primitives.raiseEvent id)
  rw [raiseEvent_eq, Event.set] at within ⊢
  by_cases isSet : (eventAt id world).1.isSet = true
  · rw [if_pos isSet] at within ⊢
    exact orderly.woken (le_refl _) (.setEvent id _ world) within
      (fun _ member => nomatch member) (List.Sublist.refl _) fun _ member _ => member
  · rw [if_neg isSet] at within ⊢
    exact orderly.woken (le_refl _) (.setEvent id _ world) within (fun _ => mem_of_wake)
      List.filter_sublist fun _ => mem_wake

/-- Clearing an event keeps the queues in order. -/
theorem clearEvent (orderly : Orderly held places world) (id : EventId) :
    Orderly held places (setEvent id (eventAt id world).1.clear world).2 := by
  have within := orderly.reached (Primitives.setEvent id (eventAt id world).1.clear)
  exact orderly.kept (le_refl _) (.setEvent id _ world) within (List.Sublist.refl _)
    fun _ _ here => Or.inl here

/-- Notifying callers keeps the queues in order. -/
theorem notify (orderly : Orderly held places world) (id : ConditionId) (count : Option Nat) :
    Orderly held places (notify id count world).2 := by
  have within := orderly.reached (Primitives.notify id count)
  obtain ⟨count', form⟩ := notify_eq id count world
  rw [form] at within ⊢
  by_cases locked : (lockAt (conditionAt id world).1.lock world).1.locked = true
  · rw [if_pos locked] at within ⊢
    exact orderly.woken (le_refl _) (.setCondition id _ world) within
      (fun _ => mem_of_wake) List.filter_sublist fun _ => mem_wake
  · rw [if_neg locked]
    exact orderly

/-- Taking a turn keeps the queues in order. -/
theorem takeTurn (orderly : Orderly held places world) (gate : Gate) :
    Orderly held places (takeTurn gate world).2 := by
  have within := orderly.reached (Primitives.takeTurn gate)
  cases gate with
  | lock id =>
    exact orderly.kept (le_refl _) (.setLock id _ world) within (List.Sublist.refl _)
      fun _ _ here => Or.inl here
  | semaphore id =>
    exact orderly.kept (le_refl _) (.setSemaphore id _ world) within (List.Sublist.refl _)
      fun _ _ here => Or.inl here
  | event id => exact orderly
  | condition id => exact orderly

/-! ### What is done to a place -/

/-- The entries that have a place stay when another place is given up. -/
theorem mem_remove (orderly : Orderly held ((gate, future) ::ₘ places) world) {other : FutureId}
    (member : (gate, other) ∈ places) (here : other ∈ world.entries gate) :
    other ∈ ((world.queue gate).remove future).entries := by
  rw [WaiterQueue.entries_remove, List.mem_erase_of_ne]
  · exact here
  · rintro rfl
    exact orderly.not_mem_of_cons gate member

/-- Removing a caller from its queue keeps the queues in order, and the place of the caller is gone. -/
theorem settlePlace (orderly : Orderly held ((gate, future) ::ₘ places) world) :
    Orderly held places (settlePlace gate future world).2 := by
  have within := orderly.reached (Primitives.settlePlace gate future)
  rw [settlePlace_eq] at within ⊢
  have fewer : places ≤ (gate, future) ::ₘ places := Multiset.le_cons_self _ _
  exact orderly.kept fewer (.setQueue gate _ world) within List.erase_sublist
    fun other member here => Or.inl (orderly.mem_remove member here)

/-- Giving up the place of a caller that is gone keeps the queues in order, and the place of the caller
is gone. -/
theorem abandonPlace (orderly : Orderly held ((gate, future) ::ₘ places) world) :
    Orderly held places (abandonPlace gate future world).2 := by
  have within := orderly.reached (Primitives.abandonPlace gate future)
  have fewer : places ≤ (gate, future) ::ₘ places := Multiset.le_cons_self _ _
  have lost {queue : WaiterQueue} (keeps : ∀ other ∈ ((world.queue gate).remove future).entries,
      world.loop.fate other ≠ .cancelled → other ∈ queue.entries) (other : FutureId)
      (member : (gate, other) ∈ places) (here : other ∈ world.entries gate) :
      other ∈ queue.entries ∨ world.loop.fate other = .cancelled := by
    by_cases cancelled : world.loop.fate other = .cancelled
    · exact Or.inr cancelled
    · exact Or.inl (keeps other (orderly.mem_remove member here) cancelled)
  rw [abandonPlace_eq] at within ⊢
  cases settled : world.view future with
  | finished =>
    simp only [WaiterQueue.abandon, settled] at within ⊢
    by_cases handoff : ((world.queue gate).remove future).handoff = true
    · simp only [handoff, if_true] at within ⊢
      rw [grant_eq] at within ⊢
      have removed : ∀ other ∈ (((world.queue gate).remove future).wake world.view 1).1,
          other ∈ world.entries gate :=
        fun other granted => List.erase_sublist.subset (mem_of_wake granted)
      exact orderly.set fewer (.setQueue gate _ world) within Fate.noConfusion Fate.noConfusion
        (fun other member => Or.inl ⟨gate, removed other member⟩)
        (fun other member _ => removed other member)
        (List.filter_sublist.trans List.erase_sublist) (lost fun _ => mem_wake)
    · simp only [handoff, Bool.false_eq_true, if_false] at within ⊢
      exact orderly.kept fewer (.setQueue gate _ world) within List.erase_sublist
        (lost fun _ member _ => member)
  | pending | cancelled =>
    simp only [WaiterQueue.abandon, settled] at within ⊢
    rw [cancelAll_eq] at within ⊢
    have here : (gate, future) ∈ (gate, future) ::ₘ places := Multiset.mem_cons_self _ _
    refine orderly.set fewer (.setQueue gate _ world) within Fate.noConfusion Fate.noConfusion
      ?_ ?_ List.erase_sublist (lost fun _ member _ => member)
    · intro other member
      rw [List.mem_singleton.mp member]
      exact Or.inr ⟨gate, here⟩
    · intro other member pending
      rw [List.mem_singleton.mp member] at pending ⊢
      rcases orderly.placed here with waits | cancelled
      · exact waits
      · rw [cancelled] at pending
        cases pending

end Orderly

/-! ### New places and new primitives -/

/-- What it is to take a place: one more entry stands at the end of the queue of a gate, with a new
future that is pending. -/
structure Parks (gate : Gate) (before after : World) : Prop where
  /-- There is one more future. -/
  size : after.loop.futures.size = before.loop.futures.size + 1
  /-- The fates of the others are left alone. -/
  old : ∀ {future}, future < before.loop.futures.size →
    after.loop.fate future = before.loop.fate future
  /-- The new one is pending. -/
  new : after.loop.fate before.loop.futures.size = .pending
  /-- The entry is the last one at the gate. -/
  here : after.entries gate = before.entries gate ++ [before.loop.futures.size]
  /-- The queues of other gates are left alone. -/
  there : ∀ {other}, other ≠ gate → after.entries other = before.entries other

/-- What parking a caller does to the loop is to make its future. -/
theorem loop_park (gate : Gate) (timeout : Option Nat) (world : World) :
    (park gate timeout world).2.loop =
      (world.loop.makeTimed .unit world.host.kernel.now timeout).2 := by
  rw [park_eq]
  exact (Sets.setQueue gate _ _).loop

/-- Parking a caller at a gate that exists takes a place there. -/
theorem parks_park (exists_ : world.HasGate gate) (timeout : Option Nat) :
    Parks gate world (park gate timeout world).2 := by
  have sets := Sets.setQueue gate ((world.queue gate).park world.loop.futures.size)
    { world with loop := (world.loop.makeTimed .unit world.host.kernel.now timeout).2 }
  refine ⟨?_, fun bound => ?_, ?_, ?_, fun differ => ?_⟩
  · rw [loop_park, Loop.size_makeTimed]
  · rw [loop_park, Loop.fate_makeTimed _ _ _ bound]
  · rw [loop_park, Loop.fate_makeTimed_new]
  · rw [park_eq, entries, sets.present exists_]
    rfl
  · rw [park_eq, entries, sets.queues differ, queue_loop]
    rfl

namespace Parks

variable {other : Gate}

/-- Whoever waits then waited before, or is the one that takes the place. -/
theorem of_mem_entries (parks : Parks gate before after) (waits : future ∈ after.entries other) :
    future ∈ before.entries other ∨ other = gate ∧ future = before.loop.futures.size := by
  by_cases same : other = gate
  · rw [same, parks.here, List.mem_append, List.mem_singleton] at waits
    rw [same]
    exact waits.imp_right fun last => ⟨rfl, last⟩
  · rw [parks.there same] at waits
    exact Or.inl waits

/-- Whoever waited before still waits. -/
theorem mem_entries (parks : Parks gate before after) (waits : future ∈ before.entries other) :
    future ∈ after.entries other := by
  by_cases same : other = gate
  · rw [same, parks.here]
    exact List.mem_append_left _ (same ▸ waits)
  · rwa [parks.there same]

/-- A future that is engaged then was engaged before, or is the one of the place that is taken. -/
theorem of_engaged (parks : Parks gate before after)
    (used : Engaged ((gate, before.loop.futures.size) ::ₘ places) after future) :
    Engaged places before future ∨ future = before.loop.futures.size := by
  rcases used with ⟨other, waits⟩ | ⟨other, placed⟩
  · rcases parks.of_mem_entries waits with old | ⟨-, last⟩
    · exact Or.inl (Or.inl ⟨other, old⟩)
    · exact Or.inr last
  · rcases Multiset.mem_cons.mp placed with last | old
    · exact Or.inr (congrArg Prod.snd last)
    · exact Or.inl (Or.inr ⟨other, old⟩)

end Parks

/-- Nobody waits for a lock that was just made. -/
theorem queue_makeLock (world : World) : (makeLock world).2.queue = world.queue := by
  funext gate
  cases gate with
  | lock id => exact congrArg Lock.waiters (Table.getD_push world.locks rfl id)
  | semaphore | event | condition => rfl

/-- A semaphore that is made changes no queue. -/
theorem queue_makeSemaphore (value : Nat) (bounded : Bool) (world : World) :
    (makeSemaphore value bounded world).2.queue = world.queue := by
  funext gate
  cases gate with
  | semaphore id =>
    change (((world.semaphores.push (.new value bounded)).get? id).getD (.new 0 false)).waiters =
      ((world.semaphores.get? id).getD (.new 0 false)).waiters
    rw [Table.get?_push]
    by_cases last : id = world.semaphores.size
    · rw [if_pos last, Table.get?_eq_none (Nat.le_of_eq last.symm)]
      rfl
    · rw [if_neg last]
  | lock | event | condition => rfl

/-- An event that is made changes no queue. -/
theorem queue_makeEvent (world : World) : (makeEvent world).2.queue = world.queue := by
  funext gate
  cases gate with
  | event id => exact congrArg Event.waiters (Table.getD_push world.events rfl id)
  | lock | semaphore | condition => rfl

/-- A condition that is made changes no queue. -/
theorem queue_makeCondition (lock : LockId) (world : World) :
    (makeCondition lock world).2.queue = world.queue := by
  funext gate
  cases gate with
  | condition id =>
    change (((world.conditions.push (.new lock)).get? id).getD (.new 0)).waiters =
      ((world.conditions.get? id).getD (.new 0)).waiters
    rw [Table.get?_push]
    by_cases last : id = world.conditions.size
    · rw [if_pos last, Table.get?_eq_none (Nat.le_of_eq last.symm)]
      rfl
    · rw [if_neg last]
  | lock | semaphore | event => rfl

namespace Orderly

/-- Nobody waits for a future that does not exist yet. -/
theorem not_mem_unmade (orderly : Orderly held places world) (gate : Gate) :
    world.loop.futures.size ∉ world.entries gate :=
  fun waits => Nat.lt_irrefl _ (orderly.bound (Or.inl ⟨gate, waits⟩))

/-- A new place with a future of its own fits in. -/
theorem parked (orderly : Orderly held places before) (parks : Parks gate before after)
    (within : after.Within
      (shelter held ((gate, before.loop.futures.size) ::ₘ places) after) 0) :
    Orderly held ((gate, before.loop.futures.size) ::ₘ places) after where
  within := within
  bound used := by
    rw [parks.size]
    rcases parks.of_engaged used with old | last
    · exact Nat.lt_succ_of_lt (orderly.bound old)
    · exact last ▸ Nat.lt_succ_self _
  sound used := by
    rcases parks.of_engaged used with old | last
    · rw [parks.old (orderly.bound old)]
      exact orderly.sound old
    · rw [last, parks.new]
      exact Fate.noConfusion
  placed {other future} placed := by
    rcases Multiset.mem_cons.mp placed with last | old
    · cases last
      rw [parks.here]
      exact Or.inl (List.mem_append_right _ List.mem_cons_self)
    · rw [parks.old (orderly.bound (Or.inr ⟨other, old⟩))]
      exact (orderly.placed old).imp_left parks.mem_entries
  distinct := by
    rw [Multiset.map_cons, Multiset.nodup_cons]
    refine ⟨fun taken => ?_, orderly.distinct⟩
    obtain ⟨⟨other, future⟩, placed, same⟩ := Multiset.mem_map.mp taken
    exact Nat.ne_of_lt (orderly.bound (Or.inr ⟨other, placed⟩)) same
  single other := by
    by_cases same : other = gate
    · rw [same, parks.here]
      refine List.Nodup.append (orderly.single gate) (List.nodup_singleton _) ?_
      intro future waits last
      rw [List.mem_singleton.mp last] at waits
      exact orderly.not_mem_unmade gate waits
    · rw [parks.there same]
      exact orderly.single other
  apart {first second _} one two := by
    rcases parks.of_mem_entries one with old | ⟨first_gate, last⟩
    · rcases parks.of_mem_entries two with old' | ⟨-, last⟩
      · exact orderly.apart old old'
      · exact absurd (last ▸ old) (orderly.not_mem_unmade first)
    · rcases parks.of_mem_entries two with old | ⟨second_gate, -⟩
      · exact absurd (last ▸ old) (orderly.not_mem_unmade second)
      · rw [first_gate, second_gate]

/-- A caller that takes a place gets a future of its own. -/
theorem park (orderly : Orderly held places world) (exists_ : world.HasGate gate)
    (timeout : Option Nat) :
    Orderly held ((gate, world.loop.futures.size) ::ₘ places) (park gate timeout world).2 := by
  have parks := parks_park exists_ timeout
  -- What is taken is known to nobody else, since it did not exist.
  let scope : Scope := ⟨fun future =>
    ¬ Engaged places world future ∧ future < world.loop.futures.size, held⟩
  have below : world.Within scope 0 := orderly.within.exposed
  have within : (World.park gate timeout world).2.Within scope 0 :=
    ((Primitives.park gate timeout) below).1.within below
  refine orderly.parked parks (within.widen (fun future free used => ?_) (List.Subset.refl _))
  rcases parks.of_engaged used with old | last
  · exact free.1 old
  · exact Nat.ne_of_lt free.2 last

/-- Nobody waits for a primitive that is made. -/
theorem makeLock (orderly : Orderly held places world) :
    Orderly held places (makeLock world).2 :=
  orderly.same (orderly.reached Primitives.makeLock) (queue_makeLock world) rfl

/-- Making a semaphore keeps the queues in order. -/
theorem makeSemaphore (orderly : Orderly held places world) (value : Nat) (bounded : Bool) :
    Orderly held places (makeSemaphore value bounded world).2 :=
  orderly.same (orderly.reached (Primitives.makeSemaphore value bounded))
    (queue_makeSemaphore value bounded world) rfl

/-- Making an event keeps the queues in order. -/
theorem makeEvent (orderly : Orderly held places world) :
    Orderly held places (makeEvent world).2 :=
  orderly.same (orderly.reached Primitives.makeEvent) (queue_makeEvent world) rfl

/-- Making a condition keeps the queues in order. -/
theorem makeCondition (orderly : Orderly held places world) {lock : LockId}
    (exists_ : lock < world.locks.size) :
    Orderly held places (makeCondition lock world).2 :=
  orderly.same (orderly.reached (Primitives.makeCondition exists_))
    (queue_makeCondition lock world) rfl

/-- A future whose time is up is cancelled. -/
theorem expire (orderly : Orderly held places world) (future : FutureId) :
    Orderly held places { world with loop := (world.loop.resolve future .cancel).2 } := by
  have change : Change (shelter held places world) .timeouts world
      { world with loop := (world.loop.resolve future .cancel).2 } := .expired world future
  have queues := queue_loop world (world.loop.resolve future .cancel).2
  have engaged := @engaged_congr places world _ queues
  have within := change.within orderly.within
  refine ⟨?_, ?_, ?_, ?_, orderly.distinct, ?_, ?_⟩
  · unfold shelter at within ⊢
    rw [engaged]
    exact within
  · rw [engaged]
    dsimp only
    rw [Loop.size_futures_resolve]
    exact orderly.bound
  · rw [engaged]
    intro other used
    dsimp only
    rw [Loop.fate_resolve]
    split
    · exact Fate.noConfusion
    · exact orderly.sound used
  · intro gate other placed
    unfold entries
    rw [queues]
    refine (orderly.placed placed).imp_right fun cancelled => ?_
    dsimp only
    rw [Loop.fate_resolve]
    split
    · rfl
    · exact cancelled
  · unfold entries
    rw [queues]
    exact orderly.single
  · unfold entries
    rw [queues]
    exact orderly.apart

end Orderly

end EventLoop.World
