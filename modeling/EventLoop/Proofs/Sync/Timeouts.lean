import EventLoop.Proofs.Sync.Arrivals

/-!
# Who is refused its turn

A caller that has a place in a queue is pending until it is granted, or until its time is up. Either is
for good: it is what the caller is answered when it goes on, however long that takes and whatever is done in
the meantime.
-/
namespace EventLoop.World

variable {held : List Ref} {aspects : List Aspect} {stakes left : Multiset Stake}
variable {world before after : World} {gate : Gate} {future : FutureId}

/-! ## Callers that keep their places -/

/-- No deed gives a program a place. -/
theorem Deed.places_le (deed : Deed held aspects stakes before left after) :
    placesOf left ≤ placesOf stakes := by
  cases deed with
  | changed | expired | madeLock | madeSemaphore | madeEvent | madeCondition | released | returned
  | raised | cleared | notified => exact le_refl _
  | took | dropped | kept | lent | recalled | renewed | repaid | waived | forgiven => simp
  | resumed _ _ gate future =>
    rw [placesOf_add, placesOf_gate_hold, zero_add, placesOf_place]
    exact Multiset.le_cons_self _ _
  | left | abandoned =>
    rw [placesOf_place]
    exact Multiset.le_cons_self _ _

/-- Whoever takes a place gets that place only. -/
theorem Parking.mem_places (parking : Parking stakes before left after)
    (old : future < before.loop.futures.size) (place : (gate, future) ∈ placesOf left) :
    (gate, future) ∈ placesOf stakes := by
  cases parking with
  | parked parked timeout waiter =>
    rw [placesOf_place, Multiset.mem_cons] at place
    apply place.resolve_left
    intro same
    have number : future = before.loop.futures.size := congrArg Prod.snd same
    exact absurd number (Nat.ne_of_lt old)

namespace Queued

/-- Setting an event leaves those in their places who were not cancelled. -/
theorem raiseEvent (queued : Queued gate future world) (id : EventId) :
    Queued gate future (raiseEvent id world).2 := by
  rw [raiseEvent_eq, Sync.Event.set]
  split
  · apply (queued.of_sets (.setEvent id _ world) _).grant
    rintro rfl
    exact queued.member
  · apply (queued.of_sets (.setEvent id _ world) _).grant
    rintro rfl
    exact queued.mem_wake

/-- Notifying callers leaves those in their places who were not cancelled. -/
theorem notify (queued : Queued gate future world) (id : ConditionId) (count : Option Nat) :
    Queued gate future (notify id count world).2 := by
  obtain ⟨number, form⟩ := notify_eq id count world
  rw [form]
  split
  · apply (queued.of_sets (.setCondition id _ world) _).grant
    rintro rfl
    exact queued.mem_wake
  · exact queued

/-- Taking a turn leaves those in their places who were not cancelled. -/
theorem takeTurn (queued : Queued gate future world) (other : Gate) :
    Queued gate future (takeTurn other world).2 := by
  cases other with
  | lock id =>
    apply queued.of_sets (.setLock id _ world)
    rintro rfl
    exact queued.member
  | semaphore id =>
    apply queued.of_sets (.setSemaphore id _ world)
    rintro rfl
    exact queued.member
  | event | condition => exact queued

/-- A caller that resumes leaves the others where they are. -/
theorem settlePlace (queued : Queued gate future world) {other : Gate} {gone : FutureId}
    (differ : future ≠ gone) : Queued gate future (settlePlace other gone world).2 := by
  rw [settlePlace_eq]
  apply queued.of_sets (.setQueue other _ world)
  intro same
  rw [Sync.WaiterQueue.entries_remove, List.mem_erase_of_ne differ, ← same]
  exact queued.member

/-- A caller that keeps its place goes on to wait, unless someone's time is up. -/
theorem deed (queued : Queued gate future before) (deed : Deed held aspects stakes before left after)
    (orderly : Orderly held (placesOf stakes) before) (timely : .timeouts ∉ aspects)
    (place : (gate, future) ∈ placesOf left) : Queued gate future after := by
  have differ {other : Gate} {gone : FutureId}
      (orderly : Orderly held ((other, gone) ::ₘ placesOf left) before) : future ≠ gone := by
    rintro rfl
    exact orderly.not_mem_of_cons gate place
  cases deed with
  | changed _ _ calm early change =>
    have engaged : Engaged (placesOf stakes) before future := Or.inl ⟨gate, queued.member⟩
    have fate := change.fate orderly.within calm early (fun free => free engaged) (orderly.bound engaged)
    apply queued.of_queue (orderly.changed change calm early).2
    rw [Loop.futureState_eq, fate, ← Loop.futureState_eq]
    exact queued.live
  | expired _ _ _ member => exact absurd member timely
  | madeLock => exact queued.of_queue (queue_makeLock before) queued.live
  | madeSemaphore => exact queued.of_queue (queue_makeSemaphore _ _ before) queued.live
  | madeEvent => exact queued.of_queue (queue_makeEvent before) queued.live
  | madeCondition _ _ lock => exact queued.of_queue (queue_makeCondition lock before) queued.live
  | released _ _ id => exact queued.releaseGuard (.lock id)
  | returned _ _ id => exact queued.releaseGuard (.semaphore id)
  | raised _ _ id => exact queued.raiseEvent id
  | cleared _ _ id =>
    apply queued.of_sets (.setEvent id _ before)
    rintro rfl
    exact queued.member
  | notified _ _ id count => exact queued.notify id count
  | took _ _ other => exact queued.takeTurn other
  | resumed _ _ other gone =>
    rw [placesOf_add, placesOf_gate_hold, zero_add] at place
    rw [placesOf_place] at orderly
    have apart : future ≠ gone := by
      rintro rfl
      exact orderly.not_mem_of_cons gate place
    exact (queued.settlePlace apart).takeTurn other
  | left _ _ other gone =>
    rw [placesOf_place] at orderly
    exact queued.settlePlace (differ orderly)
  | abandoned _ _ other gone =>
    rw [placesOf_place] at orderly
    exact queued.abandonPlace (differ orderly)
  | dropped _ _ guard => exact queued.releaseGuard guard
  | lent _ _ id => exact queued.releaseGuard (.lock (before.lockOf id))
  | kept | recalled | renewed | repaid | waived | forgiven => exact queued

/-- Whoever waits goes on to wait when another one takes a place. -/
theorem parking (queued : Queued gate future before) (parking : Parking stakes before left after)
    (orderly : Orderly held (placesOf stakes) before) : Queued gate future after := by
  have waits : future ∈ after.entries gate := by
    rcases parking.entries gate with same | added
    · exact same ▸ queued.member
    · rw [added]
      exact List.mem_append_left _ queued.member
  obtain ⟨parked, loop, -, -, rfl, old, -⟩ := parking.form
  have live := queued.live
  rw [ne_eq, Loop.cancelled_iff, ← old future (orderly.bound (Or.inl ⟨gate, queued.member⟩))] at live
  exact ⟨waits, fun cancelled => live (Loop.cancelled_iff.mp cancelled)⟩

variable {start last : Multiset Stake × World}

/-- A caller that keeps its place goes on to wait on the way through deeds, unless someone's time is up. -/
theorem deeds (queued : Queued gate future start.2) (deeds : Deeds held aspects start last)
    (settled : Settled held start.1 start.2) (timely : .timeouts ∉ aspects)
    (place : (gate, future) ∈ placesOf last.1) : Queued gate future last.2 := by
  induction deeds with
  | refl => exact queued
  | tail earlier deed ih =>
    have kept := Multiset.mem_of_le deed.places_le place
    exact (ih kept).deed deed (Deeds.settled earlier settled).orderly timely place

/-- A caller that keeps its place goes on to wait on the way of a move, unless someone's time is up. -/
theorem course (queued : Queued gate future start.2) (course : Course held aspects start last)
    (settled : Settled held start.1 start.2) (timely : .timeouts ∉ aspects)
    (place : (gate, future) ∈ placesOf last.1) : Queued gate future last.2 := by
  rcases course with deeds | ⟨middle, deeds, parking⟩
  · exact queued.deeds deeds settled timely place
  · have old : future < start.2.loop.futures.size :=
      settled.orderly.bound (Or.inl ⟨gate, queued.member⟩)
    have size := (deeds.thins settled).2
    have kept := parking.mem_places (Nat.lt_of_lt_of_le old size) place
    exact (queued.deeds deeds settled timely kept).parking parking (deeds.settled settled).orderly

end Queued

end EventLoop.World

namespace EventLoop

open World (moving expiring trafficking hosting halting iterating revoking requesting polling turning)

/-! ## When time is up -/

/-- Moving cancels nobody whose time is up. -/
theorem timeouts_not_moving : Aspect.timeouts ∉ moving := by decide

/-- No frame cancels anybody whose time is up. -/
theorem Frame.timeouts_not_mem (frame : Frame) : .timeouts ∉ frame.aspects := by
  cases frame with
  | iteration => exact (by decide : Aspect.timeouts ∉ (.taking :: moving : List Aspect))
  | closing => exact (by decide : Aspect.timeouts ∉ (.closing :: moving : List Aspect))
  | poll => exact (by decide : Aspect.timeouts ∉ polling)
  | repeated | running => exact (by decide : Aspect.timeouts ∉ iterating)
  | afterData | afterEnd | afterLoss => exact (by decide : Aspect.timeouts ∉ trafficking)
  | script | program | letGo | holding | rounds | joining | selecting => exact timeouts_not_moving

/-- Nobody who is released cancels anybody whose time is up. -/
theorem Ref.timeouts_not_mem (ref : Ref) : .timeouts ∉ ref.aspects := by
  cases ref with
  | future => exact (by decide : Aspect.timeouts ∉ (.deserting :: moving : List Aspect))
  | task | socket | transport | server => exact timeouts_not_moving

/-- No instruction cancels anybody whose time is up. -/
theorem Script.Instruction.timeouts_not_mem (loop : Loop) (instruction : Script.Instruction) :
    .timeouts ∉ instruction.aspects loop :=
  @of_aspects (.timeouts ∉ ·) loop instruction (by decide) (by decide) (by decide) (by decide) (by decide)
    (by decide) (by decide) timeouts_not_moving

/-- No other callback says that the time of a future is up. -/
theorem Callback.exists_expire {callback : Callback} (timeouts : .timeouts ∈ callback.aspects) :
    ∃ future, callback = .expire future := by
  cases callback with
  | expire future => exact ⟨future, rfl⟩
  | step => exact absurd timeouts (by decide : Aspect.timeouts ∉ polling)
  | connectionMade | startReading | connectionLost =>
    exact absurd timeouts (by decide : Aspect.timeouts ∉ trafficking)
  | startAccepting => exact absurd timeouts (by decide : Aspect.timeouts ∉ hosting)
  | script | readPipe | resolve => exact absurd timeouts timeouts_not_moving
  | done _ reaction =>
    cases reaction with
    | received | sent => exact absurd timeouts (by decide : Aspect.timeouts ∉ trafficking)
    | accepted => exact absurd timeouts (by decide : Aspect.timeouts ∉ hosting)
    | script | wake | stopLoop | pipeRead => exact absurd timeouts timeouts_not_moving

namespace Machine

open World (Queued)

variable {machine before after : Machine} {gate : Gate} {future : FutureId}

/-- The timeout of a future fires: the next thing that happens is that its time is up. -/
structure Expires (future : FutureId) (machine : Machine) : Prop where
  /-- Nothing else comes first. -/
  clean : machine.world.loop.dropped = []
  /-- The callback of the timer is called. -/
  called : machine.signal = .call (.expire future)

/-- Only a timeout says that the time of a future is up. -/
theorem exists_expires (timeouts : .timeouts ∈ machine.changing) : ∃ future, machine.Expires future := by
  unfold changing at timeouts
  cases dropped : machine.world.loop.dropped with
  | cons ref refs =>
    rw [dropped] at timeouts
    exact absurd timeouts ref.timeouts_not_mem
  | nil =>
    rw [dropped] at timeouts
    cases acts : act? machine.signal with
    | some step =>
      rw [acts] at timeouts
      have base := Signal.mem_base timeouts (by decide)
      cases signal : machine.signal with
      | call callback =>
        rw [signal] at base
        obtain ⟨future, rfl⟩ := Callback.exists_expire base
        exact ⟨future, dropped, signal⟩
      | script _ body | program _ _ body =>
        rw [signal] at base
        cases body with
        | nil => exact absurd base timeouts_not_moving
        | cons instruction => exact absurd base (instruction.timeouts_not_mem machine.world.loop)
      | _ =>
        rw [signal] at base
        exact absurd base timeouts_not_moving
    | none =>
      rw [acts] at timeouts
      cases split : machine.frames with
      | nil =>
        rw [split] at timeouts
        exact absurd timeouts timeouts_not_moving
      | cons frame below =>
        rw [split] at timeouts
        exact absurd timeouts frame.timeouts_not_mem

/-- If the time of a future is up, the future is cancelled, and nothing else happens. -/
theorem Expires.world (expires : machine.Expires future) (step : Step machine after) :
    after.world = (World.cancelAll [future] machine.holding).2 := by
  have acts : act? machine.signal = some (runCallback (.expire future)) := by
    rw [expires.called]
    rfl
  rw [step.eq_of_next (next_of_act expires.clean acts)]
  rfl

/-- What a step passes, and whose time is up in it. -/
theorem Reachable.timely (reachable : machine.Reachable) (step : Step machine after) :
    (∃ future, machine.Expires future) ∨
      ∃ aspects, machine.Passes aspects after ∧ .timeouts ∉ aspects := by
  have sound := Reachable.sound reachable
  cases step with
  | moved moves =>
    by_cases timeouts : .timeouts ∈ machine.changing
    · exact Or.inl (exists_expires timeouts)
    · exact Or.inr ⟨_, (sound.next moves fun asked => asked.elim).2, timeouts⟩
  | begun halted instruction =>
    exact Or.inr ⟨_, (sound.instructed halted instruction).2,
      instruction.timeouts_not_mem machine.world.loop⟩

/-- A caller that keeps its place in a step goes on to wait, unless its own timeout fires. -/
theorem Reachable.queued (reachable : machine.Reachable) (step : Step machine after)
    (queued : Queued gate future machine.world) (place : (gate, future) ∈ placesOf after.stakes)
    (timely : ¬ machine.Expires future) : Queued gate future after.world := by
  rcases reachable.timely step with ⟨other, expires⟩ | ⟨aspects, passes, untimed⟩
  · have differ : future ∉ [other] := by
      intro member
      rw [List.mem_singleton] at member
      exact timely (member ▸ expires)
    have waits : Queued gate future machine.holding :=
      ⟨(machine.entries_holding gate).symm ▸ queued.member, queued.live⟩
    rw [expires.world step]
    exact waits.cancelAll differ
  · exact queued.course passes (Reachable.sound reachable).settled untimed place

/-- It is decided what became of a caller that has a place. -/
structure Decided (gate : Gate) (future : FutureId) (fate : Fate) (stakes : Multiset Stake)
    (world : World) : Prop where
  /-- The future of the place exists. -/
  exists_ : future < world.loop.futures.size
  /-- As long as the caller has the place, it is known what became of it. -/
  fate : (gate, future) ∈ placesOf stakes → world.loop.fate future = fate

/-- What became of a caller stays so until it gives its place up. -/
theorem persists_decided {fate : Fate} (decided : fate ≠ .pending) :
    Persists (Decided gate future fate) where
  deed deed settled holds := by
    refine ⟨(persists_exists future).deed deed settled holds.exists_, fun place => ?_⟩
    have kept := Multiset.mem_of_le deed.places_le place
    have fate := holds.fate kept
    rw [deed.decided settled.orderly (Or.inr ⟨gate, kept⟩) (fate ▸ decided), fate]
  parking parking settled holds := by
    refine ⟨(persists_exists future).parking parking settled holds.exists_, fun place => ?_⟩
    have fate := holds.fate (parking.mem_places holds.exists_ place)
    obtain ⟨_, loop, -, -, rfl, old, -⟩ := parking.form
    exact (old future holds.exists_).trans fate

end Machine

end EventLoop
