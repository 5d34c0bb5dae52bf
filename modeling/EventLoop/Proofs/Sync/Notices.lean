import EventLoop.Proofs.Machine.Calls
import EventLoop.Proofs.Sync.Timeouts

/-!
# Who is notified of a condition

Whoever notifies callers of a condition grants the first ones of those that are pending then, in the order
of their arrival. Those that were granted before or whose time is up are passed over, and nothing else
that happens grants anyone. So a caller that waits is pending until it is notified, or its time is up, or
it is gone.
-/
namespace EventLoop.World

open Sync (WaiterQueue)

variable {held : List Ref} {aspects : List Aspect} {stakes left : Multiset Stake}
variable {world before after : World} {gate : Gate} {future : FutureId} {id : ConditionId}

/-! ## To notify callers -/

/-- The callers that wait for a condition and are pending, in the order of their arrival. -/
def unnotified (world : World) (id : ConditionId) : List FutureId :=
  (world.entries (.condition id)).filter fun future => world.loop.fate future = .pending

/-- The callers that a notification is for: as many as are asked for, or all. -/
def notifiable (world : World) (id : ConditionId) : Option Nat → List FutureId
  | some count => (world.unnotified id).take count
  | none => world.unnotified id

/-- A caller was not notified if it stands in the queue and is pending. -/
theorem mem_unnotified : future ∈ world.unnotified id ↔
    future ∈ world.entries (.condition id) ∧ world.loop.fate future = .pending := by
  simp [unnotified]

/-- A notification is for callers that are pending. -/
theorem notifiable_sublist (world : World) (id : ConditionId) (count : Option Nat) :
    (world.notifiable id count).Sublist (world.unnotified id) := by
  cases count with
  | some count => exact List.take_sublist count _
  | none => exact List.Sublist.refl _

/-- Whoever is woken in the queue of a condition is notified. -/
theorem grantees_condition (world : World) (id : ConditionId) (count : Option Nat) :
    ((world.queue (.condition id)).wake world.view
      (count.getD (world.queue (.condition id)).length)).1 = world.notifiable id count := by
  have pending : ((world.entries (.condition id)).filter fun entry => world.view entry != .cancelled).filter
      (fun entry => world.view entry == .pending) = world.unnotified id := by
    rw [List.filter_filter, unnotified]
    apply List.filter_congr
    intro future _
    change (world.loop.futureState future == .pending && world.loop.futureState future != .cancelled) = _
    rw [Loop.futureState_eq]
    cases world.loop.fate future <;> rfl
  cases count with
  | some count => exact congrArg (List.take count) pending
  | none =>
    have few : (world.unnotified id).length ≤ (world.entries (.condition id)).length :=
      List.length_filter_le _ _
    exact (congrArg (List.take _) pending).trans (List.take_of_length_le few)

/-- A condition after some of those that wait for it were notified. -/
def noticed (world : World) (id : ConditionId) (count : Option Nat) : World :=
  (setCondition id { (conditionAt id world).1 with
    waiters := ((world.queue (.condition id)).wake world.view
      (count.getD (world.queue (.condition id)).length)).2 } world).2

/-- To notify callers of a condition whose lock is held grants those that the notification is for. -/
theorem notify_of_locked (locked : (lockAt (world.lockOf id) world).1.locked = true) (count : Option Nat) :
    notify id count world =
      (.ok (), (grant (world.notifiable id count) (world.noticed id count)).2) := by
  have asked : isConditionLocked (conditionAt id world).1 world =
      ((lockAt (world.lockOf id) world).1.locked, world) := rfl
  rw [← grantees_condition]
  unfold notify
  rw [StateM.bind_apply, conditionAt_eq]
  simp only [StateM.bind_apply, asked, StateM.get_apply, locked]
  cases count <;> rfl

/-- Whoever does not hold the lock of a condition notifies nobody. -/
theorem notify_of_free (free : (lockAt (world.lockOf id) world).1.locked = false) (count : Option Nat) :
    notify id count world = (.error .notifyWithoutLock, world) := by
  have asked : isConditionLocked (conditionAt id world).1 world =
      ((lockAt (world.lockOf id) world).1.locked, world) := rfl
  unfold notify
  rw [StateM.bind_apply, conditionAt_eq]
  simp only [StateM.bind_apply, asked, StateM.get_apply, free]
  cases count <;> rfl

/-- What becomes of a caller when a notification is granted to those that it is for. -/
theorem fate_grant_notifiable
    (bound : ∀ future ∈ world.entries (.condition id), future < world.loop.futures.size)
    (count : Option Nat) (future : FutureId) :
    (grant (world.notifiable id count) (world.noticed id count)).2.loop.fate future =
      if future ∈ world.notifiable id count then .granted else world.loop.fate future := by
  have pending (other : FutureId) (member : other ∈ world.notifiable id count) :
      other ∈ world.entries (.condition id) ∧ world.loop.fate other = .pending :=
    mem_unnotified.mp ((world.notifiable_sublist id count).subset member)
  have bound (other : FutureId) (member : other ∈ world.notifiable id count) :
      other < world.loop.futures.size := bound other (pending other member).1
  rw [grant_eq]
  change (world.loop.resolveAll (world.notifiable id count) (.finish (.ok .unit))).fate future = _
  rw [Loop.fate_resolveAll _ _ _ (by decide) bound]
  by_cases member : future ∈ world.notifiable id count
  · rw [if_pos member, if_pos ⟨member, (pending future member).2⟩]
    rfl
  · rw [if_neg member, if_neg fun both => member both.1]

/-! ## Nobody is granted otherwise -/

/-- The grant of a caller that is gone passes to nobody in the queue of a condition. -/
def KeepsGrants (id : ConditionId) (world : World) : Prop :=
  (world.queue (.condition id)).handoff = false

namespace KeepsGrants

/-- Whether grants are kept depends on the queue alone. -/
theorem of_queue (keeps : before.KeepsGrants id) (same : after.queue = before.queue) :
    after.KeepsGrants id := by
  unfold KeepsGrants
  rw [same]
  exact keeps

/-- What touches another queue keeps the grants of this one. -/
theorem touches (keeps : before.KeepsGrants id) (touches : Touches gate before after)
    (differ : .condition id ≠ gate) : after.KeepsGrants id := by
  unfold KeepsGrants
  rw [touches.queues differ]
  exact keeps

/-- A queue that is set hands grants on as it did before. -/
theorem sets {queue : WaiterQueue} (keeps : before.KeepsGrants id) (sets : Sets gate queue before after)
    (same : queue.handoff = (before.queue gate).handoff) : after.KeepsGrants id := by
  by_cases here : .condition id = gate
  · subst here
    by_cases exists_ : before.HasGate (.condition id)
    · unfold KeepsGrants
      rw [sets.present exists_, same]
      exact keeps
    · have missing : after.conditions.get? id = none :=
        Table.get?_eq_none (Nat.le_of_not_lt (sets.missing exists_))
      exact congrArg (fun found => (Option.getD found (Sync.Condition.new 0)).waiters.handoff) missing
  · unfold KeepsGrants
    rw [sets.queues here]
    exact keeps

/-- Taking a turn keeps the grants of a condition. -/
theorem takeTurn (keeps : world.KeepsGrants id) (gate : Gate) : (takeTurn gate world).2.KeepsGrants id := by
  cases gate with
  | lock | semaphore | event | condition => exact keeps

/-- Removing a caller from its queue keeps the grants of a condition. -/
theorem settlePlace (keeps : world.KeepsGrants id) (gate : Gate) (future : FutureId) :
    (settlePlace gate future world).2.KeepsGrants id := by
  rw [settlePlace_eq]
  exact keeps.sets (.setQueue gate _ world) rfl

/-- Notifying callers keeps the grants of a condition. -/
theorem notify (keeps : world.KeepsGrants id) (other : ConditionId) (count : Option Nat) :
    (notify other count world).2.KeepsGrants id := by
  obtain ⟨number, form⟩ := notify_eq other count world
  rw [form]
  split
  · rw [grant_eq]
    apply of_queue _ (queue_loop _ _)
    exact keeps.sets (.setCondition other _ world) rfl
  · exact keeps

/-- Giving up the place of a caller that is gone keeps the grants of a condition. -/
theorem abandonPlace (keeps : world.KeepsGrants id) (gate : Gate) (future : FutureId) :
    (abandonPlace gate future world).2.KeepsGrants id := by
  obtain ⟨loop, form⟩ := abandonPlace_form gate future world
  rw [form]
  apply of_queue _ (queue_loop _ _)
  apply keeps.sets (.setQueue gate _ world)
  unfold WaiterQueue.abandon
  cases world.view future with
  | finished =>
    dsimp only
    split
    · rfl
    · rfl
  | pending | cancelled => rfl

/-- Deeds keep the law. -/
theorem deed (keeps : before.KeepsGrants id) (deed : Deed held aspects stakes before left after)
    (orderly : Orderly held (placesOf stakes) before) : after.KeepsGrants id := by
  cases deed with
  | changed _ _ calm early change => exact keeps.of_queue (orderly.changed change calm early).2
  | expired | kept | recalled | renewed | repaid | waived | forgiven => exact keeps
  | madeLock => exact keeps.of_queue (queue_makeLock before)
  | madeSemaphore => exact keeps.of_queue (queue_makeSemaphore _ _ before)
  | madeEvent => exact keeps.of_queue (queue_makeEvent before)
  | madeCondition _ _ lock => exact keeps.of_queue (queue_makeCondition lock before)
  | released _ _ lock => exact keeps.touches (orderly.touches_releaseLock lock) Gate.noConfusion
  | returned _ _ semaphore =>
    exact keeps.touches (orderly.touches_releaseSemaphore semaphore) Gate.noConfusion
  | raised _ _ event => exact keeps.touches (orderly.touches_raiseEvent event) Gate.noConfusion
  | cleared _ _ event => exact keeps.touches (Sets.setEvent event _ before).touched Gate.noConfusion
  | notified _ _ other count => exact keeps.notify other count
  | took _ _ gate => exact keeps.takeTurn gate
  | resumed _ _ gate future => exact (keeps.settlePlace gate future).takeTurn gate
  | left _ _ gate future => exact keeps.settlePlace gate future
  | abandoned _ _ gate future => exact keeps.abandonPlace gate future
  | dropped _ _ guard =>
    exact keeps.touches (orderly.touches_releaseGuard guard) (by cases guard <;> exact Gate.noConfusion)
  | lent _ _ condition =>
    exact keeps.touches (orderly.touches_releaseLock (before.lockOf condition)) Gate.noConfusion

/-- Whoever takes a place leaves the law alone. -/
theorem parked (keeps : before.KeepsGrants id) (parking : Parking stakes before left after) :
    after.KeepsGrants id := by
  obtain ⟨gate, loop, -, -, rfl, -, -⟩ := parking.form
  apply of_queue _ (queue_loop _ _)
  exact keeps.sets (.setQueue gate _ before) rfl

end KeepsGrants

/-- A caller of a condition that is gone grants nobody. -/
theorem fate_abandonPlace (keeps : world.KeepsGrants id) (gone : FutureId) (bound : gone < world.loop.futures.size)
    (ungranted : world.loop.fate future ≠ .granted) :
    (abandonPlace (.condition id) gone world).2.loop.fate future ≠ .granted := by
  have keeps : ((world.queue (.condition id)).remove gone).handoff = false := keeps
  have fates (resolution : Resolution) (decided : resolution.fate ≠ .pending)
      (other : resolution.fate ≠ .granted) (futures : List FutureId)
      (few : ∀ future ∈ futures, future = gone) :
      (world.loop.resolveAll futures resolution).fate future ≠ .granted := by
    have bound (future : FutureId) (member : future ∈ futures) : future < world.loop.futures.size :=
      few future member ▸ bound
    rw [Loop.fate_resolveAll _ _ _ decided bound]
    split
    · exact other
    · exact ungranted
  rw [abandonPlace_eq]
  have same (queue : WaiterQueue) : (setQueue (.condition id) queue world).2.loop = world.loop :=
    (Sets.setQueue _ queue world).loop
  unfold WaiterQueue.abandon
  cases world.view gone with
  | finished =>
    simp only [keeps, Bool.false_eq_true, if_false]
    exact ungranted
  | pending | cancelled =>
    dsimp only
    rw [cancelAll_eq, same]
    exact fates .cancel (by decide) (by decide) [gone] fun future member => List.mem_singleton.mp member

/-- Nobody who waits for a condition is granted by what is no notification. -/
theorem Deed.ungranted (deed : Deed held aspects stakes before left after)
    (orderly : Orderly held (placesOf stakes) before) (keeps : before.KeepsGrants id)
    (silent : .notices ∉ aspects) (waits : future ∈ before.entries (.condition id))
    (pending : before.loop.fate future = .pending) : after.loop.fate future ≠ .granted := by
  have ungranted : before.loop.fate future ≠ .granted := pending ▸ Fate.noConfusion
  have elsewhere {gate : Gate} (touches : Touches gate before after) (differ : .condition id ≠ gate) :
      after.loop.fate future ≠ .granted := by
    rw [touches.fates fun there => differ (orderly.apart waits there)]
    exact ungranted
  have still (same : after.loop = before.loop) : after.loop.fate future ≠ .granted := same ▸ ungranted
  have loop_takeTurn (gate : Gate) (world : World) : (takeTurn gate world).2.loop = world.loop := by
    cases gate <;> rfl
  have loop_settlePlace (gate : Gate) (gone : FutureId) :
      (settlePlace gate gone before).2.loop = before.loop := by
    rw [settlePlace_eq]
    exact (Sets.setQueue gate _ before).loop
  cases deed with
  | changed _ _ calm early change =>
    have engaged : Engaged (placesOf stakes) before future := Or.inl ⟨_, waits⟩
    rw [change.fate orderly.within calm early (fun free => free engaged) (orderly.bound engaged)]
    exact ungranted
  | expired _ _ other =>
    dsimp only
    rw [Loop.fate_resolve]
    split
    · exact Fate.noConfusion
    · exact ungranted
  | madeLock | madeSemaphore | madeEvent | madeCondition | kept | recalled | renewed | repaid | waived
  | forgiven => exact ungranted
  | released _ _ lock => exact elsewhere (orderly.touches_releaseLock lock) Gate.noConfusion
  | returned _ _ semaphore => exact elsewhere (orderly.touches_releaseSemaphore semaphore) Gate.noConfusion
  | raised _ _ event => exact elsewhere (orderly.touches_raiseEvent event) Gate.noConfusion
  | cleared _ _ event => exact elsewhere (Sets.setEvent event _ before).touched Gate.noConfusion
  | notified _ _ _ _ member => exact absurd member silent
  | took _ _ gate => exact still (loop_takeTurn gate before)
  | resumed _ _ gate gone => exact still ((loop_takeTurn gate _).trans (loop_settlePlace gate gone))
  | left _ _ gate gone => exact still (loop_settlePlace gate gone)
  | abandoned _ _ gate gone =>
    have place : (gate, gone) ∈ placesOf (.place gate gone ::ₘ left) := by simp
    by_cases here : .condition id = gate
    · subst here
      exact fate_abandonPlace keeps gone (orderly.bound (Or.inr ⟨_, place⟩)) ungranted
    · exact elsewhere (orderly.touches_abandonPlace place) here
  | dropped _ _ guard =>
    exact elsewhere (orderly.touches_releaseGuard guard) (by cases guard <;> exact Gate.noConfusion)
  | lent _ _ condition =>
    exact elsewhere (orderly.touches_releaseLock (before.lockOf condition)) Gate.noConfusion

/-- A caller waits for a condition and is pending. -/
structure Lingers (id : ConditionId) (future : FutureId) (world : World) : Prop where
  /-- It is in the queue. -/
  waits : future ∈ world.entries (.condition id)
  /-- It was neither granted nor cancelled. -/
  pending : world.loop.fate future = .pending

namespace Lingers

/-- A caller that lingers stands in the queue of its condition. -/
theorem queued (lingers : world.Lingers id future) : Queued (.condition id) future world := by
  refine ⟨lingers.waits, fun cancelled => ?_⟩
  rw [Loop.cancelled_iff, lingers.pending] at cancelled
  cases cancelled

/-- A caller that keeps its place goes on to wait, unless someone is notified or someone's time is up. -/
theorem deed (lingers : before.Lingers id future) (deed : Deed held aspects stakes before left after)
    (settled : Settled held stakes before) (keeps : before.KeepsGrants id) (timely : .timeouts ∉ aspects)
    (silent : .notices ∉ aspects) (place : (.condition id, future) ∈ placesOf left) :
    after.Lingers id future := by
  have stays := lingers.queued.deed deed settled.orderly timely place
  have ungranted := deed.ungranted settled.orderly keeps silent lingers.waits lingers.pending
  have sound := (deed.settled settled).orderly.sound (Or.inl ⟨_, stays.member⟩)
  have live := stays.live
  rw [ne_eq, Loop.cancelled_iff] at live
  refine ⟨stays.member, ?_⟩
  cases fate : after.loop.fate future with
  | pending => rfl
  | granted => exact absurd fate ungranted
  | cancelled => exact absurd fate live
  | failed => exact absurd fate sound

/-- Whoever waits goes on to wait when another one takes a place. -/
theorem parking (lingers : before.Lingers id future) (parking : Parking stakes before left after)
    (orderly : Orderly held (placesOf stakes) before) : after.Lingers id future := by
  refine ⟨(lingers.queued.parking parking orderly).member, ?_⟩
  have old := orderly.bound (Or.inl ⟨_, lingers.waits⟩)
  obtain ⟨_, loop, -, -, rfl, fates, -⟩ := parking.form
  exact (fates future old).trans lingers.pending

variable {start last : Multiset Stake × World}

/-- A caller that keeps its place goes on to wait on the way through deeds, unless someone is notified or
someone's time is up. -/
theorem deeds (lingers : start.2.Lingers id future) (deeds : Deeds held aspects start last)
    (settled : Settled held start.1 start.2) (keeps : start.2.KeepsGrants id) (timely : .timeouts ∉ aspects)
    (silent : .notices ∉ aspects) (place : (.condition id, future) ∈ placesOf last.1) :
    last.2.Lingers id future ∧ last.2.KeepsGrants id := by
  induction deeds with
  | refl => exact ⟨lingers, keeps⟩
  | tail earlier deed ih =>
    have kept := Multiset.mem_of_le deed.places_le place
    obtain ⟨lingers, keeps⟩ := ih kept
    have settled := Deeds.settled earlier settled
    exact ⟨lingers.deed deed settled keeps timely silent place, keeps.deed deed settled.orderly⟩

/-- A caller that keeps its place goes on to wait on the way of a move, unless someone is notified or
someone's time is up. -/
theorem course (lingers : start.2.Lingers id future) (course : Course held aspects start last)
    (settled : Settled held start.1 start.2) (keeps : start.2.KeepsGrants id) (timely : .timeouts ∉ aspects)
    (silent : .notices ∉ aspects) (place : (.condition id, future) ∈ placesOf last.1) :
    last.2.Lingers id future := by
  rcases course with deeds | ⟨middle, deeds, parking⟩
  · exact (lingers.deeds deeds settled keeps timely silent place).1
  · have old : future < start.2.loop.futures.size := settled.orderly.bound (Or.inl ⟨_, lingers.waits⟩)
    have old := Nat.lt_of_lt_of_le old (deeds.thins settled).2
    have kept := parking.mem_places old place
    obtain ⟨there, -⟩ := lingers.deeds deeds settled keeps timely silent kept
    exact there.parking parking (deeds.settled settled).orderly

end Lingers

end EventLoop.World

namespace EventLoop

open World (Lingers KeepsGrants moving trafficking hosting halting iterating polling)

/-! ## Who notifies callers -/

/-- Moving notifies nobody. -/
theorem notices_not_moving : Aspect.notices ∉ moving := by decide

/-- No frame notifies anybody. -/
theorem Frame.notices_not_mem (frame : Frame) : .notices ∉ frame.aspects := by
  cases frame with
  | iteration => exact (by decide : Aspect.notices ∉ (.taking :: moving : List Aspect))
  | closing => exact (by decide : Aspect.notices ∉ (.closing :: moving : List Aspect))
  | poll => exact (by decide : Aspect.notices ∉ polling)
  | repeated | running => exact (by decide : Aspect.notices ∉ iterating)
  | afterData | afterEnd | afterLoss => exact (by decide : Aspect.notices ∉ trafficking)
  | script | program | letGo | holding | rounds | joining | selecting => exact notices_not_moving

/-- Nobody who is released notifies anybody. -/
theorem Ref.notices_not_mem (ref : Ref) : .notices ∉ ref.aspects := by
  cases ref with
  | future => exact (by decide : Aspect.notices ∉ (.deserting :: moving : List Aspect))
  | task | socket | transport | server => exact notices_not_moving

/-- No callback notifies anyone by itself. -/
theorem Callback.notices_not_mem (callback : Callback) : .notices ∉ callback.aspects :=
  @of_aspects (.notices ∉ ·) callback (fun _ _ => (by decide : Aspect.notices ∉ polling)) (by decide)
    (by decide) (by decide) notices_not_moving

/-- Only an instruction to notify notifies anyone. -/
theorem Script.Instruction.notifies_of_mem {loop : Loop} {instruction : Script.Instruction}
    (notices : .notices ∈ instruction.aspects loop) : instruction.notifies = true := by
  cases asked : instruction.notifies with
  | true => rfl
  | false =>
    unfold aspects base at notices
    rw [asked, if_neg Bool.false_ne_true] at notices
    revert notices
    repeat' split
    all_goals exact fun notices => absurd notices (by decide)

namespace Machine

variable {machine after : Machine} {id : ConditionId} {future : FutureId}

/-- A move notifies callers only if it begins an instruction to do so. -/
theorem calls_of_notices (notices : .notices ∈ machine.changing) {after : Machine}
    (moves : machine.next = some after) :
    ∃ instruction, instruction.notifies = true ∧ Calls instruction machine after := by
  unfold changing at notices
  cases dropped : machine.world.loop.dropped with
  | cons ref refs =>
    rw [dropped] at notices
    exact absurd notices ref.notices_not_mem
  | nil =>
    rw [dropped] at notices
    cases acts : act? machine.signal with
    | some step =>
      rw [acts] at notices
      have base := Signal.mem_base notices (by decide)
      cases signal : machine.signal with
      | call callback =>
        rw [signal] at base
        exact absurd base callback.notices_not_mem
      | script actor body =>
        rw [signal] at base
        cases body with
        | nil => exact absurd base notices_not_moving
        | cons instruction rest =>
          exact ⟨instruction, Script.Instruction.notifies_of_mem base, .script actor rest dropped signal moves⟩
      | program task last body =>
        rw [signal] at base
        cases body with
        | nil => exact absurd base notices_not_moving
        | cons instruction rest =>
          exact ⟨instruction, Script.Instruction.notifies_of_mem base,
            .program task last rest dropped signal moves⟩
      | _ =>
        rw [signal] at base
        exact absurd base notices_not_moving
    | none =>
      rw [acts] at notices
      cases split : machine.frames with
      | nil =>
        rw [split] at notices
        exact absurd notices notices_not_moving
      | cons frame below =>
        rw [split] at notices
        exact absurd notices frame.notices_not_mem

/-- In a step of a run, someone's time is up, or someone notifies callers, or neither. -/
theorem Reachable.quietly (reachable : machine.Reachable) (step : Step machine after) :
    (∃ future, machine.Expires future) ∨
      (∃ instruction, instruction.notifies = true ∧ Calls instruction machine after) ∨
      ∃ aspects, machine.Passes aspects after ∧ .timeouts ∉ aspects ∧ .notices ∉ aspects := by
  have sound := Reachable.sound reachable
  cases step with
  | moved moves =>
    by_cases timeouts : .timeouts ∈ machine.changing
    · exact Or.inl (exists_expires timeouts)
    by_cases notices : .notices ∈ machine.changing
    · exact Or.inr (Or.inl (calls_of_notices notices moves))
    · exact Or.inr (Or.inr ⟨_, (sound.next moves fun asked => asked.elim).2, timeouts, notices⟩)
  | begun halted instruction =>
    by_cases notices : .notices ∈ instruction.aspects machine.world.loop
    · exact Or.inr (Or.inl ⟨_, Script.Instruction.notifies_of_mem notices, .outside halted⟩)
    · exact Or.inr (Or.inr ⟨_, (sound.instructed halted instruction).2,
        instruction.timeouts_not_mem machine.world.loop, notices⟩)

/-- An instruction notifies as many callers of a condition as it says, or all of them. -/
inductive IsNotice (id : ConditionId) (world : World) : Script.SyncInstruction → Option Nat → Prop
  /-- It says how many. -/
  | some {name : String} (named : world.names.lookup (.condition, name) = some id) (count : Nat) :
      IsNotice id world (.notify name count) (some count)
  /-- It notifies all of them. -/
  | all {name : String} (named : world.names.lookup (.condition, name) = some id) :
      IsNotice id world (.notifyAll name) none

/-- What comes of a call that notifies callers of a condition. -/
inductive Notified (id : ConditionId) (count : Option Nat) (machine after : Machine) : Prop
  /-- The lock is held, and those that the notification is for are granted. -/
  | granted (locked : (World.lockAt (machine.world.lockOf id) machine.world).1.locked = true)
      (answer : after.signal = .answer (World.doneValue (.ok ())))
      (fates : ∀ future, after.world.loop.fate future =
        if future ∈ machine.world.notifiable id count then .granted else machine.world.loop.fate future)
  /-- The lock is free, and nothing happens. -/
  | refused (free : (World.lockAt (machine.world.lockOf id) machine.world).1.locked = false)
      (answer : after.signal = .answer (World.errorValue .notifyWithoutLock))
      (fates : ∀ future, after.world.loop.fate future = machine.world.loop.fate future)

/-- A call that notifies callers of a condition grants those that the notification is for, and nobody else,
if the lock is held. -/
theorem Reachable.notified (reachable : machine.Reachable) {call : Script.SyncInstruction}
    {count : Option Nat} (notice : IsNotice id machine.world call count)
    (calls : Calls (.sync call) machine after) : Notified id count machine after := by
  have orderly := (Reachable.sound reachable).settled.orderly
  obtain ⟨protocol, world, answered⟩ := calls.answered (finishes_sync call)
  have does : World.doInstruction protocol (.sync call) world =
      (World.doneValue (World.notify id count world).1, (World.notify id count world).2) := by
    cases notice with
    | some named => exact World.onNamed_eq (answered.names ▸ named) _
    | all named => exact World.onNamed_eq (answered.names ▸ named) _
  have signal := answered.signal
  have done := answered.done
  rw [does] at signal done
  have entries : world.entries (.condition id) = machine.world.entries (.condition id) :=
    congrArg (fun queue => (queue (.condition id)).entries) answered.queues
  have unnotified : world.unnotified id = machine.world.unnotified id := by
    rw [World.unnotified, World.unnotified, entries, answered.loop]
  have notifiable : world.notifiable id count = machine.world.notifiable id count := by
    cases count <;> simp [World.notifiable, unnotified]
  have lock : world.lockOf id = machine.world.lockOf id :=
    congrArg (fun table => ((Table.get? table id).getD (Sync.Condition.new 0)).lock) answered.conditions
  have same : (World.lockAt (world.lockOf id) world).1.locked =
      (World.lockAt (machine.world.lockOf id) machine.world).1.locked := by
    rw [lock]
    exact congrArg (fun table => ((Table.get? table (machine.world.lockOf id)).getD .new).locked)
      answered.locks
  cases locked : (World.lockAt (machine.world.lockOf id) machine.world).1.locked with
  | true =>
    rw [World.notify_of_locked (same.trans locked)] at signal done
    refine .granted locked signal fun future => ?_
    rw [done, World.fate_grant_notifiable, notifiable, answered.loop]
    intro other member
    rw [answered.loop]
    exact orderly.bound (Or.inl ⟨_, entries ▸ member⟩)
  | false =>
    rw [World.notify_of_free (same.trans locked)] at signal done
    refine .refused locked signal fun future => ?_
    rw [done, answered.loop]

/-- In a step of a run a call notifies a caller that waits for a condition. -/
inductive Notifies (id : ConditionId) (future : FutureId) (machine after : Machine) : Prop
  /-- The lock is held, and the caller is one of those that the notification is for. -/
  | called {call : Script.SyncInstruction} {count : Option Nat} (notice : IsNotice id machine.world call count)
      (calls : Calls (.sync call) machine after)
      (locked : (World.lockAt (machine.world.lockOf id) machine.world).1.locked = true)
      (member : future ∈ machine.world.notifiable id count)

/-- Whoever is notified was pending, and is granted. -/
theorem Notifies.fate (notifies : Notifies id future machine after) (reachable : machine.Reachable) :
    after.world.loop.fate future = .granted := by
  obtain ⟨notice, calls, locked, member⟩ := notifies
  cases reachable.notified notice calls with
  | granted _ _ fates => rw [fates, if_pos member]
  | refused free =>
    rw [locked] at free
    cases free

/-- Whose timeout fires while it is pending is cancelled. -/
theorem Expires.fate (expires : machine.Expires future) (step : Step machine after)
    (exists_ : future < machine.world.loop.futures.size) (pending : machine.world.loop.fate future = .pending) :
    after.world.loop.fate future = .cancelled := by
  rw [expires.world step, World.cancelAll_eq]
  change (machine.world.loop.resolveAll [future] .cancel).fate future = .cancelled
  rw [Loop.fate_resolveAll _ _ _ (by decide) fun other member => List.mem_singleton.mp member ▸ exists_]
  exact if_pos ⟨List.mem_singleton_self future, pending⟩

/-- The grant of a caller that is gone passes to nobody in the queue of a condition. -/
theorem lasting_keepsGrants (id : ConditionId) : Lasting (KeepsGrants id) where
  bare isBare := by
    cases isBare
    rfl
  deed deed settled keeps := keeps.deed deed settled.orderly
  parking parking _ keeps := keeps.parked parking

/-- A call to notify leaves a caller pending that it does not notify. -/
theorem Reachable.notifies_or (reachable : machine.Reachable) {instruction : Script.Instruction}
    (notifies : instruction.notifies = true) (calls : Calls instruction machine after)
    (lingers : machine.world.Lingers id future) :
    after.world.loop.fate future = .pending ∨ Notifies id future machine after := by
  have orderly := (Reachable.sound reachable).settled.orderly
  -- The condition that is meant may be another one, or none at all.
  have meant {call : Script.SyncInstruction} {count : Option Nat} {other : ConditionId}
      (notice : IsNotice other machine.world call count) (calls : Calls (.sync call) machine after) :
      after.world.loop.fate future = .pending ∨ Notifies id future machine after := by
    cases reachable.notified notice calls with
    | granted locked _ fates =>
      rw [fates]
      split
      · rename_i member
        have waits := World.mem_unnotified.mp ((machine.world.notifiable_sublist other count).subset member)
        cases orderly.apart lingers.waits waits.1
        exact Or.inr (.called notice calls locked member)
      · exact Or.inl lingers.pending
    | refused _ _ fates =>
      rw [fates]
      exact Or.inl lingers.pending
  have unnamed {call : Script.SyncInstruction} {name : String} {action : Nat → WorldM Value}
      (calls : Calls (.sync call) machine after)
      (does : World.doSync call = World.onNamed .condition name action)
      (missing : machine.world.names.lookup (.condition, name) = none) :
      after.world.loop.fate future = .pending := by
    obtain ⟨protocol, world, answered⟩ := calls.answered (finishes_sync call)
    have same : World.doSync call world = (.null, world) := by
      rw [does]
      exact World.onNamed_of_none (answered.names ▸ missing) _
    have done : after.world = (World.doSync call world).2 := answered.done
    rw [done, same, answered.loop]
    exact lingers.pending
  cases instruction with
  | sync call =>
    cases call with
    | notify name count =>
      cases named : machine.world.names.lookup (.condition, name) with
      | some other => exact meant (.some named count) calls
      | none => exact Or.inl (unnamed calls rfl named)
    | notifyAll name =>
      cases named : machine.world.names.lookup (.condition, name) with
      | some other => exact meant (.all named) calls
      | none => exact Or.inl (unnamed calls rfl named)
    | _ => cases notifies
  | _ => cases notifies

/-- A caller that waits for a condition goes on to be pending in the next step, or its timeout fires, or it is
notified, unless it gives its place up. -/
theorem Reachable.lingers_step (reachable : machine.Reachable) (step : Step machine after)
    (lingers : machine.world.Lingers id future)
    (place : (.condition id, future) ∈ placesOf after.stakes) :
    after.world.Lingers id future ∨ machine.Expires future ∨ Notifies id future machine after := by
  have keeps := (lasting_keepsGrants id).reachable reachable
  have settled := (Reachable.sound reachable).settled
  by_cases expires : machine.Expires future
  · exact Or.inr (Or.inl expires)
  have stays := reachable.queued step lingers.queued place expires
  rcases reachable.quietly step with ⟨other, expired⟩ | ⟨instruction, notifies, calls⟩ |
    ⟨aspects, passes, timely, silent⟩
  · left
    refine ⟨stays.member, ?_⟩
    have exists_ := settled.orderly.bound (Or.inl ⟨_, lingers.waits⟩)
    have differ : future ≠ other := by
      rintro rfl
      exact expires expired
    rw [expired.world step, World.cancelAll_eq]
    change (machine.world.loop.resolve other .cancel).2.fate future = .pending
    rw [Loop.fate_resolve, if_neg fun here => differ here.1]
    exact lingers.pending
  · rcases reachable.notifies_or notifies calls lingers with pending | notified
    · exact Or.inl ⟨stays.member, pending⟩
    · exact Or.inr (Or.inr notified)
  · exact Or.inl (lingers.course passes settled keeps timely silent place)

end Machine

end EventLoop
