import EventLoop.Proofs.Sync.Answers
import EventLoop.Proofs.Sync.Entries

/-!
# What a program leaves behind that is given up

A program that is given up leaves every queue in which it has a place. No lock is taken for it, and
everyone else who waits goes on to wait.
-/
namespace EventLoop.World

open Script (Part Activity)

variable {world before after : World} {gate : Gate} {future : FutureId} {parts : List Part}
variable {id : TaskId} {activity : Activity}

/-- The end of a program is written down by the host, if at all. -/
theorem recordEnd_form (task : String) (world : World) :
    ∃ host, (recordEnd task world).2 = { world with host } := by
  change ∃ host, ((if world.host.journal.settings.tasks = true then
    record (Actor.task task).text "drop" .null else pure () : WorldM Unit) world).2 = { world with host }
  by_cases wanted : world.host.journal.settings.tasks = true
  · rw [if_pos wanted]
    exact ⟨_, rfl⟩
  · rw [if_neg wanted]
    exact ⟨world.host, rfl⟩

/-- Callers leave queues at most, and no lock is taken. -/
structure Recedes (before after : World) : Prop where
  /-- No queue gets a new entry. -/
  thins : Thins before after
  /-- No lock is taken. -/
  taken : ∀ id, (lockAt id after).1.taken = (lockAt id before).1.taken
  /-- A lock that is held was held before. -/
  freed : ∀ id, (lockAt id after).1.locked = true → (lockAt id before).1.locked = true

namespace Recedes

/-- Callers recede when nothing happens. -/
theorem refl (world : World) : Recedes world world :=
  ⟨.refl world, fun _ => rfl, fun _ locked => locked⟩

/-- Callers that recede twice recede. -/
theorem trans {middle : World} (first : Recedes before middle) (second : Recedes middle after) :
    Recedes before after :=
  ⟨first.thins.trans second.thins, fun id => (second.taken id).trans (first.taken id),
    fun id locked => first.freed id (second.freed id locked)⟩

/-- The locks stay as they are, and so do the queues. -/
theorem of_tables (locks : after.locks = before.locks) (queues : after.queue = before.queue) :
    Recedes before after := by
  have same (id : LockId) : (lockAt id after).1 = (lockAt id before).1 := by
    change (after.locks.get? id).getD .new = (before.locks.get? id).getD .new
    rw [locks]
  exact ⟨.of_queue queues, fun id => congrArg Sync.Lock.taken (same id),
    fun id locked => (congrArg Sync.Lock.locked (same id)).symm.trans locked⟩

/-- Whatever happens in the loop does not matter. -/
theorem loop (world : World) (loop : Loop) : Recedes world { world with loop } :=
  of_tables rfl (queue_loop world loop)

/-- The primitives stay as they are apart from queues that get no new entries. -/
theorem of_requeued (requeued : Requeued before after) (thins : Thins before after) :
    Recedes before after :=
  ⟨thins, requeued.taken, fun id locked => (requeued.locked id).symm.trans locked⟩

/-- Releasing a lock makes callers leave queues at most. -/
theorem releaseLock (id : LockId) (world : World) : Recedes world (releaseLock id world).2 := by
  have lock (other : LockId) : (lockAt other (World.releaseLock id world).2).1.taken =
        (lockAt other world).1.taken ∧
      ((lockAt other (World.releaseLock id world).2).1.locked = true →
        (lockAt other world).1.locked = true) := by
    rw [releaseLock_eq]
    split
    · rw [grant_eq]
      change (lockAt other (setLock id _ world).2).1.taken = _ ∧
        ((lockAt other (setLock id _ world).2).1.locked = true → _)
      rw [lockAt_setLock]
      split
      · rename_i here
        exact ⟨here.1 ▸ rfl, fun locked => Bool.noConfusion locked⟩
      · exact ⟨rfl, fun locked => locked⟩
    · exact ⟨rfl, fun locked => locked⟩
  exact ⟨.releaseLock id world, fun other => (lock other).1, fun other => (lock other).2⟩

/-- Giving a permit back makes callers leave queues at most. -/
theorem releaseSemaphore (id : SemaphoreId) (world : World) :
    Recedes world (releaseSemaphore id world).2 := by
  have lock (other : LockId) :
      (lockAt other (World.releaseSemaphore id world).2).1 = (lockAt other world).1 := by
    rw [releaseSemaphore_eq]
    split
    · rfl
    · rw [grant_eq]
      rfl
  exact ⟨.releaseSemaphore id world, fun other => congrArg Sync.Lock.taken (lock other),
    fun other locked => (congrArg Sync.Lock.locked (lock other)).symm.trans locked⟩

/-- Giving up what a guard holds makes callers leave queues at most. -/
theorem releaseGuard (guard : Guard) (world : World) : Recedes world (releaseGuard guard world).2 := by
  cases guard with
  | lock id => exact releaseLock id world
  | semaphore id => exact releaseSemaphore id world

/-- Giving up the place of a caller that is gone makes callers leave queues at most. -/
theorem abandonPlace (gate : Gate) (future : FutureId) (world : World) :
    Recedes world (abandonPlace gate future world).2 := by
  obtain ⟨reached, form⟩ := abandonPlace_form gate future world
  refine of_requeued ?_ (.abandonPlace gate future world)
  rw [form]
  exact (Requeued.setQueue gate _ world).trans (.loop _ _)

/-- What a program owns is given up. -/
theorem abandonPart (part : Part) (world : World) : Recedes world (abandonPart part world).2 := by
  cases part with
  | place gate future => exact (abandonPlace gate future world).trans (loop _ _)
  | guard guard => exact releaseGuard guard world
  | future | socket | transport => exact loop world _

/-- Giving up parts of a program one after another makes callers leave queues at most. -/
theorem abandonParts (parts : List Part) (world : World) :
    Recedes world (parts.forM World.abandonPart world).2 := by
  induction parts generalizing world with
  | nil => exact refl world
  | cons part rest ih =>
    exact (abandonPart part world).trans (ih (World.abandonPart part world).2)

/-- Writing down that a task has ended makes callers leave queues at most. -/
theorem recordEnd (task : String) (world : World) : Recedes world (recordEnd task world).2 := by
  obtain ⟨host, same⟩ := recordEnd_form task world
  rw [same]
  exact of_tables rfl (queue_congr rfl rfl rfl rfl)

/-- Giving up the program of a task makes callers leave queues at most. -/
theorem abandonProgram (task : String) (activity : Activity) (world : World) :
    Recedes world (abandonProgram task activity world).2 :=
  (recordEnd task world).trans (abandonParts activity.parts (World.recordEnd task world).2)

end Recedes

/-- Whoever has a place leaves the queue when everything is given up. -/
theorem not_mem_abandonParts (single : (world.entries gate).Nodup)
    (member : .place gate future ∈ parts) :
    future ∉ (parts.forM abandonPart world).2.entries gate := by
  induction parts generalizing world with
  | nil => cases member
  | cons part rest ih =>
    have first := (Recedes.abandonPart part world).thins gate
    change future ∉ (rest.forM abandonPart (abandonPart part world).2).2.entries gate
    rcases List.mem_cons.mp member with rfl | later
    · intro waits
      have there : future ∈ (abandonPart (.place gate future) world).2.entries gate :=
        ((Recedes.abandonParts rest _).thins gate).subset waits
      exact not_mem_abandonPlace single future (((Thins.loop _ _) gate).subset there)
    · exact ih (first.nodup single) later

/-! ## Callers that stay -/

/-- A caller stands in a queue and was not cancelled. -/
structure Queued (gate : Gate) (future : FutureId) (world : World) : Prop where
  /-- It stands in the queue. -/
  member : future ∈ world.entries gate
  /-- It was not cancelled. -/
  live : world.loop.futureState future ≠ .cancelled

namespace Queued

variable {other : Gate}

/-- The primitive of a gate is changed, and whoever was not cancelled stays in the queue. -/
theorem of_sets {queue : Sync.WaiterQueue} (queued : Queued gate future before)
    (sets : Sets other queue before after) (stays : gate = other → future ∈ queue.entries) :
    Queued gate future after where
  member := by
    by_cases same : gate = other
    · subst same
      exact sets.mem_entries (hasGate_of_mem queued.member) (stays rfl)
    · rw [entries, sets.queues same]
      exact queued.member
  live := by
    rw [sets.loop]
    exact queued.live

/-- The queues stay as they are, and the caller is not cancelled. -/
theorem of_queue (queued : Queued gate future before) (queues : after.queue = before.queue)
    (live : after.loop.futureState future ≠ .cancelled) : Queued gate future after where
  member := by
    rw [entries, queues]
    exact queued.member
  live := live

/-- Something happens in the loop that does not cancel the caller. -/
theorem loop (queued : Queued gate future world) {loop : Loop}
    (live : loop.futureState future ≠ .cancelled) : Queued gate future { world with loop } :=
  queued.of_queue (queue_loop world loop) live

/-- Futures are resolved, but the caller is not cancelled. -/
theorem resolveAll (queued : Queued gate future world) (futures : List FutureId)
    (resolution : Resolution) (kept : future ∈ futures → resolution.fate ≠ .cancelled) :
    Queued gate future { world with loop := world.loop.resolveAll futures resolution } := by
  refine queued.loop ?_
  have live := queued.live
  rw [ne_eq, Loop.cancelled_iff] at live ⊢
  generalize world.loop = loop at live ⊢
  induction futures generalizing loop with
  | nil => exact live
  | cons first rest ih =>
    refine ih (fun member => kept (List.mem_cons_of_mem first member)) _ ?_
    rw [Loop.fate_resolve]
    split
    · rename_i here
      exact kept (here.1 ▸ List.mem_cons_self)
    · exact live

/-- A caller keeps its place when callers are granted, and is not cancelled by that. -/
theorem grant (queued : Queued gate future world) (futures : List FutureId) :
    Queued gate future (grant futures world).2 := by
  rw [grant_eq]
  exact queued.resolveAll futures _ fun _ => Fate.noConfusion

/-- A caller keeps its place when others are cancelled. -/
theorem cancelAll (queued : Queued gate future world) {futures : List FutureId}
    (away : future ∉ futures) : Queued gate future (cancelAll futures world).2 := by
  rw [cancelAll_eq]
  exact queued.resolveAll futures _ fun member => absurd member away

/-- Waking a queue keeps whoever was not cancelled. -/
theorem mem_wake (queued : Queued gate future world) :
    future ∈ (world.entries gate).filter fun entry => world.view entry != .cancelled :=
  List.mem_filter.mpr ⟨queued.member, bne_iff_ne.mpr queued.live⟩

/-- A caller keeps its place when a guard is given up. -/
theorem releaseGuard (queued : Queued gate future world) (guard : Guard) :
    Queued gate future (releaseGuard guard world).2 := by
  cases guard with
  | lock id =>
    change Queued gate future (releaseLock id world).2
    rw [releaseLock_eq]
    split
    · refine (queued.of_sets (.setLock id _ world) ?_).grant _
      rintro rfl
      exact queued.mem_wake
    · exact queued
  | semaphore id =>
    change Queued gate future (releaseSemaphore id world).2
    rw [releaseSemaphore_eq]
    split
    · exact queued
    · refine (queued.of_sets (.setSemaphore id _ world) ?_).grant _
      rintro rfl
      exact queued.mem_wake

/-- A caller that is gone leaves the others where they are. -/
theorem abandonPlace (queued : Queued gate future world) {gone : FutureId} (differ : future ≠ gone) :
    Queued gate future (abandonPlace other gone world).2 := by
  have stays (same : gate = other) : future ∈ ((world.queue other).remove gone).entries := by
    rw [Sync.WaiterQueue.entries_remove, List.mem_erase_of_ne differ, ← same]
    exact queued.member
  rw [abandonPlace_eq]
  cases settled : world.view gone with
  | finished =>
    simp only [Sync.WaiterQueue.abandon, settled]
    cases handoff : ((world.queue other).remove gone).handoff with
    | true =>
      refine (queued.of_sets (.setQueue other _ world) fun same => ?_).grant _
      have live : (world.view future != .cancelled) = true := bne_iff_ne.mpr queued.live
      exact List.mem_filter.mpr ⟨stays same, live⟩
    | false => exact (queued.of_sets (.setQueue other _ world) stays).grant _
  | pending | cancelled =>
    simp only [Sync.WaiterQueue.abandon, settled]
    exact (queued.of_sets (.setQueue other _ world) stays).cancelAll
      fun member => differ (List.mem_singleton.mp member)

/-- A program that is given up leaves those where they are that have no place in it. -/
theorem abandonParts (queued : Queued gate future world)
    (stranger : ∀ place, .place place future ∉ parts) :
    Queued gate future (parts.forM abandonPart world).2 := by
  induction parts generalizing world with
  | nil => exact queued
  | cons part rest ih =>
    have first : Queued gate future (abandonPart part world).2 := by
      cases part with
      | place other gone =>
        have differ : future ≠ gone := by
          rintro rfl
          exact stranger other List.mem_cons_self
        exact (queued.abandonPlace differ).loop (queued.abandonPlace differ).live
      | guard guard => exact queued.releaseGuard guard
      | future | socket | transport => exact queued.loop queued.live
    exact ih first fun place member => stranger place (List.mem_cons_of_mem part member)

end Queued

/-! ## Futures that wait in no queue -/

/-- A future that waits in no queue stays as it is, and so do the tasks. -/
structure Spares (future : FutureId) (before after : World) : Prop where
  /-- No queue gets a new entry. -/
  thins : Thins before after
  /-- The tasks stay as they are. -/
  tasks : after.loop.tasks = before.loop.tasks
  /-- The future stays as it is. -/
  stays : (∀ gate, future ∉ before.entries gate) →
    after.loop.futures.get? future = before.loop.futures.get? future

namespace Spares

variable {middle : World} {futures : List FutureId} {resolution : Resolution}

/-- A future is spared when nothing happens. -/
theorem refl (world : World) : Spares future world world := ⟨.refl world, rfl, fun _ => rfl⟩

/-- A future that is spared twice is spared. -/
theorem trans (first : Spares future before middle) (second : Spares future middle after) :
    Spares future before after where
  thins := first.thins.trans second.thins
  tasks := second.tasks.trans first.tasks
  stays apart :=
    (second.stays fun gate waits => apart gate ((first.thins gate).subset waits)).trans
      (first.stays apart)

/-- References are given up. -/
theorem drop (ref : Ref) (world : World) : Spares future world (drop ref world).2 :=
  ⟨.loop world _, rfl, fun _ => rfl⟩

/-- The primitive of a gate is changed, and then other futures are resolved. -/
theorem of_sets {queue : Sync.WaiterQueue} (sets : Sets gate queue before middle)
    (thins : Thins before middle)
    (others : (∀ gate, future ∉ before.entries gate) → future ∉ futures) :
    Spares future before
      { middle with loop := middle.loop.resolveAll futures resolution } where
  thins := thins.trans (.loop middle _)
  tasks := (Loop.tasks_resolveAll _ _ _).trans (congrArg Loop.tasks sets.loop)
  stays apart := by
    dsimp only
    rw [Loop.get?_resolveAll _ _ (others apart), sets.loop]

/-- Releasing a lock spares a future that waits in no queue. -/
theorem releaseLock (id : LockId) (world : World) : Spares future world (releaseLock id world).2 := by
  rw [releaseLock_eq]
  split
  · rw [grant_eq]
    exact of_sets (.setLock id _ world) (.of_sets (.setLock id _ world) List.filter_sublist)
      fun apart granted => apart (.lock id) (mem_of_wake granted)
  · exact refl world

/-- Giving a permit back spares a future that waits in no queue. -/
theorem releaseSemaphore (id : SemaphoreId) (world : World) :
    Spares future world (releaseSemaphore id world).2 := by
  rw [releaseSemaphore_eq]
  split
  · exact refl world
  · rw [grant_eq]
    exact of_sets (.setSemaphore id _ world) (.of_sets (.setSemaphore id _ world) List.filter_sublist)
      fun apart granted => apart (.semaphore id) (mem_of_wake granted)

/-- The place of another caller is given up. -/
theorem abandonPlace (gate : Gate) {gone : FutureId} (differ : future ≠ gone) (world : World) :
    Spares future world (abandonPlace gate gone world).2 := by
  have thins : Thins world (setQueue gate ((world.queue gate).abandon world.view gone).2 world).2 :=
    .of_sets (.setQueue gate _ world) ((abandon_sublist _ _ _).trans List.erase_sublist)
  rw [abandonPlace_eq]
  cases outcome : ((world.queue gate).abandon world.view gone).1 with
  | passOn futures =>
    dsimp only
    rw [grant_eq]
    refine of_sets (.setQueue gate _ world) thins fun apart granted => apart gate ?_
    unfold Sync.WaiterQueue.abandon at outcome
    cases settled : world.view gone with
    | finished =>
      rw [settled] at outcome
      dsimp only at outcome
      split at outcome
      · cases outcome
        exact List.mem_of_mem_erase (mem_of_wake granted)
      · cases outcome
        cases granted
    | pending | cancelled =>
      rw [settled] at outcome
      cases outcome
  | cancel =>
    dsimp only
    rw [cancelAll_eq]
    exact of_sets (.setQueue gate _ world) thins
      fun _ cancelled => differ (List.mem_singleton.mp cancelled)

/-- Giving up a part of a program spares a future that waits in no queue, unless the part is its place. -/
theorem abandonPart {part : Part} (stranger : ∀ gate, part ≠ .place gate future) (world : World) :
    Spares future world (abandonPart part world).2 := by
  cases part with
  | place gate gone =>
    have differ : future ≠ gone := by
      rintro rfl
      exact stranger gate rfl
    exact (abandonPlace gate differ world).trans (drop _ _)
  | guard guard =>
    cases guard with
    | lock id => exact releaseLock id world
    | semaphore id => exact releaseSemaphore id world
  | future | socket | transport => exact drop _ world

/-- Giving up parts of a program one after another spares a future that waits in no queue, unless one of
the parts is its place. -/
theorem abandonParts (stranger : ∀ gate, .place gate future ∉ parts) (world : World) :
    Spares future world (parts.forM World.abandonPart world).2 := by
  induction parts generalizing world with
  | nil => exact refl world
  | cons part rest ih =>
    have first : ∀ gate, part ≠ .place gate future := fun gate same =>
      stranger gate (same ▸ List.mem_cons_self)
    exact (abandonPart first world).trans
      (ih (fun gate member => stranger gate (List.mem_cons_of_mem part member)) _)

/-- A program that is given up leaves a future alone in which it has no place. -/
theorem abandonProgram (task : String) {activity : Activity}
    (stranger : ∀ gate, .place gate future ∉ activity.parts) (world : World) :
    Spares future world (abandonProgram task activity world).2 := by
  obtain ⟨host, same⟩ := recordEnd_form task world
  have recorded : Spares future world (recordEnd task world).2 := by
    rw [same]
    exact ⟨.of_queue (queue_congr rfl rfl rfl rfl), rfl, fun _ => rfl⟩
  exact recorded.trans (abandonParts stranger _)

end Spares

/-! ## Tasks that are cancelled -/

/-- A task that is not over is cancelled: it gives up the program that it holds, if it holds one, and then
its result is cancelled. -/
theorem cancelTask_of_live {task : Task} (found : world.loop.tasks.get? id = some task)
    (live : task.isOver = false) : cancelTask id world = (true, (cancelAll [task.result]
      (task.activity?.elim { world with loop := (world.loop.beginCancel id task).2 } fun activity =>
        (abandonProgram task.name activity
          { world with loop := (world.loop.beginCancel id task).2 }).2)).2) := by
  have begun : onLoop (·.beginCancel id task) world =
      (task.activity?, { world with loop := (world.loop.beginCancel id task).2 }) := rfl
  unfold cancelTask
  simp only [StateM.bind_apply, StateM.get_apply, found, live, Bool.false_eq_true, if_false, begun]
  cases task.activity? with
  | none => rfl
  | some activity => rfl

/-- A task that holds its program is cancelled. -/
theorem cancelTask_form {task : Task} (found : world.loop.tasks.get? id = some task)
    (held : task.activity? = some activity) : (cancelTask id world).2 =
      (cancelAll [task.result] (abandonProgram task.name activity
        { world with loop := (world.loop.beginCancel id task).2 }).2).2 := by
  have live : task.isOver = false := by
    rcases task with ⟨name, phase, slot, result⟩
    cases phase with
    | idle | queued => rfl
    | running | completed | cancelled => cases held
  rw [cancelTask_of_live found live, held]
  rfl

/-- A task that is over is not cancelled. -/
theorem cancelTask_of_over {task : Task} (found : world.loop.tasks.get? id = some task)
    (isOver : task.isOver = true) : cancelTask id world = (false, world) := by
  unfold cancelTask
  simp only [StateM.bind_apply, StateM.get_apply, found, isOver, if_true]
  rfl

/-- A task that is cancelled changes no other task, and its result is cancelled unless it waits in a queue
or has a place in the program. -/
theorem loop_cancelTask {task : Task} (found : world.loop.tasks.get? id = some task)
    (live : task.isOver = false) (apart : ∀ gate, task.result ∉ world.entries gate)
    (stranger : ∀ held, task.activity? = some held → ∀ gate, .place gate task.result ∉ held.parts) :
    (cancelTask id world).2.loop.tasks = (world.loop.setPhase id .cancelled).tasks ∧
      ((cancelTask id world).2.loop.futures.get? task.result =
        (world.loop.resolve task.result .cancel).2.futures.get? task.result) := by
  have begun : Spares task.result { world with loop := world.loop.setPhase id .cancelled }
      { world with loop := (world.loop.beginCancel id task).2 } := by
    refine ⟨.loop { world with loop := world.loop.setPhase id .cancelled } _,
      Loop.tasks_retire _ task, fun _ => ?_⟩
    exact congrArg (fun futures => Table.get? futures task.result) (Loop.futures_retire _ task)
  have spares : Spares task.result { world with loop := world.loop.setPhase id .cancelled }
      (task.activity?.elim { world with loop := (world.loop.beginCancel id task).2 } fun activity =>
        (abandonProgram task.name activity
          { world with loop := (world.loop.beginCancel id task).2 }).2) := by
    cases held : task.activity? with
    | none => exact begun
    | some activity => exact begun.trans (.abandonProgram task.name (stranger activity held) _)
  rw [cancelTask_of_live found live, cancelAll_eq]
  refine ⟨(Loop.tasks_resolve _ _ _).trans spares.tasks, ?_⟩
  have same := spares.stays fun gate waits => apart gate (((Thins.loop world _) gate).subset waits)
  change ((Loop.resolve _ task.result .cancel).2.futures).get? task.result = _
  rw [Loop.get?_resolve, Loop.get?_resolve, same]
  rfl

/-- Callers leave queues at most when a task is cancelled, and no lock is taken. -/
theorem recedes_cancelTask (holds : world.loop.activityOf id = some activity) :
    Recedes world (cancelTask id world).2 := by
  obtain ⟨task, found, held⟩ := Option.bind_eq_some_iff.mp holds
  rw [cancelTask_form found held, cancelAll_eq]
  exact ((Recedes.loop world _).trans (.abandonProgram task.name activity _)).trans (.loop _ _)

/-- A task that is cancelled leaves the queues in which its program has places. -/
theorem not_mem_cancelTask (holds : world.loop.activityOf id = some activity)
    (single : (world.entries gate).Nodup) (member : .place gate future ∈ activity.parts) :
    future ∉ (cancelTask id world).2.entries gate := by
  obtain ⟨task, found, held⟩ := Option.bind_eq_some_iff.mp holds
  rw [cancelTask_form found held]
  intro waits
  have recedes := (Recedes.loop world (world.loop.beginCancel id task).2).trans (.recordEnd task.name _)
  exact not_mem_abandonParts ((recedes.thins gate).nodup single) member
    (((Thins.cancelAll [task.result] _) gate).subset waits)

/-- A task that is cancelled leaves those where they are that have no place in its program. -/
theorem queued_cancelTask (holds : world.loop.activityOf id = some activity)
    (queued : Queued gate future world) (stranger : ∀ place, .place place future ∉ activity.parts)
    (other : ∀ task, world.loop.tasks.get? id = some task → future ≠ task.result) :
    Queued gate future (cancelTask id world).2 := by
  obtain ⟨task, found, held⟩ := Option.bind_eq_some_iff.mp holds
  rw [cancelTask_form found held]
  have begun : Queued gate future { world with loop := (world.loop.beginCancel id task).2 } := by
    refine queued.loop ?_
    have futures : (world.loop.beginCancel id task).2.futures = world.loop.futures :=
      Loop.futures_retire _ _
    unfold Loop.futureState
    rw [futures]
    exact queued.live
  have recorded : Queued gate future (recordEnd task.name
      { world with loop := (world.loop.beginCancel id task).2 }).2 := by
    obtain ⟨host, same⟩ := recordEnd_form task.name
      { world with loop := (world.loop.beginCancel id task).2 }
    rw [same]
    exact begun.of_queue (queue_congr rfl rfl rfl rfl) begun.live
  exact (recorded.abandonParts stranger).cancelAll
    fun member => other task found (List.mem_singleton.mp member)

end EventLoop.World
