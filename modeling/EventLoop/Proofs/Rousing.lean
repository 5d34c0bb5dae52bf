import EventLoop.Proofs.Live

/-!
# Rousing tasks

At the beginning of an iteration and after the proactor was polled, the loop takes over which tasks were
woken. Each of them that is idle becomes due, and one step of it becomes ready, however often its number
was woken. A task that is due already or that is being polled is left alone.
-/
namespace EventLoop

/-- A task becomes due if it is idle. -/
def Task.roused (task : Task) : Task :=
  match task.phase with
  | .idle activity => { task with phase := .queued activity }
  | _ => task

namespace Task

/-- A task that becomes due is as little over as before. -/
@[simp] theorem isOver_roused (task : Task) : task.roused.isOver = task.isOver := by
  unfold roused isOver
  cases phase : task.phase with
  | idle => rfl
  | queued | running | completed | cancelled => simp only [phase]

/-- A task that becomes due keeps its number. -/
@[simp] theorem slot_roused (task : Task) : task.roused.slot = task.slot := by
  unfold roused
  split
  · rfl
  · rfl

end Task

namespace Loop

variable {loop other : Loop} {ids : List TaskId} {slots : List Nat}

/-- Some tasks that were idle have become due, and one step of each has become ready. -/
structure Roused (ids : List TaskId) (loop other : Loop) : Prop where
  /-- Each of them is listed once. -/
  nodup : ids.Nodup
  /-- They were idle. -/
  idle : ∀ id ∈ ids, loop.IsIdle id
  /-- Their steps have become ready. -/
  ready : other.ready = loop.ready ++ ids.map .step
  /-- They are due. -/
  tasks : ∀ id, other.tasks.get? id =
    (loop.tasks.get? id).map fun task => if id ∈ ids then task.roused else task
  /-- The numbers are left alone. -/
  live : other.live = loop.live
  /-- No number is woken. -/
  woken : other.woken = loop.woken
  /-- Whether the loop is closed is left alone. -/
  closed : other.closed = loop.closed

namespace Roused

/-- Nobody is roused when nothing happens. -/
theorem refl (loop : Loop) : Roused [] loop loop := by
  refine ⟨List.nodup_nil, fun _ member => (nomatch member), ?_, fun id => ?_, rfl, rfl, rfl⟩
  · simp
  · simp

/-- A task that became due is no longer idle. -/
theorem not_idle (roused : Roused ids loop other) {id : TaskId} (member : id ∈ ids) :
    ¬ other.IsIdle id := by
  rintro ⟨activity, idle⟩
  obtain ⟨held, before⟩ := roused.idle id member
  obtain ⟨task, found, phase⟩ := Option.map_eq_some_iff.mp before
  rw [taskPhase?, roused.tasks id, found, Option.map_some, if_pos member] at idle
  simp [Task.roused, phase] at idle

/-- A task that did not become due is doing what it did. -/
theorem phase_of_not_mem (roused : Roused ids loop other) {id : TaskId} (other_ : id ∉ ids) :
    other.taskPhase? id = loop.taskPhase? id := by
  unfold taskPhase?
  rw [roused.tasks id]
  cases loop.tasks.get? id with
  | none => rfl
  | some task => simp [other_]

/-- A task that became due holds the program that it held. -/
theorem phase_of_mem (roused : Roused ids loop other) {id : TaskId} (member : id ∈ ids) :
    ∃ activity, loop.taskPhase? id = some (.idle activity) ∧
      other.taskPhase? id = some (.queued activity) := by
  obtain ⟨activity, idle⟩ := roused.idle id member
  refine ⟨activity, idle, ?_⟩
  obtain ⟨task, found, phase⟩ := Option.map_eq_some_iff.mp idle
  unfold taskPhase?
  rw [roused.tasks id, found]
  simp [member, Task.roused, phase]

/-- Those are roused who are roused first and who are roused then. -/
theorem trans {more : List TaskId} {last : Loop} (before : Roused ids loop other)
    (after : Roused more other last) : Roused (ids ++ more) loop last := by
  have apart : ∀ id ∈ more, id ∉ ids := by
    intro id member here
    exact before.not_idle here (after.idle id member)
  refine ⟨?_, fun id member => ?_, ?_, fun id => ?_, after.live.trans before.live,
    after.woken.trans before.woken, after.closed.trans before.closed⟩
  · rw [List.nodup_append]
    refine ⟨before.nodup, after.nodup, fun first here second there same => ?_⟩
    subst same
    exact apart first there here
  · rcases List.mem_append.mp member with here | there
    · exact before.idle id here
    · obtain ⟨activity, idle⟩ := after.idle id there
      exact ⟨activity, (before.phase_of_not_mem (apart id there)).symm.trans idle⟩
  · rw [after.ready, before.ready, List.map_append, List.append_assoc]
  · rw [after.tasks id, before.tasks id, Option.map_map]
    congr 1
    funext task
    by_cases here : id ∈ ids
    · have gone : id ∉ more := fun there => apart id there here
      simp [here, gone]
    · simp [here]

end Roused

/-- Tasks that are not over are found under their numbers. -/
theorem Roused.housed (roused : Roused ids loop other) (housed : loop.Housed) : other.Housed := by
  refine housed.of_kept roused.live fun {id task} found alive => ?_
  rw [roused.tasks id] at found
  obtain ⟨earlier, there, rfl⟩ := Option.map_eq_some_iff.mp found
  refine ⟨earlier, there, ?_⟩
  by_cases member : id ∈ ids
  · rw [if_pos member, Task.isOver_roused] at alive
    rw [if_pos member, Task.slot_roused]
    exact ⟨alive, rfl⟩
  · rw [if_neg member] at alive ⊢
    exact ⟨alive, rfl⟩

/-- A task that is woken becomes due if it is idle. -/
theorem roused_schedule (opened : loop.closed = false) (id : TaskId) :
    ∃ ids, Roused ids loop (loop.schedule id) ∧
      ∀ other, other ∈ ids ↔ other = id ∧ loop.IsIdle id := by
  unfold schedule
  split
  · rename_i activity idle
    refine ⟨[id], ⟨by simp, fun other member => ?_, ?_, fun other => ?_, ?_, ?_, ?_⟩, fun other => ?_⟩
    · rw [List.mem_singleton.mp member]
      exact ⟨activity, idle⟩
    · rw [callSoon_eq]
      simp [setPhase, opened]
    · rw [tasks_callSoon]
      unfold setPhase
      dsimp only
      rw [Table.get?_modify]
      by_cases same : other = id
      · subst same
        obtain ⟨task, found, phase⟩ := Option.map_eq_some_iff.mp idle
        rw [found]
        simp [Task.roused, phase]
      · simp [same]
    · rw [callSoon_eq]
      rfl
    · rw [callSoon_eq]
      rfl
    · rw [callSoon_eq]
      rfl
    · rw [List.mem_singleton]
      exact ⟨fun same => ⟨same, activity, idle⟩, fun both => both.1⟩
  · rename_i busy
    refine ⟨[], .refl loop, fun other => ?_⟩
    constructor
    · intro member
      cases member
    · rintro ⟨-, activity, idle⟩
      exact absurd idle (busy activity)

/-- The live task with a number that is woken becomes due if it is idle. -/
theorem roused_scheduleLive (opened : loop.closed = false) (slot : Nat) :
    ∃ ids, Roused ids loop (loop.scheduleLive slot) ∧
      ∀ id, id ∈ ids ↔ loop.live.get? slot = some id ∧ loop.IsIdle id := by
  unfold scheduleLive
  cases found : loop.live.get? slot with
  | none =>
    refine ⟨[], .refl loop, fun id => ?_⟩
    simp
  | some id =>
    obtain ⟨ids, roused, members⟩ := roused_schedule opened id
    refine ⟨ids, roused, fun other => ?_⟩
    rw [members other]
    constructor
    · rintro ⟨rfl, idle⟩
      exact ⟨rfl, idle⟩
    · rintro ⟨same, idle⟩
      cases same
      exact ⟨rfl, idle⟩

/-- The live tasks with numbers that were woken become due if they are idle. -/
theorem roused_foldl (opened : loop.closed = false) (slots : List Nat) :
    ∃ ids, Roused ids loop (slots.foldl scheduleLive loop) ∧
      ∀ id, id ∈ ids ↔ (∃ slot ∈ slots, loop.live.get? slot = some id) ∧ loop.IsIdle id := by
  induction slots generalizing loop with
  | nil => exact ⟨[], .refl loop, fun id => by simp⟩
  | cons slot rest ih =>
    obtain ⟨first, before, firsts⟩ := roused_scheduleLive opened slot
    obtain ⟨more, after, others⟩ := ih (before.closed.trans opened)
    refine ⟨first ++ more, before.trans after, fun id => ?_⟩
    rw [List.mem_append, firsts id, others id, before.live]
    by_cases here : id ∈ first
    · have first := (firsts id).mp here
      constructor
      · intro _
        exact ⟨⟨slot, List.mem_cons_self, first.1⟩, first.2⟩
      · intro _
        exact Or.inl first
    · have same : (loop.scheduleLive slot).IsIdle id ↔ loop.IsIdle id := by
        unfold IsIdle
        rw [before.phase_of_not_mem here]
      rw [same]
      constructor
      · rintro (⟨lives, idle⟩ | ⟨⟨other, member, lives⟩, idle⟩)
        · exact ⟨⟨slot, List.mem_cons_self, lives⟩, idle⟩
        · exact ⟨⟨other, List.mem_cons_of_mem slot member, lives⟩, idle⟩
      · rintro ⟨⟨other, member, lives⟩, idle⟩
        rcases List.mem_cons.mp member with rfl | later
        · exact Or.inl ⟨lives, idle⟩
        · exact Or.inr ⟨⟨other, later, lives⟩, idle⟩

/-- What an open loop takes over: the callbacks that other threads asked for become ready, and after
them one step of each task that is idle and was woken. -/
structure Collected (ids : List TaskId) (loop other : Loop) : Prop where
  /-- Each task is listed once. -/
  nodup : ids.Nodup
  /-- The tasks are those that were woken and are idle. -/
  tasks : ∀ id, id ∈ ids ↔ (∃ slot ∈ loop.woken, loop.live.get? slot = some id) ∧ loop.IsIdle id
  /-- What is ready. -/
  ready : other.ready = loop.ready ++ loop.remote ++ ids.map .step

/-- A loop that has forgotten what was asked for and which tasks were woken. -/
def forgetful (loop : Loop) : Loop :=
  { loop with
    ready := loop.ready ++ loop.remote
    remote := []
    remoteStop := false
    stopping := loop.stopping || loop.remoteStop
    woken := [] }

/-- Whatever was woken is taken over once. -/
theorem roused_collectRequests (opened : loop.closed = false) :
    ∃ ids, Collected ids loop loop.collectRequests ∧
      Roused ids loop.forgetful loop.collectRequests := by
  have same : loop.collectRequests = loop.woken.foldl scheduleLive loop.forgetful := by
    rw [collectRequests_eq]
    simp [forgetful, opened]
  have free : loop.forgetful.closed = false := opened
  obtain ⟨ids, roused, members⟩ := roused_foldl free loop.woken
  rw [same]
  exact ⟨ids, ⟨roused.nodup, members, roused.ready⟩, roused⟩

end Loop

end EventLoop
