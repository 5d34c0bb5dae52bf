import EventLoop.Proofs.Effect.Waits
import EventLoop.Proofs.Rousing

/-!
# Wakeups

A task that waits is going to hear of the future that it waits for: the future will wake its cell, the
callback that does so is ready or is just being called, or the number of the task was woken. A task that
is due has a step that is ready or is just being called. No change of the world loses any of this on an
open loop, apart from the beginnings and ends of polls and the taking of a callback.
-/
namespace EventLoop

open Script (Activity)

namespace Loop

variable {loop other : Loop} {hand : Option Callback} {id : TaskId} {wait : Wait}

/-- A task is going to hear of the future that it waits for, while a callback may be in hand. -/
def Hears (loop : Loop) (hand : Option Callback) (id : TaskId) (wait : Wait) : Prop :=
  loop.Armed (loop.wakerOf id) wait ∨ loop.wakerOf id ∈ loop.woken ∨
    ∃ cell, wait.cell = some cell ∧ loop.cells.get? cell = some (loop.wakerOf id) ∧
      hand = some (.done wait.future (.wake cell))

/-- No wakeup is lost, while a callback may be in hand. -/
structure Wakeful (hand : Option Callback) (loop : Loop) : Prop where
  /-- Tasks that are not over are found under their numbers. -/
  housed : loop.Housed
  /-- A task that is due has a step that is ready or in hand. -/
  due : ∀ {id}, loop.IsQueued id → .step id ∈ loop.ready ∨ hand = some (.step id)
  /-- A task that waits is going to hear of what it waits for. -/
  hears : ∀ {id activity}, loop.taskPhase? id = some (.idle activity) →
    ∀ station ∈ activity.stations, ∀ wait ∈ station.waits, loop.Hears hand id wait

/-- A poll of a task is to come: its number was woken, or it is due. -/
def Expects (loop : Loop) (id : TaskId) : Prop :=
  loop.wakerOf id ∈ loop.woken ∨ loop.IsQueued id

/-- A poll of a task is to come, or the task is over. -/
def Provided (loop : Loop) (id : TaskId) : Prop := loop.Expects id ∨ loop.IsOver id

/-- What a task is going to hear of is carried from one loop to another. -/
theorem Hears.carried (hears : loop.Hears hand id wait) (same : other.wakerOf id = loop.wakerOf id)
    (carries : Carries wait.future loop other) (woken : loop.woken ⊆ other.woken)
    (opened : other.closed = false) : other.Hears hand id wait := by
  unfold Hears
  rw [same]
  rcases hears with armed | listed | ⟨cell, given, waker, called⟩
  · exact Or.inl (armed.carries carries opened)
  · exact Or.inr (Or.inl (woken listed))
  · exact Or.inr (Or.inr ⟨cell, given, carries.cells waker, called⟩)

/-- If nothing is in hand, it does not matter what is. -/
theorem Wakeful.of_none (wakeful : loop.Wakeful none) (hand : Option Callback) :
    loop.Wakeful hand := by
  refine ⟨wakeful.housed, fun queued => ?_, fun idle station member wait waits => ?_⟩
  · exact (wakeful.due queued).imp_right fun called => nomatch called
  · refine (wakeful.hears idle station member wait waits).imp_right fun further => ?_
    refine further.imp_right ?_
    rintro ⟨_, _, _, called⟩
    cases called

/-- A callback that neither polls a task nor wakes a cell may be let out of hand. -/
theorem Wakeful.to_none {callback : Callback} (wakeful : loop.Wakeful (some callback))
    (step : ∀ id, callback ≠ .step id) (wake : ∀ future cell, callback ≠ .done future (.wake cell)) :
    loop.Wakeful none := by
  refine ⟨wakeful.housed, fun {id} queued => ?_, fun idle station member wait waits => ?_⟩
  · refine (wakeful.due queued).imp_right fun called => ?_
    cases called
    exact absurd rfl (step id)
  · refine (wakeful.hears idle station member wait waits).imp_right fun further => ?_
    refine further.imp_right ?_
    rintro ⟨cell, _, _, called⟩
    cases called
    exact absurd rfl (wake wait.future cell)

/-- A task that has a phase exists. -/
theorem lt_size_of_taskPhase {phase : TaskPhase} (found : loop.taskPhase? id = some phase) :
    id < loop.tasks.size := by
  obtain ⟨task, there, -⟩ := Option.map_eq_some_iff.mp found
  exact Table.lt_size_of_get? there

/-- A task that is over has ended or was cancelled. -/
theorem IsOver.phase (finished : loop.IsOver id) :
    loop.taskPhase? id = some .completed ∨ loop.taskPhase? id = some .cancelled := by
  obtain ⟨⟨name, phase, slot, result⟩, found, ended⟩ := finished
  unfold taskPhase?
  rw [found]
  cases phase with
  | completed => exact Or.inl rfl
  | cancelled => exact Or.inr rfl
  | idle | queued | running => cases ended

/-- A task in a phase that is not over is not over. -/
theorem not_isOver {phase : TaskPhase} (found : loop.taskPhase? id = some phase)
    (goes : phase.isOver = false) : ¬ loop.IsOver id := by
  intro finished
  rcases finished.phase with ended | ended
  all_goals
    rw [found] at ended
    cases ended
    cases goes

/-- A task that is not over is found under its number. -/
theorem Housed.lives (housed : loop.Housed) {task : Task} (found : loop.tasks.get? id = some task)
    (waits : task.isOver = false) : loop.live.get? (loop.wakerOf id) = some id := by
  obtain ⟨slot, numbered, lives⟩ := housed.found found waits
  unfold wakerOf
  rw [found, Option.bind_some, numbered]
  exact lives

/-! ## Quiet transitions -/

/-- The phase of a task after a quiet transition is what it was, unless the task is over or is new. -/
theorem Quiet.phase (quiet : loop.Quiet other) {phase : TaskPhase}
    (found : other.taskPhase? id = some phase) :
    loop.taskPhase? id = some phase ∨ other.IsOver id ∨
      other.IsQueued id ∧ .step id ∈ other.ready := by
  obtain ⟨later, last, rfl⟩ := Option.map_eq_some_iff.mp found
  cases there : loop.tasks.get? id with
  | none => exact Or.inr ((quiet.added there last).imp_left fun finished => ⟨later, last, finished⟩)
  | some task =>
    obtain ⟨_, same, -, phase⟩ := quiet.kept there
    rw [last] at same
    cases same
    rcases phase with same | finished
    · left
      unfold taskPhase?
      rw [there]
      exact congrArg some same.symm
    · exact Or.inr (Or.inl ⟨later, last, finished⟩)

/-- A task that is idle after a quiet transition was idle before. -/
theorem Quiet.idle (quiet : loop.Quiet other) {activity : Activity}
    (idle : other.taskPhase? id = some (.idle activity)) :
    loop.taskPhase? id = some (.idle activity) := by
  rcases quiet.phase idle with same | finished | ⟨⟨held, queued⟩, -⟩
  · exact same
  · rcases finished.phase with ended | ended
    all_goals
      rw [idle] at ended
      cases ended
  · rw [idle] at queued
    cases queued

/-- A task that is polled after a quiet transition was polled before. -/
theorem Quiet.running (quiet : loop.Quiet other)
    (running : other.taskPhase? id = some .running) : loop.taskPhase? id = some .running := by
  rcases quiet.phase running with same | finished | ⟨⟨held, queued⟩, -⟩
  · exact same
  · rcases finished.phase with ended | ended
    all_goals
      rw [running] at ended
      cases ended
  · rw [running] at queued
    cases queued

/-- No wakeup is lost by a quiet transition. -/
theorem Quiet.wakeful (quiet : loop.Quiet other) (grows : loop.Grows other)
    (opened : other.closed = false) (wakeful : loop.Wakeful hand)
    (carried : ∀ {id activity}, loop.taskPhase? id = some (.idle activity) →
      ∀ station ∈ activity.stations, ∀ wait ∈ station.waits, Carries wait.future loop other) :
    other.Wakeful hand := by
  refine ⟨quiet.housed wakeful.housed, ?_, ?_⟩
  · rintro id ⟨activity, queued⟩
    rcases quiet.phase queued with same | finished | ⟨-, due⟩
    · exact (wakeful.due ⟨activity, same⟩).imp_left fun due => quiet.ready due
    · rcases finished.phase with ended | ended
      all_goals
        rw [queued] at ended
        cases ended
    · exact Or.inl due
  · intro id activity idle station member wait waits
    have before := quiet.idle idle
    exact (wakeful.hears before station member wait waits).carried
      (grows.wakerOf (lt_size_of_taskPhase before)) (carried before station member wait waits)
      quiet.woken opened

/-- After a quiet transition a poll of a task is still to come, unless the task is over. -/
theorem Quiet.provided (quiet : loop.Quiet other) (grows : loop.Grows other)
    (exists_ : id < loop.tasks.size) (provided : loop.Provided id) : other.Provided id := by
  rcases provided with (listed | ⟨activity, queued⟩) | ⟨task, found, ended⟩
  · left
    left
    rw [grows.wakerOf exists_]
    exact quiet.woken listed
  · obtain ⟨task, found, same⟩ := Option.map_eq_some_iff.mp queued
    obtain ⟨later, there, -, phase⟩ := quiet.kept found
    rcases phase with phase | finished
    · left
      right
      refine ⟨activity, ?_⟩
      unfold taskPhase?
      rw [there]
      exact congrArg some (phase.trans same)
    · exact Or.inr ⟨later, there, finished⟩
  · obtain ⟨later, there, -, phase⟩ := quiet.kept found
    exact Or.inr ⟨later, there, phase.elim (fun same => (isOver_congr same).trans ended) (·)⟩

/-! ## Rousing -/

/-- A task that was woken and waits is due once requests are taken over. -/
theorem Collected.mem {ids : List TaskId} (collected : Collected ids loop other)
    (housed : loop.Housed) (idle : loop.IsIdle id) (listed : loop.wakerOf id ∈ loop.woken) :
    id ∈ ids := by
  have held := idle
  obtain ⟨activity, phase⟩ := idle
  obtain ⟨task, found, same⟩ := Option.map_eq_some_iff.mp phase
  have waits : task.isOver = false := by rw [Task.isOver, same]
  exact (collected.tasks id).mpr ⟨⟨loop.wakerOf id, listed, housed.lives found waits⟩, held⟩

/-- No wakeup is lost when requests are taken over. -/
theorem Wakeful.collectRequests (wakeful : loop.Wakeful hand) (opened : loop.closed = false) :
    loop.collectRequests.Wakeful hand := by
  obtain ⟨ids, collected, roused⟩ := roused_collectRequests opened
  have grows := Grows.collectRequests loop
  have still : loop.collectRequests.closed = false := roused.closed.trans opened
  have forgetful : loop.forgetful.Housed := wakeful.housed.of_kept rfl
    fun {_ task} found waits => ⟨task, found, waits, rfl⟩
  have ready : loop.ready ⊆ loop.collectRequests.ready := by
    rw [collected.ready, List.append_assoc]
    exact List.subset_append_left _ _
  refine ⟨roused.housed forgetful, ?_, ?_⟩
  · rintro id ⟨activity, queued⟩
    by_cases member : id ∈ ids
    · left
      rw [collected.ready]
      exact List.mem_append_right _ (List.mem_map.mpr ⟨id, member, rfl⟩)
    · rw [roused.phase_of_not_mem member] at queued
      exact (wakeful.due ⟨activity, queued⟩).imp_left fun due => ready due
  · intro id activity idle station member wait waits
    have awake : id ∉ ids := fun member => roused.not_idle member ⟨activity, idle⟩
    have before : loop.taskPhase? id = some (.idle activity) :=
      (roused.phase_of_not_mem awake).symm.trans idle
    have waker := grows.wakerOf (lt_size_of_taskPhase before)
    have carries : Carries wait.future loop loop.collectRequests := .collectRequests
    unfold Hears
    rw [waker]
    rcases wakeful.hears before station member wait waits with armed | listed | called
    · exact Or.inl (armed.carries carries still)
    · exact absurd (collected.mem wakeful.housed ⟨activity, before⟩ listed) awake
    · obtain ⟨cell, given, holds, called⟩ := called
      exact Or.inr (Or.inr ⟨cell, given, carries.cells holds, called⟩)

/-- A poll that is to come goes on to be when requests are taken over while the task is not polled. -/
theorem Provided.collectRequests (provided : loop.Provided id) (opened : loop.closed = false)
    (housed : loop.Housed) (exists_ : id < loop.tasks.size)
    (resting : loop.taskPhase? id ≠ some .running) : loop.collectRequests.Provided id := by
  obtain ⟨ids, collected, roused⟩ := roused_collectRequests opened
  obtain ⟨task, found⟩ := Table.exists_get?_of_lt_size exists_
  have phase : loop.taskPhase? id = some task.phase := by
    unfold taskPhase?
    rw [found]
    rfl
  by_cases member : id ∈ ids
  · obtain ⟨activity, -, queued⟩ := roused.phase_of_mem member
    exact Or.inl (Or.inr ⟨activity, queued⟩)
  · have same : loop.collectRequests.taskPhase? id = some task.phase :=
      (roused.phase_of_not_mem member).trans phase
    cases doing : task.phase with
    | idle activity =>
      -- An idle task whose number was woken would have become due.
      rw [doing] at phase
      rcases provided with (listed | ⟨held, queued⟩) | finished
      · exact absurd (collected.mem housed ⟨activity, phase⟩ listed) member
      · rw [phase] at queued
        cases queued
      · rcases finished.phase with ended | ended
        all_goals
          rw [phase] at ended
          cases ended
    | queued activity => exact Or.inl (Or.inr ⟨activity, same.trans (congrArg some doing)⟩)
    | running => exact absurd (phase.trans (congrArg some doing)) resting
    | completed | cancelled =>
      obtain ⟨later, there, finished⟩ := Option.map_eq_some_iff.mp same
      have ended : later.isOver = true := by rw [Task.isOver, finished, doing]
      exact Or.inr ⟨later, there, ended⟩

/-- No wakeup is lost if timers change, references are given up and more becomes ready. -/
theorem Wakeful.timed (wakeful : loop.Wakeful hand) (opened : loop.closed = false)
    {ready : List Callback} (more : loop.ready ⊆ ready) (timers : Timers) (dropped : List Ref) :
    ({ loop with ready, timers, dropped } : Loop).Wakeful hand := by
  have quiet : loop.Quiet { loop with ready, timers, dropped } :=
    .of_tasks rfl rfl more (List.Subset.refl _)
  refine quiet.wakeful (.of_eq rfl rfl rfl) opened wakeful fun _ _ _ _ _ => ?_
  exact .of_eq rfl rfl more rfl

/-- Asking how long the loop may wait loses no wakeup. -/
theorem Wakeful.patience (wakeful : loop.Wakeful hand) (opened : loop.closed = false) (now : Nat) :
    (loop.patience now).2.Wakeful hand := by
  unfold Loop.patience
  split
  · exact wakeful
  · exact wakeful.timed opened (List.Subset.refl _) _ _

/-- Collecting the timers that are due loses no wakeup. -/
theorem Wakeful.collectDue (wakeful : loop.Wakeful hand) (opened : loop.closed = false) (now : Nat) :
    (loop.collectDue now).Wakeful hand :=
  wakeful.timed opened (List.subset_append_left _ _) _ _

/-! ## Polls and callbacks -/

/-- A callback that polls a task wakes no cell, so what is waited for is armed or was woken. -/
theorem Wakeful.unless_step {task : TaskId} {activity : Activity}
    (wakeful : loop.Wakeful (some (.step task)))
    (idle : loop.taskPhase? id = some (.idle activity)) :
    ∀ station ∈ activity.stations, ∀ wait ∈ station.waits, loop.Hears none id wait := by
  intro station member wait waits
  refine (wakeful.hears idle station member wait waits).imp_right fun further => ?_
  refine further.imp_right ?_
  rintro ⟨_, _, _, called⟩
  cases called

/-- The poll of a task begins whose step was in hand. -/
theorem Wakeful.beginPoll {task : TaskId} (wakeful : loop.Wakeful (some (.step task)))
    (opened : loop.closed = false) : (loop.beginPoll task).2.Wakeful none := by
  have uncalled {id : TaskId} (queued : loop.IsQueued id) (differ : id ≠ task) :
      .step id ∈ loop.ready := by
    refine (wakeful.due queued).resolve_right fun called => ?_
    cases called
    exact differ rfl
  unfold Loop.beginPoll
  split
  · rename_i held queued
    have phases := taskPhase?_setPhase loop task
    refine ⟨wakeful.housed.setPhase _ fun entry found finished => ?_, ?_, ?_⟩
    · have was : loop.IsOver task := ⟨entry, found, finished⟩
      rcases was.phase with ended | ended
      all_goals
        rw [queued] at ended
        cases ended
    · rintro id ⟨activity, due⟩
      rw [phases] at due
      by_cases same : id = task
      · rw [if_pos same, queued] at due
        cases due
      · rw [if_neg same] at due
        exact Or.inl (uncalled ⟨activity, due⟩ same)
    · intro id activity idle station member wait waits
      rw [phases] at idle
      by_cases same : id = task
      · rw [if_pos same, queued] at idle
        cases idle
      · rw [if_neg same] at idle
        have grows := Grows.setPhase loop task .running
        exact (wakeful.unless_step idle station member wait waits).carried
          (grows.wakerOf (lt_size_of_taskPhase idle)) (.setPhase task .running)
          (List.Subset.refl _) opened
  · rename_i rests
    refine ⟨wakeful.housed, fun {id} queued => Or.inl (uncalled queued ?_), wakeful.unless_step⟩
    rintro rfl
    obtain ⟨activity, due⟩ := queued
    exact rests activity due

/-- A task that is polled and has to wait is going to hear of what it waits for, if that is armed. -/
theorem Wakeful.suspend {task : TaskId} {held : Activity} (wakeful : loop.Wakeful none)
    (opened : loop.closed = false) (running : loop.taskPhase? task = some .running)
    (armed : ∀ station ∈ held.stations, ∀ wait ∈ station.waits,
      loop.Armed (loop.wakerOf task) wait) :
    (loop.setPhase task (.idle held)).Wakeful none := by
  have phases := taskPhase?_setPhase loop task
  have grows := Grows.setPhase loop task (.idle held)
  refine ⟨wakeful.housed.setPhase _ fun entry found finished => ?_, ?_, ?_⟩
  · have was : loop.IsOver task := ⟨entry, found, finished⟩
    rcases was.phase with ended | ended
    all_goals
      rw [running] at ended
      cases ended
  · rintro id ⟨activity, due⟩
    rw [phases] at due
    by_cases same : id = task
    · rw [if_pos same, running] at due
      cases due
    · rw [if_neg same] at due
      exact wakeful.due ⟨activity, due⟩
  · intro id activity idle station member wait waits
    rw [phases] at idle
    have before : loop.Hears none id wait ∧ id < loop.tasks.size := by
      by_cases same : id = task
      · subst same
        rw [if_pos rfl, running] at idle
        cases idle
        exact ⟨Or.inl (armed station member wait waits), lt_size_of_taskPhase running⟩
      · rw [if_neg same] at idle
        exact ⟨wakeful.hears idle station member wait waits, lt_size_of_taskPhase idle⟩
    exact before.1.carried (grows.wakerOf before.2) (.setPhase task _) (List.Subset.refl _) opened

/-- A cell is woken by the callback that was in hand. -/
theorem Wakeful.wakeCell {future : FutureId} {cell : CellId}
    (wakeful : loop.Wakeful (some (.done future (.wake cell)))) (opened : loop.closed = false) :
    (loop.wakeCell cell).Wakeful none := by
  rw [wakeCell_eq]
  refine ⟨wakeful.housed.of_kept rfl fun {_ task} found waits => ⟨task, found, waits, rfl⟩,
    fun queued => ?_, fun idle station member wait waits => ?_⟩
  · exact (wakeful.due queued).imp_right fun called => nomatch called
  · rcases wakeful.hears idle station member wait waits with armed | listed | called
    · have carries : Carries wait.future loop
          { loop with woken := loop.woken ++ (loop.cells.get? cell).toList } :=
        .of_eq rfl rfl (List.Subset.refl _) rfl
      exact Or.inl (armed.carries carries opened)
    · exact Or.inr (Or.inl (List.mem_append_left _ listed))
    · obtain ⟨own, given, holds, called⟩ := called
      cases called
      refine Or.inr (Or.inl (List.mem_append_right _ ?_))
      rw [holds]
      exact List.mem_cons_self

/-- The first of the ready callbacks is taken in hand. -/
theorem Wakeful.take {callback : Callback} {rest : List Callback} (wakeful : loop.Wakeful none)
    (ready : loop.ready = callback :: rest) :
    ({ loop with ready := rest } : Loop).Wakeful (some callback) := by
  have split {other : Callback} (member : other ∈ loop.ready) :
      other ∈ rest ∨ some callback = some other := by
    rw [ready] at member
    exact (List.mem_cons.mp member).symm.imp_right fun same => congrArg some same.symm
  refine ⟨wakeful.housed.of_kept rfl fun {_ task} found waits => ⟨task, found, waits, rfl⟩,
    fun queued => ?_, ?_⟩
  · exact split ((wakeful.due queued).resolve_right fun called => nomatch called)
  · intro id activity idle station member wait waits
    rcases wakeful.hears idle station member wait waits with armed | listed | called
    · obtain ⟨cell, given, due⟩ := armed.due
      have tied : ({ loop with ready := rest } : Loop).Tied (loop.wakerOf id) wait :=
        ⟨armed.bound, armed.cell, armed.reacts⟩
      by_cases done : loop.isDone wait.future = true
      · rcases split (due done) with later | taken
        · exact Or.inl ⟨tied, cell, given, fun _ => later⟩
        · exact Or.inr (Or.inr ⟨cell, given, armed.cell cell given, taken⟩)
      · exact Or.inl ⟨tied, cell, given, fun finished => absurd finished done⟩
    · exact Or.inr (Or.inl listed)
    · obtain ⟨_, _, _, called⟩ := called
      cases called

/-- The program of a task has ended. -/
theorem Wakeful.complete (wakeful : loop.Wakeful hand) (task : TaskId) (value : Value)
    (opened : (loop.complete task value).closed = false) :
    (loop.complete task value).Wakeful hand :=
  (Quiet.complete loop task value).wakeful (.complete loop task value) opened wakeful
    fun _ _ _ _ _ => .complete task value

/-- What is to come for a task does not depend on what another task that is not over is doing. -/
theorem Provided.setPhase {task : TaskId} {phase : TaskPhase} (provided : loop.Provided id)
    (exists_ : id < loop.tasks.size) (busy : ¬ loop.IsOver task)
    (kept : loop.IsQueued task → id ≠ task) : (loop.setPhase task phase).Provided id := by
  have grows := Grows.setPhase loop task phase
  have phases := taskPhase?_setPhase loop task id phase
  rcases provided with (listed | queued) | finished
  · left
    left
    rw [grows.wakerOf exists_]
    exact listed
  · obtain ⟨activity, due⟩ := queued
    have differ : id ≠ task := by
      rintro rfl
      exact kept ⟨activity, due⟩ rfl
    rw [if_neg differ] at phases
    exact Or.inl (Or.inr ⟨activity, phases.trans due⟩)
  · have differ : id ≠ task := by
      rintro rfl
      exact busy finished
    obtain ⟨entry, found, ended⟩ := finished
    refine Or.inr ⟨entry, ?_, ended⟩
    exact (Table.get?_modify_of_ne _ _ differ).trans found

end Loop

namespace World

variable {scope : Scope} {aspect : Aspect} {aspects : List Aspect} {before after : World}
variable {hand : Option Callback} {id : TaskId}

/-- The aspects that lose no wakeup. -/
def isSteady (aspect : Aspect) : Bool :=
  aspect != .polls && aspect != .taking && aspect != .closing

/-- A change that neither begins or ends a poll, nor takes requests over, takes a callback or lets go of
everything, is quiet. -/
theorem Change.quiet (change : Change scope aspect before after) (steady : isSteady aspect = true)
    (calm : aspect ≠ .progress) : before.loop.Quiet after.loop := by
  have same {loop : Loop} (tasks : loop.tasks = before.loop.tasks)
      (live : loop.live = before.loop.live) (ready : loop.ready = before.loop.ready)
      (woken : before.loop.woken ⊆ loop.woken) : before.loop.Quiet loop :=
    .of_tasks tasks live (ready ▸ List.Subset.refl _) woken
  cases change with
  | surroundings | held | dropped | names | devices | fitted | taken | emptied | deserted | disarmed | asked
  | released | turned | retired | servers | primitives | stopAsked | stopped | flags | shut =>
    exact same rfl rfl rfl (List.Subset.refl _)
  | connected =>
    refine addTransport_loop before.loop.Quiet ?_ fun loop callback quiet => ?_
    · exact same rfl rfl rfl (List.Subset.refl _)
    · exact quiet.trans (.callSoon loop callback)
  | woken => exact same rfl rfl rfl (List.subset_append_left _ _)
  | made => exact .makeTimed _ _ _ _
  | resolved | granted | expired => exact .resolve _ _ _
  | registered | bound | enlisted => exact .whenDone _ _ _
  | awaited => exact .await _ _ _
  | called | announced | summoned => exact .callSoon _ _
  | scheduled => exact .callAt _ _ _
  | spawned => exact .spawn _ _ _
  | cancelled _ id task found live => exact .beginCancel found live
  | abandoned => exact .ends _ _ fun _ => rfl
  | prepared | gathered => exact absurd rfl calm
  | pollBegun | pollEnded | completed | readyTaken | cleared => cases steady

/-- A change that neither begins or ends a poll, nor takes a callback or lets go of everything, loses no
wakeup on an open loop. -/
theorem Change.wakeful (change : Change scope aspect before after) (steady : isSteady aspect = true)
    (opened : after.loop.closed = false) (wakeful : before.loop.Wakeful hand) :
    after.loop.Wakeful hand := by
  have grows := change.grows.loop
  have waiting {id : TaskId} {activity : Activity}
      (idle : before.loop.taskPhase? id = some (.idle activity)) :
      ∀ station ∈ activity.stations, ∀ wait ∈ station.waits,
        before.isMentioned (.future wait.future) = true := by
    intro station member wait waits
    obtain ⟨task, found, phase⟩ := Option.map_eq_some_iff.mp idle
    have holds : task.activity? = some activity := by rw [Task.activity?, phase]
    exact mentioned_of_task found holds (mem_activityRefs member waits)
  by_cases calm : aspect = .progress
  · subst calm
    have was : before.loop.closed = false := by
      by_contra closed
      rw [Bool.not_eq_false] at closed
      rw [grows.closed closed] at opened
      cases opened
    cases change with
    | prepared _ now =>
      have still : before.loop.collectRequests.closed = false := by
        obtain ⟨ids, -, roused⟩ := Loop.roused_collectRequests was
        exact roused.closed.trans was
      exact (wakeful.collectRequests was).patience still now
    | gathered _ now => exact (wakeful.collectDue was now).collectRequests was
  · refine (change.quiet steady calm).wakeful grows opened wakeful fun idle station member wait waits => ?_
    refine change.carries (waiting idle station member wait waits) ?_ ?_
    · rintro rfl
      cases steady
    · rintro rfl
      cases steady

/-- A loop that is open after a change was open before. -/
theorem Change.opened (change : Change scope aspect before after)
    (opened : after.loop.closed = false) : before.loop.closed = false := by
  by_contra closed
  rw [Bool.not_eq_false] at closed
  rw [change.grows.loop.closed closed] at opened
  cases opened

/-- No poll begins by a change that neither begins nor ends a poll. -/
theorem Change.running (change : Change scope aspect before after) (steady : isSteady aspect = true)
    (opened : after.loop.closed = false) (running : after.loop.taskPhase? id = some .running) :
    before.loop.taskPhase? id = some .running := by
  have collected (loop : Loop) (free : loop.closed = false)
      (running : loop.collectRequests.taskPhase? id = some .running) :
      loop.taskPhase? id = some .running := by
    obtain ⟨ids, -, roused⟩ := Loop.roused_collectRequests free
    by_cases member : id ∈ ids
    · obtain ⟨activity, -, queued⟩ := roused.phase_of_mem member
      rw [running] at queued
      cases queued
    · exact (roused.phase_of_not_mem member).symm.trans running
  by_cases calm : aspect = .progress
  · subst calm
    have was := change.opened opened
    cases change with
    | prepared _ now =>
      have same : (before.loop.prepare now).2.tasks = before.loop.collectRequests.tasks := by
        unfold Loop.prepare Loop.patience
        split
        · rfl
        · rfl
      unfold Loop.taskPhase? at running
      rw [same] at running
      exact collected _ was running
    | gathered _ now => exact collected (before.loop.collectDue now) was running
  · exact (change.quiet steady calm).running running

/-- A poll that is to come goes on to be after a change that neither begins nor ends a poll. Requests are
not to be taken over while the task is polled. -/
theorem Change.provided (change : Change scope aspect before after) (steady : isSteady aspect = true)
    (opened : after.loop.closed = false) (housed : before.loop.Housed)
    (exists_ : id < before.loop.tasks.size)
    (resting : aspect = .progress → before.loop.taskPhase? id ≠ some .running)
    (provided : before.loop.Provided id) : after.loop.Provided id := by
  by_cases calm : aspect = .progress
  · subst calm
    have was := change.opened opened
    have resting := resting rfl
    cases change with
    | prepared _ now =>
      have collected := provided.collectRequests was housed exists_ resting
      change (before.loop.collectRequests.patience now).2.Provided id
      unfold Loop.patience
      split
      · exact collected
      · exact collected
    | gathered _ now =>
      have due : (before.loop.collectDue now).Housed := housed.of_kept rfl
        fun {_ task} found waits => ⟨task, found, waits, rfl⟩
      have provided : (before.loop.collectDue now).Provided id := provided
      exact provided.collectRequests was due exists_ resting
  · exact (change.quiet steady calm).provided change.grows.loop exists_ provided

/-! ## Sequences of changes -/

/-- Changes that neither begin or end a poll, nor take a callback or let go of everything, lose no wakeup
on an open loop. -/
theorem Changes.wakeful (changes : Changes scope aspects before after)
    (steady : ∀ aspect ∈ aspects, isSteady aspect = true) (opened : after.loop.closed = false)
    (wakeful : before.loop.Wakeful hand) : after.loop.Wakeful hand := by
  induction changes with
  | refl => exact wakeful
  | tail _ last ih =>
    obtain ⟨aspect, member, change⟩ := last
    exact change.wakeful (steady aspect member) opened (ih (change.opened opened))

/-- No poll begins by changes that neither begin nor end a poll. -/
theorem Changes.running (changes : Changes scope aspects before after)
    (steady : ∀ aspect ∈ aspects, isSteady aspect = true) (opened : after.loop.closed = false)
    (running : after.loop.taskPhase? id = some .running) :
    before.loop.taskPhase? id = some .running := by
  induction changes with
  | refl => exact running
  | tail _ last ih =>
    obtain ⟨aspect, member, change⟩ := last
    exact ih (change.opened opened) (change.running (steady aspect member) opened running)

/-- A poll that is to come goes on to be after changes that neither begin nor end a poll. -/
theorem Changes.provided (changes : Changes scope aspects before after)
    (steady : ∀ aspect ∈ aspects, isSteady aspect = true) (opened : after.loop.closed = false)
    (wakeful : before.loop.Wakeful hand) (exists_ : id < before.loop.tasks.size)
    (resting : .progress ∈ aspects → before.loop.taskPhase? id ≠ some .running)
    (provided : before.loop.Provided id) : after.loop.Provided id := by
  induction changes with
  | refl => exact provided
  | tail earlier last ih =>
    obtain ⟨aspect, member, change⟩ := last
    have earlier : Changes scope aspects before _ := earlier
    have free := change.opened opened
    have housed := (earlier.wakeful steady free wakeful).housed
    have there := Nat.lt_of_lt_of_le exists_ earlier.grows.loop.size_tasks
    refine change.provided (steady aspect member) opened housed there ?_ (ih free)
    rintro rfl running
    exact resting member (earlier.running steady free running)

end World

end EventLoop
