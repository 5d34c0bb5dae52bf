import EventLoop.Proofs.Loop

/-!
# The programs that tasks hold

Between polls a task holds its suspended program. Making a poll of a task ready leaves the program
where it is, and so does everything else that is no beginning or end of a poll and no cancellation.
-/
namespace EventLoop.Loop

variable {loop : Loop} {id other : TaskId}

/-- The program that a task holds between polls. -/
def activityOf (loop : Loop) (id : TaskId) : Option Script.Activity :=
  (loop.tasks.get? id).bind Task.activity?

/-- The programs of tasks are those of the table of tasks. -/
theorem activityOf_congr {after : Loop} (same : after.tasks = loop.tasks) :
    after.activityOf = loop.activityOf := by
  funext id
  unfold activityOf
  rw [same]

/-- A task that holds a program exists. -/
theorem lt_size_of_activityOf {activity : Script.Activity}
    (holds : loop.activityOf id = some activity) : id < loop.tasks.size := by
  obtain ⟨task, found, -⟩ := Option.bind_eq_some_iff.mp holds
  exact Table.lt_size_of_get? found

/-! ## Transitions that leave tasks alone -/

/-- Making a future, with a timeout or without, leaves the tasks as they are. -/
theorem tasks_makeTimed (loop : Loop) (kind : FutureKind) (now : Nat) (timeout : Option Nat) :
    (loop.makeTimed kind now timeout).2.tasks = loop.tasks := by
  rw [makeTimed_eq]
  cases timeout with
  | none => rfl
  | some delay => rfl

/-- Making a callback ready leaves the tasks as they are. -/
theorem tasks_callSoon (loop : Loop) (callback : Callback) :
    (loop.callSoon callback).tasks = loop.tasks := by
  rw [callSoon_eq]

/-- Scheduling a callback for a time leaves the tasks as they are. -/
theorem tasks_callAt (loop : Loop) (deadline : Nat) (callback : Callback) :
    (loop.callAt deadline callback).2.tasks = loop.tasks := by
  rw [callAt_eq]

/-- Registering a reaction leaves the tasks as they are. -/
theorem tasks_whenDone (loop : Loop) (future : FutureId) (reaction : Reaction) :
    (loop.whenDone future reaction).tasks = loop.tasks := by
  rw [whenDone_eq]
  split
  · rfl
  · exact tasks_callSoon loop _

/-- Awaiting a future leaves the tasks as they are. -/
theorem tasks_await (loop : Loop) (wait : Wait) (waker : Nat) :
    (loop.await wait waker).2.tasks = loop.tasks := by
  unfold await
  split
  · rfl
  · split
    · rfl
    · exact tasks_whenDone _ _ _

/-- Taking the next ready callback leaves the tasks as they are. -/
theorem tasks_takeReady (loop : Loop) : loop.takeReady.2.tasks = loop.tasks := by
  unfold takeReady
  split
  · rfl
  · rfl

/-- Removing a task from the live ones leaves the tasks as they are. -/
theorem tasks_retire (loop : Loop) (task : Task) : (loop.retire task).tasks = loop.tasks := by
  unfold retire
  split
  · rfl
  · rfl

/-! ## Transitions of tasks -/

/-- Changing what a task is doing keeps the number of tasks. -/
theorem size_tasks_setPhase (loop : Loop) (id : TaskId) (phase : TaskPhase) :
    (loop.setPhase id phase).tasks.size = loop.tasks.size :=
  Table.size_modify _ _ _

/-- The program of a task whose phase is set is that of the phase. -/
theorem activityOf_setPhase (loop : Loop) (id other : TaskId) (phase : TaskPhase) :
    (loop.setPhase id phase).activityOf other =
      if other = id then (loop.tasks.get? id).bind fun task =>
        Task.activity? { task with phase }
      else loop.activityOf other := by
  unfold activityOf setPhase
  rw [Table.get?_modify]
  by_cases same : other = id
  · subst same
    rw [if_pos rfl, if_pos rfl, Option.bind_map]
    rfl
  · rw [if_neg same, if_neg same]

/-- Making a poll of a task ready leaves its program with it. -/
theorem activityOf_schedule (loop : Loop) (id : TaskId) :
    (loop.schedule id).activityOf = loop.activityOf := by
  unfold schedule taskPhase?
  split
  · rename_i activity idle
    obtain ⟨task, found, phase⟩ := Option.map_eq_some_iff.mp idle
    rw [activityOf_congr (tasks_callSoon _ _)]
    funext other
    rw [activityOf_setPhase]
    by_cases same : other = id
    · subst same
      simp only [if_true, activityOf, found, Option.bind_some, Task.activity?, phase]
    · rw [if_neg same]
  · rfl

/-- Taking requests over leaves the programs with the tasks. -/
theorem tasks_collectRequests (loop : Loop) :
    loop.collectRequests.tasks.size = loop.tasks.size ∧
      loop.collectRequests.activityOf = loop.activityOf := by
  have folded (slots : List Nat) (start : Loop) :
      (slots.foldl scheduleLive start).tasks.size = start.tasks.size ∧
        (slots.foldl scheduleLive start).activityOf = start.activityOf := by
    induction slots generalizing start with
    | nil => exact ⟨rfl, rfl⟩
    | cons slot rest ih =>
      have woken : (start.scheduleLive slot).tasks.size = start.tasks.size ∧
          (start.scheduleLive slot).activityOf = start.activityOf := by
        unfold scheduleLive
        split
        · exact ⟨size_tasks_schedule _ _, activityOf_schedule _ _⟩
        · exact ⟨rfl, rfl⟩
      rw [List.foldl_cons]
      exact ⟨(ih _).1.trans woken.1, (ih _).2.trans woken.2⟩
  rw [collectRequests_eq]
  exact folded loop.woken _

/-- The first part of an iteration adds no task, and every task keeps its program. -/
theorem tasks_prepare (loop : Loop) (now : Nat) :
    (loop.prepare now).2.tasks.size = loop.tasks.size ∧
      (loop.prepare now).2.activityOf = loop.activityOf := by
  unfold prepare patience
  split
  · exact tasks_collectRequests loop
  · exact tasks_collectRequests loop

/-- The second part of an iteration adds no task, and every task keeps its program. -/
theorem tasks_gather (loop : Loop) (now : Nat) :
    (loop.gather now).2.tasks.size = loop.tasks.size ∧
      (loop.gather now).2.activityOf = loop.activityOf :=
  tasks_collectRequests (loop.collectDue now)

/-- A task that was completed held no program and holds none. -/
theorem tasks_complete (loop : Loop) (id : TaskId) (value : Value) :
    (loop.complete id value).tasks.size = loop.tasks.size ∧
      (loop.complete id value).activityOf = loop.activityOf := by
  unfold complete
  split
  · rename_i task found
    split
    · rename_i running
      have same : ((((loop.setPhase id .completed).retire task).resolve task.result
          (.finish (.ok (.value value)))).2).tasks = (loop.setPhase id .completed).tasks := by
        rw [tasks_resolve, tasks_retire]
      rw [activityOf_congr same, same]
      refine ⟨size_tasks_setPhase _ _ _, ?_⟩
      funext other
      rw [activityOf_setPhase]
      by_cases here : other = id
      · subst here
        simp only [if_true, activityOf, found, Option.bind_some, Task.activity?, running]
      · rw [if_neg here]
    · exact ⟨rfl, rfl⟩
  · exact ⟨rfl, rfl⟩

/-- A task that is begun holds a program that has not begun, or none; the others keep theirs. -/
theorem activityOf_spawn (loop : Loop) (name : String) (body : Script.Body) (other : TaskId) :
    (loop.spawn name body).2.activityOf other =
      if other = loop.tasks.size then if loop.closed then none else some (.fresh body)
      else loop.activityOf other := by
  unfold spawn makeFuture addFuture
  dsimp only
  split
  · rename_i closed
    rw [activityOf_congr (tasks_resolve _ _ _)]
    simp only [activityOf, Table.get?_push]
    by_cases last : other = loop.tasks.size
    · rw [if_pos last, if_pos last]
      rfl
    · rw [if_neg last, if_neg last]
  · rw [activityOf_schedule]
    simp only [activityOf, Table.get?_push]
    by_cases last : other = loop.tasks.size
    · rw [if_pos last, if_pos last]
      rfl
    · rw [if_neg last, if_neg last]

/-- Spawning a task adds one task. -/
theorem size_tasks_spawn (loop : Loop) (name : String) (body : Script.Body) :
    (loop.spawn name body).2.tasks.size = loop.tasks.size + 1 := by
  unfold spawn makeFuture addFuture
  dsimp only
  split
  · rw [tasks_resolve]
    exact Table.size_push _ _
  · rw [size_tasks_schedule]
    exact Table.size_push _ _

/-- The poll of a task that is due takes its program out. -/
theorem activityOf_beginPoll (loop : Loop) (id other : TaskId) :
    (loop.beginPoll id).2.activityOf other =
      if other = id ∧ (loop.beginPoll id).1.isSome then none else loop.activityOf other := by
  unfold beginPoll taskPhase?
  split
  · rename_i activity queued
    obtain ⟨task, found, phase⟩ := Option.map_eq_some_iff.mp queued
    rw [activityOf_setPhase, found]
    by_cases here : other = id
    · simp [here, Task.activity?]
    · simp [here]
  · simp

/-- Taking the program out of a task adds no task. -/
theorem size_tasks_beginPoll (loop : Loop) (id : TaskId) :
    (loop.beginPoll id).2.tasks.size = loop.tasks.size := by
  unfold beginPoll
  split
  · exact size_tasks_setPhase _ _ _
  · rfl

/-- What the poll of a task that is due takes out is the program that the task held. -/
theorem activityOf_of_beginPoll {activity : Script.Activity}
    (due : (loop.beginPoll id).1 = some activity) : loop.activityOf id = some activity := by
  unfold beginPoll taskPhase? at due
  split at due
  · rename_i held queued
    obtain ⟨task, found, phase⟩ := Option.map_eq_some_iff.mp queued
    cases due
    simp only [activityOf, found, Option.bind_some, Task.activity?, phase]
  · cases due

/-- The end of a poll puts the program back into a task that is still polled, which held none. -/
theorem activityOf_endPoll (loop : Loop) (id other : TaskId) (activity : Script.Activity) :
    (loop.endPoll id activity).2.activityOf other =
      if other = id ∧ (loop.endPoll id activity).1 = none then some activity
      else loop.activityOf other := by
  unfold endPoll taskPhase?
  split
  · rename_i running
    obtain ⟨task, found, phase⟩ := Option.map_eq_some_iff.mp running
    rw [activityOf_setPhase, found]
    by_cases here : other = id
    · simp [here, Task.activity?]
    · simp [here]
  · simp

/-- A task that takes its program back held none; otherwise nothing happens to it. -/
theorem endPoll_cases (loop : Loop) (id : TaskId) (activity : Script.Activity) :
    (loop.activityOf id = none ∧ (loop.endPoll id activity).1 = none) ∨
      loop.endPoll id activity = (some activity, loop) := by
  unfold endPoll taskPhase?
  split
  · rename_i running
    obtain ⟨task, found, phase⟩ := Option.map_eq_some_iff.mp running
    refine Or.inl ⟨?_, rfl⟩
    simp only [activityOf, found, Option.bind_some, Task.activity?, phase]
  · exact Or.inr rfl

/-- Putting a program back into its task adds no task. -/
theorem size_tasks_endPoll (loop : Loop) (id : TaskId) (activity : Script.Activity) :
    (loop.endPoll id activity).2.tasks.size = loop.tasks.size := by
  unfold endPoll
  split
  · exact size_tasks_setPhase _ _ _
  · rfl

/-- A task that is cancelled holds no program any more. -/
theorem activityOf_cancelled (loop : Loop) (id other : TaskId) :
    (loop.setPhase id .cancelled).activityOf other =
      if other = id then none else loop.activityOf other := by
  rw [activityOf_setPhase]
  by_cases here : other = id
  · rw [if_pos here, if_pos here]
    cases loop.tasks.get? id with
    | none => rfl
    | some task => rfl
  · rw [if_neg here, if_neg here]

/-- A task that is cancelled has no program any more, and the other ones keep theirs. -/
theorem activityOf_beginCancel (loop : Loop) (id other : TaskId) (task : Task) :
    (loop.beginCancel id task).2.activityOf other =
      if other = id then none else loop.activityOf other := by
  unfold beginCancel
  rw [activityOf_congr (tasks_retire _ _)]
  exact activityOf_cancelled loop id other

/-- Beginning to cancel a task adds no task. -/
theorem size_tasks_beginCancel (loop : Loop) (id : TaskId) (task : Task) :
    (loop.beginCancel id task).2.tasks.size = loop.tasks.size := by
  unfold beginCancel
  rw [tasks_retire]
  exact size_tasks_setPhase loop id _

/-! ## Transitions that leave futures alone -/

/-- Making a callback ready leaves the futures as they are. -/
theorem futures_callSoon (loop : Loop) (callback : Callback) :
    (loop.callSoon callback).futures = loop.futures := by
  rw [callSoon_eq]

/-- Scheduling a callback for a time leaves the futures as they are. -/
theorem futures_callAt (loop : Loop) (deadline : Nat) (callback : Callback) :
    (loop.callAt deadline callback).2.futures = loop.futures := by
  rw [callAt_eq]

/-- Taking the next ready callback leaves the futures as they are. -/
theorem futures_takeReady (loop : Loop) : loop.takeReady.2.futures = loop.futures := by
  unfold takeReady
  split
  · rfl
  · rfl

/-- Removing a task from the live ones leaves the futures as they are. -/
theorem futures_retire (loop : Loop) (task : Task) :
    (loop.retire task).futures = loop.futures := by
  unfold retire
  split
  · rfl
  · rfl

/-- Removing a task from the live ones does not close the loop. -/
theorem closed_retire (loop : Loop) (task : Task) : (loop.retire task).closed = loop.closed := by
  unfold retire
  split
  · rfl
  · rfl

/-- Making a poll of a task ready leaves the futures as they are. -/
theorem futures_schedule (loop : Loop) (id : TaskId) :
    (loop.schedule id).futures = loop.futures := by
  unfold schedule
  split
  · exact futures_callSoon _ _
  · rfl

/-- Taking the program out of a task leaves the futures as they are. -/
theorem futures_beginPoll (loop : Loop) (id : TaskId) :
    (loop.beginPoll id).2.futures = loop.futures := by
  unfold beginPoll
  split
  · rfl
  · rfl

/-- Putting a program back into its task leaves the futures as they are. -/
theorem futures_endPoll (loop : Loop) (id : TaskId) (activity : Script.Activity) :
    (loop.endPoll id activity).2.futures = loop.futures := by
  unfold endPoll
  split
  · rfl
  · rfl

/-- Taking over what other threads asked for leaves the futures as they are. -/
theorem futures_collectRequests (loop : Loop) : loop.collectRequests.futures = loop.futures := by
  have folded (slots : List Nat) (start : Loop) :
      (slots.foldl scheduleLive start).futures = start.futures := by
    induction slots generalizing start with
    | nil => rfl
    | cons slot rest ih =>
      have woken : (start.scheduleLive slot).futures = start.futures := by
        unfold scheduleLive
        split
        · exact futures_schedule _ _
        · rfl
      rw [List.foldl_cons, ih, woken]
  rw [collectRequests_eq]
  exact folded loop.woken _

/-- The first part of an iteration leaves the futures as they are. -/
theorem futures_prepare (loop : Loop) (now : Nat) :
    (loop.prepare now).2.futures = loop.futures := by
  unfold prepare patience
  split
  · exact futures_collectRequests loop
  · exact futures_collectRequests loop

/-- The second part of an iteration leaves the futures as they are. -/
theorem futures_gather (loop : Loop) (now : Nat) : (loop.gather now).2.futures = loop.futures :=
  futures_collectRequests (loop.collectDue now)

end EventLoop.Loop
