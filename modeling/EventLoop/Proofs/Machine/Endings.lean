import EventLoop.Proofs.Machine.Lives

/-!
# How tasks end

A task ends once: its program ends while it is polled, or someone cancels it, and the call that does so
tells whether there was anything left to cancel. If nobody else resolves the result of the task, it has
the value of the program from then on, or it is cancelled.
-/
namespace EventLoop

open Script (Instruction)

namespace Loop

variable {loop other : Loop} {future : FutureId} {id : TaskId}

/-- A future that exists and is not done is pending. -/
theorem pending_of_isDone (known : future < loop.futures.size) (waits : loop.isDone future = false) :
    ∃ kind reactions timer, loop.futures.get? future = some ⟨kind, .pending reactions timer⟩ := by
  obtain ⟨⟨kind, phase⟩, found⟩ := Table.exists_get?_of_lt_size known
  unfold isDone futureState at waits
  rw [found] at waits
  cases phase with
  | pending reactions timer => exact ⟨kind, reactions, timer, found⟩
  | cancelled | finished => cases waits

/-- What tasks do can be read off the table of tasks. -/
theorem taskPhase?_congr (same : other.tasks = loop.tasks) :
    other.taskPhase? id = loop.taskPhase? id := by
  unfold taskPhase?
  rw [same]

/-- What a task that was found is doing. -/
theorem taskPhase?_of_found {task : Task} (found : loop.tasks.get? id = some task) :
    loop.taskPhase? id = some task.phase := by
  unfold taskPhase?
  rw [found]
  rfl

end Loop

/-- The result of a task that is over tells how it ended. -/
inductive Task.Tells (futures : Table Future) (task : Task) : Prop
  /-- The task was completed: its result has the value, unless that was moved out. -/
  | completed (phase : task.phase = .completed) (kind : FutureKind) (value : Value) (entry : Future)
      (found : futures.get? task.result = some entry)
      (remains : Future.Remains ⟨kind, .finished (some (.ok (.value value)))⟩ entry)
  /-- The task was cancelled, and so was its result. -/
  | cancelled (phase : task.phase = .cancelled) (kind : FutureKind)
      (found : futures.get? task.result = some ⟨kind, .cancelled⟩)

namespace Machine

variable {machine after : Machine} {id : TaskId} {task : Task} {phase : TaskPhase} {name : String}

/-! ## Calls that cancel a task -/

/-- Nobody waits in a queue for the result of a task, and no program has a place for it. -/
theorem Sound.result_apart (sound : machine.Sound False)
    (found : machine.world.loop.tasks.get? id = some task) :
    (∀ gate, task.result ∉ machine.world.entries gate) ∧
      ∀ held, task.activity? = some held → ∀ gate, .place gate task.result ∉ held.parts := by
  have free := (sound.settled.orderly.within.loop.result found).1
  refine ⟨fun gate waits => free (Or.inl ⟨gate, waits⟩), fun held holds gate member => free ?_⟩
  have holds : machine.world.loop.activityOf id = some held := by
    unfold Loop.activityOf
    rw [found]
    exact holds
  have place := Multiset.mem_of_le (Multiset.filterMap_le_filterMap _
    (Loop.stakesAt_le_stakes holds)) (mem_placesOf_stations member)
  refine Or.inr ⟨gate, ?_⟩
  unfold stakes
  rw [placesOf_add]
  exact Multiset.mem_add.mpr (Or.inr place)

/-- A call to cancel does nothing if no task has the name. -/
theorem Calls.cancels_none (calls : Calls (.task (.cancel name)) machine after)
    (unnamed : machine.world.names.lookup (.task, name) = none) :
    after.world.loop = machine.world.loop := by
  obtain ⟨protocol, world, loop, names, -, -, done⟩ := calls.answered (finishes_task _)
  have does : World.doInstruction protocol (.task (.cancel name)) world = (.null, world) :=
    World.onNamed_of_none (names ▸ unnamed) _
  rw [does] at done
  rw [done, loop]

variable (calls : Calls (.task (.cancel name)) machine after)
variable (named : machine.world.names.lookup (.task, name) = some id)
variable (found : machine.world.loop.tasks.get? id = some task)

include calls named found

/-- A task that is over is not cancelled. -/
theorem Calls.cancels_over (isOver : task.isOver = true) :
    after.signal = .answer (.bool false) ∧ after.world.loop = machine.world.loop := by
  obtain ⟨protocol, world, loop, names, -, signal, done⟩ := calls.answered (finishes_task _)
  have does : World.doInstruction protocol (.task (.cancel name)) world = (.bool false, world) := by
    refine (World.onNamed_eq (names ▸ named) _).trans ?_
    rw [StateM.bind_apply, World.cancelTask_of_over (loop ▸ found) isOver]
    rfl
  rw [does] at signal done
  rw [signal, done, loop]
  exact ⟨rfl, rfl⟩

/-- A task that is not over is cancelled, and no other task is concerned. Its result is cancelled unless
it was done. -/
theorem Calls.cancels_live (sound : machine.Sound False) (live : task.isOver = false) :
    after.signal = .answer (.bool true) ∧
      after.world.loop.tasks = (machine.world.loop.setPhase id .cancelled).tasks ∧
      after.world.loop.futures.get? task.result =
        (machine.world.loop.resolve task.result .cancel).2.futures.get? task.result := by
  obtain ⟨protocol, world, loop, names, queues, signal, done⟩ := calls.answered (finishes_task _)
  have there : world.loop.tasks.get? id = some task := loop ▸ found
  have does : World.doInstruction protocol (.task (.cancel name)) world =
      (.bool true, (World.cancelTask id world).2) := by
    refine (World.onNamed_eq (names ▸ named) _).trans ?_
    rw [StateM.bind_apply, World.cancelTask_of_live there live]
    rfl
  obtain ⟨apart, stranger⟩ := sound.result_apart found
  have waits (gate : Gate) : task.result ∉ world.entries gate := by
    unfold World.entries
    rw [queues]
    exact apart gate
  have cancels := World.loop_cancelTask there live waits stranger
  rw [loop] at cancels
  rw [does] at signal done
  rw [signal, done]
  exact ⟨rfl, cancels⟩

omit calls named found

/-! ## Steps that end a task -/

/-- The loop is open, and nobody has resolved the result of a task before it was over. -/
structure IsOwned (id : TaskId) (machine : Machine) : Prop where
  /-- The loop is open. -/
  opened : machine.IsOpen
  /-- If the result is done, the task is over. -/
  owned : ∀ {task}, machine.world.loop.tasks.get? id = some task →
    machine.world.loop.isDone task.result = true → task.isOver = true

/-- How a step ends a task. -/
inductive Concludes (id : TaskId) (machine after : Machine) : Prop
  /-- The program of the task, which is polled innermost, has ended, and its value is the result. -/
  | completed (task : Task) (value : Value) (kind : FutureKind)
      (found : machine.world.loop.tasks.get? id = some task)
      (ended : machine.signal = .ended value ∨ machine.signal = .returned value)
      (stages : machine.stages = .poll id :: after.stages)
      (phase : after.world.loop.taskPhase? id = some .completed)
      (result : after.world.loop.futures.get? task.result =
        some ⟨kind, .finished (some (.ok (.value value)))⟩)
  /-- Someone cancels the task. -/
  | cancelled (task : Task) (name : String) (kind : FutureKind)
      (found : machine.world.loop.tasks.get? id = some task)
      (named : machine.world.names.lookup (.task, name) = some id)
      (calls : Calls (.task (.cancel name)) machine after)
      (phase : after.world.loop.taskPhase? id = some .cancelled)
      (result : after.world.loop.futures.get? task.result = some ⟨kind, .cancelled⟩)

/-- The result of a task that is not over is pending. -/
theorem Visits.pending (visits : Visits (IsOwned id) machine)
    (found : machine.world.loop.tasks.get? id = some task) (live : task.isOver = false) :
    ∃ kind reactions timer, machine.world.loop.futures.get? task.result =
      some ⟨kind, .pending reactions timer⟩ := by
  refine Loop.pending_of_isDone
    (visits.reachable.sound.settled.orderly.within.loop.result found).2 ?_
  rw [← Bool.not_eq_true]
  intro done
  rw [visits.fine.owned found done] at live
  cases live

/-- A call that cancels a task that is not over ends the task. -/
theorem Visits.concludes_cancel (visits : Visits (IsOwned id) machine)
    (calls : Calls (.task (.cancel name)) machine after)
    (named : machine.world.names.lookup (.task, name) = some id)
    (found : machine.world.loop.tasks.get? id = some task) (live : task.isOver = false) :
    Concludes id machine after := by
  obtain ⟨kind, reactions, timer, pending⟩ := visits.pending found live
  obtain ⟨-, tasks, result⟩ := calls.cancels_live named found visits.reachable.sound live
  refine .cancelled task name kind found named calls ?_ ?_
  · rw [Loop.taskPhase?_congr tasks, Loop.taskPhase?_setPhase, if_pos rfl,
      Loop.taskPhase?_of_found found]
    rfl
  · rw [result, (Loop.resolve_pending visits.fine.opened pending .cancel).2.1]
    rfl

/-- A poll whose program ends completes the task, if it was not cancelled meanwhile. -/
theorem Visits.concludes_complete (visits : Visits (IsOwned id) machine) {value : Value}
    (running : machine.world.loop.taskPhase? id = some .running)
    (ended : machine.signal = .ended value ∨ machine.signal = .returned value)
    (stages : machine.stages = .poll id :: after.stages)
    (loop : after.world.loop = machine.world.loop.complete id value) : Concludes id machine after := by
  obtain ⟨task, found, phase⟩ := Option.map_eq_some_iff.mp running
  have live : task.isOver = false := by
    rw [task.isOver_eq, phase]
    rfl
  obtain ⟨kind, reactions, timer, pending⟩ := visits.pending found live
  refine .completed task value kind found ended stages ?_ ?_
  · rw [loop, Loop.taskPhase?_complete running, if_pos rfl]
  · rw [loop, Loop.complete_of_running found phase]
    have opened : ((machine.world.loop.setPhase id .completed).retire task).closed = false := by
      rw [Loop.closed_retire]
      exact visits.fine.opened
    have there : ((machine.world.loop.setPhase id .completed).retire task).futures.get? task.result =
        some ⟨kind, .pending reactions timer⟩ := by
      rw [Loop.futures_retire]
      exact pending
    exact (Loop.resolve_pending opened there _).2.1

/-- A task that is over after a step was over before, or the step ends it. -/
theorem Visits.concludes (visits : Visits (IsOwned id) machine) (step : Step machine after)
    (opened : after.IsOpen) (found : after.world.loop.taskPhase? id = some phase)
    (isOver : phase.isOver = true) :
    machine.world.loop.taskPhase? id = some phase ∨ Concludes id machine after := by
  have sound := visits.reachable.sound
  have acting (proceeds : Loop.Proceeds (machine.Cancels after) machine.world.loop after.world.loop) :
      machine.world.loop.taskPhase? id = some phase ∨ Concludes id machine after := by
    by_cases cancels : machine.Cancels after
    · obtain ⟨name, calls⟩ := cancels
      cases named : machine.world.names.lookup (.task, name) with
      | none =>
        rw [calls.cancels_none named] at found
        exact Or.inl found
      | some other =>
        obtain ⟨task, there⟩ :=
          Table.exists_get?_of_lt_size (sound.settled.orderly.within.names (World.mem_names named))
        cases ended : task.isOver with
        | true =>
          rw [(calls.cancels_over named there ended).2] at found
          exact Or.inl found
        | false =>
          by_cases same : id = other
          · subst same
            exact Or.inr (visits.concludes_cancel calls named there ended)
          · obtain ⟨-, tasks, -⟩ := calls.cancels_live named there sound ended
            rw [Loop.taskPhase?_congr tasks, Loop.taskPhase?_setPhase, if_neg same] at found
            exact Or.inl found
    · exact Or.inl (proceeds.acts.spares cancels found isOver)
  cases sound.goes step opened (visits.minds fun _ owned => owned.opened) with
  | steady proceeds | counting proceeds | abandoning _ _ _ _ proceeds => exact acting proceeds
  | taking _ _ _ _ _ _ _ loop | finishing _ _ _ _ loop | deserting _ _ _ _ _ loop =>
    rw [loop] at found
    exact Or.inl found
  | polling task activity called quiet queued loop =>
    rw [loop, Loop.taskPhase?_setPhase, queued] at found
    split at found
    · cases found
      cases isOver
    · exact Or.inl found
  | suspending task activity uncalled quiet running loop =>
    rw [loop, Loop.taskPhase?_setPhase, running] at found
    split at found
    · cases found
      cases isOver
    · exact Or.inl found
  | ending task value uncalled ended quiet loop stages =>
    by_cases running : machine.world.loop.taskPhase? task = some .running
    · by_cases same : id = task
      · subst same
        exact Or.inr (visits.concludes_complete running ended stages loop)
      · rw [loop, Loop.taskPhase?_complete running, if_neg same] at found
        exact Or.inl found
    · rw [loop, Loop.complete_of_refused running] at found
      exact Or.inl found

/-- The result of a task that is over tells how it ended. -/
theorem Visits.tells (visits : Visits (IsOwned id) machine)
    (found : machine.world.loop.tasks.get? id = some task) (isOver : task.isOver = true) :
    task.Tells machine.world.loop.futures := by
  have phases := Loop.taskPhase?_of_found found
  rw [task.isOver_eq] at isOver
  induction visits generalizing task with
  | initial initial fine =>
    have none : ({} : Loop).agenda.phase? id = some task.phase :=
      (initial.proceeds fine.opened).acts.spares False.elim phases isOver
    cases none
  | @step before after earlier step fine ih =>
    have sound := earlier.reachable.sound
    have grows := (sound.grows step).loop
    have same {old : Task} (there : before.world.loop.tasks.get? id = some old) :
        task.result = old.result := by
      obtain ⟨later, here, identity⟩ := grows.tasks there
      cases here.symm.trans found
      exact congrArg (fun identity => identity.2.2) identity
    rcases earlier.concludes step fine.opened phases isOver with still | concludes
    · obtain ⟨old, there, phase⟩ := Option.map_eq_some_iff.mp still
      have minds := earlier.minds fun _ owned => owned.opened
      have goes := sound.goes step fine.opened minds
      cases ih there (phase ▸ isOver) (Loop.taskPhase?_of_found there) with
      | completed was kind value entry here remains =>
        have done : entry.isDone = true := remains.isDone rfl
        obtain ⟨later, now, further⟩ := goes.remains minds earlier.fine.opened here done
        exact .completed (phase ▸ was) kind value later (same there ▸ now) (remains.trans further)
      | cancelled was kind here =>
        obtain ⟨later, now, further⟩ := goes.remains minds earlier.fine.opened here rfl
        cases further
        exact .cancelled (phase ▸ was) kind (same there ▸ now)
    · cases concludes with
      | completed old value kind there ended stages phase result =>
        rw [phases] at phase
        exact .completed (Option.some.inj phase) kind value _ (same there ▸ result) (.same _)
      | cancelled old name kind there named calls phase result =>
        rw [phases] at phase
        exact .cancelled (Option.some.inj phase) kind (same there ▸ result)

/-! ## Every state of a run -/

/-- A program goes away when the poll ends that has it in hands, or when someone cancels the task that
holds it. -/
inductive Drops (id : TaskId) (machine after : Machine) : Prop
  /-- The innermost poll ends. -/
  | polled (stages : machine.stages = .poll id :: after.stages)
  /-- Someone cancels the task between polls. -/
  | cancelled (task : Task) (name : String) (found : machine.world.loop.tasks.get? id = some task)
      (holds : task.phase.holds = true)
      (named : machine.world.names.lookup (.task, name) = some id)
      (calls : Calls (.task (.cancel name)) machine after)

/-- A program that is gone after a step was dropped by it. -/
theorem Visits.drops (visits : Visits (IsOwned id) machine) (step : Step machine after)
    (opened : after.IsOpen) (fewer : after.programs id < machine.programs id) :
    Drops id machine after := by
  have openly := visits.mono fun _ owned => owned.opened
  have goes := openly.goes (fun _ opened => opened) step opened
  have fits := openly.fitsTask id
  have later : after.FitsTask id := goes.fits (openly.minds fun _ opened => opened) openly.fine fits
  by_cases quits : after.polls id < machine.polls id
  · exact .polled (goes.quits quits)
  have polls : machine.polls id ≤ after.polls id := Nat.le_of_not_lt quits
  -- The task held its program, and it does not any more.
  have held : (machine.world.loop.taskPhase? id).any TaskPhase.holds = true := by
    by_contra free
    unfold programs at fewer
    rw [if_neg free] at fewer
    omega
  obtain ⟨phase, before, holds⟩ := (Option.any_eq_true _ _).mp held
  obtain ⟨task, found, rfl⟩ := Option.map_eq_some_iff.mp before
  obtain ⟨now, there, -⟩ := (visits.reachable.sound.grows step).loop.tasks found
  have phases := Loop.taskPhase?_of_found there
  have live : task.phase.isOver = false := by
    cases phase : task.phase with
    | idle | queued => rfl
    | running | completed | cancelled =>
      rw [phase] at holds
      cases holds
  have isOver : now.phase.isOver = true := by
    rw [← Bool.not_eq_false]
    intro alive
    unfold FitsTask at fits later
    rw [before] at fits
    rw [phases] at later
    have one := fits.programs live
    have still := later.programs alive
    unfold programs at fewer
    rw [before, phases, Option.any_some, Option.any_some, one, still] at fewer
    exact Nat.lt_irrefl _ fewer
  rcases visits.concludes step opened phases isOver with same | concludes
  · rw [before] at same
    rw [← Option.some.inj same, live] at isOver
    cases isOver
  · cases concludes with
    | completed other value kind here ended stages => exact .polled stages
    | cancelled other name kind here named calls =>
      exact .cancelled task name found holds named calls

/-- A task lives once. -/
structure LivesOnce (id : TaskId) (machine : Machine) : Prop where
  /-- There is one run step of it at most that is ready or just being started. -/
  steps : machine.runSteps id ≤ 1
  /-- A poll is due if and only if there is one and the task is not over. -/
  due : machine.world.loop.IsQueued id ↔ machine.runSteps id = 1 ∧ ¬ machine.world.loop.IsOver id
  /-- If a poll is due, a run step that is started begins it; otherwise nothing begins. -/
  starts : ∀ {after}, Step machine after → after.IsOpen → machine.signal = .call (.step id) →
    machine.world.loop.IsQueued id ∧ after.stages = .poll id :: machine.stages ∨
      ¬ machine.world.loop.IsQueued id ∧ after.stages = machine.stages
  /-- A poll does not begin in another way. -/
  begins : ∀ {after}, Step machine after → after.IsOpen → machine.polls id < after.polls id →
    machine.signal = .call (.step id) ∧ machine.world.loop.IsQueued id ∧
      after.world.loop.taskPhase? id = some .running ∧ after.stages = .poll id :: machine.stages
  /-- The task is being polled if and only if it is under way and the task is not over. -/
  polled : machine.world.loop.taskPhase? id = some .running ↔
    machine.polls id = 1 ∧ ¬ machine.world.loop.IsOver id
  /-- The task has a number while it is not over. -/
  numbered : ∀ {task}, machine.world.loop.tasks.get? id = some task → task.isOver = false →
    ∃ slot, task.slot = some slot
  /-- It is found under a number if and only if that is its own and it is not over. -/
  listed : ∀ {task slot}, machine.world.loop.tasks.get? id = some task →
    (machine.world.loop.live.get? slot = some id ↔ task.slot = some slot ∧ task.isOver = false)
  /-- There is one program of it while it is not over. -/
  program : ∀ {phase}, machine.world.loop.taskPhase? id = some phase → phase.isOver = false →
    machine.programs id = 1
  /-- As soon as the task is over, there is at most the one that a poll has in hands. -/
  left : ∀ {phase}, machine.world.loop.taskPhase? id = some phase → phase.isOver = true →
    machine.programs id = machine.polls id ∧ machine.polls id ≤ 1
  /-- If it was completed there is none, and no run step. -/
  completed : machine.world.loop.taskPhase? id = some .completed →
    machine.programs id = 0 ∧ machine.runSteps id = 0
  /-- A program goes away when the poll ends that has it in hands, or with a call. -/
  drops : ∀ {after}, Step machine after → after.IsOpen → after.programs id < machine.programs id →
    Drops id machine after
  /-- As soon as the task is over, it stays so, no poll begins, and no program comes back. -/
  final : ∀ {phase after}, machine.world.loop.taskPhase? id = some phase → phase.isOver = true →
    Onward IsOpen machine after → after.world.loop.taskPhase? id = some phase ∧
      after.polls id ≤ machine.polls id ∧ after.programs id ≤ machine.programs id
  /-- It is over since its program ended, or since someone cancelled it. -/
  concludes : ∀ {phase after}, Step machine after → after.IsOpen →
    after.world.loop.taskPhase? id = some phase → phase.isOver = true →
      machine.world.loop.taskPhase? id = some phase ∨ Concludes id machine after
  /-- Its result tells how it ended. -/
  tells : ∀ {task}, machine.world.loop.tasks.get? id = some task → task.isOver = true →
    task.Tells machine.world.loop.futures
  /-- A call that cancels it succeeds if and only if it is not over, and then ends it. -/
  cancels : ∀ {name task after}, machine.world.names.lookup (.task, name) = some id →
    machine.world.loop.tasks.get? id = some task → Calls (.task (.cancel name)) machine after →
      after.signal = .answer (.bool !task.isOver) ∧
      (task.isOver = false → Concludes id machine after ∧
        after.world.loop.taskPhase? id = some .cancelled) ∧
      (task.isOver = true → after.world.loop = machine.world.loop)

/-- In every run on an open loop in which nobody else resolves the result of a task, the task lives
once. -/
theorem livesOnce (visits : Visits (IsOwned id) machine) : machine.LivesOnce id := by
  have openly := visits.mono fun _ owned => owned.opened
  have sound := visits.reachable.sound
  have enrolls := (openly.minds fun _ opened => opened).enrolls
  have fits := openly.fitsTask id
  have goes {after : Machine} (step : Step machine after) (opened : after.IsOpen) :
      Goes machine after := openly.goes (fun _ opened => opened) step opened
  have ended : machine.world.loop.IsOver id ↔
      ∃ phase, machine.world.loop.taskPhase? id = some phase ∧ phase.isOver = true := by
    constructor
    · rintro ⟨task, found, isOver⟩
      exact ⟨task.phase, Loop.taskPhase?_of_found found, task.isOver_eq ▸ isOver⟩
    · rintro ⟨phase, found, isOver⟩
      obtain ⟨task, there, rfl⟩ := Option.map_eq_some_iff.mp found
      exact ⟨task, there, task.isOver_eq ▸ isOver⟩
  have live : (¬ machine.world.loop.IsOver id) ↔
      ∀ phase ∈ machine.world.loop.taskPhase? id, phase.isOver = false := by
    rw [ended]
    constructor
    · intro none phase found
      rw [← Bool.not_eq_true]
      exact fun isOver => none ⟨phase, found, isOver⟩
    · rintro all ⟨phase, found, isOver⟩
      rw [all phase found] at isOver
      cases isOver
  refine ⟨Nat.le_trans (Nat.le_add_right _ _) fits.le_one, ?_, fun step opened => (goes step opened).starts,
    fun step opened => (goes step opened).begins, ?_, ?_, ?_, ?_, ?_, ?_, visits.drops, ?_,
    visits.concludes, visits.tells, ?_⟩
  · rw [live]
    exact fits.due
  · rw [live]
    exact fits.running
  · intro task found alive
    obtain ⟨slot, numbered, -⟩ := enrolls.lives found alive
    exact ⟨slot, numbered⟩
  · intro task slot found
    constructor
    · intro lives
      obtain ⟨other, there, numbered, alive⟩ := enrolls.known lives
      cases there.symm.trans found
      exact ⟨numbered, alive⟩
    · rintro ⟨numbered, alive⟩
      obtain ⟨other, same, lives⟩ := enrolls.lives found alive
      cases same.symm.trans numbered
      exact lives
  · intro phase found alive
    unfold FitsTask at fits
    unfold programs
    rw [found] at fits ⊢
    exact fits.programs alive
  · intro phase found isOver
    exact ⟨programs_of_isOver found isOver, Nat.le_trans (Nat.le_add_left _ _) fits.le_one⟩
  · intro found
    unfold FitsTask at fits
    rw [programs_of_isOver found rfl]
    rw [found] at fits
    exact ⟨fits.2, fits.1⟩
  · intro phase after found isOver onward
    obtain ⟨stays, fewer⟩ := openly.over found isOver onward
    rw [programs_of_isOver found isOver, programs_of_isOver stays isOver]
    exact ⟨stays, fewer, fewer⟩
  · intro name task after named found calls
    cases isOver : task.isOver with
    | true =>
      obtain ⟨signal, same⟩ := calls.cancels_over named found isOver
      exact ⟨signal, fun alive => Bool.noConfusion alive, fun _ => same⟩
    | false =>
      obtain ⟨signal, tasks, -⟩ := calls.cancels_live named found sound isOver
      refine ⟨signal, fun _ => ⟨visits.concludes_cancel calls named found isOver, ?_⟩,
        fun ends => Bool.noConfusion ends⟩
      rw [Loop.taskPhase?_congr tasks, Loop.taskPhase?_setPhase, if_pos rfl,
        Loop.taskPhase?_of_found found]
      rfl

/-- Whether the loop is open and nobody has resolved the result of a task before it was over. -/
def ownedly (id : TaskId) (machine : Machine) : Bool :=
  !machine.world.loop.closed && (machine.world.loop.tasks.get? id).all fun task =>
    !machine.world.loop.isDone task.result || task.isOver

/-- The states to which instructions drive the machine while a task owns its result are states of a run
in which it does. -/
theorem visits_ownedly (id : TaskId) (moves : Nat) (instructions : List Instruction) :
    Visits (IsOwned id) (scripted.drive (ownedly id) moves instructions) := by
  refine Visits.mono (.drive (.initial initial_scripted rfl) moves _) fun machine fine => ?_
  unfold ownedly at fine
  rw [Bool.and_eq_true, Bool.not_eq_true'] at fine
  refine ⟨fine.1, fun {task} found done => ?_⟩
  have owned := fine.2
  rw [found, Option.all_some, done] at owned
  exact owned

/-- A task is being polled, and its program has just cancelled it. -/
def quitting : Machine := scripted.drive (ownedly 0) 9
  [.spawn "a" [.task (.cancel "a"), .wait .yield], .runOnce 1]

/-- The poll goes on with the program, and nothing else is left of the task. -/
theorem livesOnce_quitting : quitting.LivesOnce 0 ∧
    (quitting.world.loop.tasks.get? 0).map Task.isOver = some true ∧ quitting.programs 0 = 1 ∧
    quitting.runSteps 0 = 0 :=
  ⟨livesOnce (visits_ownedly 0 9 _), by decide +kernel, by decide +kernel, by decide +kernel⟩

end Machine

end EventLoop
