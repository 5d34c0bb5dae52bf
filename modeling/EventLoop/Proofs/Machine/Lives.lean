import EventLoop.Proofs.Machine.Reactions
import EventLoop.Proofs.Sync.Withdrawal

/-!
# The lives of tasks

A task that is not over has one program, which the task holds or a poll has in hands, and one run step is
ready exactly while a poll is due. A task that is over is never polled again, and its program is gone as
soon as a poll that was under way has ended. The live tasks are those that are not over, each under its
number. As long as nobody else resolves its result, a task that is completed has the value of its program
as its result, and one that was cancelled has a result that was cancelled.
-/
namespace EventLoop

open Script (Activity)

/-- Whether a callback polls a task. -/
def Callback.polls (id : TaskId) : Callback → Bool
  | .step task => task == id
  | .script .. | .done .. | .readPipe | .resolve _ | .expire _ | .connectionMade _ | .startReading _
  | .connectionLost .. | .startAccepting _ => false

/-- What something asks for polls no task. -/
theorem Callback.polls_of_isAsked {id : TaskId} {callback : Callback}
    (asked : callback.isAsked = true) : callback.polls id = false := by
  cases callback with
  | step => cases asked
  | _ => rfl

/-- Whether a frame is a poll of a task. -/
def Frame.polls (id : TaskId) : Frame → Bool
  | poll task => task == id
  | iteration _ | script .. | program .. | repeated _ | running _ | letGo _ | afterData _ | afterEnd _
  | afterLoss _ | holding .. | rounds .. | joining .. | selecting .. | closing _ => false

namespace TaskPhase

/-- Whether the task holds its program. -/
def holds : TaskPhase → Bool
  | idle _ | queued _ => true
  | running | completed | cancelled => false

/-- How many run steps are ready and how many polls are under way, by what a task is doing. A task that was
cancelled may have left one of either behind. -/
def Fits : Option TaskPhase → Nat → Nat → Prop
  | some (queued _), steps, polls => steps = 1 ∧ polls = 0
  | some running, steps, polls => steps = 0 ∧ polls = 1
  | some cancelled, steps, polls => steps + polls ≤ 1
  | some (idle _), steps, polls | some completed, steps, polls | none, steps, polls =>
    steps = 0 ∧ polls = 0

end TaskPhase

namespace Agenda

variable {cancels : Prop} {agenda other : Agenda} {id : TaskId} {phase : TaskPhase}
variable {polls : Nat}

/-- What a task is doing. -/
def phase? (agenda : Agenda) (id : TaskId) : Option TaskPhase :=
  (agenda.tasks.get? id).map Task.phase

/-- How many run steps of a task are ready. -/
def steps (agenda : Agenda) (id : TaskId) : Nat := agenda.ready.countP (Callback.polls id)

/-- Callbacks that poll other tasks do not count. -/
theorem steps_append {callbacks : List Callback}
    (others : ∀ callback ∈ callbacks, callback.polls id = false) :
    (agenda.ready ++ callbacks).countP (Callback.polls id) = agenda.steps id := by
  have none : callbacks.countP (Callback.polls id) = 0 :=
    List.countP_eq_zero.mpr fun callback member => by simp [others callback member]
  rw [List.countP_append, none, Nat.add_zero]
  rfl

/-- A run step of a task counts for that task. -/
theorem steps_step (agenda : Agenda) (id task : TaskId) :
    (agenda.ready ++ [Callback.step task]).countP (Callback.polls id) =
      agenda.steps id + if task = id then 1 else 0 := by
  rw [List.countP_append]
  unfold steps
  congr 1
  by_cases same : task = id
  · simp [Callback.polls, same]
  · simp [Callback.polls, same]

/-- The task whose phase is set has that phase, and the others keep theirs. -/
theorem phase?_setPhase (agenda : Agenda) (here id : TaskId) (phase : TaskPhase) :
    (agenda.setPhase here phase).phase? id =
      if id = here then (agenda.phase? id).map fun _ => phase else agenda.phase? id := by
  unfold phase?
  rw [get?_setPhase]
  split
  · rw [Option.map_map, Option.map_map]
    rfl
  · rfl

/-- A task that is retired is in the phase in which it was. -/
@[simp] theorem phase?_retire (agenda : Agenda) (task : Task) :
    (agenda.retire task).phase? id = agenda.phase? id := by
  unfold phase?
  rw [tasks_retire]

/-- What a task is doing goes on to fit its run steps and its polls. -/
theorem Act.fits (act : Act cancels agenda other) (hand : Nat)
    (fits : TaskPhase.Fits (agenda.phase? id) (agenda.steps id + hand) polls) :
    TaskPhase.Fits (other.phase? id) (other.steps id + hand) polls := by
  have appended {callbacks : List Callback} {loop : Agenda} (phases : loop.phase? id = agenda.phase? id)
      (ready : loop.ready = agenda.ready ++ callbacks)
      (others : ∀ callback ∈ callbacks, callback.polls id = false) :
      TaskPhase.Fits (loop.phase? id) (loop.steps id + hand) polls := by
    have same : loop.steps id = agenda.steps id := by
      unfold steps
      rw [ready]
      exact steps_append others
    rw [phases, same]
    exact fits
  cases act with
  | called callbacks asked =>
    exact appended rfl rfl fun callback member => Callback.polls_of_isAsked (asked callback member)
  | made | registered | taken | emptied => exact fits
  | answered future reaction =>
    refine appended rfl rfl fun callback member => ?_
    rw [List.mem_singleton.mp member]
    rfl
  | resolved future resolution kind reactions =>
    refine appended rfl rfl fun callback member => ?_
    obtain ⟨reaction, -, rfl⟩ := List.mem_map.mp member
    rfl
  | roused here task activity found idle =>
    have phase : agenda.phase? here = some (.idle activity) := by
      unfold phase?
      rw [found, Option.map_some, idle]
    have phases := phase?_setPhase agenda here id (.queued activity)
    have ready := steps_step agenda id here
    change TaskPhase.Fits ((agenda.setPhase here (.queued activity)).phase? id)
      ((agenda.ready ++ [Callback.step here]).countP (Callback.polls id) + hand) polls
    rw [phases, ready]
    by_cases same : id = here
    · subst same
      rw [phase] at fits ⊢
      rw [if_pos rfl, if_pos rfl]
      obtain ⟨none, idle⟩ := fits
      exact ⟨by omega, idle⟩
    · rw [if_neg same, if_neg (Ne.symm same)]
      exact fits
  | spawned name body =>
    have ready := steps_step agenda id agenda.tasks.size
    unfold phase? steps at fits ⊢
    dsimp only
    rw [Table.get?_push, ready]
    by_cases same : id = agenda.tasks.size
    · subst same
      rw [Table.get?_eq_none (Nat.le_refl _)] at fits
      rw [if_pos rfl, if_pos rfl]
      obtain ⟨none, idle⟩ := fits
      exact ⟨by unfold steps; omega, idle⟩
    · rw [if_neg same, if_neg (Ne.symm same)]
      exact fits
  | cancelled here task found waits =>
    have ready : ((agenda.setPhase here .cancelled).retire task).steps id = agenda.steps id := by
      unfold steps
      rw [ready_retire]
      rfl
    rw [phase?_retire, phase?_setPhase, ready]
    by_cases same : id = here
    · subst same
      rw [if_pos rfl]
      rw [Task.isOver_eq] at waits
      unfold phase? at fits ⊢
      rw [found, Option.map_some] at fits ⊢
      rw [Option.map_some]
      cases phase : task.phase with
      | idle | queued | running =>
        rw [phase] at fits
        obtain ⟨steps, polls⟩ := fits
        change _ + _ ≤ 1
        omega
      | completed | cancelled =>
        rw [phase] at waits
        cases waits
    · rw [if_neg same]
      exact fits

/-- Acts keep the phase of a task in step with the polls that are due and under way. -/
theorem Acts.fits (acts : Acts cancels agenda other) (hand : Nat)
    (fits : TaskPhase.Fits (agenda.phase? id) (agenda.steps id + hand) polls) :
    TaskPhase.Fits (other.phase? id) (other.steps id + hand) polls := by
  induction acts with
  | refl => exact fits
  | tail _ act ih => exact act.fits hand ih

/-- A task that is over stays as it is. -/
theorem Act.over (act : Act cancels agenda other) (found : agenda.phase? id = some phase)
    (isOver : phase.isOver = true) : other.phase? id = some phase := by
  have apart {here : TaskId} {task : Task} (there : agenda.tasks.get? here = some task)
      (waits : task.phase.isOver = false) : id ≠ here := by
    rintro rfl
    unfold phase? at found
    rw [there] at found
    cases found
    rw [waits] at isOver
    cases isOver
  cases act with
  | called | made | registered | answered | resolved | taken | emptied => exact found
  | roused here task activity there idle =>
    change (agenda.setPhase here (.queued activity)).phase? id = some phase
    rw [phase?_setPhase, if_neg (apart there (by rw [idle]; rfl))]
    exact found
  | spawned name body =>
    unfold phase? at found ⊢
    obtain ⟨task, there, same⟩ := Option.map_eq_some_iff.mp found
    dsimp only
    rw [Table.get?_push, if_neg (Nat.ne_of_lt (Table.lt_size_of_get? there)), there]
    exact congrArg some same
  | cancelled here task there waits =>
    rw [phase?_retire, phase?_setPhase, if_neg (apart there (Task.isOver_eq task ▸ waits))]
    exact found

/-- A task that is over stays over in the same way. -/
theorem Acts.over (acts : Acts cancels agenda other) (found : agenda.phase? id = some phase)
    (isOver : phase.isOver = true) : other.phase? id = some phase := by
  induction acts with
  | refl => exact found
  | tail _ act ih => exact act.over ih isOver

/-- Where nobody cancels a task, one that is over was over before. -/
theorem Act.spares (act : Act cancels agenda other) (spares : ¬ cancels)
    (found : other.phase? id = some phase) (isOver : phase.isOver = true) :
    agenda.phase? id = some phase := by
  cases act with
  | called | made | registered | answered | resolved | taken | emptied => exact found
  | roused here task activity there idle =>
    change (agenda.setPhase here (.queued activity)).phase? id = some phase at found
    rw [phase?_setPhase] at found
    split at found
    · obtain ⟨_, -, same⟩ := Option.map_eq_some_iff.mp found
      rw [← same] at isOver
      cases isOver
    · exact found
  | spawned name body =>
    unfold phase? at found ⊢
    dsimp only at found
    rw [Table.get?_push] at found
    split at found
    · cases found
      cases isOver
    · exact found
  | cancelled here task there waits asked => exact absurd asked spares

/-- Unless tasks may be cancelled, one that is over after acts was over before. -/
theorem Acts.spares (acts : Acts cancels agenda other) (spares : ¬ cancels)
    (found : other.phase? id = some phase) (isOver : phase.isOver = true) :
    agenda.phase? id = some phase := by
  induction acts with
  | refl => exact found
  | tail _ act ih => exact ih (act.spares spares found isOver)

end Agenda

namespace TaskPhase.Fits

variable {phase? : Option TaskPhase} {steps hand polls : Nat}

/-- A run step that is being started and finds no poll due does not count. -/
theorem drop (fits : Fits phase? (steps + hand) polls)
    (stale : hand = 0 ∨ ∀ activity, phase? ≠ some (.queued activity)) :
    Fits phase? steps polls := by
  rcases stale with rfl | other
  · exact fits
  · rcases phase? with _ | phase
    · obtain ⟨none, idle⟩ := fits
      exact ⟨by omega, idle⟩
    · cases phase with
      | queued activity => exact absurd rfl (other activity)
      | idle | running | completed =>
        obtain ⟨none, polled⟩ := fits
        exact ⟨by omega, polled⟩
      | cancelled =>
        change _ + _ + _ ≤ 1 at fits
        change _ + _ ≤ 1
        omega

/-- A poll of a task that is not running any more ends. -/
theorem pop (fits : Fits phase? steps (polls + 1)) (refused : phase? ≠ some .running) :
    Fits phase? steps polls := by
  rcases phase? with _ | phase
  · cases fits.2
  · cases phase with
    | running => exact absurd rfl refused
    | idle | queued | completed => cases fits.2
    | cancelled =>
      change _ + (_ + 1) ≤ 1 at fits
      change _ + _ ≤ 1
      omega

/-- A run step or a poll that is left over is all that there is. -/
theorem le_one (fits : Fits phase? steps polls) : steps + polls ≤ 1 := by
  rcases phase? with _ | phase
  · obtain ⟨rfl, rfl⟩ := fits
    exact Nat.zero_le 1
  · cases phase with
    | idle | queued | completed | running =>
      obtain ⟨rfl, rfl⟩ := fits
      decide
    | cancelled => exact fits

/-- A poll is due if and only if there is a run step of a task that is not over. -/
theorem due (fits : Fits phase? steps polls) : (∃ activity, phase? = some (.queued activity)) ↔
    steps = 1 ∧ ∀ phase ∈ phase?, phase.isOver = false := by
  rcases phase? with _ | phase
  · obtain ⟨rfl, -⟩ := fits
    simp
  · cases phase with
    | idle | running =>
      obtain ⟨rfl, -⟩ := fits
      simp
    | queued activity =>
      obtain ⟨rfl, -⟩ := fits
      simp [isOver]
    | completed | cancelled => simp [isOver]

/-- A task is being polled if and only if a poll of it is under way and it is not over. -/
theorem running (fits : Fits phase? steps polls) : phase? = some .running ↔
    polls = 1 ∧ ∀ phase ∈ phase?, phase.isOver = false := by
  rcases phase? with _ | phase
  · obtain ⟨-, rfl⟩ := fits
    simp
  · cases phase with
    | idle | queued =>
      obtain ⟨-, rfl⟩ := fits
      simp
    | running =>
      obtain ⟨-, rfl⟩ := fits
      simp [isOver]
    | completed | cancelled => simp [isOver]

/-- A task that is not over has one program: it holds the program, or a poll has it in hands. -/
theorem programs {phase : TaskPhase} (fits : Fits (some phase) steps polls)
    (live : phase.isOver = false) : (if phase.holds then 1 else 0) + polls = 1 := by
  cases phase with
  | idle | queued | running =>
    obtain ⟨-, rfl⟩ := fits
    rfl
  | completed | cancelled => cases live

end TaskPhase.Fits

namespace Loop

variable {loop : Loop} {id : TaskId} {task : Task}

/-- A task that is being polled is completed. -/
theorem complete_of_running (found : loop.tasks.get? id = some task)
    (running : task.phase = .running) (value : Value) :
    loop.complete id value = (((loop.setPhase id .completed).retire task).resolve task.result
      (.finish (.ok (.value value)))).2 := by
  unfold complete
  rw [found]
  dsimp only
  rw [running]

/-- A task that is not being polled is not completed. -/
theorem complete_of_refused (refused : loop.taskPhase? id ≠ some .running) (value : Value) :
    loop.complete id value = loop := by
  rw [complete_eq]
  split
  · rename_i name slot result found
    refine absurd ?_ refused
    unfold taskPhase?
    rw [found]
    rfl
  · rfl

/-- A task that is completed is completed, and the others are as they were. -/
theorem taskPhase?_complete {polled : TaskId} (running : loop.taskPhase? polled = some .running)
    (value : Value) : (loop.complete polled value).taskPhase? id =
      if id = polled then some .completed else loop.taskPhase? id := by
  obtain ⟨task, found, phase⟩ := Option.map_eq_some_iff.mp running
  have tasks : (loop.complete polled value).tasks = (loop.setPhase polled .completed).tasks := by
    rw [complete_of_running found phase, tasks_resolve, tasks_retire]
  have phases : (loop.complete polled value).taskPhase? id =
      (loop.setPhase polled .completed).taskPhase? id :=
    congrArg (fun tasks => (Table.get? tasks id).map Task.phase) tasks
  rw [phases, taskPhase?_setPhase, running]
  rfl

/-- The poll of a task ends when its program ends: what the task is doing fits what is left. -/
theorem Minds.fits_complete {polled : TaskId} {value : Value} {polls : Nat} (minds : loop.Minds)
    (opened : loop.closed = false) (fits : TaskPhase.Fits (loop.taskPhase? id) (loop.agenda.steps id)
      (polls + if polled = id then 1 else 0)) :
    TaskPhase.Fits ((loop.complete polled value).taskPhase? id)
      ((loop.complete polled value).agenda.steps id) polls := by
  by_cases running : loop.taskPhase? polled = some .running
  · obtain ⟨task, found, phase⟩ := Option.map_eq_some_iff.mp running
    let retired : Loop := (loop.setPhase polled .completed).retire task
    have steps : retired.agenda.steps id = loop.agenda.steps id :=
      congrArg (List.countP _) (ready_retire _ _)
    have phases : retired.taskPhase? id = (loop.setPhase polled .completed).taskPhase? id :=
      congrArg (fun tasks => (Table.get? tasks id).map Task.phase) (tasks_retire _ _)
    have ended : TaskPhase.Fits (retired.taskPhase? id) (retired.agenda.steps id) polls := by
      rw [steps, phases, taskPhase?_setPhase]
      by_cases same : id = polled
      · subst same
        rw [running, if_pos rfl] at fits
        obtain ⟨none, one⟩ := fits
        rw [if_pos rfl, running]
        exact ⟨none, by omega⟩
      · rw [if_neg (Ne.symm same)] at fits
        rw [if_neg same]
        exact fits
    have open_ : retired.closed = false := (closed_retire _ _).trans opened
    have resolves : Proceeds False retired _ :=
      .resolve open_ (minds.retired found phase).asking task.result (.finish (.ok (.value value)))
    rw [complete_of_running found phase]
    exact resolves.acts.fits 0 ended
  · rw [complete_of_refused running]
    by_cases same : polled = id
    · subst same
      rw [if_pos rfl] at fits
      exact fits.pop running
    · rw [if_neg same] at fits
      exact fits

end Loop

namespace Machine

variable {machine after : Machine} {id : TaskId} {phase : TaskPhase}

/-- How many run steps of a task are ready or just being started. -/
def runSteps (machine : Machine) (id : TaskId) : Nat :=
  machine.world.loop.agenda.steps id + machine.hand.toList.countP (Callback.polls id)

/-- How many polls of a task are under way. -/
def polls (machine : Machine) (id : TaskId) : Nat := machine.stages.countP (Frame.polls id)

/-- How many programs of a task there are: the one that it holds, and those that polls have in hands. -/
def programs (machine : Machine) (id : TaskId) : Nat :=
  (if (machine.world.loop.taskPhase? id).any TaskPhase.holds then 1 else 0) + machine.polls id

/-- What a task is doing fits its run steps and its polls. -/
def FitsTask (machine : Machine) (id : TaskId) : Prop :=
  TaskPhase.Fits (machine.world.loop.taskPhase? id) (machine.runSteps id) (machine.polls id)

/-- A machine that runs no callback has only run steps that are ready. -/
theorem runSteps_of_isCall (quiet : machine.signal.isCall = false) :
    machine.runSteps id = machine.world.loop.agenda.steps id := by
  unfold runSteps
  rw [hand_of_isCall quiet]
  rfl

/-- The polls under way depend on the stages alone. -/
theorem polls_congr (stages : after.stages = machine.stages) : after.polls id = machine.polls id := by
  unfold polls
  rw [stages]

/-- A poll that begins counts, for its task. -/
theorem polls_of_poll {task : TaskId} (stages : after.stages = .poll task :: machine.stages) :
    after.polls id = machine.polls id + if task = id then 1 else 0 := by
  unfold polls
  rw [stages, List.countP_cons]
  simp [Frame.polls]

/-- Acts that are done between polls. -/
theorem fitsTask_of_proceeds {cancels : Prop} {polls : Nat}
    (proceeds : Loop.Proceeds cancels machine.world.loop after.world.loop)
    (quiet : after.signal.isCall = false)
    (fits : TaskPhase.Fits (machine.world.loop.taskPhase? id)
      (machine.world.loop.agenda.steps id) polls) :
    TaskPhase.Fits (after.world.loop.taskPhase? id) (after.runSteps id) polls := by
  rw [runSteps_of_isCall quiet]
  exact proceeds.acts.fits 0 fits

/-- What a task is doing goes on to fit its run steps and its polls, whatever a step on an open loop
does. -/
theorem Goes.fits (goes : Goes machine after) (minds : machine.world.loop.Minds)
    (opened : machine.IsOpen) (fits : machine.FitsTask id) : after.FitsTask id := by
  unfold FitsTask at fits ⊢
  have idle (uncalled : machine.signal.isCall = false) :
      machine.runSteps id = machine.world.loop.agenda.steps id := runSteps_of_isCall uncalled
  cases goes with
  | steady proceeds stale quiet stages =>
    rw [polls_congr stages]
    refine fitsTask_of_proceeds proceeds quiet (fits.drop ?_)
    unfold hand
    cases signal : machine.signal with
    | call callback =>
      dsimp only
      cases polls : callback.polls id with
      | false => exact Or.inl (by simp [polls])
      | true =>
        cases callback with
        | step task =>
          obtain rfl : task = id := by simpa [Callback.polls] using polls
          exact Or.inr fun activity queued => stale task signal ⟨activity, queued⟩
        | _ => cases polls
    | _ => exact Or.inl rfl
  | counting proceeds uncalled quiet earlier gathered stages =>
    have same : after.polls id = machine.polls id := by
      unfold polls
      rw [stages, List.countP_cons_of_neg (by simp [Frame.polls])]
    rw [same]
    rw [idle uncalled] at fits
    exact fitsTask_of_proceeds proceeds quiet fits
  | taking left callback rest lower uncalled called ready loop before stages =>
    have same : after.polls id = machine.polls id := by
      unfold polls
      rw [stages, before, List.countP_cons_of_neg (by simp [Frame.polls]),
        List.countP_cons_of_neg (by simp [Frame.polls])]
    have steps : after.runSteps id = machine.runSteps id := by
      rw [idle uncalled]
      unfold runSteps Agenda.steps Loop.agenda
      rw [hand_of_called called, loop, ready]
      dsimp only
      rw [← List.countP_append]
      exact (List.perm_append_singleton callback rest).countP_eq _
    rw [same, steps, loop]
    exact fits
  | finishing left uncalled ended exhausted loop stages =>
    have same : after.polls id = machine.polls id := by
      unfold polls
      rw [stages, List.countP_cons_of_neg (by simp [Frame.polls])]
    have quiet : after.signal.isCall = false := by
      rw [ended]
      rfl
    rw [idle uncalled] at fits
    rw [same, runSteps_of_isCall quiet, loop]
    exact fits
  | polling task activity called quiet queued loop stages =>
    have hand : machine.runSteps id =
        machine.world.loop.agenda.steps id + if task = id then 1 else 0 := by
      unfold runSteps
      rw [hand_of_called called]
      simp [Callback.polls, List.countP_cons]
    rw [polls_of_poll stages, runSteps_of_isCall quiet, loop, Loop.taskPhase?_setPhase]
    change TaskPhase.Fits _ (machine.world.loop.agenda.steps id) _
    rw [hand] at fits
    by_cases same : id = task
    · subst same
      rw [queued, if_pos rfl] at fits
      obtain ⟨one, none⟩ := fits
      rw [if_pos rfl, if_pos rfl, queued]
      exact ⟨by omega, by omega⟩
    · rw [if_neg (Ne.symm same)] at fits ⊢
      rw [if_neg same]
      exact fits
  | suspending task activity uncalled quiet running loop stages =>
    rw [idle uncalled, polls_of_poll stages] at fits
    rw [runSteps_of_isCall quiet, loop, Loop.taskPhase?_setPhase]
    change TaskPhase.Fits _ (machine.world.loop.agenda.steps id) _
    by_cases same : id = task
    · subst same
      rw [running, if_pos rfl] at fits
      obtain ⟨none, one⟩ := fits
      rw [if_pos rfl, running]
      exact ⟨none, by omega⟩
    · rw [if_neg (Ne.symm same)] at fits
      rw [if_neg same]
      exact fits
  | abandoning task uncalled quiet refused proceeds stages =>
    rw [idle uncalled, polls_of_poll stages] at fits
    refine fitsTask_of_proceeds proceeds quiet ?_
    by_cases same : task = id
    · subst same
      rw [if_pos rfl] at fits
      exact fits.pop refused
    · rw [if_neg same] at fits
      exact fits
  | ending task value uncalled ended quiet loop stages =>
    rw [idle uncalled, polls_of_poll stages] at fits
    rw [runSteps_of_isCall quiet, loop]
    exact minds.fits_complete opened fits
  | deserting future uncalled quiet deserts refs loop stages =>
    rw [idle uncalled] at fits
    rw [polls_congr stages, runSteps_of_isCall quiet, loop]
    exact fits

/-! ## Tasks that are over -/

/-- A task that is over stays as it is. -/
theorem Goes.over (goes : Goes machine after) (found : machine.world.loop.taskPhase? id = some phase)
    (isOver : phase.isOver = true) : after.world.loop.taskPhase? id = some phase := by
  have apart {task : TaskId} {other : TaskPhase}
      (there : machine.world.loop.taskPhase? task = some other) (waits : other.isOver = false) :
      id ≠ task := by
    rintro rfl
    rw [found] at there
    cases there
    rw [isOver] at waits
    cases waits
  cases goes with
  | steady proceeds | counting proceeds | abandoning _ _ _ _ proceeds =>
    exact proceeds.acts.over found isOver
  | taking _ _ _ _ _ _ _ loop | finishing _ _ _ _ loop | deserting _ _ _ _ _ loop =>
    rw [loop]
    exact found
  | polling task activity called quiet queued loop =>
    rw [loop, Loop.taskPhase?_setPhase, if_neg (apart queued rfl)]
    exact found
  | suspending task activity uncalled quiet running loop =>
    rw [loop, Loop.taskPhase?_setPhase, if_neg (apart running rfl)]
    exact found
  | ending task value uncalled ended quiet loop =>
    rw [loop]
    by_cases running : machine.world.loop.taskPhase? task = some .running
    · rw [Loop.taskPhase?_complete running, if_neg (apart running rfl)]
      exact found
    · rw [Loop.complete_of_refused running]
      exact found

/-- A poll only begins if it is due, and with the run step of the task. -/
theorem Goes.begins (goes : Goes machine after) (more : machine.polls id < after.polls id) :
    machine.signal = .call (.step id) ∧ machine.world.loop.IsQueued id ∧
      after.world.loop.taskPhase? id = some .running ∧ after.stages = .poll id :: machine.stages := by
  have still (stages : after.stages.countP (Frame.polls id) ≤ machine.stages.countP (Frame.polls id)) :
      False := Nat.lt_irrefl _ (Nat.lt_of_lt_of_le more stages)
  cases goes with
  | steady _ _ _ stages | deserting _ _ _ _ _ _ stages =>
    exact (still (Nat.le_of_eq (congrArg _ stages))).elim
  | counting _ _ _ _ _ stages =>
    refine (still ?_).elim
    rw [stages, List.countP_cons_of_neg (by simp [Frame.polls])]
  | taking left callback rest lower _ _ _ _ before stages =>
    refine (still ?_).elim
    rw [stages, before, List.countP_cons_of_neg (by simp [Frame.polls]),
      List.countP_cons_of_neg (by simp [Frame.polls])]
  | finishing _ _ _ _ _ stages | ending _ _ _ _ _ _ stages | suspending _ _ _ _ _ _ stages
  | abandoning _ _ _ _ _ stages =>
    refine (still ?_).elim
    rw [stages]
    exact (List.sublist_cons_self _ _).countP_le
  | polling task activity called quiet queued loop stages =>
    obtain rfl : task = id := by
      by_contra differ
      rw [polls_of_poll stages, if_neg differ] at more
      exact Nat.lt_irrefl _ more
    refine ⟨called, ⟨activity, queued⟩, ?_, stages⟩
    rw [loop, Loop.taskPhase?_setPhase, if_pos rfl, queued]
    rfl

/-- The run step of a task that is due begins a poll of it, and that of another task does nothing. -/
theorem Goes.starts (goes : Goes machine after) (called : machine.signal = .call (.step id)) :
    machine.world.loop.IsQueued id ∧ after.stages = .poll id :: machine.stages ∨
      ¬ machine.world.loop.IsQueued id ∧ after.stages = machine.stages := by
  have absurd_ (uncalled : machine.signal.isCall = false) : False :=
    Signal.ne_call_of_isCall uncalled _ called
  cases goes with
  | steady _ stale _ stages => exact Or.inr ⟨stale id called, stages⟩
  | counting _ uncalled | taking _ _ _ _ uncalled | finishing _ uncalled | ending _ _ uncalled
  | suspending _ _ uncalled | abandoning _ uncalled | deserting _ uncalled =>
    exact (absurd_ uncalled).elim
  | polling task activity same quiet queued loop stages =>
    cases called.symm.trans same
    exact Or.inl ⟨⟨activity, queued⟩, stages⟩

/-- A poll that is no longer under way was the innermost stage. -/
theorem Goes.quits (goes : Goes machine after) (fewer : after.polls id < machine.polls id) :
    machine.stages = .poll id :: after.stages := by
  have still (stages : machine.stages.countP (Frame.polls id) ≤ after.stages.countP (Frame.polls id)) :
      False := Nat.lt_irrefl _ (Nat.lt_of_lt_of_le fewer stages)
  have quits {frame : Frame} (stages : machine.stages = frame :: after.stages)
      (pops : frame.polls id = true → frame = .poll id) :
      machine.stages = .poll id :: after.stages := by
    cases polls : frame.polls id with
    | true => rw [stages, pops polls]
    | false =>
      refine (still ?_).elim
      rw [stages, List.countP_cons_of_neg (by simp [polls])]
  cases goes with
  | steady _ _ _ stages | deserting _ _ _ _ _ _ stages =>
    exact (still (Nat.le_of_eq (congrArg _ stages).symm)).elim
  | counting _ _ _ _ _ stages | polling _ _ _ _ _ _ stages =>
    refine (still ?_).elim
    rw [stages]
    exact (List.sublist_cons_self _ _).countP_le
  | taking left callback rest lower _ _ _ _ before stages =>
    refine (still ?_).elim
    rw [stages, before, List.countP_cons_of_neg (by simp [Frame.polls]),
      List.countP_cons_of_neg (by simp [Frame.polls])]
  | finishing left _ _ _ _ stages => exact quits stages fun polls => by cases polls
  | ending _ _ _ _ _ _ stages | suspending _ _ _ _ _ _ stages | abandoning _ _ _ _ _ stages =>
    exact quits stages fun polls => congrArg Frame.poll (by simpa [Frame.polls] using polls)

/-! ## Every state of a run -/

/-- A task that is over has no program but the one that a poll has in hands. -/
theorem programs_of_isOver (found : machine.world.loop.taskPhase? id = some phase)
    (isOver : phase.isOver = true) : machine.programs id = machine.polls id := by
  unfold programs
  rw [found]
  cases phase with
  | completed | cancelled => exact Nat.zero_add _
  | idle | queued | running => cases isOver

/-- As long as the loop is open, what a task is doing fits its run steps and its polls. -/
theorem Visits.fitsTask (visits : Visits IsOpen machine) (id : TaskId) : machine.FitsTask id := by
  induction visits with
  | @initial start initial fine =>
    obtain ⟨frames, signal, -⟩ := initial.course
    have quiet : start.signal.isCall = false := by
      rw [signal]
      rfl
    have none : start.polls id = 0 := by
      unfold polls stages
      rw [frames]
      rfl
    have bare : TaskPhase.Fits (({} : Loop).agenda.phase? id) (({} : Loop).agenda.steps id + 0) 0 :=
      ⟨rfl, rfl⟩
    unfold FitsTask
    rw [runSteps_of_isCall quiet, none]
    exact (initial.proceeds fine).acts.fits 0 bare
  | step earlier step fine ih =>
    exact (earlier.goes (fun _ opened => opened) step fine).fits (earlier.minds fun _ opened => opened)
      earlier.fine ih

/-- As soon as a task is over, it stays so, and it is never polled again. -/
theorem Visits.over (visits : Visits IsOpen machine)
    (found : machine.world.loop.taskPhase? id = some phase) (isOver : phase.isOver = true)
    (onward : Onward IsOpen machine after) :
    after.world.loop.taskPhase? id = some phase ∧ after.polls id ≤ machine.polls id := by
  induction onward with
  | refl => exact ⟨found, Nat.le_refl _⟩
  | tail earlier last ih =>
    obtain ⟨there, fewer⟩ := ih
    have goes := (visits.onward earlier).goes (fun _ opened => opened) last.1 last.2
    refine ⟨goes.over there isOver, Nat.le_trans ?_ fewer⟩
    by_contra more
    obtain ⟨-, ⟨activity, queued⟩, -⟩ := goes.begins (Nat.lt_of_not_le more)
    rw [there] at queued
    cases queued
    cases isOver

end Machine

end EventLoop
