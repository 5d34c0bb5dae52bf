import EventLoop.Proofs.Effect.Conservation
import EventLoop.Proofs.Machine.Settling
import EventLoop.Proofs.Machine.Sleep

/-!
# Polls that fail

When an iteration begins, the loop has taken over what other threads asked for and which tasks were woken
before it polls. If the poll fails, the iteration fails with the same error and has started nothing. All that
was taken over is ready then, in the order in which it would have been ready otherwise, so that the next
iteration whose poll succeeds starts it.
-/
namespace EventLoop

namespace Loop

variable {loop : Loop}

/-! ## What waits when an iteration begins -/

/-- Whether a task is idle. -/
def isIdle (loop : Loop) (id : TaskId) : Bool :=
  match loop.taskPhase? id with
  | some (.idle _) => true
  | _ => false

/-- The idle tasks among the live ones with some numbers, each once, in the order in which their numbers
appear first. -/
def idlers (loop : Loop) (slots : List Nat) : List TaskId :=
  ((slots.filterMap loop.live.get?).filter loop.isIdle).eraseDups

/-- What waits to be run when an iteration begins: the callbacks that are ready, those that other threads asked
for, and one step of each idle task that was woken. -/
def backlog (loop : Loop) : List Callback :=
  loop.ready ++ loop.remote ++ (loop.idlers loop.woken).map .step

/-- The check on a loop says that a task is idle. -/
theorem isIdle_iff {id : TaskId} : loop.isIdle id = true ↔ loop.IsIdle id := by
  unfold isIdle IsIdle
  constructor
  · intro idle
    split at idle
    · rename_i activity phase
      exact ⟨activity, phase⟩
    · cases idle
  · rintro ⟨activity, phase⟩
    rw [phase]

/-- A task that has become due is not idle any more, and the other tasks are as idle as before. -/
theorem isIdle_setPhase (loop : Loop) (id other : TaskId) (activity : Script.Activity) :
    (loop.setPhase id (.queued activity)).isIdle other = (loop.isIdle other && !(other == id)) := by
  unfold isIdle taskPhase? setPhase
  dsimp only
  rw [Table.get?_modify]
  by_cases same : other = id
  · subst same
    cases loop.tasks.get? other with
    | none => simp
    | some task => simp
  · simp [same]

/-- The tasks that are woken become ready in the order in which they were woken first. -/
theorem ready_foldl_scheduleLive (opened : loop.closed = false) (slots : List Nat) :
    (slots.foldl scheduleLive loop).ready = loop.ready ++ (loop.idlers slots).map .step := by
  induction slots generalizing loop with
  | nil => simp [idlers]
  | cons slot rest ih =>
    rw [List.foldl_cons]
    cases lives : loop.live.get? slot with
    | none =>
      have same : loop.scheduleLive slot = loop := by
        unfold scheduleLive
        rw [lives]
      rw [same, ih opened, idlers, idlers, List.filterMap_cons_none lives]
    | some id =>
      have listed : (slot :: rest).filterMap loop.live.get? = id :: rest.filterMap loop.live.get? :=
        List.filterMap_cons_some lives
      have woken : loop.scheduleLive slot = loop.schedule id := by
        unfold scheduleLive
        rw [lives]
      by_cases idle : loop.IsIdle id
      · obtain ⟨activity, phase⟩ := idle
        have due : loop.scheduleLive slot = { loop.setPhase id (.queued activity) with
            ready := loop.ready ++ [.step id] } := by
          rw [woken]
          unfold schedule
          rw [phase]
          dsimp only
          rw [callSoon_eq]
          simp [setPhase, opened]
        have others : (loop.scheduleLive slot).idlers rest =
            ((rest.filterMap loop.live.get?).filter fun other =>
              loop.isIdle other && !(other == id)).eraseDups := by
          rw [due]
          unfold idlers
          congr 1
          exact List.filter_congr fun other _ => loop.isIdle_setPhase id other activity
        have opened' : (loop.scheduleLive slot).closed = false := by
          rw [due]
          exact opened
        have first : loop.idlers (slot :: rest) = id :: (loop.scheduleLive slot).idlers rest := by
          rw [others, idlers, listed, List.filter_cons_of_pos (isIdle_iff.mpr ⟨activity, phase⟩),
            List.eraseDups_cons, List.filter_filter]
          simp only [Bool.and_comm]
        rw [ih opened', first, due]
        simp
      · have busy : ¬ loop.isIdle id = true := fun here => idle (isIdle_iff.mp here)
        have same : loop.scheduleLive slot = loop := by
          rw [woken]
          unfold schedule
          split
          · rename_i activity phase
            exact absurd ⟨activity, phase⟩ idle
          · rfl
        rw [same, ih opened, idlers, idlers, listed, List.filter_cons_of_neg busy]

/-- All that waits is ready once it was taken over. -/
theorem ready_collectRequests (opened : loop.closed = false) : loop.collectRequests.ready = loop.backlog := by
  have same : loop.collectRequests = loop.woken.foldl scheduleLive loop.forgetful := by
    rw [collectRequests_eq]
    simp [forgetful, opened]
  have free : loop.forgetful.closed = false := opened
  rw [same, ready_foldl_scheduleLive free]
  rfl

/-- A task that is idle and was woken is due once this was taken over. -/
theorem taskPhase?_collectRequests (opened : loop.closed = false) {id : TaskId}
    (woken : id ∈ loop.idlers loop.woken) : ∃ activity, loop.taskPhase? id = some (.idle activity) ∧
      loop.collectRequests.taskPhase? id = some (.queued activity) := by
  obtain ⟨ids, collected, roused⟩ := roused_collectRequests opened
  obtain ⟨listed, idle⟩ := List.mem_filter.mp (List.mem_eraseDups.mp woken)
  obtain ⟨slot, member, lives⟩ := List.mem_filterMap.mp listed
  exact roused.phase_of_mem ((collected.tasks id).mpr ⟨⟨slot, member, lives⟩, isIdle_iff.mp idle⟩)

/-- Before the poll, what waits is ready and the tasks that were woken are due. -/
theorem kept_prepare (loop : Loop) (now : Nat) : (loop.prepare now).2.ready = loop.collectRequests.ready ∧
    (loop.prepare now).2.tasks = loop.collectRequests.tasks ∧
      (loop.prepare now).2.closed = loop.collectRequests.closed := by
  unfold prepare patience
  split
  · exact ⟨rfl, rfl, rfl⟩
  · exact ⟨rfl, rfl, rfl⟩

/-- Before the poll, the entry of a timer stays unless the timer was cancelled. -/
theorem mem_timers_prepare {entry : TimerEntry} (waits : entry ∈ loop.timers.entries)
    (live : loop.timers.isCancelled entry.id = false) (now : Nat) :
    entry ∈ (loop.prepare now).2.timers.entries := by
  unfold prepare patience
  split
  · rw [timers_collectRequests]
    exact waits
  · change entry ∈ loop.collectRequests.timers.next.2.2.entries
    rw [timers_collectRequests, Timers.snd_next]
    have parted : loop.timers.entries.takeWhile (loop.timers.isCancelled ·.id) ++
        loop.timers.entries.dropWhile (loop.timers.isCancelled ·.id) = loop.timers.entries :=
      List.takeWhile_append_dropWhile
    rw [← parted, List.mem_append] at waits
    refine waits.resolve_left fun passed => ?_
    have cancelled := List.all_eq_true.mp List.all_takeWhile entry passed
    exact absurd (cancelled.symm.trans live) (by decide)

/-- A task that begins wakes no number. -/
theorem woken_spawn (loop : Loop) (name : String) (body : Script.Body) :
    (loop.spawn name body).2.woken = loop.woken := by
  unfold spawn makeFuture addFuture
  dsimp only
  split
  · rw [resolve_eq]
    split
    · rw [replaceFuture_eq]
    · rfl
  · unfold schedule
    split
    · rw [callSoon_eq]
      rfl
    · rfl

/-- What waits before a step waits when the iteration is about to begin that the step enters. -/
theorem Outset.waits {start : Loop} {within : Frame} (outset : loop.Outset within start)
    (opened : loop.closed = false) : loop.ready <+: start.ready ∧ start.remote = loop.remote ∧
      start.woken = loop.woken ∧ start.timers = loop.timers := by
  have spares := outset.spares
  obtain ⟨new, ready, -⟩ := spares.ready
  refine ⟨⟨new, ready.symm⟩, spares.remote, ?_, outset.timers opened⟩
  cases outset with
  | single | again | forever => rfl
  | task name body entry found =>
    rw [← woken_spawn loop name body]
    change ((loop.spawn name body).2.whenDone entry.result .stopLoop).woken = _
    rw [whenDone_eq]
    split
    · rfl
    · rw [callSoon_eq]

end Loop

/-- The frame of a run is no stage. -/
theorem Frame.isStage_of_isRun {frame : Frame} (run : frame.isRun = true) : frame.isStage = false := by
  cases frame with
  | repeated | running => rfl
  | _ => cases run

namespace Machine

variable {machine failed counted : Machine} {within : Frame} {start : World} {lower : List Frame}

/-! ## What a poll leaves -/

/-- What waited when an iteration was about to begin is held by the loop after the poll. -/
structure Holds (start reached : World) : Prop where
  /-- The loop is open. -/
  opened : reached.loop.closed = false
  /-- What waited to be run is ready, in its order and before all that became ready meanwhile. -/
  ready : start.loop.backlog <+: reached.loop.ready
  /-- The idle tasks that were woken are due. -/
  due : ∀ id ∈ start.loop.idlers start.loop.woken, ∃ activity,
    start.loop.taskPhase? id = some (.idle activity) ∧ reached.loop.taskPhase? id = some (.queued activity)
  /-- The timers that were not cancelled still wait. -/
  timers : ∀ entry ∈ start.loop.timers.entries, start.loop.timers.isCancelled entry.id = false →
    entry ∈ reached.loop.timers.entries

/-- Whether a poll fails or not, what waited is held by the loop afterwards. -/
theorem Enters.holds (enters : Enters machine within start lower failed)
    (opened : machine.world.loop.closed = false) : Holds start (Machine.polled within start).2 := by
  have free : start.loop.closed = false := enters.opened opened
  have conserves := enters.polls.conserves
  obtain ⟨ready, tasks, closed⟩ := start.loop.kept_prepare start.host.kernel.now
  have collected : start.loop.collectRequests.closed = false := by
    obtain ⟨ids, -, roused⟩ := Loop.roused_collectRequests free
    exact roused.closed.trans free
  refine ⟨?_, ?_, fun id woken => ?_, fun entry waits live => ?_⟩
  · exact conserves.closed.trans (closed.trans collected)
  · rw [← Loop.ready_collectRequests free, ← ready]
    exact conserves.ready
  · obtain ⟨activity, idle, due⟩ := Loop.taskPhase?_collectRequests free woken
    refine ⟨activity, idle, ?_⟩
    have same : (Machine.polled within start).2.loop.tasks = start.loop.collectRequests.tasks :=
      conserves.tasks.trans tasks
    unfold Loop.taskPhase? at due ⊢
    rw [same]
    exact due
  · exact conserves.timers (Loop.mem_timers_prepare waits live _)

/-! ## Iterations that fail -/

/-- A step is about to begin an iteration, but the poll fails. -/
structure Fails (machine : Machine) (within : Frame) (start : World) (lower : List Frame) (error : IoError)
    (failed : Machine) : Prop where
  /-- The step. -/
  step : Step machine failed
  /-- It is about to begin the iteration. -/
  enters : Enters machine within start lower failed
  /-- The poll fails. -/
  poll : (polled within start).1 = .error error

/-- A step begins an iteration, and the poll succeeds. -/
structure Succeeds (machine : Machine) (within : Frame) (start : World) (lower : List Frame)
    (counted : Machine) : Prop where
  /-- The step. -/
  step : Step machine counted
  /-- It begins the iteration. -/
  enters : Enters machine within start lower counted
  /-- The poll succeeds. -/
  poll : (polled within start).1 = .ok ()

/-- A run of the loop comes to its end: it answers with a value, or the loop was given up and is closed before
that. -/
inductive Terminates (value : Value) (lower : List Frame) (machine : Machine) : Prop
  /-- The run answers. -/
  | answers (frames : machine.frames = lower) (signal : machine.signal = .answer value)
  /-- The loop is closed, and then the run answers. -/
  | closes (frames : machine.frames = .closing value :: lower) (signal : machine.signal = .proceed)

/-- A run that has ended answers, or the loop was given up and is to be closed. -/
theorem exists_leaveRun (value : Value) (world : World) : ∃ reached,
    leaveRun value world = (([], .answer value), reached) ∨
      leaveRun value world = (([.closing value], .proceed), reached) := by
  let left : World := { world with runs := world.runs - 1 }
  have unfolded : leaveRun value world =
      (if world.givenUp && decide (world.runs - 1 = 0) then beginClose value value
        else give (.answer value)) left := rfl
  rw [unfolded]
  split
  · have closing : beginClose value value left =
        (if world.loop.running then give (.answer value)
          else if world.loop.closed then give (.answer value)
          else do
            World.beginClose
            return ([.closing value], .proceed)) left := rfl
    rw [closing]
    split
    · exact ⟨left, Or.inl rfl⟩
    · split
      · exact ⟨left, Or.inl rfl⟩
      · exact ⟨_, Or.inr rfl⟩
  · exact ⟨left, Or.inl rfl⟩

/-- A run whose iteration failed ends with the error. -/
theorem exists_deliver_error {within : Frame} (run : within.isRun = true) (error : Error) (world : World) :
    ∃ left, deliver (.iterated (.error error)) within world = leaveRun (World.errorValue error) left := by
  cases within with
  | repeated left => exact ⟨world, rfl⟩
  | running goal =>
    cases goal with
    | none => exact ⟨_, rfl⟩
    | some task => exact ⟨_, rfl⟩
  | _ => cases run

/-- Once nothing that was given up is left to look at, a run whose iteration failed terminates with the error. -/
theorem terminates_of_failed {within : Frame} (run : within.isRun = true) (error : Error)
    {world : World} (clean : world.loop.dropped = []) (lower : List Frame) :
    (Machine.run 1 ⟨world, within :: lower, .iterated (.error error)⟩).Terminates
      (World.errorValue error) lower := by
  let stopped : Machine := ⟨world, within :: lower, .iterated (.error error)⟩
  have next : stopped.next = some (stopped.move lower (deliver (.iterated (.error error)) within)) :=
    next_of_done clean rfl rfl
  have moved : Machine.run 1 stopped = stopped.move lower (deliver (.iterated (.error error)) within) := by
    rw [Machine.run, next]
    rfl
  rw [show Machine.run 1 ⟨world, within :: lower, .iterated (.error error)⟩ = _ from moved]
  obtain ⟨left, delivered⟩ := exists_deliver_error run error stopped.holding
  obtain ⟨reached, answers | closes⟩ := exists_leaveRun (World.errorValue error) left
  · rw [move_eq (delivered.trans answers)]
    exact .answers rfl rfl
  · rw [move_eq (delivered.trans closes)]
    exact .closes rfl rfl

namespace Fails

variable {error : IoError}

/-- The iteration fails with the error of the poll, and nothing is started. -/
theorem made (fails : Fails machine within start lower error failed)
    (opened : machine.world.loop.closed = false) :
    failed = ⟨(polled within start).2, within :: lower, .iterated (.error (.ofIo error))⟩ := by
  rcases fails.enters.begins opened with ⟨other, failed, made⟩ | ⟨done, -⟩
  · cases failed.symm.trans fails.poll
    exact made
  · cases done.symm.trans fails.poll

/-- The run that the iteration belongs to terminates with the error, and nothing is started before that. -/
theorem terminates (fails : Fails machine within start lower error failed)
    (opened : machine.world.loop.closed = false) : ∃ moves,
      (failed.run moves).Terminates (World.errorValue (.ofIo error)) lower ∧
        ∀ fewer ≤ moves, (failed.run fewer).hand = none := by
  have made := fails.made opened
  have run := fails.enters.setsOut.run
  obtain ⟨moves, world, clean, meanwhile, rest⟩ := failed.exists_settled
  have terminated : (failed.run (moves + 1)).Terminates (World.errorValue (.ofIo error)) lower := by
    rw [rest 1, made]
    exact terminates_of_failed run _ clean lower
  refine ⟨moves + 1, terminated, fun fewer few => ?_⟩
  rcases Nat.lt_or_eq_of_le few with before | rfl
  · obtain ⟨other, same⟩ := meanwhile fewer (Nat.le_of_lt_succ before)
    rw [same, made]
    rfl
  · rcases terminated with ⟨-, signal⟩ | ⟨-, signal⟩
    · exact hand_of_isCall (by rw [signal]; rfl)
    · exact hand_of_isCall (by rw [signal]; rfl)

/-- The stages are those that were under way before. -/
theorem stages (fails : Fails machine within start lower error failed)
    (opened : machine.world.loop.closed = false) : failed.stages = machine.stages := by
  rw [fails.made opened, ← fails.enters.stages]
  exact List.filter_cons_of_neg (ne_true_of_eq_false (Frame.isStage_of_isRun fails.enters.setsOut.run))

end Fails

namespace Succeeds

/-- An iteration begins that is to take all that is ready, on top of the stages that were under way. -/
theorem stages (succeeds : Succeeds machine within start lower counted)
    (opened : machine.world.loop.closed = false) :
    counted.signal = .proceed ∧
      counted.stages = .iteration counted.world.loop.ready.length :: machine.stages := by
  rcases succeeds.enters.begins opened with ⟨error, failed, -⟩ | ⟨-, made⟩
  · cases failed.symm.trans succeeds.poll
  · rw [made, ← succeeds.enters.stages]
    refine ⟨rfl, ?_⟩
    unfold Machine.stages
    rw [List.filter_cons_of_pos rfl, List.filter_cons_of_neg
      (ne_true_of_eq_false (Frame.isStage_of_isRun succeeds.enters.setsOut.run))]

/-- What waited is ready first. -/
theorem ready (succeeds : Succeeds machine within start lower counted)
    (opened : machine.world.loop.closed = false) : start.loop.backlog <+: counted.world.loop.ready := by
  have holds := succeeds.enters.holds opened
  rcases succeeds.enters.begins opened with ⟨error, failed, -⟩ | ⟨-, made⟩
  · cases failed.symm.trans succeeds.poll
  · rw [made]
    exact holds.ready.trans ((List.prefix_append _ _).trans (Loop.ready_gather holds.opened _))

end Succeeds

/-! ## The next iteration -/

/-- What a run does from a failure on until the next iteration ends whose poll succeeds. -/
structure Recovers (failed before counted last after : Machine) (appended early added started : List Callback) :
    Prop where
  /-- It goes on to a state in which an iteration begins. -/
  waits : Traces IsOpen failed appended early before
  /-- The poll of the iteration succeeds. -/
  succeeds : ∃ within start lower, Succeeds before within start lower counted
  /-- The loop is open. -/
  opened : counted.IsOpen
  /-- The iteration is under way. -/
  lasts : Traces (fun state => state.IsOpen ∧ state.stages ≠ before.stages) counted added started last
  /-- It ends. -/
  ends : Step last after ∧ after.IsOpen ∧ after.stages = before.stages

/-- The failure of a poll is survived: nothing is started, and nothing is lost. -/
structure SurvivesFailure (machine : Machine) : Prop where
  /-- What waits before the step waits when the iteration is about to begin. -/
  begins : ∀ {within start lower error failed}, Fails machine within start lower error failed →
    machine.world.loop.ready <+: start.loop.ready ∧ start.loop.remote = machine.world.loop.remote ∧
      start.loop.woken = machine.world.loop.woken ∧ start.loop.timers = machine.world.loop.timers
  /-- The iteration ends with the error of the poll, and the run that it belongs to terminates with it. No
  callback is started. -/
  fails : ∀ {within start lower error failed}, Fails machine within start lower error failed →
    failed.signal = .iterated (.error (.ofIo error)) ∧
      ∃ moves, (failed.run moves).Terminates (World.errorValue (.ofIo error)) lower ∧
        ∀ fewer ≤ moves, (failed.run fewer).hand = none
  /-- What waited when the iteration was about to begin is held by the loop: what was to be run is ready, the
  idle tasks that were woken are due, and the timers that were not cancelled wait. -/
  holds : ∀ {within start lower error failed}, Fails machine within start lower error failed →
    Holds start failed.world
  /-- Had the poll succeeded, the same would be ready first in the same order. -/
  alike : ∀ {within start lower counted}, Succeeds machine within start lower counted →
    start.loop.backlog <+: counted.world.loop.ready
  /-- If no iteration is under way, nothing is started before the next one begins. -/
  rests : ∀ {within start lower error failed appended early before},
    Fails machine within start lower error failed → ¬ machine.Iterates →
      Traces (fun state => state.IsOpen ∧ ¬ state.Iterates) failed appended early before → early = []
  /-- By the end of the next iteration whose poll succeeds, all that waited was started, each once and in its
  order, and whatever else was started became ready after it. -/
  starts : ∀ {within start lower error failed before counted last after appended early added started arrived},
    Fails machine within start lower error failed →
      failed.world.loop.ready = start.loop.backlog ++ arrived →
        Recovers failed before counted last after appended early added started →
          ∃ others, early ++ started = start.loop.backlog ++ others ∧
            arrived ++ appended ++ before.newlyReady counted ++ added = others ++ last.world.loop.ready

/-- While no iteration is under way, none is begun and none was, nothing is started. -/
theorem Traces.none_started {sort : Machine → Prop} {first last : Machine} {appended early : List Callback}
    (traces : Traces sort first appended early last) (visits : Visits IsOpen first)
    (opens : ∀ state, sort state → state.IsOpen) (idle : ¬ first.Iterates)
    (idly : ∀ state, sort state → ¬ state.Iterates) : early = [] := by
  induction traces with
  | refl => rfl
  | @step appended early before after earlier step fine ih =>
    have reached : Visits IsOpen before := visits.onward (earlier.mono opens).onward
    have still : ¬ before.Iterates := by
      cases earlier with
      | refl => exact idle
      | step _ _ fine => exact idly _ fine
    rw [ih, List.nil_append]
    cases reached.goes (fun _ fine => fine) step (opens _ fine) with
    | taking left callback rest lower uncalled called ready loop stages =>
      exact absurd (iterates_iff.mpr ⟨_, stages ▸ List.mem_cons_self⟩) still
    | steady proceeds stale quiet | counting proceeds uncalled quiet | polling task activity called quiet
    | ending task value uncalled ended quiet | suspending task activity uncalled quiet
    | abandoning task uncalled quiet | deserting future uncalled quiet => rw [hand_of_isCall quiet]; rfl
    | finishing left uncalled ended => rw [hand_of_isCall (by rw [ended]; rfl)]; rfl

/-- The next iteration whose poll succeeds starts all that is ready when it begins. -/
theorem Recovers.starts {before counted last after : Machine} {appended early added started : List Callback}
    (recovers : Recovers failed before counted last after appended early added started)
    (visits : Visits IsOpen failed) : ∃ more,
      early ++ started = failed.world.loop.ready ++ appended ++ before.newlyReady counted ++ more ∧
        added = more ++ last.world.loop.ready := by
  obtain ⟨waits, ⟨within, start, lower, succeeds⟩, opened, lasts, ends, fine, stages⟩ := recovers
  have reached : Visits IsOpen before := visits.onward waits.onward
  have begun : Visits IsOpen counted := .step reached succeeds.step opened
  have opens (state : Machine) (fine : state.IsOpen) : state.world.loop.closed = false := fine
  obtain ⟨quiet, counts⟩ := succeeds.stages reached.fine
  have order := waits.order visits opens
  have order' := (lasts.mono fun _ => And.left).order begun opens
  have here : Visits IsOpen last := begun.onward (lasts.mono fun _ => And.left).onward
  have goes_on : Lasts False before.stages counted.world.loop.ready.length started.length last :=
    lasts.lasts begun (fun _ => And.left) opens (fun asked => asked.elim) (fun _ => And.right) counts
  have all : counted.world.loop.ready <+: started := by
    rcases goes_on.step (here.goes opens ends fine) (fun asked => asked.elim) with still | ⟨-, ended⟩
    · obtain ⟨upper, left, same, -⟩ := still.left
      rw [stages] at same
      exact absurd (congrArg List.length same) (by simp; omega)
    · exact (ended.starts order').1
  have newly : counted.world.loop.ready = before.world.loop.ready ++ before.newlyReady counted := by
    cases (reached.goes opens succeeds.step opened).queues with
    | appends new ready =>
      unfold newlyReady
      rw [ready, List.drop_left]
    | takes callback ready hand =>
      rw [hand_of_isCall (by rw [quiet]; rfl)] at hand
      cases hand
  obtain ⟨more, rfl⟩ := all
  refine ⟨more, ?_, ?_⟩
  · rw [← List.append_assoc, newly, ← List.append_assoc, ← order]
  · rw [List.append_assoc] at order'
    exact List.append_cancel_left order'

/-- In every state of every run on an open loop, the failure of a poll is survived. -/
theorem survivesFailure (visits : Visits IsOpen machine) : machine.SurvivesFailure := by
  have opened : machine.world.loop.closed = false := visits.fine
  have holds {within start lower error failed} (fails : Fails machine within start lower error failed) :
      Holds start failed.world := by
    have made := fails.made opened
    rw [made]
    exact fails.enters.holds opened
  have reached {within start lower error failed} (fails : Fails machine within start lower error failed) :
      Visits IsOpen failed := .step visits fails.step (holds fails).opened
  refine ⟨fun fails => fails.enters.setsOut.loop.waits opened,
    fun fails => ⟨?_, fails.terminates opened⟩, holds, fun succeeds => succeeds.ready opened,
    fun fails idle traces => ?_, fun fails ready recovers => ?_⟩
  · rw [fails.made opened]
  · refine traces.none_started (reached fails) (fun _ => And.left) (fun iterates => ?_) fun _ => And.right
    rw [iterates_iff, fails.stages opened, ← iterates_iff] at iterates
    exact idle iterates
  · obtain ⟨more, started, added⟩ := recovers.starts (reached fails)
    rw [ready] at started
    rw [added]
    simp only [List.append_assoc] at started ⊢
    exact ⟨_, started, by simp only [List.append_assoc]⟩

/-- A callback is ready, another thread asked for one, an idle task was woken, and a timer waits. The next poll
is to fail. -/
def faltering : Machine := scripted.drive openly 40
  [.spawn "a" [.wait (.park "w")], .runOnce 1, .callSoon "b" [], .callRemote "c" [], .task (.wake "w" true),
    .callLater "d" 9 [], .loop (.failPoll (.os .badDescriptor))]

/-- The next iteration fails, after which its run is all that is under way, and the loop holds three callbacks
and a timer. -/
theorem survivesFailure_faltering : SurvivesFailure faltering ∧ faltering.world.loop.backlog.length = 3 ∧
    (faltering.instructed (.runOnce 1)).world.loop.ready.length = 3 ∧
      (faltering.instructed (.runOnce 1)).frames.length = 1 ∧
        (faltering.instructed (.runOnce 1)).world.loop.timers.entries.length = 1 :=
  ⟨survivesFailure (visits_openly 40 _), by decide +kernel, by decide +kernel, by decide +kernel,
    by decide +kernel⟩

end Machine

end EventLoop
