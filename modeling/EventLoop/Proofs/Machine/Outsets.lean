import EventLoop.Proofs.Effect.Requests
import EventLoop.Proofs.Machine.Shutting

/-!
# Outsets

An iteration begins within a run, be it a new one or one that goes on. Up to then the step has only seen to it
that the run is known to the loop, so an iteration finds what was asked for and what was woken before the
step. Every other step that has to do with a run ends it and answers.
-/
namespace EventLoop

open Script (Body Instruction)
open World (Performs Settled Changes moving expiring trafficking hosting revoking requesting halting
  iterating polling turning openTo)

/-! ## How iterations find the loop -/

/-- How the loop is when an iteration is about to begin within the frame of a run, given how it was before the
step. -/
inductive Loop.Outset (loop : Loop) : Frame → Loop → Prop
  /-- A run of single iterations begins or goes on. -/
  | single (left : Nat) : Outset loop (.repeated left) loop
  /-- A run goes on, which is not to return. -/
  | again (goal : Option TaskId) (onward : loop.stopping = false) : Outset loop (.running goal) loop
  /-- A run begins. -/
  | forever : Outset loop (.running none) { loop with running := true }
  /-- A run for a task begins, which is a new one. -/
  | task (name : String) (body : Body) (entry : Task)
      (found : (loop.spawn name body).2.tasks.get? (loop.spawn name body).1 = some entry) :
      Outset loop (.running (some (loop.spawn name body).1))
        { (loop.spawn name body).2.whenDone entry.result .stopLoop with running := true }

namespace Loop.Outset

variable {loop start : Loop} {within : Frame}

/-- Nothing else is asked for before the iteration begins, and nothing that was asked for is taken over. -/
theorem spares (outset : loop.Outset within start) :
    loop.Spares { start with running := loop.running } := by
  cases outset with
  | single | again | forever => exact .of_eq rfl rfl rfl rfl rfl
  | task name body entry found =>
    have begun := (Spares.spawn loop name body).trans (.whenDone _ entry.result .stopLoop)
    have flags := begun.flags
    simp only [Loop.flags, Prod.mk.injEq] at flags
    refine ⟨begun.closed, begun.ready, begun.remote, ?_, begun.timers⟩
    simp only [Loop.flags, Prod.mk.injEq]
    exact ⟨flags.1, trivial, flags.2.2⟩

/-- What other threads asked for is what they asked for before. -/
theorem remoteCalls (outset : loop.Outset within start) : start.remoteCalls = loop.remoteCalls :=
  outset.spares.remoteCalls

/-- The loop was asked to return if and only if it was before. -/
theorem stops (outset : loop.Outset within start) :
    start.remoteStop = loop.remoteStop ∧ start.stopping = loop.stopping := by
  have flags := outset.spares.flags
  simp only [Loop.flags, Prod.mk.injEq] at flags
  exact ⟨flags.1, flags.2.2⟩

/-- The world in which an iteration begins is as closed as the loop before. -/
theorem closed (outset : loop.Outset within start) : start.closed = loop.closed := outset.spares.closed

/-- What other threads asked for is told apart at the outset of an iteration, too. -/
theorem marked (outset : loop.Outset within start) (marked : loop.Marked) : start.Marked :=
  ⟨(outset.spares.marked marked).remote, (outset.spares.marked marked).timers⟩

end Loop.Outset

namespace Machine

variable {machine after : Machine} {within : Frame} {start : World} {lower : List Frame}

/-- An iteration is about to begin within the frame of a run. -/
structure SetsOut (world : World) (within : Frame) (start : World) : Prop where
  /-- This is how it finds the loop. -/
  loop : world.loop.Outset within start.loop
  /-- The kernel has done nothing. -/
  kernel : start.host.kernel = world.host.kernel
  /-- What completes operations is the same. -/
  completer : start.completer = world.completer
  /-- The frame is that of a run. -/
  run : within.isRun = true

/-- A step begins an iteration within the frame of a run, unless polling fails. -/
structure Enters (machine : Machine) (within : Frame) (start : World) (lower : List Frame)
    (after : Machine) : Prop where
  /-- The iteration is about to begin. -/
  setsOut : SetsOut machine.world within start
  /-- What is under way is kept alive. -/
  bounds : start.Within (openTo machine.held) 0
  /-- The stages below are those that were under way. -/
  stages : lower.filter Frame.isStage = machine.stages
  /-- The iteration begins on top of other frames. -/
  made : after = ⟨(beginIteration within start).2, (beginIteration within start).1.1 ++ lower,
    (beginIteration within start).1.2⟩

/-- A step ends a run, which answers. -/
structure Leaves (frame : Frame) (machine after : Machine) : Prop where
  /-- The end of an iteration was received. -/
  received : ∃ result, machine.signal = .iterated result
  /-- The frame is that of a run. -/
  run : frame.isRun = true
  /-- The frame of the run is gone. -/
  frames : machine.frames = frame :: after.frames
  /-- The run answers. -/
  answers : ∃ value, after.signal = .answer value
  /-- What became ready and what other threads asked for is left alone. -/
  spares : machine.world.loop.Spares
    { after.world.loop with running := machine.world.loop.running, stopping := machine.world.loop.stopping }
  /-- A run of single iterations leaves alone whether the loop runs and whether it is to return. -/
  keeps : ∀ count, frame = .repeated count → after.world.loop.running = machine.world.loop.running ∧
    after.world.loop.stopping = machine.world.loop.stopping
  /-- A run that goes on until it is asked to return leaves a loop that does not run and is not to return. -/
  idle : ∀ goal, frame = .running goal →
    after.world.loop.running = false ∧ after.world.loop.stopping = false

/-! ## Instructions that begin iterations -/

/-- A run that begins on a free loop begins an iteration. -/
theorem beginRun_of_free (goal : Option TaskId) {world : World} (free : world.loop.isFree = true) :
    beginRun goal world =
      beginIteration (.running goal) { world with loop := { world.loop with running := true } } := by
  have both : world.loop.closed = false ∧ world.loop.running = false := by
    simpa [Loop.isFree] using free
  unfold beginRun
  change (if world.loop.closed then _ else _ : WorldM Move) world = _
  rw [both.1, if_neg Bool.false_ne_true, both.2, if_neg Bool.false_ne_true]
  rfl

/-- A task that is begun on an open loop is added, and nothing else happens. -/
theorem spawn_of_open (name : String) (body : Body) {world : World} (opened : world.loop.closed = false) :
    World.spawn name body world =
      ((world.loop.spawn name body).1, { world with loop := (world.loop.spawn name body).2 }) := by
  have still : (world.loop.spawn name body).2.closed = false :=
    (Loop.Spares.spawn world.loop name body).closed.trans opened
  unfold World.spawn
  simp only [StateM.bind_apply, StateM.get_apply, World.onLoop_apply, still]
  rfl

/-- An instruction that begins an iteration does so after the loop knows of the run. -/
theorem exists_setsOut (runner : Runner) {instruction : Instruction} {world : World}
    (iterates : instruction.iterates world.loop = true) :
    ∃ within start, SetsOut world within start ∧
      (∀ held, world.Within (openTo held) 0 → start.Within (openTo held) 0) ∧
        beginInstruction runner instruction world = beginIteration within start := by
  let entered : World := { world with runs := world.runs + 1 }
  have enters : enterRun world = ((), entered) := rfl
  have enrolled (held : List Ref) (bounds : world.Within (openTo held) 0) :
      entered.Within (openTo held) 0 :=
    (World.Change.surroundings world world.host world.vars (world.runs + 1) world.givenUp).within bounds
  have runs {reached : World} {held : List Ref} (opened : reached.loop.closed = false)
      (bounds : reached.Within (openTo held) 0) :
      World.Within (openTo held) 0 { reached with loop := { reached.loop with running := true } } :=
    (World.Change.flags reached true reached.loop.stopping fun closed =>
      absurd (closed.symm.trans opened) (by decide)).within bounds
  cases instruction with
  | runOnce times =>
    cases times with
    | zero => cases iterates
    | succ times => exact ⟨.repeated times, entered, ⟨.single times, rfl, rfl, rfl⟩, enrolled, rfl⟩
  | runForever =>
    have both : world.loop.closed = false ∧ world.loop.running = false := by
      simpa [Instruction.iterates, Loop.isFree] using iterates
    let start : World := { entered with loop := { world.loop with running := true } }
    have begun : beginRun none entered = beginIteration (.running none) start :=
      beginRun_of_free none iterates
    refine ⟨.running none, start, ⟨.forever, rfl, rfl, rfl⟩, fun held bounds => ?_, begun⟩
    exact runs both.1 (enrolled held bounds)
  | runUntilComplete name body =>
    have both : world.loop.closed = false ∧ world.loop.running = false := by
      simpa [Instruction.iterates, Loop.isFree] using iterates
    obtain ⟨entry, found⟩ := Table.exists_get?_of_lt_size (Loop.lt_size_spawn world.loop name body)
    let spawned := world.loop.spawn name body
    let awaited := spawned.2.whenDone entry.result .stopLoop
    let start : World := { entered with loop := { awaited with running := true } }
    have spawns : World.spawn name body entered = (spawned.1, { entered with loop := spawned.2 }) :=
      spawn_of_open name body both.1
    have free : awaited.isFree = true := by
      have before := isFree_spawn name body entered
      rw [spawns] at before
      exact (isFree_whenDone _ entry.result .stopLoop).trans (before.trans iterates)
    have begun : beginInstruction runner (.runUntilComplete name body) world =
        beginIteration (.running (some spawned.1)) start := by
      have again : beginRun (some spawned.1) { entered with loop := awaited } =
          beginIteration (.running (some spawned.1)) start := beginRun_of_free _ free
      simp only [beginInstruction, StateM.bind_apply, StateM.get_apply, enters, spawns, spawned, found]
      exact again
    refine ⟨.running (some spawned.1), start, ⟨.task name body entry found, rfl, rfl, rfl⟩, ?_, begun⟩
    intro held bounds
    have added := (World.Change.spawned entered name body trivial).within (enrolled held bounds)
    have watched := (World.Change.registered { entered with loop := spawned.2 } entry.result .stopLoop rfl
      rfl).within added
    have opened : awaited.closed = false := by
      have both : awaited.closed = false ∧ awaited.running = false := by
        simpa [Loop.isFree] using free
      exact both.1
    exact @runs { entered with loop := awaited } held opened watched
  | _ => cases iterates

/-! ## Runs that end -/

/-- A run that has ended answers, unless the loop is closed then. -/
theorem leaveRun_of_open (value : Value) {world : World}
    (opened : (leaveRun value world).2.loop.closed = false) :
    leaveRun value world = (([], .answer value), { world with runs := world.runs - 1 }) := by
  have unfolded : leaveRun value world =
      (if world.givenUp && decide (world.runs - 1 = 0) then Machine.beginClose value value
        else give (.answer value)) { world with runs := world.runs - 1 } := rfl
  rw [unfolded] at opened ⊢
  split
  · rename_i last
    rw [if_pos last] at opened
    have closing : Machine.beginClose value value { world with runs := world.runs - 1 } =
        (if world.loop.running then give (.answer value)
          else if world.loop.closed then give (.answer value)
          else do
            World.beginClose
            return ([.closing value], .proceed)) { world with runs := world.runs - 1 } := rfl
    rw [closing] at opened ⊢
    split
    · rfl
    · rename_i idle
      rw [if_neg idle] at opened
      split
      · rfl
      · rename_i before
        rw [if_neg before] at opened
        have shut : (World.beginClose { world with runs := world.runs - 1 }).2.loop.closed = true :=
          World.closed_beginClose _
        exact absurd (shut.symm.trans opened) (by decide)
  · rfl

/-- The result of a run is moved out of a future at most. -/
theorem exists_runResult (goal : Option TaskId) (result : Except Error Unit) (world : World) :
    ∃ value futures, runResult goal result world =
      (value, { world with loop := { world.loop with futures } }) := by
  unfold runResult
  cases goal with
  | none => exact ⟨_, world.loop.futures, rfl⟩
  | some id =>
    cases result with
    | error error => exact ⟨_, world.loop.futures, rfl⟩
    | ok =>
      simp only [StateM.bind_apply, StateM.get_apply]
      cases world.loop.tasks.get? id with
      | none => exact ⟨_, world.loop.futures, rfl⟩
      | some task =>
        dsimp only
        cases world.loop.futures.get? task.result with
        | none => exact ⟨_, world.loop.futures, rfl⟩
        | some future =>
          dsimp only
          cases future.isDone with
          | false => exact ⟨_, world.loop.futures, rfl⟩
          | true => exact ⟨_, world.loop.futures.modify task.result fun _ => future.take.2, rfl⟩

/-- A run that ends on a loop that is open afterwards answers, and leaves nothing of the loop but a future and
what was given up otherwise than it was. -/
theorem endRun_of_open (goal : Option TaskId) (result : Except Error Unit) {world : World}
    (opened : (endRun goal result world).2.loop.closed = false) :
    ∃ value futures dropped, (endRun goal result world).1 = ([], .answer value) ∧
      (endRun goal result world).2.loop = { world.loop with futures, dropped } := by
  obtain ⟨value, futures, ended⟩ := exists_runResult goal result world
  cases goal with
  | none =>
    have unfolded : endRun none result world =
        leaveRun value { world with loop := { world.loop with futures } } := by
      unfold endRun
      rw [StateM.bind_apply, ended]
    rw [unfolded] at opened ⊢
    rw [leaveRun_of_open value opened]
    exact ⟨value, futures, world.loop.dropped, rfl, rfl⟩
  | some id =>
    have unfolded : endRun (some id) result world = leaveRun value { world with
        loop := { world.loop with futures, dropped := world.loop.dropped ++ [.task id] } } := by
      unfold endRun
      rw [StateM.bind_apply, ended]
      rfl
    rw [unfolded] at opened ⊢
    rw [leaveRun_of_open value opened]
    exact ⟨value, futures, world.loop.dropped ++ [.task id], rfl, rfl⟩

/-! ## Steps -/

/-- What has to do with the runs of the loop or with what other threads ask for. -/
def steering : List Aspect := [.progress, .runs, .requests, .taking, .closing]

/-- Moving does not steer the loop. -/
theorem steering_not_moving : ∀ aspect ∈ moving, aspect ∉ steering := by decide

/-- What is done when a time is up does not steer the loop. -/
theorem steering_not_expiring : ∀ aspect ∈ expiring, aspect ∉ steering := by decide

/-- What is done when the loop is to return does not steer it. -/
theorem steering_not_halting : ∀ aspect ∈ halting, aspect ∉ steering := by decide

/-- What has to do with transports does not steer the loop. -/
theorem steering_not_trafficking : ∀ aspect ∈ trafficking, aspect ∉ steering := by decide

/-- What is asked of the host does not steer the loop. -/
theorem steering_not_hosting : ∀ aspect ∈ hosting, aspect ∉ steering := by decide

/-- What polling does does not steer the loop. -/
theorem steering_not_polling : ∀ aspect ∈ polling, aspect ∉ steering := by decide

/-- What a step has to do with the runs of the loop and with what other threads ask for. -/
inductive Steers (machine after : Machine) : Prop
  /-- An iteration begins, unless polling fails. -/
  | enters (within : Frame) (start : World) (lower : List Frame)
      (enters : Enters machine within start lower after)
  /-- A run ends. -/
  | leaves (frame : Frame) (leaves : Leaves frame machine after)
  /-- Something is asked for on behalf of another thread. -/
  | requests (instruction : Instruction) (requests : instruction.requests = true)
      (calls : Calls instruction machine after)
  /-- An iteration takes a callback or ends. -/
  | takes (left : Nat) (below : List Frame) (signal : machine.signal = .proceed)
      (split : machine.frames = .iteration left :: below)
      (made : after = machine.move below (stepIteration left))
  /-- The step has to do with neither. -/
  | apart (aspects : List Aspect) (more : moving ⊆ aspects) (others : ∀ aspect ∈ aspects, aspect ∉ steering)
      (passes : machine.Passes aspects after)

/-- A body begins an iteration or asks for something by its first instruction, if at all. -/
theorem bodyAspects_apart_or (loop : Loop) (body : Body) :
    (∃ instruction rest, body = instruction :: rest ∧
        (instruction.iterates loop = true ∨ instruction.requests = true)) ∨
      ∀ aspect ∈ bodyAspects loop body, aspect ∉ steering := by
  cases body with
  | nil => exact Or.inr steering_not_moving
  | cons instruction rest =>
    by_cases which : instruction.iterates loop = true ∨ instruction.requests = true
    · exact Or.inl ⟨instruction, rest, rfl, which⟩
    · right
      rw [not_or, Bool.not_eq_true, Bool.not_eq_true] at which
      change ∀ aspect ∈ instruction.aspects loop, aspect ∉ steering
      unfold Instruction.aspects Instruction.base
      rw [which.1, which.2]
      simp only [Bool.false_eq_true, ↓reduceIte]
      split
      · exact steering_not_halting
      · split
        · exact steering_not_trafficking
        · split
          · exact steering_not_hosting
          · split
            · decide
            · split
              · decide
              · exact steering_not_moving

/-- A step that evaluates to the beginning of an iteration enters it, with some frames more below. -/
theorem Sound.enters_move (sound : machine.Sound False) {frames : List Frame} {step : WorldM Move}
    (setsOut : SetsOut machine.world within start)
    (bounds : machine.holding.Within (openTo machine.held) 0 → start.Within (openTo machine.held) 0)
    (stages : (lower ++ frames).filter Frame.isStage = machine.stages)
    (made : step machine.holding =
      (((beginIteration within start).1.1 ++ lower, (beginIteration within start).1.2),
        (beginIteration within start).2)) :
    Enters machine within start (lower ++ frames) (machine.move frames step) := by
  refine ⟨setsOut, bounds sound.within, stages, ?_⟩
  have moved : machine.move frames step =
      ⟨(step machine.holding).2, (step machine.holding).1.1 ++ frames, (step machine.holding).1.2⟩ := rfl
  rw [moved, made, List.append_assoc]

/-- An instruction that begins an iteration enters it on top of a frame for the rest. -/
theorem Sound.enters_beginInstruction (sound : machine.Sound False) (runner : Runner)
    {instruction : Instruction} {frame : Frame} {step : WorldM Move}
    (iterates : instruction.iterates machine.world.loop = true) (apart : frame.isStage = false)
    (begins : step = do
      let (frames, signal) ← beginInstruction runner instruction
      return (frames ++ [frame], signal)) :
    ∃ within start lower, Enters machine within start lower (machine.move machine.frames step) := by
  obtain ⟨within, start, setsOut, bounds, made⟩ :=
    @exists_setsOut runner instruction machine.holding iterates
  have stages : ([frame] ++ machine.frames).filter Frame.isStage = machine.stages := by
    rw [List.singleton_append, List.filter_cons_of_neg (by simp [apart])]
    rfl
  have same : SetsOut machine.world within start :=
    ⟨setsOut.loop, setsOut.kernel, setsOut.completer, setsOut.run⟩
  refine ⟨within, start, [frame] ++ machine.frames, sound.enters_move same (bounds machine.held) stages ?_⟩
  rw [begins, StateM.bind_apply, made]
  rfl

/-- A program that goes on with such an instruction enters the iteration. -/
theorem Sound.enters_stepProgram (sound : machine.Sound False) {task : TaskId} {last : Value}
    {instruction : Instruction} {rest : Body} (iterates : instruction.iterates machine.world.loop = true) :
    ∃ within start lower, Enters machine within start lower
      (machine.move machine.frames (stepProgram task last (instruction :: rest))) := by
  have begins : stepProgram task last (instruction :: rest) = do
      let (frames, signal) ← beginInstruction (.program task) instruction
      return (frames ++ [.program task instruction.label rest], signal) := by
    cases instruction with
    | runOnce | runForever | runUntilComplete => rfl
    | _ => cases iterates
  exact sound.enters_beginInstruction (.program task) iterates
    (show (Frame.program task instruction.label rest).isStage = false from rfl) begins

/-- A signal that is acted on. -/
theorem Sound.steers_act (sound : machine.Sound False) {step : WorldM Move}
    (clean : machine.world.loop.dropped = []) (acts : act? machine.signal = some step) :
    Steers machine (machine.move machine.frames step) := by
  have passes := (sound.act acts fun asked => asked.elim).2
  have moves := next_of_act clean acts
  have apart (others : ∀ aspect ∈ machine.signal.base machine.world.loop, aspect ∉ steering) :
      Steers machine (machine.move machine.frames step) := by
    apply Steers.apart _ (machine.signal.moving_subset machine.world.loop) _ passes
    exact Signal.forall_aspects (by decide) others
  cases signal : machine.signal with
  | script actor body =>
    rw [signal] at acts apart
    cases acts
    rcases bodyAspects_apart_or machine.world.loop body with ⟨instruction, rest, rfl, which⟩ | others
    · rcases which with iterates | requests
      · obtain ⟨within, start, lower, enters⟩ := sound.enters_beginInstruction (.script actor) iterates
          (show (Frame.script actor instruction.label rest).isStage = false from rfl) rfl
        exact .enters within start lower enters
      · exact .requests instruction requests (.script actor rest clean signal moves)
    · exact apart others
  | program task last body =>
    rw [signal] at acts apart
    cases acts
    rcases bodyAspects_apart_or machine.world.loop body with ⟨instruction, rest, rfl, which⟩ | others
    · rcases which with iterates | requests
      · obtain ⟨within, start, lower, enters⟩ := sound.enters_stepProgram iterates
        exact .enters within start lower enters
      · exact .requests instruction requests (.program task last rest clean signal moves)
    · exact apart others
  | call callback =>
    rw [signal] at apart
    exact apart (@Callback.of_aspects (fun aspects => ∀ aspect ∈ aspects, aspect ∉ steering) callback
      (fun _ _ => steering_not_polling) steering_not_trafficking steering_not_hosting steering_not_expiring
      steering_not_moving)
  | proceed | answer | iterated | resume | retry | join | select | ended | returned | suspended
  | waiting =>
    rw [signal] at apart
    exact apart steering_not_moving

/-- A run that receives the end of an iteration enters the next one or ends. -/
def Turns (machine after : Machine) : Prop :=
  (∃ within start lower, Enters machine within start lower after) ∨ ∃ frame, Leaves frame machine after

/-- A run that receives the end of an iteration begins the next one in the world that it finds. -/
theorem Sound.enters_again (sound : machine.Sound False) {frame : Frame} {below : List Frame}
    {step : WorldM Move} (split : machine.frames = frame :: below)
    (outset : machine.world.loop.Outset within machine.world.loop) (apart : frame.isStage = false)
    (run : within.isRun = true) (made : step machine.holding = beginIteration within machine.holding) :
    Turns machine (machine.move below step) := by
  have stages : ([] ++ below).filter Frame.isStage = machine.stages := by
    unfold Machine.stages
    rw [split, List.filter_cons_of_neg (by simp [apart]), List.nil_append]
  have setsOut : SetsOut machine.world within machine.holding := ⟨outset, rfl, rfl, run⟩
  refine Or.inl ⟨within, machine.holding, [] ++ below, sound.enters_move setsOut id stages ?_⟩
  rw [made, List.append_nil]
  rfl

/-- A run of single iterations receives the end of one. -/
theorem Sound.turns_repeated (sound : machine.Sound False) {count : Nat} {below : List Frame}
    {result : Except Error Unit} (signal : machine.signal = .iterated result)
    (split : machine.frames = .repeated count :: below)
    (opened : (machine.move below (iteratedTo result (.repeated count))).world.loop.closed = false) :
    Turns machine (machine.move below (iteratedTo result (.repeated count))) := by
  have ends (value : Value) (step : WorldM Move) (same : step = leaveRun value)
      (opened : (machine.move below step).world.loop.closed = false) :
      Turns machine (machine.move below step) := by
    subst same
    have still : (leaveRun value machine.holding).2.loop.closed = false := opened
    have left := leaveRun_of_open value still
    have made := @move_eq machine below [] _ _ _ left
    rw [made]
    refine Or.inr ⟨.repeated count, ⟨result, signal⟩, rfl, split, ⟨value, rfl⟩, ?_, ?_, ?_⟩
    · exact .of_eq rfl rfl rfl rfl rfl
    · exact fun _ _ => ⟨rfl, rfl⟩
    · intro goal same
      cases same
  cases result with
  | error error => exact ends _ _ (by cases count <;> rfl) opened
  | ok =>
    cases count with
    | zero => exact ends _ _ rfl opened
    | succ left => exact sound.enters_again split (.single left) rfl rfl rfl

/-- What a run does that receives the end of an iteration. -/
theorem iteratedTo_running (goal : Option TaskId) (result : Except Error Unit) (world : World) :
    iteratedTo result (.running goal) world =
      if result.toBool && !world.loop.stopping then beginIteration (.running goal) world
      else endRun goal result { world with
        loop := { world.loop with stopping := false, running := false } } := by
  have unfolded : iteratedTo result (.running goal) world =
      (if result.toBool && !world.loop.stopping then beginIteration (.running goal)
        else do
          World.changeLoop fun loop => { loop with stopping := false, running := false }
          endRun goal result) world := rfl
  rw [unfolded]
  split
  · rfl
  · rfl

/-- A run that is to return ends when it receives the end of an iteration, and so does one whose iteration
failed. -/
theorem leaves_running {goal : Option TaskId} {below : List Frame} {result : Except Error Unit}
    (signal : machine.signal = .iterated result) (split : machine.frames = .running goal :: below)
    (finished : (result.toBool && !machine.world.loop.stopping) = false)
    (opened : (machine.move below (iteratedTo result (.running goal))).world.loop.closed = false) :
    Leaves (.running goal) machine (machine.move below (iteratedTo result (.running goal))) := by
  let idle : World := { machine.holding with
    loop := { machine.holding.loop with stopping := false, running := false } }
  have ends : iteratedTo result (.running goal) machine.holding = endRun goal result idle := by
    rw [iteratedTo_running]
    exact if_neg (ne_true_of_eq_false finished)
  have opened : (endRun goal result idle).2.loop.closed = false := ends ▸ opened
  obtain ⟨value, futures, dropped, move, loop⟩ := endRun_of_open goal result opened
  have made : iteratedTo result (.running goal) machine.holding =
      (([], .answer value), (endRun goal result idle).2) := by
    rw [ends, ← move]
    rfl
  rw [@move_eq machine below [] _ _ _ made]
  refine ⟨⟨result, signal⟩, rfl, split, ⟨value, rfl⟩, ?_, ?_, fun _ _ => ?_⟩
  · rw [loop]
    exact .of_eq rfl rfl rfl rfl rfl
  · intro count same
    cases same
  · rw [loop]
    exact ⟨rfl, rfl⟩

/-- A run that goes on until the loop is asked to return receives the end of an iteration. -/
theorem Sound.turns_running (sound : machine.Sound False) {goal : Option TaskId} {below : List Frame}
    {result : Except Error Unit} (signal : machine.signal = .iterated result)
    (split : machine.frames = .running goal :: below)
    (opened : (machine.move below (iteratedTo result (.running goal))).world.loop.closed = false) :
    Turns machine (machine.move below (iteratedTo result (.running goal))) := by
  cases onward : result.toBool && !machine.world.loop.stopping with
  | false => exact Or.inr ⟨.running goal, leaves_running signal split onward opened⟩
  | true =>
    have stays : machine.world.loop.stopping = false := by
      simp only [Bool.and_eq_true, Bool.not_eq_true'] at onward
      exact onward.2
    apply sound.enters_again split (.again goal stays) rfl rfl
    rw [iteratedTo_running]
    exact if_pos onward

/-- A frame of a run that receives what was just done. -/
theorem Sound.turns (sound : machine.Sound False) {frame : Frame} {below : List Frame}
    (done : act? machine.signal = none) (split : machine.frames = frame :: below) (run : frame.isRun = true)
    (opened : (machine.move below (Machine.deliver machine.signal frame)).world.loop.closed = false) :
    Turns machine (machine.move below (Machine.deliver machine.signal frame)) := by
  have takes : frame.Takes machine.signal.demand := (split ▸ sound.fits).1
  cases frame with
  | repeated left =>
    obtain ⟨result, signal⟩ := takes.eq_iterated rfl done
    rw [signal] at opened ⊢
    exact sound.turns_repeated signal split opened
  | running goal =>
    obtain ⟨result, signal⟩ := takes.eq_iterated rfl done
    rw [signal] at opened ⊢
    exact sound.turns_running signal split opened
  | _ => cases run

/-- A frame that receives what was just done. -/
theorem Sound.steers_deliver (sound : machine.Sound False) {frame : Frame} {below : List Frame}
    (clean : machine.world.loop.dropped = []) (done : act? machine.signal = none)
    (split : machine.frames = frame :: below)
    (opened : (machine.move below (Machine.deliver machine.signal frame)).world.loop.closed = false) :
    Steers machine (machine.move below (Machine.deliver machine.signal frame)) := by
  have passes := (sound.deliver clean done split fun asked => asked.elim).2
  have takes : frame.Takes machine.signal.demand := (split ▸ sound.fits).1
  have apart (others : ∀ aspect ∈ frame.aspects, aspect ∉ steering) :
      Steers machine (machine.move below (Machine.deliver machine.signal frame)) :=
    .apart _ frame.moving_subset others passes
  cases frame with
  | iteration left =>
    have signal := takes.eq_proceed rfl done
    exact .takes left below signal split (by rw [signal]; rfl)
  | repeated | running =>
    rcases sound.turns done split rfl opened with ⟨within, start, lower, enters⟩ | ⟨frame, leaves⟩
    · exact .enters within start lower enters
    · exact .leaves frame leaves
  | closing => exact (sound.not_closing split passes opened).elim
  | poll => exact apart steering_not_polling
  | afterData | afterEnd | afterLoss => exact apart steering_not_trafficking
  | script | program | letGo | holding | rounds | joining | selecting => exact apart steering_not_moving

/-- An instruction from outside that begins an iteration enters it. -/
theorem Sound.enters_instructed (sound : machine.Sound False) (halted : machine.next = none)
    {instruction : Instruction} (iterates : instruction.iterates machine.world.loop = true) :
    ∃ within start lower, Enters machine within start lower (machine.instructed instruction) := by
  obtain ⟨-, empty, value, signal⟩ := sound.answered halted
  let start : Machine := ⟨(Scenario.takeLog machine.world).2, [], .proceed⟩
  obtain ⟨within, begun, setsOut, bounds, made⟩ :=
    @exists_setsOut .outside instruction start.holding iterates
  have stages : [].filter Frame.isStage = machine.stages := by
    unfold Machine.stages
    rw [empty]
  have looked : start.holding.Within (openTo machine.held) 0 := by
    rw [sound.held_of_halted halted]
    exact sound.within_outside halted
  have same : SetsOut machine.world within begun :=
    ⟨setsOut.loop, setsOut.kernel, setsOut.completer, setsOut.run⟩
  refine ⟨within, begun, [], same, bounds machine.held looked, stages, ?_⟩
  have moved : machine.instructed instruction = ⟨(beginInstruction .outside instruction start.holding).2,
      (beginInstruction .outside instruction start.holding).1.1 ++ [],
      (beginInstruction .outside instruction start.holding).1.2⟩ := rfl
  rw [moved, made]

/-- An instruction from outside that is begun. -/
theorem Sound.steers_instructed (sound : machine.Sound False) (halted : machine.next = none)
    (instruction : Instruction) : Steers machine (machine.instructed instruction) := by
  rcases bodyAspects_apart_or machine.world.loop [instruction] with ⟨_, _, same, which⟩ | others
  · cases same
    rcases which with iterates | requests
    · obtain ⟨within, start, lower, enters⟩ := sound.enters_instructed halted iterates
      exact .enters within start lower enters
    · exact .requests instruction requests (.outside halted)
  · exact .apart _ (instruction.moving_subset _) others (sound.instructed halted instruction).2

/-- Every step of a run on an open loop enters an iteration, ends a run, asks for something, goes on with an
iteration, or has to do with none of that. -/
theorem Sound.steers (sound : machine.Sound False) (step : Step machine after)
    (opened : after.world.loop.closed = false) : Steers machine after := by
  cases step.does with
  | @settled ref refs dropped =>
    have others : ∀ aspect ∈ ref.aspects, aspect ∉ steering := by
      cases ref with
      | future => exact (by decide : ∀ aspect ∈ .deserting :: moving, aspect ∉ steering)
      | task | socket | transport | server => exact steering_not_moving
    exact .apart _ ref.moving_subset others (sound.settle dropped fun asked => asked.elim).2
  | acted clean acts => exact sound.steers_act clean acts
  | delivered clean done split => exact sound.steers_deliver clean done split opened
  | begun halted instruction => exact sound.steers_instructed halted instruction

/-! ## Every iteration that begins -/

/-- A run does not begin on a loop that is not free. -/
theorem sedate_beginRun (goal : Option TaskId) {world : World} (busy : world.loop.isFree = false) :
    (beginRun goal world).1.Sedate False (beginRun goal world).2 := by
  unfold beginRun
  change ((if world.loop.closed then _ else _ : WorldM Move) world).1.Sedate False
    ((if world.loop.closed then _ else _ : WorldM Move) world).2
  split
  · exact MovesSedately.endRun goal _ world
  · split
    · exact MovesSedately.endRun goal _ world
    · rename_i opened idle
      simp [Loop.isFree, opened, idle] at busy

/-- Other instructions than those that begin an iteration leave no frame of one. -/
theorem sedate_beginInstruction (runner : Runner) {instruction : Instruction} {world : World}
    (others : instruction.iterates world.loop = false) :
    (beginInstruction runner instruction world).1.Sedate False (beginInstruction runner instruction world).2 := by
  unfold beginInstruction
  split
  · split
    · exact MovesSedately.give rfl world
    · cases others
  · exact sedate_beginRun none others
  · rename_i name body
    let spawned := World.spawn name body { world with runs := world.runs + 1 }
    have busy : spawned.2.loop.isFree = false := (isFree_spawn name body _).trans others
    have entered : enterRun world = ((), { world with runs := world.runs + 1 }) := rfl
    simp only [StateM.bind_apply, StateM.get_apply, entered]
    cases spawned.2.loop.tasks.get? spawned.1 with
    | none => exact sedate_beginRun (some spawned.1) busy
    | some entry =>
      apply sedate_beginRun (some spawned.1)
      exact (isFree_whenDone spawned.2.loop entry.result .stopLoop).trans busy
  · exact MovesSedately.beginClose _ _ world
  · exact MovesSedately.giveUp world
  · split
    · exact MovesSedately.beginProgramInstruction _ _ world
    · exact MovesSedately.bind (fun _ => MovesSedately.give rfl) world

/-- A step on the way into an iteration runs no callback. -/
theorem Goes.uncalled {count : Nat} (goes : Goes machine after)
    (begins : after.stages = .iteration count :: machine.stages) : machine.signal.isCall = false := by
  cases goes with
  | steady _ _ _ stages =>
    rw [stages] at begins
    exact absurd (congrArg List.length begins) (by simp)
  | polling _ _ _ _ _ _ stages =>
    rw [stages] at begins
    cases begins
  | counting _ uncalled | taking _ _ _ _ uncalled | finishing _ uncalled | ending _ _ uncalled
  | suspending _ _ uncalled | abandoning _ uncalled | deserting _ uncalled => exact uncalled

/-- A move that leaves no frame of an iteration begins none. -/
theorem not_begins_of_sedate {below : List Frame} {step : WorldM Move} {count : Nat}
    (sedate : (step machine.holding).1.Sedate False (step machine.holding).2)
    (fewer : below.Sublist machine.frames) :
    (machine.move below step).stages ≠ .iteration count :: machine.stages := by
  cases sedate with
  | counted allowed => exact allowed.elim
  | plain frames =>
    have same : (machine.move below step).stages = below.filter Frame.isStage :=
      stages_move fun frame member => Frame.isStage_of_isPlain (frames frame member)
    intro begins
    have shorter : (below.filter Frame.isStage).length ≤ machine.stages.length :=
      (fewer.filter Frame.isStage).length_le
    rw [← same, begins, List.length_cons] at shorter
    omega

/-- A run that ends begins no iteration. -/
theorem Leaves.not_begins {frame : Frame} {count : Nat} (leaves : Leaves frame machine after) :
    after.stages ≠ .iteration count :: machine.stages := by
  intro begins
  have shorter : after.stages.length ≤ machine.stages.length := by
    unfold stages
    rw [leaves.frames]
    exact ((List.sublist_cons_self frame after.frames).filter Frame.isStage).length_le
  rw [begins, List.length_cons] at shorter
  omega

/-- A signal that begins an iteration enters it. -/
theorem Sound.exists_enters_act (sound : machine.Sound False) {step : WorldM Move} {count : Nat}
    (acts : act? machine.signal = some step) (uncalled : machine.signal.isCall = false)
    (begins : (machine.move machine.frames step).stages = .iteration count :: machine.stages) :
    ∃ within start lower, Enters machine within start lower (machine.move machine.frames step) := by
  have aside (sedate : (step machine.holding).1.Sedate False (step machine.holding).2) :
      ∃ within start lower, Enters machine within start lower (machine.move machine.frames step) :=
    absurd begins (not_begins_of_sedate sedate (List.Sublist.refl _))
  cases signal : machine.signal with
  | script actor body =>
    rw [signal] at acts
    cases acts
    cases body with
    | nil => exact aside (MovesSedately.give rfl _)
    | cons instruction rest =>
      cases iterates : instruction.iterates machine.world.loop with
      | true => exact sound.enters_beginInstruction (.script actor) iterates rfl rfl
      | false =>
        have sedate := @sedate_beginInstruction (.script actor) instruction machine.holding iterates
        have plain : (Frame.script actor instruction.label rest).isPlain = true := rfl
        exact aside (sedate.onto plain)
  | program task last body =>
    rw [signal] at acts
    cases acts
    by_cases which : ∃ instruction rest,
        body = instruction :: rest ∧ instruction.iterates machine.world.loop = true
    · obtain ⟨instruction, rest, rfl, iterates⟩ := which
      exact sound.enters_stepProgram iterates
    · apply aside
      unfold stepProgram
      split
      · exact MovesSedately.give rfl _
      · exact MovesSedately.give rfl _
      · split
        · exact MovesSedately.give rfl _
        · exact MovesSedately.give rfl _
      · rename_i instruction rest _ _
        have others : instruction.iterates machine.world.loop = false :=
          eq_false_of_ne_true fun iterates => which ⟨instruction, rest, rfl, iterates⟩
        have sedate := @sedate_beginInstruction (.program task) instruction machine.holding others
        have plain : (Frame.program task instruction.label rest).isPlain = true := rfl
        exact sedate.onto plain
  | _ =>
    apply aside
    exact MovesSedately.actAside acts uncalled (by rw [signal]; nofun) (by rw [signal]; nofun) _

/-- An iteration that goes on takes the next callback, or it ends. -/
theorem exists_stepIteration {left : Nat} {below : List Frame}
    (made : after = machine.move below (stepIteration left)) :
    (∃ callback rest lower, machine.world.loop.ready = callback :: rest ∧ left = lower + 1 ∧
        after.world.loop = { machine.world.loop with ready := rest } ∧
          after.frames = .letGo callback.refs :: .iteration lower :: below ∧ after.signal = .call callback) ∨
      after.world.loop = machine.world.loop ∧ after.frames = below ∧ after.signal = .iterated (.ok ()) := by
  subst made
  cases left with
  | zero => exact Or.inr ⟨rfl, rfl, rfl⟩
  | succ left =>
    cases ready : machine.world.loop.ready with
    | nil =>
      have made : stepIteration (left + 1) machine.holding = _ := stepIteration_of_idle ready
      rw [move_eq made]
      exact Or.inr ⟨rfl, rfl, rfl⟩
    | cons callback rest =>
      have made : stepIteration (left + 1) machine.holding = _ := stepIteration_of_ready ready
      rw [move_eq made]
      exact Or.inl ⟨callback, rest, left, rfl, rfl, rfl, rfl, rfl⟩

/-- An iteration that goes on begins none. -/
theorem not_begins_stepIteration {left count : Nat} {below : List Frame}
    (split : machine.frames = .iteration left :: below) :
    (machine.move below (stepIteration left)).stages ≠ .iteration count :: machine.stages := by
  have before : machine.stages = .iteration left :: below.filter Frame.isStage := by
    unfold stages
    rw [split]
    rfl
  have fewer : (machine.move below (stepIteration left)).stages.length ≤ machine.stages.length := by
    rw [before]
    unfold stages
    rcases exists_stepIteration (show machine.move below (stepIteration left) = _ from rfl) with
      ⟨callback, rest, lower, -, -, -, frames, -⟩ | ⟨-, frames, -⟩
    · rw [frames]
      exact Nat.le_refl _
    · rw [frames]
      exact Nat.le_succ _
  intro begins
  rw [begins, List.length_cons] at fewer
  omega

/-- A frame that begins an iteration when it receives what was just done enters it. -/
theorem Sound.exists_enters_deliver (sound : machine.Sound False) {frame : Frame} {below : List Frame}
    {count : Nat} (done : act? machine.signal = none) (split : machine.frames = frame :: below)
    (opened : (machine.move below (Machine.deliver machine.signal frame)).world.loop.closed = false)
    (begins : (machine.move below (Machine.deliver machine.signal frame)).stages =
      .iteration count :: machine.stages) :
    ∃ within start lower, Enters machine within start lower
      (machine.move below (Machine.deliver machine.signal frame)) := by
  have takes : frame.Takes machine.signal.demand := (split ▸ sound.fits).1
  have fewer : below.Sublist machine.frames := split ▸ List.sublist_cons_self frame below
  cases run : frame.isRun with
  | true =>
    rcases sound.turns done split run opened with enters | ⟨frame, leaves⟩
    · exact enters
    · exact absurd begins leaves.not_begins
  | false =>
    by_cases iterates : ∃ left, frame = .iteration left
    · obtain ⟨left, rfl⟩ := iterates
      have signal := takes.eq_proceed rfl done
      rw [signal] at begins
      exact absurd begins (not_begins_stepIteration split)
    · have never : frame.isRun = true → False := fun runs => absurd (runs.symm.trans run) (by decide)
      have sedate := MovesSedately.deliver done (fun left same => iterates ⟨left, same⟩) never
      exact absurd begins (not_begins_of_sedate (sedate machine.holding) fewer)

/-- Every iteration that begins on an open loop is entered within the frame of a run. -/
theorem Visits.exists_enters {sort : Machine → Prop} (visits : Visits sort machine)
    (opens : ∀ state, sort state → state.world.loop.closed = false) (step : Step machine after)
    (fine : sort after) {count : Nat} (begins : after.stages = .iteration count :: machine.stages) :
    ∃ within start lower, Enters machine within start lower after := by
  have sound : machine.Sound False := visits.reachable.sound
  have uncalled := (visits.goes opens step fine).uncalled begins
  cases step.does with
  | settled dropped => exact absurd (congrArg List.length begins) (by simp [stages])
  | acted clean acts => exact sound.exists_enters_act acts uncalled begins
  | delivered clean done split => exact sound.exists_enters_deliver done split (opens _ fine) begins
  | begun halted instruction =>
    obtain ⟨-, empty, -⟩ := sound.answered halted
    cases iterates : instruction.iterates machine.world.loop with
    | true => exact sound.enters_instructed halted iterates
    | false =>
      let start : Machine := ⟨(Scenario.takeLog machine.world).2, [], .proceed⟩
      have sedate := @sedate_beginInstruction .outside instruction start.holding iterates
      have none : start.stages = machine.stages := by
        unfold stages
        rw [empty]
      rw [← none] at begins
      exact absurd begins (not_begins_of_sedate sedate (List.Sublist.refl _))

/-! ## How iterations begin -/

/-- How long an iteration that is about to begin may sleep. -/
def patience (start : World) : Option Nat := (start.loop.prepare start.host.kernel.now).1

/-- The world in which the completer is polled. -/
def prepared (start : World) : World :=
  { start with loop := (start.loop.prepare start.host.kernel.now).2 }

/-- What polling the completer leads to. -/
def polled (within : Frame) (start : World) : Except IoError Unit × World :=
  World.poll (endlessWithin within) (patience start) (prepared start)

/-- The callbacks that are ready after the completer was polled are gathered. -/
def gathered (world : World) : World := { world with loop := (world.loop.gather world.host.kernel.now).2 }

/-- An iteration on an open loop begins unless polling fails. -/
theorem beginIteration_of_open {within : Frame} {start : World} (opened : start.loop.closed = false) :
    (∃ error, (polled within start).1 = .error error ∧ beginIteration within start =
        (([within], .iterated (.error (.ofIo error))), (polled within start).2)) ∨
      (polled within start).1 = .ok () ∧ beginIteration within start =
        (([.iteration (gathered (polled within start).2).loop.ready.length, within], .proceed),
          gathered (polled within start).2) := by
  unfold beginIteration
  rw [StateM.bind_apply, StateM.get_apply]
  dsimp only
  rw [opened, if_neg Bool.false_ne_true, StateM.bind_apply, StateM.bind_apply, StateM.bind_apply]
  let slept := World.onLoop (·.prepare (World.now start).1) (World.now start).2
  have same : World.poll (endlessWithin within) slept.1 slept.2 = polled within start := rfl
  rw [same]
  rcases polled within start with ⟨error | ⟨⟩, reached⟩
  · exact Or.inl ⟨error, rfl, rfl⟩
  · exact Or.inr ⟨rfl, rfl⟩

namespace Enters

/-- The loop is open when an iteration is about to begin, as it is open before. -/
theorem opened (enters : Enters machine within start lower after)
    (opened : machine.world.loop.closed = false) : start.loop.closed = false :=
  enters.setsOut.loop.closed.trans opened

/-- An iteration begins on top of the frame of its run, or this frame receives the failure to poll. -/
theorem begins (enters : Enters machine within start lower after)
    (opened : machine.world.loop.closed = false) :
    (∃ error, (polled within start).1 = .error error ∧
        after = ⟨(polled within start).2, within :: lower, .iterated (.error (.ofIo error))⟩) ∨
      (polled within start).1 = .ok () ∧
        after = ⟨gathered (polled within start).2,
          .iteration (gathered (polled within start).2).loop.ready.length :: within :: lower, .proceed⟩ := by
  have made := enters.made
  rcases @beginIteration_of_open within start (enters.opened opened) with
    ⟨error, failed, begun⟩ | ⟨done, begun⟩
  · rw [begun] at made
    exact Or.inl ⟨error, failed, made⟩
  · rw [begun] at made
    exact Or.inr ⟨done, made⟩

/-- What polling changes has to do neither with runs nor with what other threads ask for. -/
theorem polls (enters : Enters machine within start lower after) :
    Changes (openTo machine.held) World.calm (prepared start) (polled within start).2 := by
  have prepared_ : (prepared start).Within (openTo machine.held) 0 :=
    (World.Change.prepared start start.host.kernel.now).within enters.bounds
  exact (World.Calm.poll (endlessWithin within) (patience start) prepared_).1

end Enters

end Machine

end EventLoop
