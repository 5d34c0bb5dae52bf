import EventLoop.Proofs.Effect.Wakeups
import EventLoop.Proofs.Machine.Run

/-!
# No wakeup is lost

While no run of the loop goes on within another one, every step of a run either changes nothing that
wakeups depend on, or it does one of a few things: it begins a poll, wakes a cell, takes a callback, or
ends a poll. In every state each task that waits is going to hear of what it waits for, and a poll that
is to come is not forgotten.
-/
namespace EventLoop

open Script (Activity Instruction)
open World (Changes Performs isSteady moving expiring trafficking hosting revoking requesting halting iterating
  polling turning openTo leaving)

namespace Machine

variable {machine after : Machine} {id : TaskId}

/-! ## Polls -/

/-- The poll of a task that is due begins, and its frame is left. -/
theorem loop_beginPoll (task : TaskId) (world : World) :
    (beginPoll task world).2.loop = (world.loop.beginPoll task).2 ∧
      ((world.loop.beginPoll task).1.isSome → (beginPoll task world).1.1 = [.poll task]) := by
  unfold beginPoll
  simp only [StateM.bind_apply, World.onLoop_apply]
  cases given : (world.loop.beginPoll task).1 with
  | none => exact ⟨rfl, fun some => Bool.noConfusion some⟩
  | some activity =>
    simp only [StateM.bind_apply, StateM.get_apply]
    by_cases told : world.host.journal.settings.tasks = true
    · simp only [told, ↓reduceIte, waiterOf_bind]
      exact ⟨rfl, fun _ => rfl⟩
    · simp only [told, Bool.false_eq_true, ↓reduceIte]
      exact ⟨rfl, fun _ => rfl⟩

/-- A task whose program ended is completed. -/
theorem loop_endProgram (task : TaskId) (value : Value) (world : World) :
    (endProgram task value world).2.loop = world.loop.complete task value ∧
      (endProgram task value world).1.1 = [] := by
  refine ⟨?_, rfl⟩
  unfold endProgram
  rw [waiterOf_bind]
  change ((World.recordEnd (World.waiterOf task world).1.name world).2.loop).complete task value = _
  have recorded : (World.recordEnd (World.waiterOf task world).1.name world).2.loop = world.loop := by
    change ((if world.host.journal.settings.tasks then World.record _ "drop" .null
      else pure ()) world).2.loop = _
    split
    · rfl
    · rfl
  rw [recorded]

/-- A program that has to wait is put back into a task that is polled. -/
theorem endPoll_of_running {task : TaskId} {activity : Activity} {world : World}
    (running : world.loop.taskPhase? task = some .running) :
    endPoll task activity world =
      (([], .proceed), { world with loop := world.loop.setPhase task (.idle activity) }) := by
  have taken : world.loop.endPoll task activity = (none, world.loop.setPhase task (.idle activity)) := by
    unfold Loop.endPoll
    rw [running]
  unfold endPoll
  simp only [StateM.bind_apply, World.onLoop_apply, taken]
  rfl

/-- The program of a task that was cancelled meanwhile is given up. -/
theorem endPoll_of_not_running {task : TaskId} {activity : Activity} {world : World}
    (refused : world.loop.taskPhase? task ≠ some .running) :
    endPoll task activity world = (([], .proceed),
      (World.abandonProgram (World.waiterOf task world).1.name activity world).2) := by
  have returned : world.loop.endPoll task activity = (some activity, world.loop) := by
    unfold Loop.endPoll
    split
    · rename_i running
      exact absurd running refused
    · rfl
  unfold endPoll
  rw [StateM.bind_apply, World.onLoop_apply, returned]
  dsimp only
  rw [waiterOf_bind]
  rfl

/-! ## Runs -/

/-- An iteration that begins leaves the frame of its run. -/
theorem run_mem_beginIteration (within : Frame) (world : World) :
    within ∈ (beginIteration within world).1.1 := by
  unfold beginIteration
  simp only [StateM.bind_apply, StateM.get_apply]
  by_cases closed : world.loop.closed = true
  · simp only [closed, ↓reduceIte]
    exact List.mem_cons_self
  · simp only [closed, Bool.false_eq_true, ↓reduceIte, StateM.bind_apply]
    generalize World.poll (endlessWithin within) _ _ = polled
    rcases polled with ⟨error | ⟨⟩, reached⟩
    · exact List.mem_cons_self
    · exact List.mem_cons_of_mem _ List.mem_cons_self

/-- A run that begins on a free loop leaves its frame. -/
theorem run_mem_beginRun (goal : Option TaskId) (world : World) (free : world.loop.isFree = true) :
    .running goal ∈ (beginRun goal world).1.1 := by
  have both : world.loop.closed = false ∧ world.loop.running = false := by
    simpa [Loop.isFree] using free
  unfold beginRun
  change _ ∈ ((if world.loop.closed then _ else _ : WorldM Move) world).1.1
  rw [both.1, if_neg Bool.false_ne_true, both.2, if_neg Bool.false_ne_true]
  exact run_mem_beginIteration (.running goal) _

/-- An instruction that begins an iteration leaves the frame of a run. -/
theorem exists_run_beginInstruction (runner : Runner) {instruction : Instruction} {world : World}
    (iterates : instruction.iterates world.loop = true) :
    ∃ frame ∈ (beginInstruction runner instruction world).1.1, frame.isRun = true := by
  cases instruction with
  | runOnce times =>
    cases times with
    | zero => cases iterates
    | succ times => exact ⟨_, run_mem_beginIteration (.repeated times) _, rfl⟩
  | runForever => exact ⟨_, run_mem_beginRun none { world with runs := world.runs + 1 } iterates, rfl⟩
  | runUntilComplete name body =>
    let spawned := World.spawn name body { world with runs := world.runs + 1 }
    have free : spawned.2.loop.isFree = true := (isFree_spawn name body _).trans iterates
    have entered : enterRun world = ((), { world with runs := world.runs + 1 }) := rfl
    simp only [beginInstruction, StateM.bind_apply, StateM.get_apply, entered]
    cases spawned.2.loop.tasks.get? spawned.1 with
    | none => exact ⟨_, run_mem_beginRun (some spawned.1) spawned.2 free, rfl⟩
    | some entry =>
      refine ⟨_, run_mem_beginRun (some spawned.1) _ ?_, rfl⟩
      exact (isFree_whenDone spawned.2.loop entry.result .stopLoop).trans free
  | _ => cases iterates

/-! ## Steps -/

/-- A callback that polls no task and wakes no cell. -/
def isPlain : Callback → Bool
  | .step _ | .done _ (.wake _) => false
  | _ => true

/-- What a step does to tasks and to what is ready, while no run of an open loop goes on within another
one. -/
inductive Advances (machine after : Machine) : Prop
  /-- No poll begins or ends and no callback is taken. Requests are taken over only while no task is
  polled. -/
  | steady (aspects : List Aspect) (changes : Changes (openTo []) aspects machine.world after.world)
      (steady : ∀ aspect ∈ aspects, isSteady aspect = true)
      (resting : .progress ∈ aspects → ∀ id, .poll id ∉ machine.frames)
      (frames : ∀ id, .poll id ∈ machine.frames → .poll id ∈ after.frames ∨
        machine.world.loop.taskPhase? id ≠ some .running)
      (signal : after.signal = machine.signal ∨
        ∀ callback, machine.signal = .call callback → isPlain callback = true)
  /-- The poll of a task begins, if it is due. -/
  | polling (task : TaskId) (called : machine.signal = .call (.step task))
      (loop : after.world.loop = (machine.world.loop.beginPoll task).2)
      (frames : machine.frames ⊆ after.frames)
      (begun : machine.world.loop.IsQueued task → .poll task ∈ after.frames)
  /-- A cell is woken. -/
  | waking (future : FutureId) (cell : CellId)
      (called : machine.signal = .call (.done future (.wake cell)))
      (loop : after.world.loop = machine.world.loop.wakeCell cell)
      (frames : machine.frames ⊆ after.frames)
  /-- A callback is taken. -/
  | taking (callback : Callback) (rest : List Callback) (idle : machine.signal = .proceed)
      (ready : machine.world.loop.ready = callback :: rest)
      (loop : after.world.loop = { machine.world.loop with ready := rest })
      (signal : after.signal = .call callback)
      (frames : ∀ id, .poll id ∈ machine.frames → .poll id ∈ after.frames)
  /-- The program of a task that is polled has ended. -/
  | ending (task : TaskId) (value : Value)
      (uncalled : ∀ callback, machine.signal ≠ .call callback)
      (loop : after.world.loop = machine.world.loop.complete task value)
      (frames : machine.frames = .poll task :: after.frames)
  /-- The program of a task that is polled has to wait. -/
  | suspending (task : TaskId) (activity : Activity) (signal : machine.signal = .suspended activity)
      (running : machine.world.loop.taskPhase? task = some .running)
      (arms : machine.world.loop.Arms task activity.stations)
      (loop : after.world.loop = machine.world.loop.setPhase task (.idle activity))
      (frames : machine.frames = .poll task :: after.frames)

/-- Whatever a machine does next, it may change what moves change. -/
theorem moving_subset_changing (machine : Machine) : moving ⊆ machine.changing := by
  unfold changing
  split
  · exact machine.signal.moving_subset machine.world.loop
  · exact Frame.moving_subset _
  · exact Ref.moving_subset _
  · exact List.Subset.refl _

/-- Nothing ceases to exist in a step. -/
theorem Sound.grows (sound : machine.Sound False) (step : Step machine after) :
    machine.world.Grows after.world := by
  cases step with
  | moved moves =>
    have passes := (sound.next moves fun asked => asked.elim).2
    exact (passes.changes sound machine.moving_subset_changing).grows
  | begun halted instruction =>
    exact ((sound.instructed halted instruction).2.changes sound (instruction.moving_subset _)).grows

/-- Moving loses no wakeup. -/
theorem steady_moving : ∀ aspect ∈ moving, isSteady aspect = true := by decide

/-- What is done when a time is up loses no wakeup. -/
theorem steady_expiring : ∀ aspect ∈ expiring, isSteady aspect = true := by decide

/-- What has to do with transports loses no wakeup. -/
theorem steady_trafficking : ∀ aspect ∈ trafficking, isSteady aspect = true := by decide

/-- What is asked of the host loses no wakeup. -/
theorem steady_hosting : ∀ aspect ∈ hosting, isSteady aspect = true := by decide

/-- What is revoked loses no wakeup. -/
theorem steady_revoking : ∀ aspect ∈ revoking, isSteady aspect = true := by decide

/-- What is asked on behalf of another thread loses no wakeup. -/
theorem steady_requesting : ∀ aspect ∈ requesting, isSteady aspect = true := by decide

/-- What is done when the loop is to return loses no wakeup. -/
theorem steady_halting : ∀ aspect ∈ halting, isSteady aspect = true := by decide

/-- What an iteration does loses no wakeup. -/
theorem steady_iterating : ∀ aspect ∈ iterating, isSteady aspect = true := by decide

/-- What callers do loses no wakeup. -/
theorem steady_turning : ∀ aspect ∈ turning, isSteady aspect = true := by decide

/-- Looking at a reference that was given up neither begins or ends a poll nor takes a callback. -/
theorem steady_settling (ref : Ref) : ∀ aspect ∈ ref.aspects, isSteady aspect = true := by
  cases ref with
  | future => exact (by decide : ∀ aspect ∈ .deserting :: moving, isSteady aspect = true)
  | task | socket | transport | server => exact steady_moving

/-- While no run of the loop is under way, no task is polled. -/
theorem no_polls {frames : List Frame} {demand : Demand} (fits : Fits demand frames)
    (none : frames.countP Frame.isRun = 0) (id : TaskId) : Frame.poll id ∉ frames := by
  intro member
  obtain ⟨run, there, isRun⟩ := fits.exists_run_of_task member rfl
  exact List.countP_eq_zero.mp none run there isRun

/-- Moving is no progress of an iteration. -/
theorem progress_not_moving : Aspect.progress ∉ moving := by decide

/-- What has to do with transports is no progress of an iteration. -/
theorem progress_not_trafficking : Aspect.progress ∉ trafficking := by decide

/-- What is asked of the host is no progress of an iteration. -/
theorem progress_not_hosting : Aspect.progress ∉ hosting := by decide

/-- What is done when the loop is to return is no progress of an iteration. -/
theorem progress_not_halting : Aspect.progress ∉ halting := by decide

/-- What is revoked is no progress of an iteration. -/
theorem progress_not_revoking : Aspect.progress ∉ revoking := by decide

/-- Looking at a reference that was given up begins no iteration. -/
theorem progress_not_settling (ref : Ref) : Aspect.progress ∉ ref.aspects := by
  cases ref with
  | future => exact (by decide : Aspect.progress ∉ .deserting :: moving)
  | task | socket | transport | server => exact progress_not_moving

/-- No callback begins an iteration by itself. -/
theorem progress_not_callback (callback : Callback) : Aspect.progress ∉ callback.aspects :=
  @Callback.of_aspects (.progress ∉ ·) callback (fun _ _ => (by decide : Aspect.progress ∉ polling))
    progress_not_trafficking progress_not_hosting (by decide) progress_not_moving

/-- A callback that polls no task loses no wakeup by what it changes. -/
theorem steady_callback {callback : Callback} (plain : isPlain callback = true) :
    ∀ aspect ∈ callback.aspects, isSteady aspect = true := by
  refine @Callback.of_aspects (fun aspects => ∀ aspect ∈ aspects, isSteady aspect = true) callback ?_
    steady_trafficking steady_hosting steady_expiring steady_moving
  rintro task rfl
  cases plain

/-- A body that may begin an iteration does so by its first instruction. -/
theorem iterates_of_progress {loop : Loop} {body : Script.Body}
    (progress : .progress ∈ bodyAspects loop body) :
    ∃ instruction rest, body = instruction :: rest ∧ instruction.iterates loop = true := by
  cases body with
  | nil => exact absurd progress progress_not_moving
  | cons instruction rest =>
    refine ⟨instruction, rest, rfl, ?_⟩
    by_contra refuses
    have progress : .progress ∈ instruction.aspects loop := progress
    rw [Instruction.aspects, if_neg refuses] at progress
    split at progress
    · exact progress_not_halting progress
    · exact @Instruction.of_base (.progress ∉ ·) instruction progress_not_trafficking
        progress_not_hosting progress_not_revoking (by decide) (by decide) progress_not_moving progress

/-- A signal that may begin an iteration leaves the frame of a run. -/
theorem exists_run_act {signal : Signal} {step : WorldM Move} {world : World}
    (acts : act? signal = some step) (progress : .progress ∈ signal.aspects world.loop) :
    ∃ frame ∈ (step world).1.1, frame.isRun = true := by
  have progress : .progress ∈ signal.base world.loop := Signal.mem_base progress (by decide)
  cases signal with
  | call callback => exact absurd progress (progress_not_callback callback)
  | script actor body =>
    cases acts
    obtain ⟨instruction, rest, rfl, iterates⟩ := iterates_of_progress progress
    obtain ⟨run, member, isRun⟩ := exists_run_beginInstruction (.script actor) iterates
    exact ⟨run, List.mem_append_left _ member, isRun⟩
  | program task last body =>
    cases acts
    obtain ⟨instruction, rest, rfl, iterates⟩ := iterates_of_progress progress
    obtain ⟨run, member, isRun⟩ := exists_run_beginInstruction (.program task) iterates
    cases instruction with
    | runOnce | runForever | runUntilComplete =>
      exact ⟨run, List.mem_append_left _ member, isRun⟩
    | _ => cases iterates
  | proceed | answer | iterated | resume | retry | join | select | ended | returned | suspended
  | waiting => exact absurd progress progress_not_moving

/-- What most moves and the beginning of an iteration change loses no wakeup. -/
theorem steady_bodyAspects (loop : Loop) (body : Script.Body) :
    ∀ aspect ∈ bodyAspects loop body, isSteady aspect = true := by
  cases body with
  | nil => exact steady_moving
  | cons instruction rest =>
    exact instruction.forall_aspects loop steady_iterating steady_halting steady_trafficking
      steady_hosting steady_revoking steady_requesting (by decide) steady_moving

/-- A signal that is acted on advances the machine. -/
theorem Sound.advances_act (sound : machine.Sound True) {step : WorldM Move}
    (acts : act? machine.signal = some step)
    (single : (machine.move machine.frames step).runs ≤ 1)
    (opened : (machine.move machine.frames step).world.loop.closed = false) :
    Advances machine (machine.move machine.frames step) := by
  have passes := (sound.act acts fun _ => opened).2
  have changes := passes.changes sound (machine.signal.moving_subset machine.world.loop)
  have kept : machine.frames ⊆ (machine.move machine.frames step).frames :=
    List.subset_append_right _ _
  have resting (progress : .progress ∈ machine.signal.aspects machine.world.loop) (id : TaskId) :
      .poll id ∉ machine.frames := by
    have brings : .progress ∈ machine.signal.aspects machine.holding.loop := progress
    obtain ⟨run, member, isRun⟩ := exists_run_act acts brings
    have more : 0 < ((step machine.holding).1.1).countP Frame.isRun :=
      List.countP_pos_iff.mpr ⟨run, member, isRun⟩
    have total : ((step machine.holding).1.1 ++ machine.frames).countP Frame.isRun ≤ 1 := single
    rw [List.countP_append] at total
    exact no_polls sound.fits (by omega) id
  have quietly (steady : ∀ aspect ∈ machine.signal.base machine.world.loop, isSteady aspect = true)
      (plain : ∀ callback, machine.signal = .call callback → isPlain callback = true) :
      Advances machine (machine.move machine.frames step) := by
    refine .steady _ changes ?_ resting (fun _ member => Or.inl (kept member)) (Or.inr plain)
    exact Signal.forall_aspects steady_turning steady
  have plainly {callback : Callback} (called : machine.signal = .call callback)
      (plain : isPlain callback = true) : Advances machine (machine.move machine.frames step) := by
    refine quietly ?_ fun other same => ?_
    · rw [called]
      exact steady_callback plain
    · rw [called] at same
      cases same
      exact plain
  cases signal : machine.signal with
  | call callback =>
    rw [signal] at acts quietly
    cases callback with
    | step task =>
      cases acts
      have begun := loop_beginPoll task machine.holding
      refine .polling task signal begun.1 kept ?_
      rintro ⟨activity, queued⟩
      have due : (machine.holding.loop.beginPoll task).1.isSome := by
        change machine.holding.loop.taskPhase? task = _ at queued
        unfold Loop.beginPoll
        rw [queued]
        rfl
      have pushed := begun.2 due
      refine List.mem_append_left _ ?_
      change Frame.poll task ∈ (beginPoll task machine.holding).1.1
      rw [pushed]
      exact List.mem_cons_self
    | done future reaction =>
      cases reaction with
      | wake cell =>
        cases acts
        exact .waking future cell signal rfl kept
      | script | stopLoop | pipeRead | received | sent | accepted => exact plainly signal rfl
    | script | readPipe | resolve | expire | connectionMade | startReading | connectionLost
    | startAccepting => exact plainly signal rfl
  | script actor body =>
    rw [signal] at quietly
    exact quietly (steady_bodyAspects _ body) fun _ called => nomatch called
  | program task last body =>
    rw [signal] at quietly
    exact quietly (steady_bodyAspects _ body) fun _ called => nomatch called
  | resume | retry | join | select =>
    rw [signal] at quietly
    exact quietly steady_moving fun _ called => nomatch called
  | proceed | answer | iterated | ended | returned | suspended | waiting =>
    rw [signal] at acts
    cases acts

/-- Nothing but what is held changes. -/
theorem changes_holding (machine : Machine) :
    Changes (openTo []) moving machine.world machine.holding :=
  .single (by decide) (.held machine.world machine.held (List.nil_subset _))

/-- An iteration takes the next callback or ends. -/
theorem advances_iteration {left : Nat} {below : List Frame} (signal : machine.signal = .proceed)
    (split : machine.frames = .iteration left :: below) :
    Advances machine (machine.move below (stepIteration left)) := by
  have kept (move : Move) (id : TaskId) (member : .poll id ∈ machine.frames) :
      Frame.poll id ∈ move.1 ++ below := by
    rw [split] at member
    exact List.mem_append_right _ ((List.mem_cons.mp member).resolve_left Frame.noConfusion)
  have still (same : (stepIteration left machine.holding).2 = machine.holding) :
      Advances machine (machine.move below (stepIteration left)) := by
    refine .steady moving ?_ steady_moving (fun progress => absurd progress progress_not_moving)
      (fun id member => Or.inl (kept _ id member)) (Or.inr fun callback called => ?_)
    · change Changes _ _ _ (stepIteration left machine.holding).2
      rw [same]
      exact changes_holding machine
    · rw [signal] at called
      cases called
  cases left with
  | zero => exact still rfl
  | succ left =>
    cases ready : machine.world.loop.ready with
    | nil =>
      have step : stepIteration (left + 1) machine.holding = _ := stepIteration_of_idle ready
      exact still (congrArg Prod.snd step)
    | cons callback rest =>
      have step : stepIteration (left + 1) machine.holding = _ := stepIteration_of_ready ready
      refine .taking callback rest signal ready ?_ ?_ fun id member => kept _ id member
      · change (stepIteration (left + 1) machine.holding).2.loop = _
        rw [step]
        rfl
      · change (stepIteration (left + 1) machine.holding).1.2 = _
        rw [step]

/-- The program that had to wait may be given up. -/
theorem changes_abandonProgram {strict : Prop} {activity : Activity} (sound : machine.Sound strict)
    (signal : machine.signal = .suspended activity) (name : String) :
    Changes (openTo []) moving machine.world
      (World.abandonProgram name activity machine.holding).2 := by
  have total : machine.stakes = stakesOf activity.stations +
      stakesOf (machine.frames.flatMap Frame.stations) + machine.holding.loop.stakes := by
    unfold stakes stations
    rw [signal, stakesOf_append]
    rfl
  have settled := sound.settled.holding machine.held
  rw [total] at settled
  have performs : Performs machine.held moving (stakesOf activity.stations +
      stakesOf (machine.frames.flatMap Frame.stations)) machine.holding
        (World.abandonProgram name activity)
          (leaving (stakesOf (machine.frames.flatMap Frame.stations))) :=
    World.Giving.abandonProgram name activity
  obtain ⟨left, deeds, -⟩ := performs settled
  have changes := deeds.changes settled (List.Subset.refl moving) (by decide)
  exact (changes_holding machine).trans (changes.widen (fun _ known => known) (List.nil_subset _))

/-- A program that has to wait is put back into its task, or it is given up. -/
theorem Sound.advances_suspended (sound : machine.Sound True) {task : TaskId} {activity : Activity}
    {below : List Frame} (signal : machine.signal = .suspended activity)
    (split : machine.frames = .poll task :: below) :
    Advances machine (machine.move below (endPoll task activity)) := by
  have polls : machine.world.loop.Polls True task activity.stations := by
    have attended := sound.signal
    rw [signal, split] at attended
    exact attended task rfl
  by_cases running : machine.world.loop.taskPhase? task = some .running
  · have moved : endPoll task activity machine.holding = _ := endPoll_of_running running
    refine .suspending task activity signal running (polls.arms trivial) ?_ ?_
    · change (endPoll task activity machine.holding).2.loop = _
      rw [moved]
      rfl
    · change machine.frames = .poll task :: ((endPoll task activity machine.holding).1.1 ++ below)
      rw [moved]
      exact split
  · have moved : endPoll task activity machine.holding = _ := endPoll_of_not_running running
    refine .steady moving ?_ steady_moving (fun progress => absurd progress progress_not_moving)
      (fun id member => ?_) (Or.inr fun callback called => ?_)
    · change Changes _ _ _ (endPoll task activity machine.holding).2
      rw [moved]
      exact changes_abandonProgram sound signal _
    · rw [split] at member
      rcases List.mem_cons.mp member with same | later
      · cases same
        exact Or.inr running
      · exact Or.inl (List.mem_append_right _ later)
    · rw [signal] at called
      cases called

/-- A frame that receives what was just done advances the machine. -/
theorem Sound.advances_deliver (sound : machine.Sound True) {frame : Frame} {below : List Frame}
    (clean : machine.world.loop.dropped = []) (done : act? machine.signal = none)
    (split : machine.frames = frame :: below) (single : machine.runs ≤ 1)
    (opened : (machine.move below (Machine.deliver machine.signal frame)).world.loop.closed = false) :
    Advances machine (machine.move below (Machine.deliver machine.signal frame)) := by
  have passes := (sound.deliver clean done split fun _ => ⟨single, opened⟩).2
  have changes := passes.changes sound frame.moving_subset
  have takes : frame.Takes machine.signal.demand := (split ▸ sound.fits).1
  have uncalled (callback : Callback) : machine.signal ≠ .call callback := by
    intro called
    rw [called] at done
    cases done
  have quietly (steady : ∀ aspect ∈ frame.aspects, isSteady aspect = true)
      (resting : .progress ∈ frame.aspects → ∀ id, .poll id ∉ machine.frames)
      (differ : ∀ id, frame ≠ .poll id) :
      Advances machine (machine.move below (Machine.deliver machine.signal frame)) := by
    refine .steady _ changes steady resting (fun id member => Or.inl ?_)
      (Or.inr fun callback called => absurd called (uncalled callback))
    rw [split] at member
    refine List.mem_append_right _ ((List.mem_cons.mp member).resolve_left fun same => ?_)
    exact differ id same.symm
  cases frame with
  | iteration left =>
    have signal := takes.eq_proceed rfl done
    rw [signal]
    exact advances_iteration signal split
  | poll task =>
    have received := takes.kinds
    cases signal : machine.signal with
    | ended value | returned value =>
      have complete := loop_endProgram task value machine.holding
      refine .ending task value uncalled complete.1 ?_
      change machine.frames = .poll task :: ((endProgram task value machine.holding).1.1 ++ below)
      rw [complete.2]
      exact split
    | suspended activity => exact sound.advances_suspended signal split
    | proceed | answer | iterated | waiting =>
      rw [signal] at received
      exact absurd (received List.mem_cons_self) (by simp [Frame.kinds])
    | call | script | program | resume | retry | join | select =>
      rw [signal] at done
      cases done
  | closing => exact (sound.not_closing split passes opened).elim
  | repeated | running =>
    refine quietly steady_iterating (fun _ id member => ?_) fun _ => Frame.noConfusion
    have fewer : below.countP Frame.isRun = 0 := by
      rw [runs, split, List.countP_cons_of_pos rfl] at single
      omega
    rw [split] at member
    have fits : Fits _ below := (split ▸ sound.fits).2
    exact no_polls fits fewer id ((List.mem_cons.mp member).resolve_left Frame.noConfusion)
  | afterData | afterEnd | afterLoss =>
    exact quietly steady_trafficking (fun progress => absurd progress progress_not_trafficking)
      fun _ => Frame.noConfusion
  | script | program | letGo | holding | rounds | joining | selecting =>
    exact quietly steady_moving (fun progress => absurd progress progress_not_moving)
      fun _ => Frame.noConfusion

/-- Every step of a run advances the machine, while no run of an open loop goes on within another one. -/
theorem Sound.advances (sound : machine.Sound True) (step : Step machine after)
    (single : machine.runs ≤ 1) (single' : after.runs ≤ 1)
    (opened : after.world.loop.closed = false) : Advances machine after := by
  cases step.does with
  | @settled ref refs dropped =>
    have passes := (sound.settle dropped fun _ => opened).2
    exact .steady ref.aspects (passes.changes sound ref.moving_subset) (steady_settling ref)
      (fun progress => absurd progress (progress_not_settling ref)) (fun _ member => Or.inl member)
      (Or.inl rfl)
  | acted clean acts => exact sound.advances_act acts single' opened
  | delivered clean done split => exact sound.advances_deliver clean done split single opened
  | begun halted instruction =>
    obtain ⟨-, empty, value, signal⟩ := sound.answered halted
    have passes := (sound.instructed halted instruction).2
    have more := instruction.moving_subset machine.world.loop
    have none (id : TaskId) : .poll id ∉ machine.frames := by
      rw [empty]
      exact List.not_mem_nil
    refine .steady _ (passes.changes sound more) ?_ (fun _ => none)
      (fun id member => absurd member (none id)) (Or.inr fun callback called => ?_)
    · exact steady_bodyAspects machine.world.loop [instruction]
    · rw [signal] at called
      cases called

/-! ## Every state of a run -/

/-- The loop is open, and no run of it goes on within another one. -/
def IsSingle (machine : Machine) : Prop :=
  machine.runs ≤ 1 ∧ machine.world.loop.closed = false

/-- The callback that is just being called. -/
def hand (machine : Machine) : Option Callback :=
  match machine.signal with
  | .call callback => some callback
  | _ => none

/-- No wakeup was lost, and a task that is polled has the frame of its poll. -/
structure Alert (machine : Machine) : Prop where
  /-- No wakeup was lost. -/
  wakeful : machine.world.loop.Wakeful machine.hand
  /-- The frame of the poll is there. -/
  polled : ∀ id, machine.world.loop.taskPhase? id = some .running → .poll id ∈ machine.frames

/-- What a callback that is plain has in hand does not matter. -/
theorem Alert.plain (alert : machine.Alert)
    (plain : ∀ callback, machine.signal = .call callback → isPlain callback = true) :
    machine.world.loop.Wakeful none := by
  have wakeful := alert.wakeful
  unfold hand at wakeful
  split at wakeful
  · rename_i callback called
    have plain := plain callback called
    refine wakeful.to_none (fun id same => ?_) (fun future cell same => ?_)
    · rw [same] at plain
      cases plain
    · rw [same] at plain
      cases plain
  · exact wakeful

/-- What is in hand while a callback is called. -/
theorem hand_of_called {callback : Callback} (called : machine.signal = .call callback) :
    machine.hand = some callback := by
  unfold hand
  rw [called]

/-- A callback that is called is in hand. -/
theorem hand_of_uncalled (uncalled : ∀ callback, machine.signal ≠ .call callback) :
    machine.hand = none := by
  unfold hand
  split
  · rename_i callback called
    exact absurd called (uncalled callback)
  · rfl

/-- No step loses a wakeup. -/
theorem Alert.wakeful_step (alert : machine.Alert) (advances : Advances machine after)
    (opened : after.world.loop.closed = false) : after.world.loop.Wakeful after.hand := by
  have wakeful := alert.wakeful
  cases advances with
  | steady aspects changes steady resting frames signal =>
    rcases signal with same | plain
    · unfold hand
      rw [same]
      exact changes.wakeful steady opened wakeful
    · exact (changes.wakeful steady opened (alert.plain plain)).of_none _
  | polling task called loop frames begun =>
    have free : machine.world.loop.closed = false := by
      by_contra closed
      rw [Bool.not_eq_false] at closed
      rw [loop, (Loop.Grows.beginPoll _ _).closed closed] at opened
      cases opened
    rw [hand_of_called called] at wakeful
    rw [loop]
    exact (wakeful.beginPoll free).of_none _
  | waking future cell called loop frames =>
    rw [hand_of_called called] at wakeful
    rw [loop, Loop.wakeCell_eq] at opened
    rw [loop]
    exact (wakeful.wakeCell opened).of_none _
  | taking callback rest idle ready loop signal frames =>
    rw [hand_of_uncalled fun _ called => by cases idle.symm.trans called] at wakeful
    rw [loop, hand_of_called signal]
    exact wakeful.take ready
  | ending task value uncalled loop frames =>
    rw [hand_of_uncalled uncalled] at wakeful
    rw [loop] at opened ⊢
    exact (wakeful.complete task value opened).of_none _
  | suspending task activity signal running arms loop frames =>
    rw [hand_of_uncalled fun _ called => by cases signal.symm.trans called] at wakeful
    rw [loop] at opened ⊢
    exact (wakeful.suspend opened running arms).of_none _

/-- A task that is polled has the frame of its poll after each step. -/
theorem Alert.polled_step {id : TaskId} (alert : machine.Alert) (advances : Advances machine after)
    (opened : after.world.loop.closed = false)
    (running : after.world.loop.taskPhase? id = some .running) : .poll id ∈ after.frames := by
  cases advances with
  | steady aspects changes steady resting frames signal =>
    have before := changes.running steady opened running
    exact (frames id (alert.polled id before)).resolve_right fun idle => idle before
  | polling task called loop frames begun =>
    rw [loop] at running
    unfold Loop.beginPoll at running
    split at running
    · rename_i activity queued
      rw [Loop.taskPhase?_setPhase] at running
      by_cases same : id = task
      · subst same
        exact begun ⟨activity, queued⟩
      · rw [if_neg same] at running
        exact frames (alert.polled id running)
    · exact frames (alert.polled id running)
  | waking future cell called loop frames =>
    rw [loop, Loop.wakeCell_eq] at running
    exact frames (alert.polled id running)
  | taking callback rest idle ready loop signal frames =>
    rw [loop] at running
    exact frames id (alert.polled id running)
  | ending task value uncalled loop frames =>
    rw [loop] at running
    have quiet := Loop.Quiet.complete machine.world.loop task value
    have member := alert.polled id (quiet.running running)
    rw [frames] at member
    refine (List.mem_cons.mp member).resolve_left fun same => ?_
    cases same
    exact Loop.not_running_complete running
  | suspending task activity signal before arms loop frames =>
    rw [loop, Loop.taskPhase?_setPhase] at running
    by_cases same : id = task
    · rw [if_pos same, before] at running
      cases running
    · rw [if_neg same] at running
      have member := alert.polled id running
      rw [frames] at member
      refine (List.mem_cons.mp member).resolve_left fun here => ?_
      cases here
      exact same rfl

/-- While no run of an open loop goes on within another one, no step loses a wakeup. -/
theorem Alert.step (alert : machine.Alert) (advances : Advances machine after)
    (opened : after.world.loop.closed = false) : after.Alert :=
  ⟨alert.wakeful_step advances opened, fun _ => alert.polled_step advances opened⟩

/-- The first state of a run is alert. -/
theorem Initial.alert (initial : Initial machine) (opened : machine.world.loop.closed = false) :
    machine.Alert := by
  obtain ⟨-, signal, bare, ⟨host, settings, completer, none, -⟩, settled, course⟩ := initial.course
  have changes := course.changes settled (List.subset_cons_self _ _)
  have wakeful : ({} : Loop).Wakeful machine.hand :=
    ⟨⟨Slab.tidy_empty, fun found => nomatch found⟩, fun ⟨_, queued⟩ => (nomatch queued),
      fun idle => nomatch idle⟩
  refine ⟨changes.wakeful steady_halting opened wakeful, fun id running => ?_⟩
  have never := changes.running steady_halting opened running
  cases never

/-- Every state of a run is alert while no run of an open loop goes on within another one. -/
theorem Visits.alert (visits : Visits IsSingle machine) : machine.Alert := by
  induction visits with
  | initial initial fine => exact initial.alert fine.2
  | @step before after earlier step fine ih =>
    have sound : before.Sound True := earlier.sound fun _ _ single => single
    exact ih.step (sound.advances step earlier.fine.1 fine.1 fine.2) fine.2

/-- The poll of a task begins with a step. -/
def Polls (id : TaskId) (before after : Machine) : Prop :=
  before.signal = .call (.step id) ∧ after.world.loop.taskPhase? id = some .running

/-- A poll that is to come goes on to be after a step, unless the task is over or the step begins the
poll. -/
theorem Alert.provided (alert : machine.Alert) (advances : Advances machine after)
    (opened : after.world.loop.closed = false) (exists_ : id < machine.world.loop.tasks.size)
    (provided : machine.world.loop.Provided id) :
    after.world.loop.Provided id ∨ Polls id machine after := by
  cases advances with
  | steady aspects changes steady resting frames signal =>
    refine Or.inl (changes.provided steady opened alert.wakeful exists_ ?_ provided)
    exact fun progress running => resting progress id (alert.polled id running)
  | polling task called loop frames begun =>
    unfold Polls
    rw [loop]
    unfold Loop.beginPoll
    split
    · rename_i activity queued
      by_cases same : id = task
      · subst same
        refine Or.inr ⟨called, ?_⟩
        rw [Loop.taskPhase?_setPhase, if_pos rfl, queued]
        rfl
      · exact Or.inl (provided.setPhase exists_ (Loop.not_isOver queued rfl) fun _ => same)
    · exact Or.inl provided
  | waking future cell called loop frames =>
    left
    rw [loop, Loop.wakeCell_eq]
    refine provided.imp_left fun expects => expects.imp_left fun listed => ?_
    exact List.mem_append_left _ listed
  | taking callback rest idle ready loop signal frames =>
    left
    rw [loop]
    exact provided
  | ending task value uncalled loop frames =>
    left
    rw [loop]
    exact (Loop.Quiet.complete _ task value).provided (.complete _ task value) exists_ provided
  | suspending task activity signal running arms loop frames =>
    left
    rw [loop]
    refine provided.setPhase exists_ (Loop.not_isOver running rfl) ?_
    rintro ⟨held, queued⟩ -
    rw [running] at queued
    cases queued

/-- Nothing ceases to exist when the machine advances. -/
theorem Advances.grows (advances : Advances machine after) :
    machine.world.loop.Grows after.world.loop := by
  cases advances with
  | steady _ changes => exact changes.grows.loop
  | polling task _ loop =>
    rw [loop]
    exact .beginPoll _ task
  | waking _ cell _ loop =>
    rw [loop, Loop.wakeCell_eq]
    exact .of_eq rfl rfl rfl
  | taking _ _ _ _ loop =>
    rw [loop]
    exact .of_eq rfl rfl rfl
  | ending task value _ loop =>
    rw [loop]
    exact .complete _ task value
  | suspending task activity _ _ _ loop =>
    rw [loop]
    exact .setPhase _ task _

/-- A poll that is to come is to come in all later states, until it begins or the task is over. -/
theorem Visits.provided {later : Machine} (visits : Visits IsSingle machine)
    (exists_ : id < machine.world.loop.tasks.size) (provided : machine.world.loop.Provided id)
    (onward : Onward IsSingle machine later) :
    later.world.loop.Provided id ∨ ∃ before after, Onward IsSingle machine before ∧
      Step before after ∧ Onward IsSingle after later ∧ Polls id before after := by
  have both : id < later.world.loop.tasks.size ∧ (later.world.loop.Provided id ∨
      ∃ before after, Onward IsSingle machine before ∧ Step before after ∧
        Onward IsSingle after later ∧ Polls id before after) := by
    induction onward with
    | refl => exact ⟨exists_, Or.inl provided⟩
    | @tail middle last onward step ih =>
      obtain ⟨there, ih⟩ := ih
      have reached := visits.onward onward
      have sound : middle.Sound True := reached.sound fun _ _ single => single
      have advances := sound.advances step.1 reached.fine.1 step.2.1 step.2.2
      refine ⟨Nat.lt_of_lt_of_le there advances.grows.size_tasks, ?_⟩
      rcases ih with provided | ⟨before, after, first, polls, further, begins⟩
      · rcases reached.alert.provided advances step.2.2 there provided with kept | begins
        · exact Or.inl kept
        · exact Or.inr ⟨middle, last, onward, step.1, .refl, begins⟩
      · exact Or.inr ⟨before, after, first, polls, further.tail step, begins⟩
  exact both.2

/-- How a task that waits is going to hear of the future that it waits for. The cell of the wait carries
the number of the task, whichever poll it waits since. -/
inductive Hears (machine : Machine) (id : TaskId) (wait : Wait) : Prop
  /-- The future is pending and will wake the cell. -/
  | pending (cell : CellId) (given : wait.cell = some cell)
      (carries : machine.world.loop.cells.get? cell = some (machine.world.loop.wakerOf id))
      (reacts : machine.world.loop.Reacts wait.future (.wake cell))
  /-- The future is done, and the callback that wakes the cell is ready. -/
  | ready (cell : CellId) (given : wait.cell = some cell)
      (carries : machine.world.loop.cells.get? cell = some (machine.world.loop.wakerOf id))
      (done : machine.world.loop.isDone wait.future = true)
      (due : .done wait.future (.wake cell) ∈ machine.world.loop.ready)
  /-- The callback that wakes the cell is just being called. -/
  | called (cell : CellId) (given : wait.cell = some cell)
      (carries : machine.world.loop.cells.get? cell = some (machine.world.loop.wakerOf id))
      (called : machine.signal = .call (.done wait.future (.wake cell)))
  /-- The number of the task was woken. -/
  | woken (listed : machine.world.loop.wakerOf id ∈ machine.world.loop.woken)

/-- A callback that is in hand is called. -/
theorem called_of_hand {callback : Callback} (inHand : machine.hand = some callback) :
    machine.signal = .call callback := by
  unfold hand at inHand
  split at inHand
  · rename_i other signal
    cases inHand
    exact signal
  · cases inHand

/-- If no wakeup was lost, a task that waits is going to hear of everything that it waits for. -/
theorem Alert.hears (alert : machine.Alert) {id : TaskId} {activity : Activity}
    (idle : machine.world.loop.taskPhase? id = some (.idle activity)) {station : Script.Station}
    (member : station ∈ activity.stations) {wait : Wait} (waits : wait ∈ station.waits) :
    machine.Hears id wait := by
  rcases alert.wakeful.hears idle station member wait waits with armed | listed | inHand
  · obtain ⟨cell, given, due⟩ := armed.due
    have carries := armed.cell cell given
    cases done : machine.world.loop.isDone wait.future with
    | true => exact .ready cell given carries done (due done)
    | false => exact .pending cell given carries (armed.reacts cell given done)
  · exact .woken listed
  · obtain ⟨cell, given, carries, inHand⟩ := inHand
    exact .called cell given carries (called_of_hand inHand)

/-- No wakeup is lost. -/
structure KeepsWakeups (machine : Machine) : Prop where
  /-- A task that is not over is found under the number that its wakers carry. -/
  named : ∀ {id task}, machine.world.loop.tasks.get? id = some task → task.isOver = false →
    machine.world.loop.live.get? (machine.world.loop.wakerOf id) = some id
  /-- A task that waits is going to hear of everything that it waits for. -/
  hears : ∀ {id activity}, machine.world.loop.taskPhase? id = some (.idle activity) →
    ∀ station ∈ activity.stations, ∀ wait ∈ station.waits, machine.Hears id wait
  /-- When requests are taken over, one step becomes ready of each idle task that was woken. -/
  collects : ∀ {loop : Loop}, loop.closed = false →
    ∃ ids, Loop.Collected ids loop loop.collectRequests
  /-- A task that is due has a step that is ready or just being called. -/
  due : ∀ {id}, machine.world.loop.IsQueued id →
    .step id ∈ machine.world.loop.ready ∨ machine.signal = .call (.step id)
  /-- A task that was woken or is due goes on to be so, until its poll begins or it is over. -/
  polled : ∀ {id later}, id < machine.world.loop.tasks.size → machine.world.loop.Expects id →
    Onward IsSingle machine later →
      later.world.loop.Expects id ∨ later.world.loop.IsOver id ∨
        ∃ before after, Onward IsSingle machine before ∧ Step before after ∧
          Onward IsSingle after later ∧ Polls id before after

/-- While no run of an open loop goes on within another one, no wakeup is lost. -/
theorem keepsWakeups (visits : Visits IsSingle machine) : machine.KeepsWakeups := by
  have wakeful := visits.alert.wakeful
  refine ⟨wakeful.housed.lives, ?_, ?_, ?_, ?_⟩
  · intro id activity idle station member wait waits
    exact visits.alert.hears idle member waits
  · intro loop opened
    obtain ⟨ids, collected, -⟩ := Loop.roused_collectRequests opened
    exact ⟨ids, collected⟩
  · intro id queued
    exact (wakeful.due queued).imp_right called_of_hand
  · intro id later exists_ expects onward
    rcases visits.provided exists_ (Or.inl expects) onward with (expects | finished) | polled
    · exact Or.inl expects
    · exact Or.inr (Or.inl finished)
    · exact Or.inr (Or.inr polled)

/-- No run goes on within another one, and the loop is open. -/
def singly (machine : Machine) : Bool :=
  decide (machine.runs ≤ 1) && !machine.world.loop.closed

/-- The check on a state says that the loop is open and no run goes on within another one. -/
theorem isSingle_of_singly (state : Machine) (fine : singly state = true) : state.IsSingle := by
  unfold singly at fine
  simp only [Bool.and_eq_true, decide_eq_true_eq, Bool.not_eq_true'] at fine
  exact fine

/-- Instructions drive the machine singly to states that later steps of a single run lead to. -/
theorem onward_singly (moves : Nat) (instructions : List Instruction) :
    Onward IsSingle scripted (scripted.drive singly moves instructions) :=
  (onward_drive singly moves scripted instructions).mono isSingle_of_singly

/-- The states to which instructions drive the machine singly are states of a single run. -/
theorem visits_singly (moves : Nat) (instructions : List Instruction) :
    Visits IsSingle (scripted.drive singly moves instructions) :=
  Visits.onward (.initial initial_scripted (isSingle_of_singly scripted rfl)) (onward_singly moves instructions)

/-- A task waits for a future when an error is set for it, and the loop runs once more. -/
def rousing : Machine := scripted.drive singly 60
  [.future (.make "f" .unit none), .spawn "a" [.wait (.future "f")], .runOnce 1,
    .future (.setError "f" .notReady), .runOnce 1]

/-- The task that waits has been woken: it is going to become due once, and until it is polled its
wakeup is not lost. -/
theorem keepsWakeups_rousing : rousing.KeepsWakeups ∧ rousing.world.loop.woken = [0] ∧
    (rousing.world.loop.tasks.get? 0).map Task.isOver = some false :=
  ⟨keepsWakeups (visits_singly 60 _), by decide +kernel, by decide +kernel⟩

end Machine

end EventLoop
