import EventLoop.Proofs.Machine.Shutdown

/-!
# Moves that close the loop

A move leaves the loop open or closed as it was, or it does the first half of closing the loop. Then the
second half follows next: a frame for it is on top and goes on as soon as nothing is left that was given up.
-/
namespace EventLoop

open Script (Body Instruction)
open World (Performs Settled Turn.calm leaving moving trafficking hosting revoking requesting polling halting
  iterating)

variable {held : List Ref} {aspects : List Aspect} {rest : Multiset Stake} {world : World}

/-- The first half of closing an open loop was done, and the other half follows. -/
structure Shuts (world : World) (made : Move × World) : Prop where
  /-- The loop was open. -/
  opened : world.loop.closed = false
  /-- Its fittings are gone. -/
  gone : made.2.fittings = .gone
  /-- The loop is not running. -/
  idle : made.2.loop.running = false
  /-- Both ends of its own pipe are closed. -/
  pipe : ∀ pipe, world.pipe = some pipe →
    made.2.isOpen pipe.reader = false ∧ made.2.isOpen pipe.writer = false
  /-- The frame that does the other half goes on. -/
  move : ∃ value below, made.1 = (.closing value :: below, .proceed)

/-- A step keeps the fittings of the loop unless it closes the loop. -/
def ShutsOnly (held : List Ref) (rest : Multiset Stake) (world : World) (step : WorldM Move) : Prop :=
  Settled held (rest + world.loop.stakes) world →
    (step world).2.fittings = world.fittings ∨ Shuts world (step world)

/-- Whether an instruction is one that may close the loop. -/
def MayShut (loop : Loop) (instruction : Instruction) : Prop :=
  instruction.iterates loop = true ∨ instruction.halts = true

namespace ShutsOnly

/-- Nothing is done. -/
theorem pure {move : Move} : ShutsOnly held rest world (pure move) := fun _ => Or.inl rfl

/-- A move that does not close the loop. -/
theorem of_moves {strict : Prop} {down : Demand} {owner : Option TaskId} {step : WorldM Move}
    (moves : Moves held aspects strict down owner rest rest world step) (spares : .shutting ∉ aspects) :
    ShutsOnly held rest world step := by
  intro settled
  obtain ⟨left, course, -⟩ := moves.course settled
  exact Or.inl (course.fittings settled spares)

/-- The state is read. -/
theorem get {next : World → WorldM Move} (rest' : ShutsOnly held rest world (next world)) :
    ShutsOnly held rest world (get >>= next) := rest'

/-- Something is done first that does not close the loop. -/
theorem following {α : Type} {step : WorldM α} {next : α → WorldM Move} {aspects : List Aspect}
    (first : Performs held aspects rest world step (leaving rest))
    (apart : Aspect.shutting ∉ aspects)
    (second : ∀ value reached, ShutsOnly held rest reached (next value)) :
    ShutsOnly held rest world (step >>= next) := by
  intro settled
  obtain ⟨left, deeds, rfl⟩ := first settled
  have same : (step world).2.fittings = world.fittings :=
    World.Course.fittings (Or.inl deeds) settled apart
  rcases second (step world).1 (step world).2 (deeds.settled settled) with kept | shuts
  · exact Or.inl (kept.trans same)
  · refine Or.inr ⟨(congrArg Fittings.closed same).symm.trans shuts.opened, shuts.gone, shuts.idle, ?_, shuts.move⟩
    exact fun pipe found => shuts.pipe pipe ((congrArg Fittings.pipe same).trans found)

/-- Something is done first that is no part of an iteration. -/
theorem after {α : Type} {step : WorldM α} {next : α → WorldM Move}
    (first : Performs held moving rest world step (leaving rest))
    (second : ∀ value reached, ShutsOnly held rest reached (next value)) :
    ShutsOnly held rest world (step >>= next) := following first (by decide) second

/-- A frame goes below what a step leaves. -/
theorem onto {step : WorldM Move} {frame : Frame} (shuts : ShutsOnly held rest world step) :
    ShutsOnly held rest world (do
      let (frames, signal) ← step
      return (frames ++ [frame], signal)) := by
  intro settled
  rcases shuts settled with kept | ⟨opened, gone, idle, pipe, value, below, move⟩
  · exact Or.inl kept
  · refine Or.inr ⟨opened, gone, idle, pipe, value, below ++ [frame], ?_⟩
    change ((step world).1.1 ++ [frame], (step world).1.2) = _
    rw [move]
    rfl

/-! ## Running the loop -/

/-- Beginning to close the loop does the first half of closing it, or leaves it as it was. -/
theorem beginClose (refusal success : Value) :
    ShutsOnly held rest world (Machine.beginClose refusal success) := by
  refine get ?_
  dsimp only
  split
  · exact pure
  · split
    · exact pure
    · rename_i still opened
      intro settled
      have closes : Performs held halting rest world World.beginClose
          fun _ left reached => left = rest ∧ reached.fittings = .gone :=
        Performs.quietly (by decide) (by decide) fun _ => World.Calm.beginClose
      obtain ⟨left, -, -, gone⟩ := closes settled
      have idle := (World.CancelsOnly.beginClose world).running.trans (Bool.eq_false_iff.mpr still)
      exact Or.inr ⟨Bool.eq_false_iff.mpr opened, gone, idle, World.isOpen_beginClose world, success, [],
        rfl⟩

/-- Leaving a run closes the loop at most. -/
theorem leaveRun (value : Value) : ShutsOnly held rest world (Machine.leaveRun value) := by
  refine after (Moves.surroundings fun _ => .surroundings world _ _ _ _) fun _ _ => get ?_
  split
  · exact beginClose _ _
  · exact pure

/-- Giving the loop up closes the loop at most. -/
theorem giveUp : ShutsOnly held rest world Machine.giveUp := by
  refine get (after (Turn.calm fun _ _ =>
    World.Does.set (by decide) (.surroundings world _ _ _ _) trivial) fun _ _ => ?_)
  split
  · exact beginClose _ _
  · exact pure

/-- Ending a run closes the loop at most. -/
theorem endRun (goal : Option TaskId) (result : Except Error Unit) :
    ShutsOnly held rest world (Machine.endRun goal result) := by
  refine after (Moves.runResult goal result) fun value _ => ?_
  split
  · exact after (World.Turn.drop _) fun _ _ => leaveRun value
  · exact leaveRun value

/-- Beginning an iteration closes nothing. -/
theorem beginIteration {within : Frame} (run : within.isRun = true) :
    ShutsOnly held rest world (Machine.beginIteration within) := by
  have moves : Moves held (.progress :: moving) False { kinds := [.answer] } none rest rest world
      (Machine.beginIteration within) := Moves.beginIteration_spares run List.mem_cons_self
  exact of_moves moves (by decide)

/-- Beginning a run closes the loop at most. -/
theorem beginRun (goal : Option TaskId) : ShutsOnly held rest world (Machine.beginRun goal) := by
  refine get ?_
  dsimp only
  split
  · exact endRun goal _
  · split
    · exact endRun goal _
    · rename_i opened _
      refine following (Moves.flags fun closed => absurd closed opened) (by decide) fun _ _ => ?_
      exact beginIteration rfl

/-- Going on after an iteration of a run closes the loop at most. -/
theorem continueRun (goal : Option TaskId) (result : Except Error Unit) :
    ShutsOnly held rest world (Machine.continueRun goal result) := by
  refine get ?_
  dsimp only
  split
  · exact beginIteration rfl
  · refine following (Moves.flags nofun) (by decide) fun _ _ => ?_
    exact endRun goal result

/-- A run that receives the end of an iteration may end, and then the loop may be closed. -/
theorem iteratedTo {frame : Frame} (result : Except Error Unit) :
    ShutsOnly held rest world (Machine.iteratedTo result frame) := by
  unfold Machine.iteratedTo
  split
  · split
    · exact leaveRun _
    · exact leaveRun _
    · exact beginIteration rfl
  · exact continueRun _ result
  · exact pure

/-! ## Instructions -/

/-- An instruction that may close the loop. -/
theorem beginInstruction {runner : Runner} {instruction : Instruction} {loop : Loop}
    (may : MayShut loop instruction) :
    ShutsOnly held rest world (Machine.beginInstruction runner instruction) := by
  cases instruction with
  | runOnce times =>
    cases times with
    | zero => exact pure
    | succ times => exact after Moves.enterRun fun _ _ => beginIteration rfl
  | runForever => exact after Moves.enterRun fun _ _ => beginRun none
  | runUntilComplete name body =>
    refine after Moves.enterRun fun _ _ => ?_
    refine after (World.Doing.spawn name body).leaves fun task reached => get ?_
    split
    · exact after (Turn.calm fun _ _ => World.Calm.whenDone _ rfl rfl) fun _ _ => beginRun (some task)
    · exact beginRun (some task)
  | loop instruction =>
    cases instruction with
    | close => exact beginClose _ _
    | giveUp => exact giveUp
    | _ => exact may.elim nofun nofun
  | _ => exact may.elim nofun nofun

/-- A script whose next instruction may close the loop. -/
theorem stepScript {actor : Actor} {instruction : Instruction} {others : Body} {loop : Loop}
    (may : MayShut loop instruction) :
    ShutsOnly held rest world (Machine.stepScript actor (instruction :: others)) :=
  onto (beginInstruction may)

/-- A program whose next instruction may close the loop. -/
theorem stepProgram {task : TaskId} {last : Value} {instruction : Instruction} {others : Body}
    {loop : Loop} (may : MayShut loop instruction) :
    ShutsOnly held rest world (Machine.stepProgram task last (instruction :: others)) := by
  have begun : ShutsOnly held rest world (do
      let (frames, signal) ← Machine.beginInstruction (.program task) instruction
      return (frames ++ [.program task instruction.label others], signal)) :=
    onto (beginInstruction may)
  cases instruction with
  | ret | retIf => exact may.elim nofun nofun
  | _ => exact begun

end ShutsOnly

/-! ## What closes no loop -/

/-- Moving does not shut the loop. -/
theorem shutting_not_moving : Aspect.shutting ∉ moving := by decide

/-- Looking at a reference that was given up closes no loop. -/
theorem shutting_not_settling (ref : Ref) : Aspect.shutting ∉ ref.aspects := by
  cases ref with
  | future => exact (by decide : Aspect.shutting ∉ .deserting :: moving)
  | task | socket | transport | server => exact shutting_not_moving

/-- No callback closes the loop by itself. -/
theorem shutting_not_callback (callback : Callback) : Aspect.shutting ∉ callback.aspects :=
  @Callback.of_aspects (.shutting ∉ ·) callback (fun _ _ => (by decide : Aspect.shutting ∉ polling))
    (by decide) (by decide) (by decide) shutting_not_moving

/-- A body that may close the loop does so by its first instruction. -/
theorem mayShut_of_mem {loop : Loop} {body : Body} (shutting : .shutting ∈ bodyAspects loop body) :
    ∃ instruction rest, body = instruction :: rest ∧ MayShut loop instruction := by
  cases body with
  | nil => exact absurd shutting shutting_not_moving
  | cons instruction rest =>
    refine ⟨instruction, rest, rfl, ?_⟩
    by_contra refuses
    obtain ⟨iterates, halts⟩ := not_or.mp refuses
    have shutting : .shutting ∈ instruction.aspects loop := shutting
    rw [Instruction.aspects, if_neg iterates, if_neg halts] at shutting
    exact @Instruction.of_base (.shutting ∉ ·) instruction (by decide) (by decide) (by decide) (by decide)
      (by decide) shutting_not_moving shutting

namespace Machine

variable {machine after : Machine}

/-- A machine does the first half of closing an open loop, and the other half follows. -/
structure BeginsClosing (machine after : Machine) : Prop where
  /-- The loop was open. -/
  opened : machine.world.loop.closed = false
  /-- Its fittings are gone. -/
  gone : after.world.fittings = .gone
  /-- The loop is not running. -/
  idle : after.world.loop.running = false
  /-- Both ends of its own pipe are closed. -/
  pipe : ∀ pipe, machine.world.pipe = some pipe →
    after.world.isOpen pipe.reader = false ∧ after.world.isOpen pipe.writer = false
  /-- The frame that does the other half goes on. -/
  frames : ∃ value below, after.frames = .closing value :: below
  /-- Nothing else comes first. -/
  signal : after.signal = .proceed

/-- A step keeps the fittings of the loop unless it closes the loop. -/
def ClosesAtMost (machine after : Machine) : Prop :=
  after.world.fittings = machine.world.fittings ∨ BeginsClosing machine after

/-- A move whose step closes the loop at most does no more than that. -/
theorem closesAtMost_move {below : List Frame} {rest : Multiset Stake} {step : WorldM Move}
    (shuts : ShutsOnly machine.held rest machine.holding step)
    (settled : Settled [] (rest + machine.world.loop.stakes) machine.world) :
    ClosesAtMost machine (machine.move below step) := by
  rcases shuts (settled.holding machine.held) with kept | ⟨opened, gone, idle, pipe, value, upper, move⟩
  · exact Or.inl kept
  · refine Or.inr ⟨opened, gone, idle, pipe, ⟨value, upper ++ below, ?_⟩, ?_⟩
    · change (step machine.holding).1.1 ++ below = _
      rw [move]
      rfl
    · change (step machine.holding).1.2 = _
      rw [move]

/-- A machine keeps the fittings of a loop that it does not close on its way. -/
theorem Passes.fittings {aspects : List Aspect} (passes : machine.Passes aspects after)
    (sound : machine.Sound False) (spares : .shutting ∉ aspects) : ClosesAtMost machine after :=
  Or.inl (World.Course.fittings passes sound.settled spares)

/-- A signal that is acted on. -/
theorem Sound.closesAtMost_act (sound : machine.Sound False) {step : WorldM Move}
    (acts : act? machine.signal = some step) :
    ClosesAtMost machine (machine.move machine.frames step) := by
  by_cases shutting : .shutting ∈ machine.signal.aspects machine.world.loop
  · have settled := sound.settled_below
    have base := Signal.mem_base shutting (by decide)
    cases signal : machine.signal with
    | script actor body =>
      rw [signal] at acts base settled
      cases acts
      obtain ⟨instruction, rest, rfl, may⟩ := mayShut_of_mem base
      exact closesAtMost_move (.stepScript may) (settled rfl)
    | program task last body =>
      rw [signal] at acts base settled
      cases acts
      obtain ⟨instruction, rest, rfl, may⟩ := mayShut_of_mem base
      exact closesAtMost_move (.stepProgram may) (settled rfl)
    | call callback =>
      rw [signal] at base
      exact absurd base (shutting_not_callback callback)
    | proceed | answer | iterated | resume | retry | join | select | ended | returned | suspended
    | waiting =>
      rw [signal] at base
      exact absurd base shutting_not_moving
  · exact (sound.act acts fun asked => asked.elim).2.fittings sound shutting

/-- A frame that receives what was just done. -/
theorem Sound.closesAtMost_deliver (sound : machine.Sound False) {frame : Frame} {below : List Frame}
    (clean : machine.world.loop.dropped = []) (done : act? machine.signal = none)
    (split : machine.frames = frame :: below) :
    ClosesAtMost machine (machine.move below (Machine.deliver machine.signal frame)) := by
  have passes := (sound.deliver clean done split fun asked => asked.elim).2
  have run (only : frame.kinds = [.iterated]) (run : frame.isRun = true) :
      ClosesAtMost machine (machine.move below (Machine.deliver machine.signal frame)) := by
    obtain ⟨result, signal⟩ := (split ▸ sound.fits : Fits _ (frame :: below)).1.eq_iterated only done
    rw [signal]
    have shuts : ShutsOnly machine.held (stakesOf (below.flatMap Frame.stations))
        machine.holding (Machine.deliver (.iterated result) frame) := .iteratedTo result
    exact closesAtMost_move shuts (sound.settled_run signal split run)
  cases frame with
  | repeated | running => exact run rfl rfl
  | closing => exact passes.fittings sound (by decide : Aspect.shutting ∉ .closing :: moving)
  | iteration => exact passes.fittings sound (by decide : Aspect.shutting ∉ .taking :: moving)
  | poll => exact passes.fittings sound (by decide : Aspect.shutting ∉ polling)
  | afterData | afterEnd | afterLoss =>
    exact passes.fittings sound (by decide : Aspect.shutting ∉ trafficking)
  | script | program | letGo | holding | rounds | joining | selecting =>
    exact passes.fittings sound shutting_not_moving

/-- An instruction from outside that is begun. -/
theorem Sound.closesAtMost_instructed (sound : machine.Sound False) (halted : machine.next = none)
    (instruction : Instruction) : ClosesAtMost machine (machine.instructed instruction) := by
  obtain ⟨-, empty, value, signal⟩ := sound.answered halted
  by_cases shutting : .shutting ∈ instruction.aspects machine.world.loop
  · obtain ⟨_, _, same, may⟩ := mayShut_of_mem
      (show .shutting ∈ bodyAspects machine.world.loop [instruction] from shutting)
    cases same
    let start : Machine := ⟨(Scenario.takeLog machine.world).2, [], .proceed⟩
    have look : World.Deed [] iterating machine.stakes machine.world machine.stakes start.world :=
      .changed _ (by decide) Aspect.noConfusion Aspect.noConfusion (.surroundings machine.world _ _ _ _)
    have settled := look.settled sound.settled
    unfold Machine.stakes stations at settled
    rw [signal, empty] at settled
    have shuts : ShutsOnly start.held (stakesOf []) start.holding
        (beginInstruction .outside instruction) := .beginInstruction may
    rcases @closesAtMost_move start [] _ _ shuts settled with kept | shuts
    · exact Or.inl kept
    · exact Or.inr ⟨shuts.opened, shuts.gone, shuts.idle, shuts.pipe, shuts.frames, shuts.signal⟩
  · exact (sound.instructed halted instruction).2.fittings sound shutting

/-- Every step of a run keeps the fittings of the loop unless it closes the loop. -/
theorem Sound.closesAtMost (sound : machine.Sound False) (step : Step machine after) :
    ClosesAtMost machine after := by
  cases step.does with
  | settled dropped =>
    exact (sound.settle dropped fun asked => asked.elim).2.fittings sound (shutting_not_settling _)
  | acted clean acts => exact sound.closesAtMost_act acts
  | delivered clean done split => exact sound.closesAtMost_deliver clean done split
  | begun halted instruction => exact sound.closesAtMost_instructed halted instruction

end Machine

end EventLoop
