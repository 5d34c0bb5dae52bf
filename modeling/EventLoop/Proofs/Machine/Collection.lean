import EventLoop.Proofs.Effect.Timeouts
import EventLoop.Proofs.Machine.Stages
import EventLoop.Proofs.Machine.Timers

/-!
# The collection of timers

An iteration that begins prepares, polls, and then gathers the callbacks whose time has come. Up to that
point, and in every step of a run on an open loop that gathers nothing, an entry stays unless its timer is
cancelled.
-/
namespace EventLoop

open Script (Activity Instruction)
open World (Performs Deeds Settled Changes Turn.calm leaving moving trafficking halting iterating polling
  openTo)

variable {held : List Ref} {aspects : List Aspect} {rest : Multiset Stake} {world : World}

/-- Most moves collect no timers. -/
theorem moving_apart : ¬ (.progress ∈ moving ∨ .closing ∈ moving) := by decide

namespace World

variable {before middle after : World}

/-- No timer is collected on the way from one world to another. -/
structure Uncollected (before after : World) : Prop where
  /-- The timers take other steps. -/
  ages : before.loop.Ages False after.loop
  /-- The timers of futures stay in order. -/
  tracks : before.Tracks after

/-- Nothing is collected when nothing happens. -/
theorem Uncollected.refl (world : World) : world.Uncollected world := ⟨.refl world.loop, .refl world⟩

/-- What collects nothing twice collects nothing. -/
theorem Uncollected.trans (one : before.Uncollected middle) (other : middle.Uncollected after) :
    before.Uncollected after := ⟨one.ages.trans other.ages, one.tracks.trans other.tracks⟩

/-- An iteration that begins collects no timers until it gathers. -/
theorem Uncollected.prepare (world : World) (now : Nat) :
    world.Uncollected { world with loop := (world.loop.prepare now).2 } :=
  ⟨.prepare world.loop now, .prepare world now⟩

/-- Deeds and the taking of a place collect no timers unless they belong to an iteration or close the
loop. -/
theorem Course.uncollected {first last : Multiset Stake × World} (course : Course held aspects first last)
    (settled : Settled held first.1 first.2) (apart : ¬ (.progress ∈ aspects ∨ .closing ∈ aspects)) :
    first.2.Uncollected last.2 := by
  have still : Aspect.progress ∉ moving ∧ Aspect.closing ∉ moving := by decide
  refine ⟨course.ages settled apart, (course.changes_append settled).tracks ?_ ?_⟩
  · exact fun member => (List.mem_append.mp member).elim (fun here => apart (Or.inl here)) still.1
  · exact fun member => (List.mem_append.mp member).elim (fun here => apart (Or.inr here)) still.2

/-- Deeds that belong to no iteration and do not close the loop collect no timers. -/
theorem Performs.uncollected {α : Type} {step : WorldM α} {after : α → Multiset Stake → World → Prop}
    (performs : Performs held aspects rest world step after)
    (apart : ¬ (.progress ∈ aspects ∨ .closing ∈ aspects))
    (settled : Settled held (rest + world.loop.stakes) world) : world.Uncollected (step world).2 := by
  obtain ⟨left, deeds, -⟩ := performs settled
  exact Course.uncollected (Or.inl deeds) settled apart

end World

/-! ## Moves that gather -/

/-- A step gathers, after deeds that collect no timers. -/
structure Gathers (held : List Ref) (rest : Multiset Stake) (world : World) (made : Move × World)
    (point : World) (below : List Frame) : Prop where
  /-- The deeds, which leave the stakes alone. -/
  deeds : Deeds held iterating (rest + world.loop.stakes, world) (rest + point.loop.stakes, point)
  /-- They collect no timers. -/
  uncollected : world.Uncollected point
  /-- Then an iteration is left. -/
  move : made.1 = (.iteration (point.loop.gather point.host.kernel.now).1 :: below, .proceed)
  /-- What is below it is no stage. -/
  apart : ∀ frame ∈ below, frame.isStage = false
  /-- The callbacks were gathered. -/
  gathered : made.2 = { point with loop := (point.loop.gather point.host.kernel.now).2 }

/-- A step collects no timers unless it gathers. -/
def GathersOnly (held : List Ref) (rest : Multiset Stake) (world : World) (step : WorldM Move) : Prop :=
  Settled held (rest + world.loop.stakes) world → world.Uncollected (step world).2 ∨
    ∃ point below, Gathers held rest world (step world) point below

namespace GathersOnly

/-- Nothing is done. -/
theorem pure {move : Move} : GathersOnly held rest world (pure move) :=
  fun _ => Or.inl (.refl world)

/-- A move that may close the loop collects no timers. -/
theorem of_moves {strict : Prop} {down : Demand} {owner : Option TaskId} {step : WorldM Move}
    (moves : Moves held halting strict down owner rest rest world step) :
    GathersOnly held rest world step := by
  intro settled
  obtain ⟨left, course, -⟩ := moves.course settled
  exact Or.inl (course.uncollected settled (by decide))

/-- The state is read. -/
theorem get {next : World → WorldM Move} (rest' : GathersOnly held rest world (next world)) :
    GathersOnly held rest world (get >>= next) := rest'

/-- Something is done first that collects no timers. -/
theorem following {α : Type} {step : WorldM α} {next : α → WorldM Move}
    (first : Performs held iterating rest world step (leaving rest))
    (waits : Settled held (rest + world.loop.stakes) world → world.Uncollected (step world).2)
    (second : ∀ value reached, GathersOnly held rest reached (next value)) :
    GathersOnly held rest world (step >>= next) := by
  intro settled
  obtain ⟨left, deeds, rfl⟩ := first settled
  rcases second (step world).1 (step world).2 (deeds.settled settled) with older | ⟨point, below, gathers⟩
  · exact Or.inl ((waits settled).trans older)
  · exact Or.inr ⟨point, below, deeds.trans gathers.deeds, (waits settled).trans gathers.uncollected,
      gathers.move, gathers.apart, gathers.gathered⟩

/-- Something is done first that is no part of an iteration. -/
theorem after {α : Type} {step : WorldM α} {next : α → WorldM Move}
    (first : Performs held moving rest world step (leaving rest))
    (second : ∀ value reached, GathersOnly held rest reached (next value)) :
    GathersOnly held rest world (step >>= next) :=
  following (Moves.widened first) (first.uncollected moving_apart) second

/-- A frame goes below what a step leaves. -/
theorem onto {step : WorldM Move} {frame : Frame} (gathers : GathersOnly held rest world step)
    (apart : frame.isStage = false) :
    GathersOnly held rest world (do
      let (frames, signal) ← step
      return (frames ++ [frame], signal)) := by
  intro settled
  rcases gathers settled with older | ⟨point, below, deeds, waits, move, plain, gathered⟩
  · exact Or.inl older
  · refine Or.inr ⟨point, below ++ [frame], deeds, waits, ?_, fun other member => ?_, gathered⟩
    · change ((step world).1.1 ++ [frame], (step world).1.2) = _
      rw [move]
      rfl
    · rcases List.mem_append.mp member with here | last
      · exact plain other here
      · rw [List.mem_singleton.mp last]
        exact apart

/-! ## Running the loop -/

/-- Beginning an iteration collects timers only when it gathers. -/
theorem beginIteration {within : Frame} (apart : within.isStage = false) :
    GathersOnly held rest world (Machine.beginIteration within) := by
  refine get ?_
  split
  · exact pure
  · refine get (following ((Moves.progress fun _ => .prepared world _).mono (by decide))
      (fun _ => .prepare world world.host.kernel.now) fun patience middle => ?_)
    refine after (Turn.calm fun _ _ => World.Calm.poll _ _) fun polled point => ?_
    split
    · exact pure
    · refine fun _ => Or.inr ⟨point, [within], .refl, .refl point, rfl, fun frame member => ?_, rfl⟩
      rw [List.mem_singleton.mp member]
      exact apart

/-- Ending a run collects timers only when it gathers. -/
theorem endRun (goal : Option TaskId) (result : Except Error Unit) :
    GathersOnly held rest world (Machine.endRun goal result) := by
  have moves : Moves held halting False { kinds := [.answer] } none rest rest world
      (Machine.endRun goal result) := Moves.endRun goal result List.mem_cons_self
  exact of_moves moves

/-- Beginning a run collects timers only when its first iteration gathers. -/
theorem beginRun (goal : Option TaskId) : GathersOnly held rest world (Machine.beginRun goal) := by
  refine get ?_
  dsimp only
  split
  · exact endRun goal _
  · split
    · exact endRun goal _
    · rename_i opened _
      have runs := @Moves.flags held rest world true world.loop.stopping
        fun closed => absurd closed opened
      refine following (runs.mono (by decide)) (runs.uncollected (by decide)) fun _ _ => ?_
      exact beginIteration rfl

/-- Going on after an iteration of a run collects timers only when the next iteration gathers. -/
theorem continueRun (goal : Option TaskId) (result : Except Error Unit) :
    GathersOnly held rest world (Machine.continueRun goal result) := by
  refine get ?_
  dsimp only
  split
  · exact beginIteration rfl
  · have ended := @Moves.flags held rest world false false nofun
    refine following (ended.mono (by decide)) (ended.uncollected (by decide)) fun _ _ => ?_
    exact endRun goal result

/-- Leaving a run collects timers only when it gathers. -/
theorem leaveRun (value : Value) : GathersOnly held rest world (Machine.leaveRun value) := by
  have moves : Moves held halting False { kinds := [.answer] } none rest rest world
      (Machine.leaveRun value) := Moves.leaveRun value List.mem_cons_self
  exact of_moves moves

/-- A run that receives the end of an iteration may begin the next one. -/
theorem iteratedTo {frame : Frame} (result : Except Error Unit) :
    GathersOnly held rest world (Machine.iteratedTo result frame) := by
  unfold Machine.iteratedTo
  split
  · split
    · exact leaveRun _
    · exact leaveRun _
    · exact beginIteration rfl
  · exact continueRun _ result
  · exact pure

/-- An instruction that begins an iteration. -/
theorem beginInstruction {runner : Runner} {instruction : Instruction} {loop : Loop}
    (iterates : instruction.iterates loop = true) :
    GathersOnly held rest world (Machine.beginInstruction runner instruction) := by
  cases instruction with
  | runOnce times =>
    cases times with
    | zero => exact pure
    | succ times => exact after Moves.enterRun fun _ _ => beginIteration rfl
  | runForever => exact after Moves.enterRun fun _ _ => beginRun none
  | runUntilComplete name body =>
    refine after Moves.enterRun fun _ _ => ?_
    refine after (World.Doing.spawn name body).leaves fun task reached => get ?_
    split
    · exact after (Turn.calm fun _ _ => World.Calm.whenDone _ rfl rfl) fun _ _ => beginRun (some task)
    · exact beginRun (some task)
  | _ => cases iterates

/-- Going on with a script collects timers only when an iteration begins with its instruction. -/
theorem stepScript {actor : Actor} {instruction : Instruction} {others : Script.Body} {loop : Loop}
    (iterates : instruction.iterates loop = true) :
    GathersOnly held rest world (Machine.stepScript actor (instruction :: others)) :=
  onto (beginInstruction iterates) rfl

/-- Going on with a program collects timers only when an iteration begins with its instruction. -/
theorem stepProgram {task : TaskId} {last : Value} {instruction : Instruction} {others : Script.Body}
    {loop : Loop} (iterates : instruction.iterates loop = true) :
    GathersOnly held rest world (Machine.stepProgram task last (instruction :: others)) := by
  have begun : GathersOnly held rest world (do
      let (frames, signal) ← Machine.beginInstruction (.program task) instruction
      return (frames ++ [.program task instruction.label others], signal)) :=
    onto (beginInstruction iterates) rfl
  cases instruction with
  | runOnce | runForever | runUntilComplete => exact begun
  | _ => cases iterates

end GathersOnly

namespace Machine

variable {machine after : Machine}

/-! ## Steps that collect -/

/-- The point in a step at which an iteration that begins collects the timers whose time has come. -/
structure Collects (machine after : Machine) (point : World) : Prop where
  /-- Nothing is collected before. -/
  ages : machine.world.loop.Ages False point.loop
  /-- No callback is taken before. -/
  ready : machine.world.loop.ready <+: point.loop.ready
  /-- Then the callbacks are gathered. -/
  gathered : after.world = { point with loop := (point.loop.gather point.host.kernel.now).2 }
  /-- An iteration begins, which is to take all of them. -/
  stages : after.stages = .iteration after.world.loop.ready.length :: machine.stages

/-- A move that gathers collects. -/
theorem collects_of_gathers {below lower : List Frame} {rest : Multiset Stake} {step : WorldM Move}
    {point : World} (gathers : Gathers machine.held rest machine.holding (step machine.holding) point lower)
    (settled : Settled [] (rest + machine.world.loop.stakes) machine.world)
    (same : below.filter Frame.isStage = machine.stages)
    (opened : (machine.move below step).world.loop.closed = false)
    (minds : machine.world.loop.Minds) : Collects machine (machine.move below step) point := by
  have gathered : (machine.move below step).world = _ := gathers.gathered
  have open_ : point.loop.closed = false := by
    have change : World.Change (openTo []) .progress point (machine.move below step).world :=
      gathered ▸ .gathered point point.host.kernel.now
    exact change.opened opened
  have changes := gathers.deeds.changes (settled.holding machine.held) (List.Subset.refl _) (by decide)
  have proceeds : Loop.Proceeds True machine.holding.loop point.loop :=
    changes.proceeds isActive_iterating (fun _ => trivial) open_ minds.asking minds.enrolls
  refine ⟨gathers.uncollected.ages, proceeds.acts.ready, gathered, ?_⟩
  have count : (point.loop.gather point.host.kernel.now).1 =
      (machine.move below step).world.loop.ready.length := by
    rw [gathered]
    rfl
  change ((step machine.holding).1.1 ++ below).filter Frame.isStage = _
  rw [congrArg Prod.fst gathers.move, ← count, ← same, List.cons_append, List.filter_cons_of_pos rfl]
  exact congrArg _ (stages_move gathers.apart)

/-- A step of a run collects nothing or collects at a point, before which it collects nothing. -/
def CollectsOnce (machine after : Machine) : Prop :=
  machine.world.Uncollected after.world ∨
    ∃ point, Collects machine after point ∧ machine.world.Uncollected point

/-- What is held meanwhile does not matter to what is collected. -/
theorem uncollected_holding (world : World) (held : List Ref) :
    world.Uncollected { world with held } :=
  ⟨.refl world.loop, .ofLoop rfl id fun _ => .refl world.loop⟩

/-- A step that gathers once collects once. -/
theorem collectsOnce_of_gathersOnly {below : List Frame} {rest : Multiset Stake} {step : WorldM Move}
    (gathers : GathersOnly machine.held rest machine.holding step)
    (settled : Settled [] (rest + machine.world.loop.stakes) machine.world)
    (same : below.filter Frame.isStage = machine.stages)
    (opened : (machine.move below step).world.loop.closed = false)
    (minds : machine.world.loop.Minds) : CollectsOnce machine (machine.move below step) := by
  have held := uncollected_holding machine.world machine.held
  rcases gathers (settled.holding machine.held) with older | ⟨point, lower, gathers⟩
  · exact Or.inl (held.trans older)
  · exact Or.inr ⟨point, collects_of_gathers gathers settled same opened minds,
      held.trans gathers.uncollected⟩

/-- A step that goes its way without an iteration collects nothing. -/
theorem Passes.collectsOnce {aspects : List Aspect} (passes : machine.Passes aspects after)
    (sound : machine.Sound False) (apart : ¬ (.progress ∈ aspects ∨ .closing ∈ aspects)) :
    CollectsOnce machine after :=
  Or.inl (World.Course.uncollected passes sound.settled apart)

/-- A signal that is acted on collects once. -/
theorem Sound.collectsOnce_act (sound : machine.Sound False) {step : WorldM Move}
    (acts : act? machine.signal = some step)
    (opened : (machine.move machine.frames step).world.loop.closed = false)
    (minds : machine.world.loop.Minds) : CollectsOnce machine (machine.move machine.frames step) := by
  have passes := (sound.act acts fun asked => asked.elim).2
  by_cases progress : .progress ∈ machine.signal.aspects machine.world.loop
  · have settled := sound.settled_below
    have base := Signal.mem_base progress (by decide)
    cases signal : machine.signal with
    | script actor body =>
      rw [signal] at acts base settled
      cases acts
      obtain ⟨instruction, rest, rfl, iterates⟩ := iterates_of_progress base
      exact collectsOnce_of_gathersOnly (.stepScript iterates) (settled rfl) rfl opened minds
    | program task last body =>
      rw [signal] at acts base settled
      cases acts
      obtain ⟨instruction, rest, rfl, iterates⟩ := iterates_of_progress base
      exact collectsOnce_of_gathersOnly (.stepProgram iterates) (settled rfl) rfl opened minds
    | call callback =>
      rw [signal] at base
      exact absurd base (progress_not_callback callback)
    | proceed | answer | iterated | resume | retry | join | select | ended | returned | suspended
    | waiting =>
      rw [signal] at base
      exact absurd base progress_not_moving
  · exact passes.collectsOnce sound fun which =>
      which.elim progress (machine.signal.steady machine.world.loop).2

/-- A run that receives the end of an iteration collects once. -/
theorem Sound.collectsOnce_run (sound : machine.Sound False) {frame : Frame} {below : List Frame}
    (done : act? machine.signal = none) (split : machine.frames = frame :: below)
    (only : frame.kinds = [.iterated]) (run : frame.isRun = true)
    (opened : (machine.move below (Machine.deliver machine.signal frame)).world.loop.closed = false)
    (minds : machine.world.loop.Minds) :
    CollectsOnce machine (machine.move below (Machine.deliver machine.signal frame)) := by
  obtain ⟨result, signal⟩ := (split ▸ sound.fits : Fits _ (frame :: below)).1.eq_iterated only done
  rw [signal] at opened ⊢
  have gathers : GathersOnly machine.held (stakesOf (below.flatMap Frame.stations)) machine.holding
      (Machine.deliver (.iterated result) frame) := .iteratedTo result
  refine collectsOnce_of_gathersOnly gathers (sound.settled_run signal split run) ?_ opened minds
  · have apart : frame.isStage = false := by
      cases frame with
      | repeated | running => rfl
      | _ => cases run
    unfold Machine.stages
    rw [split, List.filter_cons_of_neg (ne_true_of_eq_false apart)]

/-- A frame that receives what was just done collects once. -/
theorem Sound.collectsOnce_deliver (sound : machine.Sound False) {frame : Frame} {below : List Frame}
    (clean : machine.world.loop.dropped = []) (done : act? machine.signal = none)
    (split : machine.frames = frame :: below)
    (opened : (machine.move below (Machine.deliver machine.signal frame)).world.loop.closed = false)
    (minds : machine.world.loop.Minds) :
    CollectsOnce machine (machine.move below (Machine.deliver machine.signal frame)) := by
  have passes := (sound.deliver clean done split fun asked => asked.elim).2
  cases frame with
  | repeated | running => exact sound.collectsOnce_run done split rfl rfl opened minds
  | closing => exact (sound.not_closing split passes opened).elim
  | iteration =>
    exact passes.collectsOnce sound
      (by decide : ¬ (.progress ∈ .taking :: moving ∨ .closing ∈ .taking :: moving))
  | poll => exact passes.collectsOnce sound (by decide : ¬ (.progress ∈ polling ∨ .closing ∈ polling))
  | afterData | afterEnd | afterLoss =>
    exact passes.collectsOnce sound
      (by decide : ¬ (.progress ∈ trafficking ∨ .closing ∈ trafficking))
  | script | program | letGo | holding | rounds | joining | selecting =>
    exact passes.collectsOnce sound moving_apart

/-- An instruction from outside that is begun collects once. -/
theorem Sound.collectsOnce_instructed (sound : machine.Sound False) (halted : machine.next = none)
    (instruction : Instruction) (opened : (machine.instructed instruction).world.loop.closed = false)
    (minds : machine.world.loop.Minds) : CollectsOnce machine (machine.instructed instruction) := by
  obtain ⟨-, empty, value, signal⟩ := sound.answered halted
  by_cases iterates : instruction.iterates machine.world.loop = true
  · let start : Machine := ⟨(Scenario.takeLog machine.world).2, [], .proceed⟩
    have look : World.Deed [] iterating machine.stakes machine.world machine.stakes start.world :=
      .changed _ (by decide) Aspect.noConfusion Aspect.noConfusion (.surroundings machine.world _ _ _ _)
    have settled := look.settled sound.settled
    unfold Machine.stakes stations at settled
    rw [signal, empty] at settled
    have gathers : GathersOnly start.held (stakesOf []) start.holding
        (beginInstruction .outside instruction) := .beginInstruction iterates
    have stages : start.stages = machine.stages := by
      unfold Machine.stages
      rw [empty]
    have looked : machine.world.Uncollected start.world :=
      ⟨.refl machine.world.loop, .ofLoop rfl id fun _ => .refl machine.world.loop⟩
    rcases collectsOnce_of_gathersOnly gathers settled rfl opened minds with older | ⟨point, collects, older⟩
    · exact Or.inl (looked.trans older)
    · exact Or.inr ⟨point, ⟨collects.ages, collects.ready, collects.gathered, stages ▸ collects.stages⟩,
        looked.trans older⟩
  · refine (sound.instructed halted instruction).2.collectsOnce sound fun which => which.elim ?_ ?_
    · intro progress
      obtain ⟨_, _, same, begins⟩ := iterates_of_progress
        (show .progress ∈ bodyAspects machine.world.loop [instruction] from progress)
      cases same
      exact iterates begins
    · exact (Signal.steady machine.world.loop (.script (.protocol "") [instruction])).2

/-- Every step of a run on an open loop collects nothing or collects at one point. -/
theorem Sound.collectsOnce (sound : machine.Sound False) (step : Step machine after)
    (opened : after.world.loop.closed = false) (minds : machine.world.loop.Minds) :
    CollectsOnce machine after := by
  cases step.does with
  | settled dropped =>
    exact (sound.settle dropped fun asked => asked.elim).2.collectsOnce sound fun which =>
      which.elim (progress_not_settling _) (settling_steady _).2
  | acted clean acts => exact sound.collectsOnce_act acts opened minds
  | delivered clean done split => exact sound.collectsOnce_deliver clean done split opened minds
  | begun halted instruction => exact sound.collectsOnce_instructed halted instruction opened minds

end Machine

end EventLoop
