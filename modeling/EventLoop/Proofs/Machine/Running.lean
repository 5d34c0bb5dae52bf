import EventLoop.Proofs.Machine.Move

/-!
# Moves that run the loop

Running the loop leaves programs alone. An iteration that begins leaves the frame of its run below, and
a run that ends answers.
-/
namespace EventLoop

open World (Does Performs Ends Turn.calm leaving moving halting iterating moving_subset_iterating calm
  anyhow)

variable {held : List Ref} {strict : Prop} {down : Demand} {owner : Option TaskId}
variable {rest : Multiset Stake} {world : World}

namespace Moves

/-- The loop makes progress and leaves programs with the tasks. -/
theorem progress {α : Type} {step : WorldM α}
    (change : ∀ scope, World.Change scope .progress world (step world).2) :
    Performs held (.progress :: moving) rest world step (leaving rest) := by
  have does (scope : Scope) (n : Nat) : Does scope n [.progress] world step anyhow :=
    fun _ => ⟨.single List.mem_cons_self (change scope), trivial⟩
  exact (Performs.quietly (by decide) (by decide) fun _ => does _ _).leaves

/-- The loop begins to run or no longer does, which leaves programs with the tasks. -/
theorem flags {running stopping : Bool}
    (idle : world.loop.closed = true → running = true → world.loop.running = true) :
    Performs held (.runs :: moving) rest world
      (World.changeLoop fun loop => { loop with running, stopping }) (leaving rest) := by
  have does (scope : Scope) (n : Nat) : Does scope n [.runs] world
      (World.changeLoop fun loop => { loop with running, stopping }) anyhow :=
    Does.changeLoop List.mem_cons_self (.flags world running stopping idle) trivial
  have performs : Performs held [.runs] rest world
      (World.changeLoop fun loop => { loop with running, stopping }) (leaving rest) :=
    (Performs.quietly (by decide) (by decide) fun _ => does _ _).leaves
  exact performs.mono (List.cons_subset_cons _ (List.nil_subset _))

/-- What most moves do may be done by a move that may begin an iteration. -/
theorem widened {α : Type} {step : WorldM α} {after : α → Multiset Stake → World → Prop}
    (performs : Performs held moving rest world step after) :
    Performs held iterating rest world step after := performs.mono moving_subset_iterating

/-- The frame of a run, on top of those that take its answer. -/
theorem leads_run {within : Frame} {demand : Demand} (run : within.isRun = true)
    (takes : within.Takes demand) (answers : Kind.answer ∈ down.kinds) :
    Leads demand [within] down := by
  refine ⟨takes, ?_⟩
  cases within with
  | repeated | running => exact Demand.single_le answers
  | _ => cases run

/-- The frame of a run is attended to, since it waits for nothing. -/
theorem attended_run {within : Frame} (run : within.isRun = true) (loop : Loop) :
    within.Attended strict loop := by
  cases within with
  | repeated | running => trivial
  | _ => cases run

/-- The frame of a run has no stations. -/
theorem stations_run {within : Frame} (run : within.isRun = true) : within.stations = [] := by
  cases within with
  | repeated | running => rfl
  | _ => cases run

/-- A run receives the end of an iteration. -/
theorem takes_iterated {within : Frame} (run : within.isRun = true) :
    within.Takes { kinds := [.iterated] } := by
  cases within with
  | repeated | running => exact .single List.mem_cons_self
  | _ => cases run

/-- An iteration that begins does not close the loop. -/
theorem beginIteration_spares {within : Frame} (run : within.isRun = true)
    (answers : Kind.answer ∈ down.kinds) :
    Moves held (.progress :: moving) strict down owner rest rest world
      (Machine.beginIteration within) := by
  have failed (result : Except Error Unit) (reached : World) :
      Moved held strict down owner rest ([within], .iterated result) rest reached := by
    refine .plain rfl ?_ (leads_run run (takes_iterated run) answers) ?_
    · rw [List.flatMap_singleton, stations_run run]
    · intro frame member
      rw [List.mem_singleton.mp member]
      exact attended_run run _
  refine get ?_
  split
  · exact pure (failed _ _)
  · refine get (after (progress fun _ => .prepared world _) fun patience _ _ => ?_)
    refine after (Performs.mono (List.subset_cons_self _ _) (Turn.calm fun _ _ => World.Calm.poll _ _))
      fun polled reached _ => ?_
    split
    · exact pure (failed _ _)
    · refine get (after (progress fun _ => .gathered reached _) fun count _ _ => pure ?_)
      refine .plain rfl ?_ ?_ ?_
      · rw [List.flatMap_cons, List.flatMap_singleton, stations_run run]
        rfl
      · exact ⟨.single List.mem_cons_self, leads_run run (takes_iterated run) answers⟩
      · intro frame member
        rcases List.mem_cons.mp member with rfl | member
        · trivial
        · rw [List.mem_singleton.mp member]
          exact attended_run run _

/-- Beginning an iteration is a move, if there is someone below to hear of it. -/
theorem beginIteration {within : Frame} (run : within.isRun = true)
    (answers : Kind.answer ∈ down.kinds) :
    Moves held iterating strict down owner rest rest world (Machine.beginIteration within) :=
  mono (by decide) (beginIteration_spares run answers)

/-- An answer is given down. -/
theorem answer (value : Value) (answers : Kind.answer ∈ down.kinds) :
    Moves held aspects strict down owner rest rest world (Machine.give (.answer value)) :=
  give rfl (Demand.single_le answers)

/-- Beginning to close the loop is a move, if there is someone below to hear its answer. -/
theorem beginClose (refusal success : Value) (answers : Kind.answer ∈ down.kinds) :
    Moves held halting strict down owner rest rest world (Machine.beginClose refusal success) := by
  refine get ?_
  dsimp only
  split
  · exact answer _ answers
  · split
    · exact answer _ answers
    · refine following (Performs.quietly (by decide) (by decide) fun _ => World.Calm.beginClose) ?_
      rintro _ _ reached ⟨rfl, gone⟩
      refine pure (.plain rfl rfl ?_ ?_)
      · exact ⟨.single List.mem_cons_self, Demand.single_le answers⟩
      · intro frame member
        rw [List.mem_singleton.mp member]
        exact congrArg Fittings.closed gone

/-- Something changes that no object depends on. -/
theorem surroundings {change : World → World}
    (changes : ∀ scope, World.Change scope .surroundings world (change world)) :
    Performs held moving rest world (modify change) (leaving rest) :=
  Turn.calm fun scope _ => Does.modify (by decide) (changes scope) trivial

/-- What most moves do may be done by a move that may close the loop. -/
theorem eased {α : Type} {step : WorldM α} {after : α → Multiset Stake → World → Prop}
    (performs : Performs held moving rest world step after) :
    Performs held halting rest world step after := performs.mono (List.subset_cons_self _ _)

/-- Giving the loop up is a move, if there is someone below to hear its answer. -/
theorem giveUp (answers : Kind.answer ∈ down.kinds) :
    Moves held halting strict down owner rest rest world Machine.giveUp := by
  refine get (after (eased (Turn.calm fun _ _ =>
    Does.set (by decide) (.surroundings world _ _ _ _) trivial)) fun _ _ _ => ?_)
  split
  · exact beginClose _ _ answers
  · exact answer _ answers

/-- Leaving a run is a move, if there is someone below to hear its answer. -/
theorem leaveRun (value : Value) (answers : Kind.answer ∈ down.kinds) :
    Moves held halting strict down owner rest rest world (Machine.leaveRun value) := by
  refine after (eased (surroundings fun _ => .surroundings world _ _ _ _)) fun _ _ _ => get ?_
  split
  · exact beginClose _ _ answers
  · exact answer _ answers

/-- The result of a run may be moved out of the task that it was for. -/
theorem runResult (goal : Option TaskId) (result : Except Error Unit) :
    Performs held moving rest world (Machine.runResult goal result) (leaving rest) := by
  cases goal with
  | none => exact Performs.pure rfl
  | some id =>
    cases result with
    | error error => exact Performs.pure rfl
    | ok =>
      refine Performs.get ?_
      split
      · exact Performs.pure rfl
      · rename_i task found
        split
        · exact Performs.pure rfl
        · rename_i future present
          split
          · have taken : Performs held moving rest world (World.changeLoop fun loop =>
                { loop with futures := loop.futures.modify task.result fun _ => future.take.2 })
                fun _ left _ => left = rest ∧ True :=
              Performs.calmly (by decide) fun settled => Does.changeLoop (by decide)
                (.taken world task.result future
                  (settled.orderly.within.loop.result found).1 present ⟨id, task, found, rfl⟩) trivial
            refine Performs.bind taken ?_
            rintro _ _ last ⟨rfl, -⟩
            exact Performs.pure rfl
          · exact Performs.pure rfl

/-- Ending a run is a move, if there is someone below to hear its answer. -/
theorem endRun (goal : Option TaskId) (result : Except Error Unit)
    (answers : Kind.answer ∈ down.kinds) :
    Moves held halting strict down owner rest rest world (Machine.endRun goal result) := by
  refine after (eased (runResult goal result)) fun value _ _ => ?_
  split
  · refine after (eased (World.Turn.drop _)) fun _ _ _ => ?_
    exact leaveRun value answers
  · exact leaveRun value answers

/-- Beginning a run is a move; on a loop that is not free it answers at once. -/
theorem beginRun (goal : Option TaskId) (answers : Kind.answer ∈ down.kinds) :
    Moves held (if world.loop.isFree then iterating else halting) strict down owner rest rest world
      (Machine.beginRun goal) := by
  refine get ?_
  dsimp only
  cases closed : world.loop.closed with
  | true =>
    rw [Loop.isFree, closed]
    exact endRun goal _ answers
  | false =>
    cases running : world.loop.running with
    | true =>
      rw [Loop.isFree, closed, running]
      exact endRun goal _ answers
    | false =>
      rw [Loop.isFree, closed, running]
      refine after (Performs.mono (by decide) (flags fun shut => absurd (closed.symm.trans shut) nofun))
        fun _ _ _ => ?_
      exact beginIteration rfl answers

/-- Going on after an iteration of a run is a move, if there is someone below to hear its answer. -/
theorem continueRun (goal : Option TaskId) (result : Except Error Unit)
    (answers : Kind.answer ∈ down.kinds) :
    Moves held iterating strict down owner rest rest world (Machine.continueRun goal result) := by
  refine get ?_
  dsimp only
  split
  · exact beginIteration rfl answers
  · refine after (Performs.mono (by decide) (flags nofun)) fun _ _ _ => ?_
    exact mono World.halting_subset_iterating (endRun goal result answers)

end Moves

end EventLoop
