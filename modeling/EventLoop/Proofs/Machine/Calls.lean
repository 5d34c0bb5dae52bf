import EventLoop.Proofs.Machine.Run

/-!
# Calls

Whoever drives the machine from outside, a script and the program of a task call an instruction when the
next step begins it. An instruction that finishes at once has its answer after that step, and what it
did is all that the step did.
-/
namespace EventLoop

open Script (Body Instruction FutureInstruction TaskInstruction SyncInstruction)

namespace Machine

/-- Someone calls an instruction: the next step begins it. -/
inductive Calls (instruction : Instruction) (machine : Machine) : Machine → Prop
  /-- The machine has halted, and the call comes from outside. -/
  | outside (halted : machine.next = none) :
      Calls instruction machine (machine.instructed instruction)
  /-- A script goes on with the call. -/
  | script {after : Machine} (actor : Actor) (rest : Body)
      (clean : machine.world.loop.dropped = [])
      (signal : machine.signal = .script actor (instruction :: rest))
      (moves : machine.next = some after) : Calls instruction machine after
  /-- A program goes on with the call. -/
  | program {after : Machine} (task : TaskId) (last : Value) (rest : Body)
      (clean : machine.world.loop.dropped = [])
      (signal : machine.signal = .program task last (instruction :: rest))
      (moves : machine.next = some after) : Calls instruction machine after

variable {machine after : Machine} {instruction : Instruction}

/-- A call is a step. -/
theorem Calls.step (calls : Calls instruction machine after) : Step machine after := by
  cases calls with
  | outside halted => exact .begun halted instruction
  | script _ _ _ _ moves | program _ _ _ _ _ moves => exact .moved moves

/-- An instruction finishes at once, whoever runs it. -/
structure Finishes (instruction : Instruction) : Prop where
  /-- It is answered when it begins. -/
  begins : ∀ runner, beginInstruction runner instruction = (do
    give (.answer (← World.doInstruction runner.protocol? instruction)))
  /-- A program begins it like any other runner. -/
  program : ∀ task last rest, stepProgram task last (instruction :: rest) = (do
    let (frames, signal) ← beginInstruction (.program task) instruction
    return (frames ++ [.program task instruction.label rest], signal))

/-- A call on a future finishes at once. -/
theorem finishes_future (call : FutureInstruction) : Finishes (.future call) :=
  ⟨fun runner => by cases runner <;> rfl, fun _ _ _ => rfl⟩

/-- A call on a task finishes at once. -/
theorem finishes_task (call : TaskInstruction) : Finishes (.task call) :=
  ⟨fun runner => by cases runner <;> rfl, fun _ _ _ => rfl⟩

/-- A call on a primitive finishes at once. -/
theorem finishes_sync (call : SyncInstruction) : Finishes (.sync call) :=
  ⟨fun runner => by cases runner <;> rfl, fun _ _ _ => rfl⟩

/-- Registering a script with a future finishes at once. -/
theorem finishes_onDone (future name : String) (body : Body) : Finishes (.onDone future name body) :=
  ⟨fun runner => by cases runner <;> rfl, fun _ _ _ => rfl⟩

/-- Registering a script with the result of a task finishes at once. -/
theorem finishes_onTaskDone (task name : String) (body : Body) :
    Finishes (.onTaskDone task name body) :=
  ⟨fun runner => by cases runner <;> rfl, fun _ _ _ => rfl⟩

/-- What a call has done that finishes at once. -/
structure Answered (instruction : Instruction) (machine after : Machine) (protocol : Option String)
    (world : World) : Prop where
  /-- The loop is the one that the call finds. -/
  loop : world.loop = machine.world.loop
  /-- The names are those that the call finds. -/
  names : world.names = machine.world.names
  /-- The queues are those that the call finds. -/
  queues : world.queue = machine.world.queue
  /-- The call has its answer. -/
  signal : after.signal = .answer (World.doInstruction protocol instruction world).1
  /-- It has done no more than that. -/
  done : after.world = (World.doInstruction protocol instruction world).2
  /-- The events are those that the call finds. -/
  events : world.events = machine.world.events
  /-- The locks are those that the call finds. -/
  locks : world.locks = machine.world.locks
  /-- The conditions are those that the call finds. -/
  conditions : world.conditions = machine.world.conditions
  /-- The time is that of the call. -/
  now : world.host.kernel.now = machine.world.host.kernel.now

/-- An instruction that finishes at once is answered by the step that begins it. -/
theorem Calls.answered (calls : Calls instruction machine after) (finishes : Finishes instruction) :
    ∃ protocol world, Answered instruction machine after protocol world := by
  cases calls with
  | outside halted =>
    let start : Machine := ⟨(Scenario.takeLog machine.world).2, [], .proceed⟩
    refine ⟨none, start.holding, rfl, rfl, World.queue_congr rfl rfl rfl rfl, ?_, ?_, rfl, rfl, rfl, rfl⟩
    · change (beginInstruction .outside instruction start.holding).1.2 = _
      rw [finishes.begins]
      rfl
    · change (beginInstruction .outside instruction start.holding).2 = _
      rw [finishes.begins]
      rfl
  | script actor rest clean signal moves =>
    have acts : act? machine.signal = some (stepScript actor (instruction :: rest)) := by rw [signal]; rfl
    obtain rfl := Option.some.inj (moves.symm.trans (next_of_act clean acts))
    refine ⟨(Runner.script actor).protocol?, machine.holding, rfl, rfl,
      World.queue_congr rfl rfl rfl rfl, ?_, ?_, rfl, rfl, rfl, rfl⟩
    · change (beginInstruction (.script actor) instruction machine.holding).1.2 = _
      rw [finishes.begins]
      rfl
    · change (beginInstruction (.script actor) instruction machine.holding).2 = _
      rw [finishes.begins]
      rfl
  | program task last rest clean signal moves =>
    have acts : act? machine.signal = some (stepProgram task last (instruction :: rest)) := by rw [signal]; rfl
    obtain rfl := Option.some.inj (moves.symm.trans (next_of_act clean acts))
    refine ⟨none, machine.holding, rfl, rfl, World.queue_congr rfl rfl rfl rfl, ?_, ?_, rfl, rfl, rfl, rfl⟩
    · change (stepProgram task last (instruction :: rest) machine.holding).1.2 = _
      rw [finishes.program, finishes.begins]
      rfl
    · change (stepProgram task last (instruction :: rest) machine.holding).2 = _
      rw [finishes.program, finishes.begins]
      rfl

end Machine

namespace World

variable {kind : ObjectClass} {name : String} {world : World}

/-- What is done with an object that has a name. -/
theorem onNamed_eq {id : Nat} (named : world.names.lookup (kind, name) = some id)
    (action : Nat → WorldM Value) : onNamed kind name action world = action id world := by
  unfold onNamed named?
  simp only [StateM.bind_apply, StateM.get_apply, named]
  rfl

/-- Nothing is done if no object has the name. -/
theorem onNamed_of_none (unnamed : world.names.lookup (kind, name) = none)
    (action : Nat → WorldM Value) : onNamed kind name action world = (.null, world) := by
  unfold onNamed named?
  simp only [StateM.bind_apply, StateM.get_apply, unnamed]
  rfl

end World

end EventLoop
