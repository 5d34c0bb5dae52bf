import EventLoop.Proofs.Effect.Instructions
import EventLoop.Proofs.Sync.Giving

/-!
# What instructions have at stake

An instruction that finishes at once leaves nothing at stake that was not at stake before. It may give
up the program of a task, or begin one that has nothing at stake yet.
-/
namespace EventLoop

/-- Whether an instruction writes data to a transport or closes one. -/
def Script.Instruction.deals : Script.Instruction → Bool
  | transport instruction => instruction.deals
  | _ => false

/-- Whether an instruction opens a server or closes one. -/
def Script.Instruction.serves : Script.Instruction → Bool
  | transport instruction => instruction.serves
  | openServer .. => true
  | _ => false

/-- Whether an instruction may cancel a task. -/
def Script.Instruction.cancels : Script.Instruction → Bool
  | task (.cancel _) => true
  | _ => false

/-- Whether an instruction asks for something on behalf of another thread. -/
def Script.Instruction.requests : Script.Instruction → Bool
  | loop instruction => instruction.requests
  | callRemote .. => true
  | _ => false

/-- Whether an instruction notifies callers that wait for a condition. -/
def Script.Instruction.notifies : Script.Instruction → Bool
  | sync (.notify ..) | sync (.notifyAll _) => true
  | _ => false

/-- The aspects that change when an instruction is done that finishes at once. -/
def Script.Instruction.base (instruction : Script.Instruction) : List Aspect :=
  if instruction.deals then World.trafficking
  else if instruction.serves then World.hosting
  else if instruction.cancels then World.revoking
  else if instruction.requests then World.requesting
  else if instruction.notifies then World.notifying else World.moving

/-- What holds of the aspects of each sort of instruction that finishes at once holds of those of any. -/
theorem Script.Instruction.of_base {holds : List Aspect → Prop} (instruction : Script.Instruction)
    (deals : holds World.trafficking) (serves : holds World.hosting) (cancels : holds World.revoking)
    (requests : holds World.requesting) (notifies : holds World.notifying)
    (otherwise : holds World.moving) : holds instruction.base := by
  unfold base
  split
  · exact deals
  · split
    · exact serves
    · split
      · exact cancels
      · split
        · exact requests
        · split
          · exact notifies
          · exact otherwise

/-- An instruction may change what most moves change. -/
theorem Script.Instruction.moving_subset_base (instruction : Script.Instruction) :
    World.moving ⊆ instruction.base :=
  @of_base (World.moving ⊆ ·) instruction (List.subset_cons_self _ _) (List.subset_cons_self _ _)
    (List.subset_cons_self _ _) (List.subset_cons_self _ _) (List.subset_cons_self _ _)
    (List.Subset.refl _)

namespace World.Doing

open Script

variable {held : List Ref} {own : Multiset Stake} {world : World}

/-! ## Names -/

/-- What may be done with a named object may rely on the object. -/
theorem onNamedMay {kind : ObjectClass} {name : String} {action : Nat → WorldM Value}
    {aspects : List Aspect} (more : moving ⊆ aspects)
    (performs : ∀ id reached, reached.Means (openTo held) kind id →
      Performs held aspects own reached (action id) (leaving own)) :
    Performs held aspects own world (World.onNamed kind name action) (leaving own) := by
  apply Performs.bind ((Turn.named? kind name).mono more)
  rintro found _ reached ⟨rfl, means⟩
  split
  · rename_i id
    exact performs id reached (means id rfl)
  · exact Performs.pure rfl

/-- What is done with a named object may rely on the object. -/
theorem onNamed {kind : ObjectClass} {name : String} {action : Nat → WorldM Value}
    (performs : ∀ id reached, reached.Means (openTo held) kind id →
      Performs held moving own reached (action id) (leaving own)) :
    Performs held moving own world (World.onNamed kind name action) (leaving own) :=
  onNamedMay (List.Subset.refl _) performs

/-- A name is given to something else than a future or a timer. -/
theorem store {kind : ObjectClass} (name : String) {id : Nat} (other : kind ≠ .future)
    (apart : kind ≠ .timer) (means : world.Means (openTo held) kind id) :
    Performs held moving own world (store kind name id) (leaving own) := by
  refine (Performs.calmly (by decide) fun _ =>
    Calm.store kind name ?_ fun timed => absurd timed apart).leaves
  cases kind with
  | future => exact absurd rfl other
  | task | lock | semaphore | event | condition => exact means
  | timer | waker | var | socket | transport | server => trivial

/-- A name is given to something else than a future or a timer, and that is all. -/
theorem storeOnly {kind : ObjectClass} (name : String) {id : Nat} (other : kind ≠ .future)
    (apart : kind ≠ .timer) (means : world.Means (openTo held) kind id) :
    Performs held moving own world (World.store kind name id >>= fun _ => pure Value.null)
      (leaving own) := by
  refine Performs.bind (store name other apart means) ?_
  rintro _ _ stored rfl
  exact Performs.pure rfl

/-! ## Tasks -/

/-- What is done with a task cancels one only if the instruction does. -/
theorem doTask (instruction : TaskInstruction) :
    Performs held (Instruction.task instruction).base own world (doTask instruction)
      (leaving own) := by
  cases instruction with
  | cancel name =>
    refine Performs.bind ((Turn.named? .task name).mono (List.subset_cons_self _ _)) ?_
    rintro found _ reached ⟨rfl, means⟩
    split
    · refine Performs.bind (Giving.cancelTask _) ?_
      rintro _ _ cancelled rfl
      exact Performs.pure rfl
    · exact Performs.pure rfl
  | state name =>
    refine onNamed fun id _ _ => Performs.get ?_
    split
    · exact Performs.pure rfl
    · exact Performs.pure rfl
  | resultFuture name future =>
    refine onNamed fun id reached _ => Performs.assuming fun settled => Performs.get ?_
    split
    · rename_i task found
      refine Performs.bind (Performs.calmly (by decide) fun settled =>
        Calm.store .future future ?_ nofun).leaves ?_
      · exact settled.orderly.within.loop.result found
      · rintro _ _ stored rfl
        exact Performs.pure rfl
    · exact Performs.pure rfl
  | wake name foreign =>
    refine onNamed fun waker reached _ => Turn.calm fun scope _ => ?_
    refine Does.through anyhow (Does.changeLoop (by decide) (.woken reached waker) trivial)
      fun _ _ _ => ?_
    exact Does.optional (fun _ => Calm.interrupt) fun _ => Does.pure trivial
  | setVar name value =>
    refine Turn.calm fun scope _ => ?_
    exact Does.through anyhow (Does.modify (by decide) (.surroundings world _ _ _ _) trivial)
      fun _ _ _ => Does.pure trivial

/-- A task that is begun has nothing at stake. -/
theorem spawn (name : String) (body : Body) :
    Performs held moving own world (spawn name body) fun id left reached =>
      left = own ∧ id < reached.loop.tasks.size := by
  have begun : Performs held moving own world (onLoop (·.spawn name body)) fun id left reached =>
      left = own ∧ reached.Means (openTo held) .task id := by
    refine Performs.change (by decide) Aspect.noConfusion Aspect.noConfusion
      (fun settled => .spawned world name body (settled.fresh _ (le_refl _))) ?_
      ⟨rfl, Loop.lt_size_spawn _ name body⟩
    exact congrArg (own + ·) (Loop.stakes_spawn world.loop name body)
  refine Performs.bind begun ?_
  rintro id _ reached ⟨rfl, means⟩
  refine Performs.get ?_
  split
  · refine Performs.bind (Performs.calmly (by decide) fun _ =>
      (Primitives.recordEnd name).means .task means) ?_
    rintro _ _ recorded ⟨rfl, -, means⟩
    exact Performs.pure ⟨rfl, means⟩
  · exact Performs.pure ⟨rfl, means⟩

/-! ## Primitives -/

/-- Callers that wait for a condition with a name are notified. -/
theorem notify (name : String) (count : Option Nat) :
    Performs held notifying own world (World.onNamed .condition name fun id => do
      return doneValue (← World.notify id count)) (leaving own) := by
  apply onNamedMay (List.subset_cons_self _ _)
  intro id reached _
  apply Performs.bind (Turn.notify id count)
  rintro _ _ last rfl
  exact Performs.pure rfl

/-- An instruction on a primitive leaves what is at stake to whoever has it. -/
theorem doSync (instruction : SyncInstruction) :
    Performs held (Instruction.sync instruction).base own world (doSync instruction) (leaving own) := by
  have only {step : WorldM (Except Error Unit)} {reached : World}
      (performs : Performs held moving own reached step (leaving own)) :
      Performs held moving own reached (step >>= fun result => pure (doneValue result))
        (leaving own) := by
    refine Performs.bind performs ?_
    rintro _ _ last rfl
    exact Performs.pure rfl
  cases instruction with
  | makeLock name =>
    refine Performs.bind Turn.makeLock ?_
    rintro id _ made ⟨rfl, exists_⟩
    exact storeOnly name ObjectClass.noConfusion ObjectClass.noConfusion exists_
  | releaseLock name => exact onNamed fun id _ _ => only (Turn.releaseLock id)
  | lockState name => exact onNamed fun id _ _ => Performs.read rfl (Performs.pure rfl)
  | makeSemaphore name mode permits =>
    refine Performs.bind (Turn.makeSemaphore _ _) ?_
    rintro id _ made ⟨rfl, exists_⟩
    exact storeOnly name ObjectClass.noConfusion ObjectClass.noConfusion exists_
  | releaseSemaphore name => exact onNamed fun id _ _ => only (Turn.releaseSemaphore id)
  | semaphoreState name => exact onNamed fun id _ _ => Performs.read rfl (Performs.pure rfl)
  | makeEvent name =>
    refine Performs.bind Turn.makeEvent ?_
    rintro id _ made ⟨rfl, exists_⟩
    exact storeOnly name ObjectClass.noConfusion ObjectClass.noConfusion exists_
  | setEvent name =>
    refine onNamed fun id _ _ => Performs.bind (Turn.raiseEvent id) ?_
    rintro _ _ raised rfl
    exact Performs.pure rfl
  | clearEvent name =>
    refine onNamed fun id reached _ => Performs.read rfl (Performs.bind (Turn.clearEvent id) ?_)
    rintro _ _ cleared rfl
    exact Performs.pure rfl
  | eventState name => exact onNamed fun id _ _ => Performs.read rfl (Performs.pure rfl)
  | makeCondition name lock? =>
    have made (lock : LockId) (reached : World) (exists_ : lock < reached.locks.size) :
        Performs held moving own reached
          (do World.store .condition name (← World.makeCondition lock); return Value.null)
          (leaving own) := by
      refine Performs.bind (Turn.makeCondition exists_) ?_
      rintro id _ last ⟨rfl, exists_⟩
      exact storeOnly name ObjectClass.noConfusion ObjectClass.noConfusion exists_
    have chosen (shared : Option LockId) (reached : World)
        (exists_ : ∀ lock ∈ shared, lock < reached.locks.size) : Performs held moving own reached
          (match shared with
            | some lock => do
              World.store .condition name (← World.makeCondition lock); return Value.null
            | none => do
              World.store .condition name (← World.makeCondition (← World.makeLock))
              return Value.null) (leaving own) := by
      split
      · exact made _ reached (exists_ _ rfl)
      · refine Performs.bind Turn.makeLock ?_
        rintro lock _ last ⟨rfl, exists_⟩
        exact made lock last exists_
    cases lock? with
    | some lock =>
      refine Performs.bind (Turn.named? .lock lock) ?_
      rintro shared _ reached ⟨rfl, means⟩
      exact chosen shared reached means
    | none => exact chosen none world fun _ member => absurd member (Option.not_mem_none _)
  | conditionLock name lock =>
    refine onNamed fun id reached means => Performs.assuming fun settled => ?_
    exact Performs.read rfl (storeOnly lock ObjectClass.noConfusion ObjectClass.noConfusion
      (settled.orderly.within.hasGate_lockOf means))
  | releaseCondition name =>
    exact onNamed fun id _ _ => Performs.read rfl (only (Turn.releaseLock _))
  | notify name count => exact notify name (some count)
  | notifyAll name => exact notify name none
  | conditionState name =>
    exact onNamed fun id _ _ => Performs.read rfl (Performs.read rfl (Performs.pure rfl))

/-! ## All instructions -/

/-- What is done to the loop asks for something on behalf of another thread only if the instruction
does. -/
theorem doLoop (instruction : LoopInstruction) :
    Performs held (Instruction.loop instruction).base own world (doLoop instruction) (leaving own) := by
  have does (scope : Scope) : Does scope world.loop.futures.size instruction.effects world
      (World.doLoop instruction) anyhow := Instructions.doLoop instruction
  change Performs held (if instruction.requests then requesting else moving) own world _ _
  unfold LoopInstruction.effects at does
  split
  · rename_i requests
    rw [requests] at does
    exact Turn.requiring fun scope _ => does scope
  · rename_i quiet
    rw [if_neg quiet] at does
    exact Turn.calm fun scope _ => does scope

/-- What is done to a transport deals with it only if the instruction does, and what is done to a server
has to do with it only if the instruction has. -/
theorem doTransport (protocol : Option String) (instruction : TransportInstruction) :
    Performs held (Instruction.transport instruction).base own world
      (doTransport protocol instruction) (leaving own) := by
  have does (scope : Scope) (fresh : scope.Fresh world.loop.futures.size) :=
    @Instructions.doTransport scope _ world fresh protocol instruction
  change Performs held (if instruction.deals then trafficking
    else if instruction.serves then hosting else moving) own world _ _
  unfold TransportInstruction.effects at does
  split
  · rename_i deals
    rw [deals] at does
    exact Turn.dealing does
  · rename_i apart
    rw [if_neg apart] at does
    split
    · rename_i serves
      rw [serves] at does
      exact Turn.tending does
    · rename_i aside
      rw [if_neg aside] at does
      exact Turn.calm does

/-- An instruction that finishes at once leaves what is at stake to whoever has it. -/
theorem doInstruction (protocol : Option String) (instruction : Instruction) :
    Performs held instruction.base own world (doInstruction protocol instruction)
      (leaving own) := by
  cases instruction with
  | loop instruction => exact doLoop instruction
  | future instruction => exact Turn.calm fun _ fresh => Instructions.doFuture fresh instruction
  | task instruction => exact doTask instruction
  | sync instruction => exact doSync instruction
  | socket instruction => exact Turn.calm fun _ fresh => Instructions.doSocket fresh instruction
  | transport instruction => exact doTransport protocol instruction
  | system instruction => exact Turn.calm fun _ fresh => Instructions.doSystem instruction
  | drop kind name => exact Turn.calm fun _ _ => Instructions.doDrop kind name
  | callSoon name body => exact Turn.calm fun _ _ => Instructions.callSoon name body
  | callLater name delay body =>
    exact Performs.get (Turn.calm fun _ _ => Instructions.callAt name _ body)
  | callAt name deadline body => exact Turn.calm fun _ _ => Instructions.callAt name deadline body
  | callRemote name body => exact Turn.requiring fun _ _ => Instructions.callRemote name body
  | onDone future name body => exact Turn.calm fun _ _ => Instructions.onDone future name body
  | onTaskDone task name body => exact Turn.calm fun _ _ => Instructions.onTaskDone task name body
  | spawn name body =>
    refine Performs.bind (spawn name body) ?_
    rintro id _ begun ⟨rfl, exists_⟩
    exact storeOnly name ObjectClass.noConfusion ObjectClass.noConfusion exists_
  | openTransport name socket options script =>
    exact Turn.calm fun _ _ => Instructions.doOpenTransport name socket options script
  | openServer name source script =>
    exact Turn.tending fun _ _ => Instructions.doOpenServer name source script
  | runOnce | runForever | runUntilComplete | wait | guarded | createConnection | repeated | join
  | select | ret | retIf => exact Performs.pure rfl

end World.Doing

end EventLoop
