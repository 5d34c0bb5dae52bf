import EventLoop.Proofs.Machine.Running

/-!
# Moves of programs

A program that has to wait has at stake what its stations have, and is to be woken. A program that goes
on leaves frames of its task.
-/
namespace EventLoop

open Script (Station Activity Pending Branch Body Instruction)
open World (Does Performs Ends Waiter Turn.calm leaving moving polling turning turningIf calm anyhow)
open World.Turn (turnStakes answering)

variable {held : List Ref} {aspects : List Aspect} {strict : Prop} {down : Demand}
variable {owner : Option TaskId} {own rest : Multiset Stake} {world reached : World} {task : TaskId}
variable {waiter : Waiter}

/-! ## Who waits -/

/-- Asking for the waiter of a task changes nothing. -/
theorem waiterOf_same (task : TaskId) (world : World) : (World.waiterOf task world).2 = world := by
  unfold World.waiterOf
  simp only [StateM.bind_apply, StateM.get_apply]
  cases world.loop.tasks.get? task with
  | none => rfl
  | some entry => rfl

/-- Who waits is read before anything else is done. -/
theorem waiterOf_bind {α : Type} (task : TaskId) (next : World.Waiter → WorldM α) (world : World) :
    (World.waiterOf task >>= next) world = next (World.waiterOf task world).1 world := by
  change next (World.waiterOf task world).1 (World.waiterOf task world).2 = _
  rw [waiterOf_same]

/-- Whoever waits for a task carries the number of the task. -/
theorem waiterOf_waker (task : TaskId) (world : World) :
    (World.waiterOf task world).1.waker = world.loop.wakerOf task := by
  unfold World.waiterOf Loop.wakerOf
  simp only [StateM.bind_apply, StateM.get_apply]
  cases world.loop.tasks.get? task with
  | none => rfl
  | some entry => rfl

/-- The waiter of a task is for that task. -/
theorem waiterOf_task (task : TaskId) (world : World) :
    (World.waiterOf task world).1.task = task := by
  unfold World.waiterOf
  simp only [StateM.bind_apply, StateM.get_apply]
  cases world.loop.tasks.get? task with
  | none => rfl
  | some entry => rfl

/-! ## Whether the loop is free -/

/-- Whether the loop is free does not depend on the reactions that are registered. -/
theorem isFree_whenDone (loop : Loop) (future : FutureId) (reaction : Reaction) :
    (loop.whenDone future reaction).isFree = loop.isFree := by
  rw [Loop.whenDone_eq]
  split
  · rfl
  · rw [Loop.callSoon_eq]
    rfl

/-- Whether the loop is free does not depend on the tasks that are begun. -/
theorem isFree_spawn (name : String) (body : Body) (world : World) :
    (World.spawn name body world).2.loop.isFree = world.loop.isFree := by
  have begun : (world.loop.spawn name body).2.isFree = world.loop.isFree := by
    unfold Loop.spawn Loop.makeFuture Loop.addFuture Loop.schedule
    dsimp only
    split
    · rw [Loop.resolve_eq]
      split
      · rw [Loop.replaceFuture_eq]
        rfl
      · rfl
    · split
      · rw [Loop.callSoon_eq]
        rfl
      · rfl
  have recorded (reached : World) : (World.recordEnd name reached).2.loop = reached.loop := by
    change ((if reached.host.journal.settings.tasks then
      World.record (Actor.task name).text "drop" .null else pure ()) reached).2.loop = _
    split
    · rfl
    · rfl
  have same : (World.spawn name body world).2.loop = (world.loop.spawn name body).2 := by
    let reached : World := { world with loop := (world.loop.spawn name body).2 }
    change ((if reached.loop.closed then World.recordEnd name >>= fun _ =>
      (pure (world.loop.spawn name body).1 : WorldM TaskId) else
        pure (world.loop.spawn name body).1) reached).2.loop = reached.loop
    split
    · exact recorded reached
    · rfl
  rw [same, begun]

namespace Moves

/-! ## Instructions that wait -/

/-- What an instruction waits for is attended to. -/
theorem moved_answer {answer : World.Answer} {left : Multiset Stake}
    (exists_ : task < world.loop.tasks.size) (waker : waiter.waker = world.loop.wakerOf task)
    (answers : Kind.answer ∈ down.kinds) (waits : Kind.waiting ∈ down.kinds)
    (grows : world.Grows reached) (holds : answering rest answer left reached)
    (armed : answer.Armed waiter reached) :
    Moved held strict down (some task) rest ([], Machine.ofAnswer answer) left reached := by
  cases answer with
  | ok value =>
    cases holds
    exact .give rfl (Demand.single_le answers)
  | error leaf =>
    refine ⟨?_, Demand.single_le waits, fun _ member => (nomatch member), ?_,
      fun _ same => nomatch same⟩
    · rw [holds, Move.stations]
      change _ = stakesOf ([.leaf leaf] ++ []) + rest
      rw [List.append_nil, stakesOf_cons, stakesOf_nil, add_zero]
    · rintro _ ⟨⟩
      have arms : reached.loop.Arms task [.leaf leaf] := by
        intro station member wait waited
        rw [List.mem_singleton.mp member] at waited
        rw [grows.loop.wakerOf exists_, ← waker]
        exact armed leaf rfl wait waited
      exact arms.polls

/-- An instruction that may have to wait is begun or tried again. -/
theorem ofAnswer {step : WorldM World.Answer} (exists_ : task < world.loop.tasks.size)
    (waker : waiter.waker = world.loop.wakerOf task) (answers : Kind.answer ∈ down.kinds)
    (waits : Kind.waiting ∈ down.kinds)
    (ends : Ends held aspects own world step
      (fun answer left reached => answering rest answer left reached ∧
        answer.Armed waiter reached)
      (fun answer left reached => World.Turn.waiting rest answer left reached ∧
        answer.Armed waiter reached)) :
    Moves held aspects strict down (some task) own rest world
      (step >>= fun answer => Machine.give (Machine.ofAnswer answer)) := by
  refine Ends.bind ends.growing ?_ ?_
  · rintro answer left reached ⟨⟨holds, armed⟩, grows⟩
    exact pure (moved_answer exists_ waker answers waits grows holds armed)
  · rintro _ _ reached ⟨⟨⟨leaf, rfl, rfl⟩, armed⟩, grows⟩
    exact ⟨rfl, moved_answer exists_ waker answers waits grows rfl armed⟩

/-! ## Guarded bodies -/

/-- What a caller has at the gate of a guard is what the guard holds. -/
theorem hold_gate (guard : Guard) : guard.gate.hold = {.hold guard} := by
  cases guard with
  | lock id => rfl
  | semaphore id => rfl

/-- A caller that has its turn holds what it asked for while the body runs. -/
theorem enter (name : String) (guard : Guard) (body : Body)
    (exists_ : task < world.loop.tasks.size) (le : Demand.leaving task ≤ down) :
    Moves held turning strict down owner (guard.gate.hold + rest) rest world
      (Machine.enter task name guard body) := by
  refine after (World.Turn.widened (Turn.calm fun _ _ => World.Calm.record _ _ _))
    fun _ reached grows => pure ?_
  have bound := Nat.lt_of_lt_of_le exists_ grows.loop.size_tasks
  refine ⟨?_, ⟨⟨List.Subset.refl _, fun _ => id, fun same => (nomatch same)⟩, le⟩, ?_, bound,
    fun _ same => nomatch same⟩
  · rw [hold_gate]
    rfl
  · intro frame member
    rw [List.mem_singleton.mp member]
    exact bound

/-- An instruction that asks for something to hold goes on waiting. -/
theorem moved_entering {guard : Guard} {wait : Wait} {body : Body} 
    (exists_ : task < world.loop.tasks.size) (waker : waiter.waker = world.loop.wakerOf task)
    (waits : Kind.waiting ∈ down.kinds) (grows : world.Grows reached)
    (armed : reached.loop.Armed waiter.waker wait) :
    Moved held strict down (some task) rest ([], .waiting (.entering guard wait body))
      (.place guard.gate wait.future ::ₘ rest) reached := by
  refine ⟨rfl, Demand.single_le waits, fun _ member => (nomatch member), ?_,
    fun _ same => nomatch same⟩
  rintro _ ⟨⟩
  have arms : reached.loop.Arms task [.entry guard wait] := by
    intro station member other waited
    rw [List.mem_singleton.mp member] at waited
    rw [List.mem_singleton.mp waited, grows.loop.wakerOf exists_, ← waker]
    exact armed
  exact arms.polls

/-- A guarded body is begun. -/
theorem beginGuarded (resource : Script.GuardInstruction) (timeout : Option Nat) (body : Body)
    (exists_ : task < world.loop.tasks.size) (le : Demand.leaving task ≤ down) :
    Moves held turning strict down (some task) rest rest world
      (Machine.beginProgramInstruction task (.guarded resource timeout body)) := by
  have answers : Kind.answer ∈ down.kinds := le.kinds List.mem_cons_self
  have waits : Kind.waiting ∈ down.kinds := le.kinds (Demand.waiting_mem_leaving task)
  refine read (waiterOf_same task world) ?_
  have waker := waiterOf_waker task world
  have same := waiterOf_task task world
  set waiter := (World.waiterOf task world).1
  refine following (World.Turn.widened (World.Turn.guardFor? resource)).growing ?_
  rintro guard? _ found ⟨⟨rfl, gates⟩, grows⟩
  split
  · exact answer _ answers
  · rename_i guard
    refine Ends.bind (World.Turn.beginTurn (gates guard rfl) timeout).growing ?_ ?_
    · rintro _ _ granted ⟨⟨⟨rfl, rfl⟩, -⟩, more⟩
      have bound := Nat.lt_of_lt_of_le exists_ (grows.trans more).loop.size_tasks
      dsimp only [Machine.tryEnter]
      rw [same]
      exact enter waiter.name guard body bound le
    · rintro _ _ parked ⟨⟨⟨after, rfl, rfl⟩, armed⟩, more⟩
      exact ⟨rfl, moved_entering exists_ waker waits (grows.trans more) (armed after rfl)⟩

/-- An instruction that asks for something to hold is tried again. -/
theorem retryEntering {guard : Guard} {wait : Wait} (body : Body)
    (exists_ : task < world.loop.tasks.size) (le : Demand.leaving task ≤ down)
    (tied : world.loop.Tied (world.loop.wakerOf task) wait) :
    Moves held turning strict down (some task) (.place guard.gate wait.future ::ₘ rest) rest world
      (Machine.stepRetry task (.entering guard wait body)) := by
  have answers : Kind.answer ∈ down.kinds := le.kinds List.mem_cons_self
  have waits : Kind.waiting ∈ down.kinds := le.kinds (Demand.waiting_mem_leaving task)
  refine read (waiterOf_same task world) ?_
  have waker := waiterOf_waker task world
  have same := waiterOf_task task world
  set waiter := (World.waiterOf task world).1
  refine following (World.Turn.awaitTurn (waker ▸ tied)).growing ?_
  rintro result _ reached ⟨⟨⟨rfl, -⟩, armed⟩, grows⟩
  cases result with
  | error after => exact pure (moved_entering exists_ waker waits grows (armed after rfl))
  | ok granted =>
    cases granted with
    | false => exact answer _ answers
    | true =>
      dsimp only [Machine.tryEnter]
      rw [same]
      exact enter waiter.name guard body (Nat.lt_of_lt_of_le exists_ grows.loop.size_tasks) le

/-! ## Beginning instructions -/

/-- A program of a task goes on with a value. -/
theorem moved_program {frame : Frame} {last : Value} {body : Body} 
    (empty : frame.stations = []) (attended : frame.Attended strict reached.loop)
    (exists_ : task < reached.loop.tasks.size)
    (leads : Leads (Demand.ending task) [frame] down) :
    Moved held strict down owner rest ([frame], .program task last body) rest reached := by
  refine ⟨?_, leads, ?_, exists_, fun _ same => nomatch same⟩
  · rw [Move.stations, List.flatMap_singleton, empty]
    exact (zero_add rest).symm
  · intro other member
    rw [List.mem_singleton.mp member]
    exact attended

/-- The branches of a join are attended to. -/
theorem moved_join {before after : List Branch} (exists_ : task < reached.loop.tasks.size)
    (polls : reached.loop.Polls strict task (Script.branchStations before))
    (ties : reached.loop.Ties task (Script.branchStations after))
    (le : Demand.answering task ≤ down) :
    Moved held strict down owner rest ([], .join task before after)
      (stakesOf (Script.branchStations before ++ Script.branchStations after) + rest) reached := by
  refine ⟨?_, le, fun _ member => (nomatch member), ⟨exists_, polls, ties⟩,
    fun _ same => nomatch same⟩
  rw [Move.stations, List.flatMap_nil, List.append_nil]
  rfl

/-- The branches of a selection are attended to. -/
theorem moved_select {before after : List Activity} (exists_ : task < reached.loop.tasks.size)
    (polls : reached.loop.Polls strict task (Script.activityStations before))
    (ties : reached.loop.Ties task (Script.activityStations after))
    (le : Demand.answering task ≤ down) :
    Moved held strict down owner rest ([], .select task before after)
      (stakesOf (Script.activityStations before ++ Script.activityStations after) + rest)
      reached := by
  refine ⟨?_, le, fun _ member => (nomatch member), ⟨exists_, polls, ties⟩,
    fun _ same => nomatch same⟩
  rw [Move.stations, List.flatMap_nil, List.append_nil]
  rfl

/-- An instruction of a program is begun that asks for a turn. -/
theorem beginAsking {instruction : Instruction} (asks : instruction.asks = true)
    (exists_ : task < world.loop.tasks.size) (le : Demand.leaving task ≤ down) :
    Moves held turning strict down (some task) rest rest world
      (Machine.beginInstruction (.program task) instruction) := by
  have answers : Kind.answer ∈ down.kinds := le.kinds List.mem_cons_self
  have waits : Kind.waiting ∈ down.kinds := le.kinds (Demand.waiting_mem_leaving task)
  cases instruction with
  | wait instruction =>
    have same : turningIf instruction.asks = turning := congrArg turningIf asks
    refine read (waiterOf_same task world) ?_
    refine ofAnswer exists_ (waiterOf_waker task world) answers waits ?_
    exact same ▸ World.Turn.beginWait instruction
  | guarded resource timeout body => exact beginGuarded resource timeout body exists_ le
  | _ => cases asks

/-- An instruction of a program is begun that asks for no turn. -/
theorem beginProgramInstruction {instruction : Instruction} (plain : instruction.asks = false)
    (exists_ : task < world.loop.tasks.size) (le : Demand.leaving task ≤ down) :
    Moves held instruction.base strict down (some task) rest rest world
      (Machine.beginProgramInstruction task instruction) := by
  have answers : Kind.answer ∈ down.kinds := le.kinds List.mem_cons_self
  have waits : Kind.waiting ∈ down.kinds := le.kinds (Demand.waiting_mem_leaving task)
  have answering_le := Demand.le_trans (Demand.answering_le_leaving task) le
  have waker := waiterOf_waker task world
  have finished (instruction : Instruction) :
      Moves held instruction.base strict down (some task) rest rest world
      (do Machine.give (.answer (← World.doInstruction none instruction))) :=
    after (World.Doing.doInstruction none instruction) fun _ _ _ => answer _ answers
  cases instruction with
  | wait instruction =>
    have same : turningIf instruction.asks = (Instruction.wait instruction).base :=
      congrArg turningIf plain
    refine read (waiterOf_same task world) ?_
    refine ofAnswer exists_ waker answers waits ?_
    exact same ▸ World.Turn.beginWait instruction
  | guarded => cases plain
  | createConnection name target script =>
    refine read (waiterOf_same task world) ?_
    exact ofAnswer exists_ waker answers waits
      (World.Turn.beginConnection name target script).ends
  | repeated count body =>
    cases count with
    | zero => exact answer _ answers
    | succ count =>
      refine pure (moved_program rfl exists_ exists_ ⟨⟨?_, fun _ => id, fun same => nomatch same⟩, le⟩)
      exact List.Subset.refl _
  | join branches =>
    have none := Script.branchStations_fresh branches
    refine pure ?_
    have moved : Moved held strict down (some task) rest
        ([], .join task [] (branches.map fun body => .active (.fresh body)))
        (stakesOf ([] ++ Script.branchStations (branches.map fun body => .active (.fresh body))) +
          rest) world := moved_join exists_ .nil (none ▸ .nil) answering_le
    rw [none] at moved
    rw [List.append_nil, stakesOf_nil, zero_add] at moved
    exact moved
  | select branches =>
    cases branches with
    | nil => exact answer _ answers
    | cons first others =>
      have none := Script.activityStations_fresh (first :: others)
      refine pure ?_
      have moved : Moved held strict down (some task) rest
          ([], .select task [] ((first :: others).map .fresh))
          (stakesOf ([] ++ Script.activityStations ((first :: others).map .fresh)) + rest) world :=
        moved_select exists_ .nil (none ▸ .nil) answering_le
      rw [none, List.append_nil, stakesOf_nil, zero_add] at moved
      exact moved
  | loop | future | task | sync | socket | transport | system | drop | callSoon | callLater | callAt
  | callRemote | onDone | onTaskDone | spawn | openTransport | openServer | runOnce | runForever
  | runUntilComplete | ret | retIf => exact finished _

/-- A run of the loop begins. -/
theorem enterRun : Performs held moving rest world Machine.enterRun (leaving rest) :=
  surroundings fun _ => .surroundings world _ _ _ _

/-- Beginning an instruction; most are begun by their runner. -/
theorem beginInstruction {runner : Runner} (instruction : Instruction)
    (answers : Kind.answer ∈ down.kinds)
    (otherwise : Moves held instruction.base strict down owner rest rest world (match runner with
      | .program task => Machine.beginProgramInstruction task instruction
      | runner => do
        Machine.give (.answer (← World.doInstruction runner.protocol? instruction)))) :
    Moves held (instruction.aspects world.loop) strict down owner rest rest world
      (Machine.beginInstruction runner instruction) := by
  have steady := instruction.moving_subset world.loop
  cases instruction with
  | runOnce times =>
    cases times with
    | zero => exact answer _ answers
    | succ times => exact after (widened enterRun) fun _ _ _ => beginIteration rfl answers
  | runForever =>
    have entered : Performs held (Instruction.runForever.aspects world.loop) rest world
        Machine.enterRun fun _ left reached => left = rest ∧
          reached.loop.isFree = world.loop.isFree := (enterRun.mono steady).also rfl
    refine following entered ?_
    rintro _ _ reached ⟨rfl, free⟩
    unfold Instruction.aspects Instruction.iterates
    rw [← free]
    exact beginRun none answers
  | runUntilComplete name body =>
    have entered : Performs held ((Instruction.runUntilComplete name body).aspects world.loop) rest
        world Machine.enterRun fun _ left reached => left = rest ∧
          reached.loop.isFree = world.loop.isFree := (enterRun.mono steady).also rfl
    refine following entered ?_
    rintro _ own first ⟨rfl, before⟩
    have spawned : Performs held ((Instruction.runUntilComplete name body).aspects world.loop) own
        first (World.spawn name body) fun id left reached =>
          (left = own ∧ id < reached.loop.tasks.size) ∧
            reached.loop.isFree = first.loop.isFree :=
      ((World.Doing.spawn name body).mono steady).also (isFree_spawn name body first)
    refine following spawned ?_
    rintro task rest second ⟨⟨rfl, -⟩, begun⟩
    have free := begun.trans before
    have run (third : World) (same : third.loop.isFree = second.loop.isFree) :
        Moves held ((Instruction.runUntilComplete name body).aspects world.loop) strict down owner
          rest rest third (Machine.beginRun (some task)) := by
      unfold Instruction.aspects Instruction.iterates
      rw [← free, ← same]
      exact beginRun (some task) answers
    refine get ?_
    split
    · have registered (future : FutureId) :
          Performs held ((Instruction.runUntilComplete name body).aspects world.loop) rest second
            (World.changeLoop (·.whenDone future .stopLoop)) fun _ left reached =>
              left = rest ∧ reached.loop.isFree = second.loop.isFree :=
        ((Turn.calm fun _ _ => World.Calm.whenDone _ rfl rfl).mono steady).also
          (isFree_whenDone second.loop future .stopLoop)
      refine following (registered _) ?_
      rintro _ _ third ⟨rfl, same⟩
      exact run third same
    · exact run second rfl
  | loop instruction =>
    cases instruction with
    | close => exact beginClose _ _ answers
    | giveUp => exact giveUp answers
    | stop | stopByHandle | state | handleState | now | advance | cancelTimer | timerState
    | remoteStop | failPoll => exact otherwise
  | future | task | sync | socket | transport | system | drop | callSoon | callLater | callAt
  | callRemote | onDone | onTaskDone | spawn | openTransport | openServer | wait | guarded
  | createConnection | repeated | join | select | ret | retIf => exact otherwise

/-- A program goes on with its next instruction. -/
theorem stepProgram (last : Value) (body : Body) (exists_ : task < world.loop.tasks.size)
    (le : Demand.ending task ≤ down) :
    Moves held (Signal.aspects world.loop (.program task last body)) strict down owner rest rest world
      (Machine.stepProgram task last body) := by
  have ended : Kind.ended ∈ down.kinds := le.kinds (by simp [Demand.ending])
  have returned : Kind.returned ∈ down.kinds := le.kinds (by simp [Demand.ending])
  have onto {aspects : List Aspect} {instruction : Instruction} (others : Body)
      (first : Moves held aspects strict (.leaving task) (some task) rest rest world
        (Machine.beginInstruction (.program task) instruction)) :
      Moves held aspects strict down owner rest rest world (do
        let move ← Machine.beginInstruction (.program task) instruction
        return (move.1 ++ [.program task instruction.label others], move.2)) := by
    refine onto first ⟨?_, fun _ => id, fun same => by cases same⟩ le rfl fun reached grows => ?_
    · exact List.Subset.refl _
    · exact Nat.lt_of_lt_of_le exists_ grows.loop.size_tasks
  cases body with
  | nil => exact give rfl (Demand.single_le ended)
  | cons instruction others =>
    cases asks : Signal.asks (.program task last (instruction :: others)) with
    | true =>
      rw [Signal.aspects_of_asks asks]
      cases instruction with
      | wait | guarded => exact onto others (beginAsking asks exists_ (Demand.le_refl _))
      | _ => cases asks
    | false =>
      rw [Signal.aspects_of_plain asks]
      have begun := onto others (beginInstruction instruction List.mem_cons_self
        (beginProgramInstruction asks exists_ (Demand.le_refl _)))
      cases instruction with
      | ret value => exact give rfl (Demand.single_le returned)
      | retIf value =>
        change Moves held moving strict down owner rest rest world (if last == value then
          Machine.give (.returned last) else Machine.give (.program task last others))
        split
        · exact give rfl (Demand.single_le returned)
        · refine pure ⟨(zero_add rest).symm, le, fun _ member => absurd member List.not_mem_nil, exists_,
            fun _ same => by cases same⟩
      | loop | future | task | sync | socket | transport | system | drop | callSoon | callLater | callAt
      | callRemote | onDone | onTaskDone | spawn | openTransport | openServer | runOnce | runForever
      | runUntilComplete | wait | guarded | createConnection | repeated | join | select => exact begun

/-- A script goes on with its next instruction. -/
theorem stepScript (actor : Actor) (body : Body) (proceeds : Kind.proceed ∈ down.kinds) :
    Moves held (bodyAspects world.loop body) strict down owner rest rest world
      (Machine.stepScript actor body) := by
  cases body with
  | nil => exact give rfl (Demand.single_le proceeds)
  | cons instruction others =>
    have first : Moves held (instruction.aspects world.loop) strict { kinds := [.answer] } none rest
        rest world (Machine.beginInstruction (.script actor) instruction) :=
      beginInstruction instruction List.mem_cons_self
        (after (World.Doing.doInstruction _ _) fun _ _ _ => answer _ List.mem_cons_self)
    exact onto first (.single List.mem_cons_self) (Demand.single_le proceeds) rfl
      fun _ _ => trivial

/-! ## Polling programs -/

/-- A program within a frame is polled. -/
theorem moved_resume {frame : Frame} {activity : Activity} {stations : List Station}
    (stakes : (activity.stations ++ frame.stations).Perm stations)
    (exists_ : task < reached.loop.tasks.size) (ties : reached.loop.Ties task activity.stations)
    (attended : frame.Attended strict reached.loop)
    (leads : Leads (Demand.ending task) [frame] down) :
    Moved held strict down owner rest ([frame], .resume task activity) (stakesOf stations + rest)
      reached := by
  refine ⟨?_, leads, ?_, ⟨exists_, ties⟩, fun _ same => nomatch same⟩
  · rw [Move.stations, List.flatMap_singleton, ← stakesOf_perm stakes]
    rfl
  · intro other member
    rw [List.mem_singleton.mp member]
    exact attended

/-- An instruction that waits is tried again. -/
theorem stepRetry (pending : Pending) (exists_ : task < world.loop.tasks.size)
    (ties : world.loop.Ties task pending.stations) (le : Demand.leaving task ≤ down) :
    Moves held (turningIf pending.asks) strict down (some task) (stakesOf pending.stations + rest) rest
      world (Machine.stepRetry task pending) := by
  have answers : Kind.answer ∈ down.kinds := le.kinds List.mem_cons_self
  have waits : Kind.waiting ∈ down.kinds := le.kinds (Demand.waiting_mem_leaving task)
  have answering_le := Demand.le_trans (Demand.answering_le_leaving task) le
  have leads {frame : Frame} (receives : (Demand.ending task).kinds ⊆ frame.kinds)
      (same : frame.task? = some task) (sends : frame.demand = .leaving task) :
      Leads (Demand.ending task) [frame] down :=
    ⟨⟨receives, fun _ about => same.trans about, fun same => nomatch same⟩, sends ▸ le⟩
  cases pending with
  | leaf leaf =>
    refine read (waiterOf_same task world) ?_
    have waker := waiterOf_waker task world
    have tied : ∀ wait ∈ leaf.waits, world.loop.Tied (World.waiterOf task world).1.waker wait :=
      fun wait member => waker ▸ ties (.leaf leaf) List.mem_cons_self wait member
    rw [Pending.stations, stakesOf_cons, stakesOf_nil, add_zero]
    exact ofAnswer exists_ waker answers waits (World.Turn.tryLeaf tied)
  | entering guard wait body =>
    exact retryEntering body exists_ le (ties (.entry guard wait) List.mem_cons_self wait
      List.mem_cons_self)
  | holding guard inner =>
    exact pure (moved_resume (List.Perm.refl _) exists_
      (ties.subset (List.subset_append_left _ _)) exists_
      (leads (List.Subset.refl _) rfl rfl))
  | repeating left body inner =>
    refine pure (moved_resume ?_ exists_ ties exists_ (leads (List.Subset.refl _) rfl rfl))
    rw [Frame.stations, List.append_nil]
    exact List.Perm.refl _
  | joining branches =>
    exact pure (moved_join exists_ .nil ties answering_le)
  | selecting branches =>
    exact pure (moved_select exists_ .nil ties answering_le)

/-! ## Branches -/

/-- Branches that have all ended have no stations. -/
theorem branchStations_of_ended {branches : List Branch} {values : List Value}
    (ended : Machine.endedValues? branches = some values) : Script.branchStations branches = [] := by
  induction branches generalizing values with
  | nil => rfl
  | cons branch others ih =>
    cases branch with
    | active activity => cases ended
    | ended value =>
      obtain ⟨found, rest_ended, -⟩ := Option.map_eq_some_iff.mp ended
      exact ih rest_ended

/-- Something that was polled has to wait. -/
theorem moved_waiting {pending : Pending} {stations : List Station}
    (perm : pending.stations.Perm stations) (waits : Kind.waiting ∈ down.kinds)
    (polls : reached.loop.Polls strict task stations) :
    Moved held strict down (some task) rest ([], .waiting pending) (stakesOf stations + rest)
      reached := by
  refine ⟨?_, Demand.single_le waits, fun _ member => (nomatch member), ?_,
    fun _ same => nomatch same⟩
  · rw [Move.stations, List.flatMap_nil, List.append_nil, ← stakesOf_perm perm]
    rfl
  · rintro _ ⟨⟩
    exact polls.subset perm.subset

/-- The next branch of a join is polled. -/
theorem stepJoin {before after : List Branch} (exists_ : task < world.loop.tasks.size)
    (polls : world.loop.Polls strict task (Script.branchStations before))
    (ties : world.loop.Ties task (Script.branchStations after))
    (le : Demand.answering task ≤ down) :
    Moves held moving strict down (some task)
      (stakesOf (Script.branchStations before ++ Script.branchStations after) + rest) rest world
      (Machine.stepJoin task before after) := by
  have answers : Kind.answer ∈ down.kinds := le.kinds List.mem_cons_self
  have waits : Kind.waiting ∈ down.kinds := le.kinds (by simp [Demand.answering])
  cases after with
  | nil =>
    have reversed := Script.branchStations_reverse_perm before
    rw [Script.branchStations, List.append_nil]
    unfold Machine.stepJoin
    dsimp only
    split
    · rename_i values ended
      have none : Script.branchStations before = [] := by
        have perm := branchStations_of_ended ended ▸ reversed
        exact List.nil_perm.mp perm
      rw [none, stakesOf_nil, zero_add]
      exact answer _ answers
    · exact pure (moved_waiting reversed waits polls)
  | cons branch others =>
    cases branch with
    | ended value => exact pure (moved_join exists_ polls ties le)
    | active activity =>
      refine pure (moved_resume ?_ exists_ (ties.subset (List.subset_append_left _ _))
        ⟨exists_, polls, ties.subset (List.subset_append_right _ _)⟩
        ⟨⟨List.Subset.refl _, fun _ => id, fun same => by cases same⟩, le⟩)
      rw [Script.branchStations, Script.Branch.stations]
      exact List.perm_append_comm_assoc _ _ _

/-- The next branch of a selection is polled. -/
theorem stepSelect {before after : List Activity} (exists_ : task < world.loop.tasks.size)
    (polls : world.loop.Polls strict task (Script.activityStations before))
    (ties : world.loop.Ties task (Script.activityStations after))
    (le : Demand.answering task ≤ down) :
    Moves held moving strict down (some task)
      (stakesOf (Script.activityStations before ++ Script.activityStations after) + rest) rest world
      (Machine.stepSelect task before after) := by
  have waits : Kind.waiting ∈ down.kinds := le.kinds (by simp [Demand.answering])
  cases after with
  | nil =>
    rw [Script.activityStations, List.append_nil]
    exact pure (moved_waiting (Script.activityStations_reverse_perm before) waits polls)
  | cons activity others =>
    refine pure (moved_resume ?_ exists_ (ties.subset (List.subset_append_left _ _))
      ⟨exists_, polls, ties.subset (List.subset_append_right _ _)⟩
      ⟨⟨List.Subset.refl _, fun _ => id, fun same => by cases same⟩, le⟩)
    rw [Script.activityStations]
    exact List.perm_append_comm_assoc _ _ _

/-- A selection that ends gives its other branches up. -/
theorem endSelect {before after : List Activity} (value : Value)
    (answers : Kind.answer ∈ down.kinds) :
    Moves held moving strict down owner
      (stakesOf (Script.activityStations before ++ Script.activityStations after) + rest) rest world
      (Machine.endSelect before after value) := by
  have reversed := stakesOf_perm (Script.activityStations_reverse_perm before)
  rw [stakesOf_append, ← reversed, add_assoc]
  refine following (World.Giving.abandonAll before.reverse) ?_
  rintro _ _ first rfl
  refine following (World.Giving.abandonAll after) ?_
  rintro _ _ second rfl
  exact answer _ answers

/-! ## The ends of polls -/

/-- A task whose program ended has nothing at stake any more. -/
theorem endProgram (value : Value) (proceeds : Kind.proceed ∈ down.kinds) :
    Moves held polling strict down owner rest rest world (Machine.endProgram task value) := by
  have steady : moving ⊆ polling := List.subset_cons_self _ _
  refine read (waiterOf_same task world) ?_
  refine after ((World.Giving.recordEnd _).mono steady) fun _ recorded _ => ?_
  have completed : Performs held polling rest recorded (World.changeLoop (·.complete task value))
      (leaving rest) := by
    have same := Loop.tasks_complete recorded.loop task value
    refine Performs.change (by decide) Aspect.noConfusion Aspect.noConfusion
      (fun _ => .completed recorded task value) ?_ rfl
    exact congrArg (rest + ·) (Loop.stakes_congr same.1 same.2)
  exact after completed fun _ _ _ => give rfl (Demand.single_le proceeds)

/-- A task takes its program back, or the program is given up. -/
theorem endPoll {activity : Activity} (ties : world.loop.Ties task activity.stations)
    (proceeds : Kind.proceed ∈ down.kinds) :
    Moves held polling strict down owner (stakesOf activity.stations + rest) rest world
      (Machine.endPoll task activity) := by
  have ended : Performs held polling (stakesOf activity.stations + rest) world
      (World.onLoop (·.endPoll task activity)) fun given left _ =>
        left = given.elim rest fun activity => stakesOf activity.stations + rest := by
    refine Performs.change (by decide) Aspect.noConfusion Aspect.noConfusion
      (fun _ => .pollEnded world task activity ties) ?_ rfl
    change (world.loop.endPoll task activity).1.elim rest _ +
      (world.loop.endPoll task activity).2.stakes = _
    have programs := world.loop.activityOf_endPoll task
    rcases world.loop.endPoll_cases task activity with ⟨held, taken⟩ | same
    · have here : (world.loop.endPoll task activity).2.activityOf task = some activity :=
        (programs task activity).trans (if_pos ⟨rfl, taken⟩)
      have there (other : TaskId) (differ : other ≠ task) :
          world.loop.activityOf other = (world.loop.endPoll task activity).2.activityOf other :=
        ((programs other activity).trans (if_neg fun both => differ both.1)).symm
      have stakes := Loop.stakes_without
        (world.loop.size_tasks_endPoll task activity).symm held there
      rw [Loop.stakesAt_of_some here] at stakes
      rw [taken, Option.elim_none, ← stakes, add_left_comm, add_assoc]
    · rw [same, Option.elim_some]
  refine following ended ?_
  rintro given _ reached rfl
  cases given with
  | none => exact give rfl (Demand.single_le proceeds)
  | some activity =>
    refine read (waiterOf_same task reached) ?_
    refine following ((World.Giving.abandonProgram _ activity).mono (List.subset_cons_self _ _)) ?_
    rintro _ _ abandoned rfl
    exact give rfl (Demand.single_le proceeds)

end Moves

end EventLoop
