import EventLoop.Proofs.Descriptors.Instructions
import EventLoop.Proofs.Machine.Run

/-!
# Moves and descriptors

No move of the machine leaves a descriptor loose, and only closing the whole loop dismisses the poller.
So what a run does about descriptors is a sequence of deals, with the closings that come of them.
-/
namespace EventLoop

open Script (Activity Pending Branch Body Instruction)
open World (Trades Deals)
open World.Trades (nothing first get aside record forM store optional)

/-- A step of the world leaves no descriptor loose. -/
def LeavesNone {α : Type} (step : WorldM α) : Prop :=
  ∀ world, Trades 0 world step World.cleared

namespace LeavesNone

variable {α : Type}

/-- Giving a signal concerns the machine alone. -/
theorem give (signal : Signal) : LeavesNone (Machine.give signal) := fun _ => nothing

/-- Something is done first. -/
theorem bind {step : WorldM α} {next : α → WorldM Move} (before : LeavesNone step)
    (each : ∀ value, LeavesNone (next value)) : LeavesNone (step >>= next) :=
  fun world => first (before world) each

/-- The state is read. -/
theorem read {next : World → WorldM Move} (each : ∀ world, LeavesNone (next world)) :
    LeavesNone (MonadState.get >>= next) := fun world => get (each world world)

/-- The loop alone changes. -/
theorem onLoop (transition : Loop → α × Loop) : LeavesNone (World.onLoop transition) :=
  fun _ => World.Trades.onLoop transition

/-- A transition of the loop has nothing to do with descriptors. -/
theorem changeLoop (transition : Loop → Loop) : LeavesNone (World.changeLoop transition) :=
  fun _ => World.Trades.changeLoop transition

/-- Asking for the waiter of a task changes nothing. -/
theorem waiterOf (task : TaskId) : LeavesNone (World.waiterOf task) :=
  fun _ => World.Trades.waiterOf task

/-! ## Runs of the loop -/

/-- An iteration begins with a poll and counts the callbacks that are ready then. -/
theorem beginIteration (within : Frame) : LeavesNone (Machine.beginIteration within) := by
  refine read fun world => ?_
  split
  · exact fun _ => nothing
  · refine bind (fun _ => aside rfl) fun _ => bind (onLoop _) fun _ =>
      bind (fun _ => World.Trades.poll _ _) fun result => ?_
    cases result with
    | error => exact fun _ => nothing
    | ok => exact bind (fun _ => aside rfl) fun _ => bind (onLoop _) fun _ _ => nothing

/-- The result of a run is read off, or taken from the future of its task. -/
theorem runResult (goal : Option TaskId) (result : Except Error Unit) :
    LeavesNone (Machine.runResult goal result) := by
  intro world
  unfold Machine.runResult
  split
  · exact nothing
  · exact nothing
  · refine get ?_
    dsimp only
    split
    · exact nothing
    · split
      · exact nothing
      · split
        · exact first (World.Trades.changeLoop _) fun _ _ => nothing
        · exact nothing

/-- Closing the loop is refused, is done already, or begins with its pipe. -/
theorem beginClose (refusal success : Value) : LeavesNone (Machine.beginClose refusal success) := by
  refine read fun world => ?_
  dsimp only
  split
  · exact give _
  · split
    · exact give _
    · exact bind (fun _ => World.Trades.beginClose) fun _ _ => nothing

/-- After the outermost run a loop that was given up is closed. -/
theorem leaveRun (value : Value) : LeavesNone (Machine.leaveRun value) := by
  refine bind (fun _ => aside rfl) fun _ => read fun world => ?_
  split
  · exact beginClose value value
  · exact give _

/-- Giving up the loop closes it as soon as no run of it is under way. -/
theorem giveUp : LeavesNone Machine.giveUp := by
  refine fun world => get (first (aside rfl) fun _ reached => ?_)
  split
  · exact beginClose _ _ reached
  · exact give _ reached

/-- The end of a run lets go of the task that it was for. -/
theorem endRun (goal : Option TaskId) (result : Except Error Unit) :
    LeavesNone (Machine.endRun goal result) := by
  refine bind (runResult goal result) fun value => ?_
  dsimp only
  split
  · exact bind (changeLoop _) fun _ => leaveRun value
  · exact leaveRun value

/-- A run begins by a check and a note of the loop. -/
theorem beginRun (goal : Option TaskId) : LeavesNone (Machine.beginRun goal) := by
  refine read fun world => ?_
  dsimp only
  split
  · exact endRun goal _
  · split
    · exact endRun goal _
    · exact bind (changeLoop _) fun _ => beginIteration _

/-- A run goes on with another iteration or ends. -/
theorem continueRun (goal : Option TaskId) (result : Except Error Unit) :
    LeavesNone (Machine.continueRun goal result) := by
  refine read fun world => ?_
  dsimp only
  split
  · exact beginIteration _
  · exact bind (changeLoop _) fun _ => endRun goal result

/-! ## Programs -/

/-- A guard is looked up by its name. -/
theorem guardFor? (instruction : Script.GuardInstruction) : LeavesNone (World.guardFor? instruction) := by
  intro world
  cases instruction with
  | lock | semaphore => exact first (World.Trades.named? _ _) fun _ _ => nothing

/-- A caller that has its turn enters the guarded body; otherwise it waits. -/
theorem tryEnter (waiter : World.Waiter) (guard : Guard) (body : Body)
    (granted : Except Wait Bool) : LeavesNone (Machine.tryEnter waiter guard body granted) := by
  unfold Machine.tryEnter
  split
  · exact give _
  · exact give _
  · exact bind (fun _ => record _ _ _) fun _ _ => nothing

/-- Beginning an instruction of a program leaves nothing loose, whichever it is. -/
theorem beginProgramInstruction (task : TaskId) (instruction : Instruction) :
    LeavesNone (Machine.beginProgramInstruction task instruction) := by
  unfold Machine.beginProgramInstruction
  split
  · exact bind (waiterOf task) fun _ => bind (fun _ => World.Trades.beginWait _ _) fun _ => give _
  · refine bind (waiterOf task) fun waiter => bind (guardFor? _) fun guard => ?_
    split
    · exact give _
    · exact bind (fun _ => World.Trades.beginTurn _ _ _) fun granted => tryEnter waiter _ _ granted
  · exact bind (waiterOf task) fun _ =>
      bind (fun _ => World.Trades.beginConnection _ _ _ _) fun _ => give _
  · split
    · exact give _
    · exact fun _ => nothing
  · exact give _
  · exact give _
  · exact give _
  · exact bind (fun _ => World.Trades.doInstruction _ _) fun _ => give _

/-- Beginning an instruction leaves nothing loose, whoever runs it. -/
theorem beginInstruction (runner : Runner) (instruction : Instruction) :
    LeavesNone (Machine.beginInstruction runner instruction) := by
  unfold Machine.beginInstruction
  split
  · split
    · exact give _
    · exact bind (fun _ => aside rfl) fun _ => beginIteration _
  · exact bind (fun _ => aside rfl) fun _ => beginRun none
  · refine bind (fun _ => aside rfl) fun _ => bind (fun _ => World.Trades.spawn _ _) fun task =>
      read fun world => ?_
    dsimp only
    split
    · exact bind (changeLoop _) fun _ => beginRun (some task)
    · exact beginRun (some task)
  · exact beginClose _ _
  · exact giveUp
  · split
    · exact beginProgramInstruction _ _
    · exact bind (fun _ => World.Trades.doInstruction _ _) fun _ => give _

/-- A frame goes below what a move leaves. -/
theorem onto {step : WorldM Move} {frame : Frame} (leaves : LeavesNone step) :
    LeavesNone (do
      let (frames, signal) ← step
      return (frames ++ [frame], signal)) := bind leaves fun _ _ => nothing

/-- A program goes on with its next instruction or ends. -/
theorem stepProgram (task : TaskId) (last : Value) (body : Body) :
    LeavesNone (Machine.stepProgram task last body) := by
  unfold Machine.stepProgram
  split
  · exact give _
  · exact give _
  · split
    · exact give _
    · exact give _
  · exact onto (beginInstruction _ _)

/-- A script goes on with its next instruction or ends. -/
theorem stepScript (actor : Actor) (body : Body) : LeavesNone (Machine.stepScript actor body) := by
  unfold Machine.stepScript
  split
  · exact give _
  · exact onto (beginInstruction _ _)

/-- A call that waits is tried again, and its program goes on or waits further. -/
theorem stepRetry (task : TaskId) (pending : Pending) :
    LeavesNone (Machine.stepRetry task pending) := by
  unfold Machine.stepRetry
  split
  · exact bind (waiterOf task) fun _ => bind (fun _ => World.Trades.tryLeaf _ _) fun _ => give _
  · exact bind (waiterOf task) fun waiter =>
      bind (fun _ => World.Trades.awaitTurn _ _ _) fun granted => tryEnter waiter _ _ granted
  · exact fun _ => nothing
  · exact fun _ => nothing
  · exact give _
  · exact give _

/-- A join polls its next branch; after the last one it has a value or waits. -/
theorem stepJoin (task : TaskId) (before after : List Branch) :
    LeavesNone (Machine.stepJoin task before after) := by
  unfold Machine.stepJoin
  split
  · dsimp only
    split
    · exact give _
    · exact give _
  · exact give _
  · exact fun _ => nothing

/-- A selection polls its next branch, or waits after the last one. -/
theorem stepSelect (task : TaskId) (before after : List Activity) :
    LeavesNone (Machine.stepSelect task before after) := by
  unfold Machine.stepSelect
  split
  · exact give _
  · exact fun _ => nothing

/-- The branches that lost are given up, in order. -/
theorem endSelect (before after : List Activity) (value : Value) :
    LeavesNone (Machine.endSelect before after value) :=
  bind (fun _ => forM fun activity _ => World.Trades.abandon activity) fun _ =>
    bind (fun _ => forM fun activity _ => World.Trades.abandon activity) fun _ => give _

/-- The end of a program finishes its task. -/
theorem endProgram (task : TaskId) (value : Value) : LeavesNone (Machine.endProgram task value) :=
  bind (waiterOf task) fun _ => bind (fun _ => World.Trades.recordEnd _) fun _ =>
    bind (changeLoop _) fun _ => give _

/-- A program that waits stays in its task, or is given up if the task was cancelled meanwhile. -/
theorem endPoll (task : TaskId) (activity : Activity) :
    LeavesNone (Machine.endPoll task activity) := by
  refine bind (onLoop _) fun result => ?_
  split
  · exact give _
  · exact bind (waiterOf task) fun _ =>
      bind (fun _ => World.Trades.abandonProgram _ _) fun _ => give _

/-! ## Callbacks -/

/-- A protocol stores its transport or sends data back before its script is run. -/
theorem heed (listener : Net.Listener) (id : TransportId) (notice : Net.Notice) :
    LeavesNone (listener.heed id notice) := by
  cases heeds : listener.heeds notice with
  | false =>
    rw [listener.heed_of_not_heeds heeds]
    exact fun _ => nothing
  | true =>
    rw [listener.heed_of_heeds heeds]
    refine fun world => first (record _ _ _) fun _ _ => ?_
    cases notice with
    | made => exact store _ _ _
    | data bytes =>
      unfold Net.Listener.prepare
      dsimp only
      split
      · exact World.Trades.echo _ _
      · exact nothing
    | endOfStream | lost => exact nothing

/-- Handing a notice to a protocol leaves no descriptor loose. -/
theorem handTo (id : TransportId) (notice : Net.Notice) (listener? : Option Net.Listener) :
    LeavesNone (Machine.handTo id notice listener?) := by
  cases listener? with
  | none => exact fun _ => nothing
  | some listener => exact bind (heed listener id notice) fun _ _ => nothing

/-- Telling a protocol that the connection is made runs its script. -/
theorem tellMade (id : TransportId) : LeavesNone (Machine.tellMade id) := by
  rw [Machine.tellMade_eq]
  exact bind (fun _ => World.Trades.tellProtocol _ _) (handTo id _)

/-- Telling a protocol of data runs its script, or sends the data back. -/
theorem tellData (id : TransportId) (data : Bytes) : LeavesNone (Machine.tellData id data) := by
  rw [Machine.tellData_eq]
  exact bind (fun _ => World.Trades.tellProtocol _ _) (handTo id _)

/-- Telling a protocol of the end of the stream runs its script. -/
theorem tellEnd (id : TransportId) : LeavesNone (Machine.tellEnd id) := by
  rw [Machine.tellEnd_eq]
  exact bind (fun _ => World.Trades.tellProtocol _ _) (handTo id _)

/-- Telling a protocol of the loss of the connection takes the protocol away first. -/
theorem tellLost (id : TransportId) (error : Option Error) :
    LeavesNone (Machine.tellLost id error) := by
  rw [Machine.tellLost_eq]
  exact bind (fun _ => World.Trades.takeProtocol _ _) (handTo id _)

/-- Reactions leave nothing loose, whichever they are. -/
theorem react (future : FutureId) (reaction : Reaction) :
    LeavesNone (Machine.react future reaction) := by
  cases reaction with
  | script => exact read fun _ => bind (fun _ => record _ _ _) fun _ => give _
  | wake | stopLoop => exact bind (changeLoop _) fun _ => give _
  | pipeRead => exact bind (fun _ => World.Trades.pipeRead future) fun _ => give _
  | received transport =>
    refine bind (fun _ => World.Trades.receiveEnded transport future) fun arrival => ?_
    split
    · exact give _
    · exact tellData transport _
    · exact tellEnd transport
  | sent transport => exact bind (fun _ => World.Trades.sendEnded transport future) fun _ => give _
  | accepted server => exact bind (fun _ => World.Trades.acceptEnded server future) fun _ => give _

/-- A poll takes the program out of its task, if the task is due and not over. -/
theorem beginPoll (task : TaskId) : LeavesNone (Machine.beginPoll task) := by
  refine bind (onLoop _) fun activity? => ?_
  split
  · exact give _
  · refine read fun world => ?_
    split
    · exact bind (waiterOf task) fun _ => bind (fun _ => record _ _ _) fun _ _ => nothing
    · exact fun _ => nothing

/-- Running a callback leaves nothing loose, whatever kind it is. -/
theorem runCallback (callback : Callback) : LeavesNone (Machine.runCallback callback) := by
  cases callback with
  | script => exact bind (fun _ => record _ _ _) fun _ => give _
  | step task => exact beginPoll task
  | done future reaction => exact react future reaction
  | readPipe => exact bind (fun _ => World.Trades.receiveFromPipe) fun _ => give _
  | resolve => exact bind (fun _ => World.Trades.grant _) fun _ => give _
  | expire => exact bind (fun _ => World.Trades.cancelAll _) fun _ => give _
  | connectionMade transport => exact tellMade transport
  | startReading => exact bind (fun _ => World.Trades.advance _ _) fun _ => give _
  | connectionLost transport error => exact tellLost transport error
  | startAccepting server => exact bind (fun _ => World.Trades.acceptNext server) fun _ => give _

/-- An iteration takes the next callback that is ready, or it is over. -/
theorem stepIteration (left : Nat) : LeavesNone (Machine.stepIteration left) := by
  cases left with
  | zero => exact give _
  | succ left =>
    refine bind (onLoop _) fun callback? => ?_
    split
    · exact give _
    · exact fun _ => nothing

/-- What a signal asks for leaves no descriptor loose. -/
theorem act {signal : Signal} {step : WorldM Move} (acts : Machine.act? signal = some step) :
    LeavesNone step := by
  cases signal with
  | proceed | answer | iterated | ended | returned | suspended | waiting => cases acts
  | call callback =>
    cases acts
    exact runCallback callback
  | script actor rest =>
    cases acts
    exact stepScript actor rest
  | program task last rest =>
    cases acts
    exact stepProgram task last rest
  | resume task activity =>
    cases acts
    split
    · exact give _
    · exact fun _ => nothing
  | retry task pending =>
    cases acts
    exact stepRetry task pending
  | join task before after =>
    cases acts
    exact stepJoin task before after
  | select task before after =>
    cases acts
    exact stepSelect task before after

/-! ## Frames -/

/-- Every frame but the one that closes the loop goes on without leaving anything loose. -/
theorem proceedWith (frame : Frame) (other : ∀ value, frame ≠ .closing value) :
    LeavesNone (Machine.proceedWith frame) := by
  cases frame with
  | closing value => exact absurd rfl (other value)
  | iteration left => exact stepIteration left
  | letGo => exact bind (changeLoop _) fun _ => give _
  | afterData | afterEnd => exact bind (fun _ => World.Trades.advance _ _) fun _ => give _
  | afterLoss => exact bind (fun _ => World.Trades.closeTransportSocket _) fun _ => give _
  | script | program | repeated | running | poll | holding | rounds | joining | selecting =>
    exact give _

/-- A frame that hears an answer leaves nothing loose. -/
theorem answerTo (value : Value) (frame : Frame) : LeavesNone (Machine.answerTo value frame) := by
  unfold Machine.answerTo
  split
  · exact bind (fun _ => record _ _ _) fun _ => give _
  · exact bind (waiterOf _) fun _ => bind (fun _ => record _ _ _) fun _ => give _
  · exact give _

/-- A frame that hears that an iteration is over leaves nothing loose. -/
theorem iteratedTo (result : Except Error Unit) (frame : Frame) :
    LeavesNone (Machine.iteratedTo result frame) := by
  unfold Machine.iteratedTo
  split
  · split
    · exact leaveRun _
    · exact leaveRun _
    · exact beginIteration _
  · exact continueRun _ result
  · exact give _

/-- A frame that hears that a body has ended leaves nothing loose. -/
theorem endedTo (early : Bool) (value : Value) (frame : Frame) :
    LeavesNone (Machine.endedTo early value frame) := by
  unfold Machine.endedTo
  split
  · exact give _
  · exact endProgram _ value
  · exact bind (fun _ => World.Trades.releaseGuard _) fun _ => give _
  · split
    · exact give _
    · split
      · exact give _
      · exact fun _ => nothing
  · exact give _
  · exact endSelect _ _ value
  · exact give _

/-- A frame that hears that its program waits keeps what it is to go on with. -/
theorem suspendedTo (activity : Activity) (frame : Frame) :
    LeavesNone (Machine.suspendedTo activity frame) := by
  unfold Machine.suspendedTo
  split
  · exact endPoll _ activity
  · exact give _
  · exact give _
  · exact give _
  · exact give _
  · exact give _

/-- A frame that hears that an instruction waits keeps it for later. -/
theorem waitingTo (pending : Pending) (frame : Frame) :
    LeavesNone (Machine.waitingTo pending frame) := by
  unfold Machine.waitingTo
  split
  · exact give _
  · exact give _

/-- What a frame does when it receives a signal leaves no descriptor loose, if the frame does not close
the loop. -/
theorem deliver (signal : Signal) {frame : Frame} (other : ∀ value, frame ≠ .closing value) :
    LeavesNone (Machine.deliver signal frame) := by
  cases signal with
  | call | script | program | resume | retry | join | select => exact give _
  | answer value => exact answerTo value frame
  | iterated result => exact iteratedTo result frame
  | ended value => exact endedTo false value frame
  | returned value => exact endedTo true value frame
  | suspended activity => exact suspendedTo activity frame
  | waiting pending => exact waitingTo pending frame
  | proceed => exact proceedWith frame other

/-- What is left loose at the end was loose at the beginning. -/
theorem deals {step : WorldM α} (leaves : LeavesNone step) (world : World) :
    ∃ closings, Deals True (0, world) closings (0, (step world).2) := by
  obtain ⟨closings, owed, deals, rfl⟩ := leaves world 0
  exact ⟨closings, deals.mono False.elim⟩

end LeavesNone

/-! ## Steps of a run -/

namespace Machine

/-- The poller, if it is there, is closed with the whole loop. -/
theorem deals_closePoller (world : World) :
    ∃ closings, Deals True (0, world) closings (0, (World.closePoller world).2) := by
  rcases world with ⟨host, settings, loop, completer, _⟩
  cases completer with
  | scripted scripted => exact ⟨[], .refl⟩
  | engine engine =>
    obtain ⟨poller?, registrations, limit⟩ := engine
    cases poller? with
    | none => exact ⟨[], .refl⟩
    | some poller => exact ⟨_, .single (.dismissed 0 _ _ poller rfl rfl trivial)⟩

/-- Delivering a signal may end the closing of the loop, so the deals are those of a loop that may close
its poller. -/
theorem deals_deliver (signal : Signal) (frame : Frame) (world : World) :
    ∃ closings, Deals True (0, world) closings (0, (deliver signal frame world).2) := by
  by_cases other : ∀ value, frame ≠ .closing value
  · exact (LeavesNone.deliver signal other).deals world
  · obtain ⟨value, closes⟩ := not_forall.mp other
    rw [not_not.mp closes]
    cases signal with
    | proceed =>
      obtain ⟨closings, deals⟩ := deals_closePoller world
      exact ⟨closings ++ [], deals.tail (.still 0 (.of_devices rfl))⟩
    | call | script | program | resume | retry | join | select | answer | iterated | ended | returned
    | suspended | waiting => exact ⟨[], .refl⟩

/-- What a step of the world does about descriptors does not depend on what is held. -/
theorem deals_inWorld {α : Type} {machine : Machine} {step : WorldM α}
    (deals : ∀ world, ∃ closings, Deals True (0, world) closings (0, (step world).2)) :
    ∃ closings, Deals True (0, machine.world) closings (0, (machine.inWorld step).2) := by
  obtain ⟨closings, deals⟩ := deals { machine.world with held := machine.held }
  have holds : Deals True (0, machine.world) [] (0, { machine.world with held := machine.held }) :=
    .single (.still 0 (.of_devices rfl))
  exact ⟨[] ++ closings, holds.trans deals⟩

/-- The world at the beginning of a step. When an instruction from outside is begun, what was written
down was taken. -/
def outset (machine : Machine) : World :=
  match machine.next with
  | some _ => machine.world
  | none => (Scenario.takeLog machine.world).2

/-- A machine that moves by itself sets out from where it is. -/
theorem outset_of_moves {machine after : Machine} (moves : machine.next = some after) :
    machine.outset = machine.world := by
  unfold outset
  rw [moves]

/-- A machine that has halted sets out when what was written down was taken. -/
theorem outset_of_halted {machine : Machine} (halted : machine.next = none) :
    machine.outset = (Scenario.takeLog machine.world).2 := by
  unfold outset
  rw [halted]

/-- The world at the beginning of a step differs from that of the state in what is written down at most. -/
theorem outset_eq (machine : Machine) : machine.outset = { machine.world with
    host := { machine.world.host with journal := machine.outset.host.journal } } := by
  unfold outset
  split
  · rfl
  · rfl

/-- What a step does about descriptors, with the closings that come of it. -/
theorem Step.deals {before after : Machine} (step : Step before after) :
    ∃ closings, Deals True (0, before.outset) closings (0, after.world) := by
  cases step.does with
  | settled dropped =>
    rw [outset_of_moves (next_of_dropped dropped)]
    exact deals_inWorld (LeavesNone.deals fun _ => World.Trades.settleDropped _ _)
  | acted clean acts =>
    rw [outset_of_moves (next_of_act clean acts)]
    exact deals_inWorld (LeavesNone.act acts).deals
  | delivered clean done split =>
    rw [outset_of_moves (next_of_done clean done split)]
    exact deals_inWorld (deals_deliver _ _)
  | begun halted instruction =>
    rw [outset_of_halted halted]
    exact @deals_inWorld _ ⟨(Scenario.takeLog before.world).2, [], .proceed⟩ _
      (LeavesNone.beginInstruction .outside instruction).deals

end Machine

end EventLoop
