import EventLoop.Machine.Basic
import EventLoop.World.Instructions

/-!
# Moves of the machine

`Machine.next` makes one move: the next instruction, callback or poll is begun, or the innermost frame
receives what was just done. References that were given up are looked at before anything else. The
machine halts when nothing is left to go on with.
-/
namespace EventLoop

open Script (Activity Pending Branch Body Instruction Leaf)
open Net (Arrival)

/-- What a move leaves: frames on top of those below, and a signal. -/
abbrev Move := List Frame × Signal

namespace Machine

/-- Goes on with the frames below. -/
def give (signal : Signal) : WorldM Move := return ([], signal)

/-- Writes the value of an instruction down. -/
def report (actor : Actor) (label : String) (value : Value) : WorldM Unit :=
  World.record actor.text label value

/-! ## Running the loop -/

/-- How a run treats a wait that nothing can end: as an interruption if it is a run of single
iterations, and otherwise as a deadlock. -/
def endlessWithin : Frame → World.Endless
  | .repeated _ => .interrupted
  | _ => .deadlock

/-- Begins an iteration within a frame: the completer is polled, and then the callbacks that are ready
follow. -/
def beginIteration (within : Frame) : WorldM Move := do
  if (← get).loop.closed then return ([within], .iterated (.error .loopClosed))
  else
    let time ← World.now
    let patience ← World.onLoop (·.prepare time)
    match ← World.poll (endlessWithin within) patience with
    | .error error => return ([within], .iterated (.error (.ofIo error)))
    | .ok () =>
      let time ← World.now
      let count ← World.onLoop (·.gather time)
      return ([.iteration count, within], .proceed)

/-- The result of a run of the loop, or of the task that it was for. -/
def runResult (goal : Option TaskId) (result : Except Error Unit) : WorldM Value := do
  match goal, result with
  | none, result => return World.doneValue result
  | some _, .error error => return World.errorValue error
  | some id, .ok () =>
    let world ← get
    match world.loop.tasks.get? id with
    | none => return World.errorValue .stoppedEarly
    | some task => match world.loop.futures.get? task.result with
      | none => return World.errorValue .stoppedEarly
      | some future =>
        if future.isDone then
          let (outcome, future) := future.take
          World.changeLoop fun loop =>
            { loop with futures := loop.futures.modify task.result fun _ => future }
          return world.outcomeValue outcome
        else return World.errorValue .stoppedEarly

/-- Begins to close the loop; afterwards there is a value. A running loop refuses, and a closed one has
nothing left to do. -/
def beginClose (refusal success : Value) : WorldM Move := do
  let loop := (← get).loop
  if loop.running then give (.answer refusal)
  else if loop.closed then give (.answer success)
  else
    World.beginClose
    return ([.closing success], .proceed)

/-- Gives the loop up, which closes it as soon as no run of it is under way. -/
def giveUp : WorldM Move := do
  let world ← get
  let existed := Value.bool !world.givenUp
  set { world with givenUp := true }
  if world.runs = 0 then beginClose existed existed else give (.answer existed)

/-- Takes note that a run of the loop begins. -/
def enterRun : WorldM Unit := modify fun world => { world with runs := world.runs + 1 }

/-- Takes note that a run of the loop has ended with a value. After the outermost one a loop that was
given up is closed. -/
def leaveRun (value : Value) : WorldM Move := do
  modify fun world => { world with runs := world.runs - 1 }
  let world ← get
  if world.givenUp && world.runs = 0 then beginClose value value else give (.answer value)

/-- Ends a run of the loop; a task that it was for is let go of. -/
def endRun (goal : Option TaskId) (result : Except Error Unit) : WorldM Move := do
  let value ← runResult goal result
  if let some task := goal then World.drop (.task task)
  leaveRun value

/-- Begins to run the loop until it is asked to return. A loop that is closed or running refuses. -/
def beginRun (goal : Option TaskId) : WorldM Move := do
  let loop := (← get).loop
  if loop.closed then endRun goal (.error .loopClosed)
  else if loop.running then endRun goal (.error .loopRunning)
  else
    World.changeLoop fun loop => { loop with running := true }
    beginIteration (.running goal)

/-- Goes on after an iteration of a run: with the next one, unless it failed or the loop was asked to
return. -/
def continueRun (goal : Option TaskId) (result : Except Error Unit) : WorldM Move := do
  let stopping := (← get).loop.stopping
  if result.toBool && !stopping then beginIteration (.running goal)
  else
    World.changeLoop fun loop => { loop with stopping := false, running := false }
    endRun goal result

/-! ## Programs -/

/-- What becomes of an instruction that was begun or tried again. -/
def ofAnswer : World.Answer → Signal
  | .ok value => .answer value
  | .error leaf => .waiting (.leaf leaf)

/-- Holds what was asked for and begins the body. -/
def enter (task : TaskId) (name : String) (guard : Guard) (body : Body) : WorldM Move := do
  World.record (Actor.task name).text "guard" (.bool true)
  return ([.holding task guard], .program task .null body)

/-- Goes on with an instruction that asks for something to hold. -/
def tryEnter (waiter : World.Waiter) (guard : Guard) (body : Body)
    (granted : Except Wait Bool) : WorldM Move := do
  match granted with
  | .error wait => give (.waiting (.entering guard wait body))
  | .ok false => give (.answer (.bool false))
  | .ok true => enter waiter.task waiter.name guard body

/-- Begins an instruction of a program that may have to wait; others finish at once. -/
def beginProgramInstruction (task : TaskId) : Instruction → WorldM Move
  | .wait instruction => do
    give (ofAnswer (← World.beginWait (← World.waiterOf task) instruction))
  | .guarded resource timeout body => do
    let waiter ← World.waiterOf task
    match ← World.guardFor? resource with
    | none => give (.answer .null)
    | some guard => tryEnter waiter guard body (← World.beginTurn waiter guard.gate timeout)
  | .createConnection name target script => do
    give (ofAnswer (← World.beginConnection (← World.waiterOf task) name target script))
  | .repeated count body =>
    match count with
    | 0 => give (.answer .null)
    | count + 1 => return ([.rounds task count body], .program task .null body)
  | .join branches => give (.join task [] (branches.map fun body => .active (.fresh body)))
  | .select [] => give (.answer (.list []))
  | .select branches => give (.select task [] (branches.map .fresh))
  | instruction => do give (.answer (← World.doInstruction none instruction))

/-- Begins an instruction. -/
def beginInstruction (runner : Runner) : Instruction → WorldM Move
  | .runOnce times =>
    match times with
    | 0 => give (.answer (.ok .null))
    | times + 1 => do
      enterRun
      beginIteration (.repeated times)
  | .runForever => do
    enterRun
    beginRun none
  | .runUntilComplete name body => do
    enterRun
    let task ← World.spawn name body
    if let some entry := (← get).loop.tasks.get? task then
      World.changeLoop (·.whenDone entry.result .stopLoop)
    beginRun (some task)
  | .loop .close => beginClose (World.errorValue .closeWhileRunning) (.ok .null)
  | .loop .giveUp => giveUp
  | instruction =>
    match runner with
    | .program task => beginProgramInstruction task instruction
    | runner => do give (.answer (← World.doInstruction runner.protocol? instruction))

/-- Goes on with a program after a value. -/
def stepProgram (task : TaskId) (last : Value) : Body → WorldM Move
  | [] => give (.ended last)
  | .ret value :: _ => give (.returned value)
  | .retIf value :: rest =>
    if last == value then give (.returned last) else give (.program task last rest)
  | instruction :: rest => do
    let (frames, signal) ← beginInstruction (.program task) instruction
    return (frames ++ [.program task instruction.label rest], signal)

/-- Goes on with a script. -/
def stepScript (actor : Actor) : Body → WorldM Move
  | [] => give .proceed
  | instruction :: rest => do
    let (frames, signal) ← beginInstruction (.script actor) instruction
    return (frames ++ [.script actor instruction.label rest], signal)

/-- Tries an instruction that waits again. -/
def stepRetry (task : TaskId) : Pending → WorldM Move
  | .leaf leaf => do give (ofAnswer (← World.tryLeaf (← World.waiterOf task) leaf))
  | .entering guard wait body => do
    let waiter ← World.waiterOf task
    tryEnter waiter guard body (← World.awaitTurn waiter guard.gate wait)
  | .holding guard inner => return ([.holding task guard], .resume task inner)
  | .repeating left body inner => return ([.rounds task left body], .resume task inner)
  | .joining branches => give (.join task [] branches)
  | .selecting branches => give (.select task [] branches)

/-- The values of branches that have all ended. -/
def endedValues? : List Branch → Option (List Value)
  | [] => some []
  | .ended value :: rest => (endedValues? rest).map (value :: ·)
  | .active _ :: _ => none

/-- Polls the next branch of a join that has not ended. After the last one, the join has a value if
all have ended. -/
def stepJoin (task : TaskId) (before : List Branch) : List Branch → WorldM Move
  | [] =>
    let branches := before.reverse
    match endedValues? branches with
    | some values => give (.answer (.list values))
    | none => give (.waiting (.joining branches))
  | .ended value :: after => give (.join task (.ended value :: before) after)
  | .active activity :: after => return ([.joining task before after], .resume task activity)

/-- Polls the next branch of a selection. -/
def stepSelect (task : TaskId) (before : List Activity) : List Activity → WorldM Move
  | [] => give (.waiting (.selecting before.reverse))
  | activity :: after => return ([.selecting task before after], .resume task activity)

/-- Ends a selection with the value of a branch; the other branches are given up in order. -/
def endSelect (before after : List Activity) (value : Value) : WorldM Move := do
  before.reverse.forM World.abandon
  after.forM World.abandon
  give (.answer (.list [.nat before.length, value]))

/-- Ends a poll of a task whose program ended. -/
def endProgram (task : TaskId) (value : Value) : WorldM Move := do
  World.recordEnd (← World.waiterOf task).name
  World.changeLoop (·.complete task value)
  give .proceed

/-- Ends a poll of a task whose program has to wait. If the task was cancelled meanwhile, its program
is given up. -/
def endPoll (task : TaskId) (activity : Activity) : WorldM Move := do
  match ← World.onLoop (·.endPoll task activity) with
  | none => give .proceed
  | some activity =>
    World.abandonProgram (← World.waiterOf task).name activity
    give .proceed

/-! ## Callbacks -/

/-- Tells the protocol of a transport that the connection is made. -/
def tellMade (id : TransportId) : WorldM Move := do
  match ← World.tellProtocol id .made with
  | none => give .proceed
  | some protocol =>
    let actor := Actor.protocol protocol.name
    World.record actor.text "made" .null
    World.store .transport protocol.name id
    give (.script actor protocol.script.made)

/-- Hands data to the protocol of a transport. -/
def tellData (id : TransportId) (data : Bytes) : WorldM Move := do
  match ← World.tellProtocol id (.data data) with
  | none => return ([.afterData id], .proceed)
  | some protocol =>
    let actor := Actor.protocol protocol.name
    World.record actor.text "data" (.ofBytes data)
    if protocol.script.echo then World.echo protocol.name data
    return ([.afterData id], .script actor protocol.script.data)

/-- Tells the protocol of a transport that the peer sends nothing more. -/
def tellEnd (id : TransportId) : WorldM Move := do
  match ← World.tellProtocol id .endOfStream with
  | none => return ([.afterEnd id], .proceed)
  | some protocol =>
    if protocol.script.minimal then return ([.afterEnd id], .proceed)
    else
      let actor := Actor.protocol protocol.name
      World.record actor.text "eof" .null
      return ([.afterEnd id], .script actor protocol.script.eof)

/-- Tells the protocol of a transport that the connection is lost. -/
def tellLost (id : TransportId) (error : Option Error) : WorldM Move := do
  match ← World.takeProtocol id error with
  | none => return ([.afterLoss id], .proceed)
  | some protocol =>
    if protocol.script.minimal then return ([.afterLoss id], .proceed)
    else
      let actor := Actor.protocol protocol.name
      let value := match error with
        | some error => World.errorValue error
        | none => .null
      World.record actor.text "lost" value
      return ([.afterLoss id], .script actor protocol.script.lost)

/-- Does what a future that is done brings about. -/
def react (future : FutureId) : Reaction → WorldM Move
  | .script name body => do
    let world ← get
    let actor := Actor.done name
    World.record actor.text (world.loop.futureState future).text
      (world.outcomeValue (world.loop.resultOf future))
    give (.script actor body)
  | .wake cell => do
    World.changeLoop (·.wakeCell cell)
    give .proceed
  | .stopLoop => do
    World.changeLoop fun loop => { loop with stopping := true }
    give .proceed
  | .pipeRead => do
    World.pipeRead future
    give .proceed
  | .received transport => do
    match ← World.receiveEnded transport future with
    | .nothing => give .proceed
    | .data data => tellData transport data
    | .endOfStream => tellEnd transport
  | .sent transport => do
    World.sendEnded transport future
    give .proceed
  | .accepted server => do
    World.acceptEnded server future
    give .proceed

/-- Begins the poll of a task that is due. -/
def beginPoll (task : TaskId) : WorldM Move := do
  match ← World.onLoop (·.beginPoll task) with
  | none => give .proceed
  | some activity =>
    if (← get).host.journal.settings.tasks then
      World.record (Actor.task (← World.waiterOf task).name).text "poll" .null
    return ([.poll task], .resume task activity)

/-- Runs a callback. -/
def runCallback : Callback → WorldM Move
  | .script actor body => do
    World.record actor.text "run" .null
    give (.script actor body)
  | .step task => beginPoll task
  | .done future reaction => react future reaction
  | .readPipe => do
    World.receiveFromPipe
    give .proceed
  | .resolve future => do
    World.grant [future]
    give .proceed
  | .expire future => do
    World.cancelAll [future]
    give .proceed
  | .connectionMade transport => tellMade transport
  | .startReading transport => do
    World.advance transport (·.receiveNext)
    give .proceed
  | .connectionLost transport error => tellLost transport error
  | .startAccepting server => do
    World.acceptNext server
    give .proceed

/-- Runs the next callback of an iteration. -/
def stepIteration : Nat → WorldM Move
  | 0 => give (.iterated (.ok ()))
  | left + 1 => do
    match ← World.onLoop (·.takeReady) with
    | none => give (.iterated (.ok ()))
    | some callback => return ([.letGo callback.refs, .iteration left], .call callback)

/-! ## Frames -/

/-- The innermost frame goes on. -/
def proceedWith : Frame → WorldM Move
  | .iteration left => stepIteration left
  | .letGo refs => do
    World.changeLoop (·.drop refs)
    give .proceed
  | .afterData transport => do
    World.advance transport (·.receiveNext)
    give .proceed
  | .afterEnd transport => do
    World.advance transport (·.close)
    give .proceed
  | .afterLoss transport => do
    World.closeTransportSocket transport
    give .proceed
  | .closing value => do
    World.finishClose
    give (.answer value)
  | .script .. | .program .. | .repeated _ | .running _ | .poll _ | .holding .. | .rounds ..
  | .joining .. | .selecting .. => give .proceed

/-- The innermost frame receives the value of an instruction. -/
def answerTo (value : Value) : Frame → WorldM Move
  | .script actor label rest => do
    report actor label value
    give (.script actor rest)
  | .program task label rest => do
    report (.task (← World.waiterOf task).name) label value
    give (.program task value rest)
  | _ => give (.answer value)

/-- The innermost frame receives the end of an iteration. -/
def iteratedTo (result : Except Error Unit) : Frame → WorldM Move
  | .repeated left =>
    match left, result with
    | _, .error error => leaveRun (World.errorValue error)
    | 0, .ok () => leaveRun (.ok .null)
    | left + 1, .ok () => beginIteration (.repeated left)
  | .running goal => continueRun goal result
  | _ => give (.iterated result)

/-- The innermost frame receives the end of a program; `early` says whether the program was told to
end. -/
def endedTo (early : Bool) (value : Value) : Frame → WorldM Move
  | .program .. => give (.returned value)
  | .poll task => endProgram task value
  | .holding _ guard => do
    World.releaseGuard guard
    give (if early then .returned value else .answer value)
  | .rounds task left body =>
    if early then give (.returned value)
    else match left with
      | 0 => give (.answer value)
      | left + 1 => return ([.rounds task left body], .program task .null body)
  | .joining task before after => give (.join task (.ended value :: before) after)
  | .selecting _ before after => endSelect before after value
  | _ => give (.returned value)

/-- The innermost frame receives a program that has to wait. -/
def suspendedTo (activity : Activity) : Frame → WorldM Move
  | .poll task => endPoll task activity
  | .holding _ guard => give (.waiting (.holding guard activity))
  | .rounds _ left body => give (.waiting (.repeating left body activity))
  | .joining task before after => give (.join task (.active activity :: before) after)
  | .selecting task before after => give (.select task (activity :: before) after)
  | _ => give (.suspended activity)

/-- The innermost frame receives an instruction that has to wait. -/
def waitingTo (pending : Pending) : Frame → WorldM Move
  | .program _ label rest => give (.suspended (.paused pending label rest))
  | _ => give (.waiting pending)

/-- The move that follows a signal which a frame receives. -/
def deliver : Signal → Frame → WorldM Move
  | .proceed, frame => proceedWith frame
  | .answer value, frame => answerTo value frame
  | .iterated result, frame => iteratedTo result frame
  | .ended value, frame => endedTo false value frame
  | .returned value, frame => endedTo true value frame
  | .suspended activity, frame => suspendedTo activity frame
  | .waiting pending, frame => waitingTo pending frame
  | signal, _ => give signal

/-- The move that a signal makes by itself, if it asks for something to be done. -/
def act? : Signal → Option (WorldM Move)
  | .call callback => some (runCallback callback)
  | .script actor rest => some (stepScript actor rest)
  | .program task last rest => some (stepProgram task last rest)
  | .resume task activity => some (match activity with
    | .fresh body => give (.program task .null body)
    | .paused pending label rest => return ([.program task label rest], .retry task pending))
  | .retry task pending => some (stepRetry task pending)
  | .join task before after => some (stepJoin task before after)
  | .select task before after => some (stepSelect task before after)
  | .proceed | .answer _ | .iterated _ | .ended _ | .returned _ | .suspended _ | .waiting _ => none

/-- Makes a step of the world, in which all that the machine holds stays alive. -/
def inWorld {α : Type} (machine : Machine) (step : WorldM α) : α × World :=
  step { machine.world with held := machine.held }

/-- Makes a move in front of some frames. -/
def move (machine : Machine) (below : List Frame) (step : WorldM Move) : Machine :=
  let ((frames, signal), world) := machine.inWorld step
  { world, frames := frames ++ below, signal }

/-- One move of the machine, unless it has halted. -/
def next (machine : Machine) : Option Machine :=
  match machine.world.loop.dropped with
  | ref :: rest =>
    some { machine with world := (machine.inWorld (World.settleDropped ref rest)).2 }
  | [] =>
    match act? machine.signal with
    | some step => some (machine.move machine.frames step)
    | none =>
      match machine.frames with
      | [] => none
      | frame :: below => some (machine.move below (deliver machine.signal frame))

/-- Moves until the machine halts, at most the given number of times. -/
def run : Nat → Machine → Machine
  | 0, machine => machine
  | moves + 1, machine =>
    match machine.next with
    | none => machine
    | some machine => run moves machine

/-- The most moves that one instruction from outside may take. -/
def moveLimit : Nat := 1_000_000_000_000_000

/-- The value of a signal on which the machine has halted. -/
def valueOf : Signal → Value
  | .answer value => value
  | _ => .null

/-- Does one instruction from outside. -/
def execute (instruction : Instruction) (world : World) : Value × World :=
  let start := Machine.move ⟨world, [], .proceed⟩ [] (beginInstruction .outside instruction)
  let final := start.run moveLimit
  (valueOf final.signal, final.world)

end Machine

end EventLoop
