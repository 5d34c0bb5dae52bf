import EventLoop.Proofs.Effect.Step
import EventLoop.Proofs.Machine.Stack

/-!
# Sedate moves

Most moves leave nothing but frames of scripts, of programs and of runs. A move that begins an iteration
leaves a frame with the number of the callbacks that are ready just then as well. Only callbacks that
poll a task or deal with a transport leave anything else, and only an iteration runs a callback.
-/
namespace EventLoop

open Script (Activity Pending Branch Body Instruction)

/-- Whether a signal is a callback that is about to run. -/
def Signal.isCall : Signal → Bool
  | call _ => true
  | proceed | answer _ | iterated _ | script .. | program .. | resume .. | retry .. | join ..
  | select .. | ended _ | returned _ | suspended _ | waiting _ => false

namespace Signal

variable {signal : Signal}

/-- A signal with which no callback is called is no call. -/
theorem isCall_eq_false (quiet : ∀ callback, signal ≠ .call callback) : signal.isCall = false := by
  cases signal with
  | call callback => exact absurd rfl (quiet callback)
  | _ => rfl

/-- A signal that is no call calls no callback. -/
theorem ne_call_of_isCall (other : signal.isCall = false) (callback : Callback) : signal ≠ .call callback := by
  rintro rfl
  cases other

/-- A signal that asks for nothing to be done is no call. -/
theorem isCall_of_done (done : Machine.act? signal = none) : signal.isCall = false := by
  cases signal with
  | call => cases done
  | _ => rfl

end Signal

/-- Whether a frame belongs to a script, to a program or to a run. -/
def Frame.isPlain : Frame → Bool
  | script .. | program .. | repeated _ | running _ | holding .. | rounds .. | joining ..
  | selecting .. | closing _ => true
  | iteration _ | letGo _ | afterData _ | afterEnd _ | afterLoss _ | poll _ => false

/-- A move runs no callback and leaves frames of scripts, programs and runs, or it begins an iteration, which
only some moves may. -/
inductive Move.Sedate (may : Prop) (move : Move) (world : World) : Prop
  /-- Frames of scripts, programs and runs are left. -/
  | plain (frames : ∀ frame ∈ move.1, frame.isPlain = true) (signal : move.2.isCall = false)
  /-- An iteration is begun: its frame has the number of callbacks that are ready. -/
  | counted (allowed : may) (earlier : World) (below : List Frame)
      (frames : move.1 = .iteration (earlier.loop.gather earlier.host.kernel.now).1 :: below)
      (plain : ∀ frame ∈ below, frame.isPlain = true) (signal : move.2 = .proceed)
      (gathered : world = { earlier with
        loop := (earlier.loop.gather earlier.host.kernel.now).2 })

/-- A frame goes below what a sedate move leaves. -/
theorem Move.Sedate.onto {may : Prop} {move : Move} {world : World} {frame : Frame}
    (sedate : move.Sedate may world) (plain : frame.isPlain = true) :
    Move.Sedate may (move.1 ++ [frame], move.2) world := by
  have extended {frames : List Frame} (above : ∀ other ∈ frames, other.isPlain = true) :
      ∀ other ∈ frames ++ [frame], other.isPlain = true := by
    intro other member
    rcases List.mem_append.mp member with here | last
    · exact above other here
    · rw [List.mem_singleton.mp last]
      exact plain
  cases sedate with
  | plain frames signal => exact .plain (extended frames) signal
  | counted allowed earlier below frames rest signal gathered =>
    refine .counted allowed earlier (below ++ [frame]) ?_ (extended rest) signal gathered
    rw [frames]
    rfl

/-- A step makes a sedate move. -/
def MovesSedately (may : Prop) (step : WorldM Move) : Prop :=
  ∀ world, (step world).1.Sedate may (step world).2

namespace MovesSedately

variable {α : Type} {may : Prop}

/-- Something is done first. -/
theorem bind {step : WorldM α} {next : α → WorldM Move} (each : ∀ value, MovesSedately may (next value)) :
    MovesSedately may (step >>= next) := fun world => each (step world).1 (step world).2

/-- Giving a signal is sedate, unless a callback is to run. -/
theorem give {signal : Signal} (other : signal.isCall = false) :
    MovesSedately may (Machine.give signal) := fun _ => .plain (fun _ member => nomatch member) other

/-- One frame is left. -/
theorem leave {frame : Frame} {signal : Signal} (plain : frame.isPlain = true)
    (other : signal.isCall = false) : MovesSedately may (Pure.pure ([frame], signal)) :=
  fun _ => .plain (fun _ member => List.mem_singleton.mp member ▸ plain) other

/-- A frame goes below what a sedate move leaves. -/
theorem onto {step : WorldM Move} {frame : Frame} (sedate : MovesSedately may step)
    (plain : frame.isPlain = true) :
    MovesSedately may (do
      let (frames, signal) ← step
      return (frames ++ [frame], signal)) := fun world => (sedate world).onto plain

/-! ## Runs of the loop -/

/-- Beginning an iteration is a sedate move where that is allowed: its frame has the number of callbacks
that are ready. -/
theorem beginIteration (allowed : may) {within : Frame} (plain : within.isPlain = true) :
    MovesSedately may (Machine.beginIteration within) := by
  refine bind fun world => ?_
  split
  · exact leave plain rfl
  · refine bind fun _ => bind fun _ => bind fun result => ?_
    cases result with
    | error => exact leave plain rfl
    | ok =>
      refine fun reached => .counted allowed reached [within] rfl (fun frame member => ?_) rfl rfl
      rw [List.mem_singleton.mp member]
      exact plain

/-- Beginning to close the loop is a sedate move. -/
theorem beginClose (refusal success : Value) :
    MovesSedately may (Machine.beginClose refusal success) := by
  refine bind fun world => ?_
  dsimp only
  split
  · exact give rfl
  · split
    · exact give rfl
    · exact bind fun _ => leave rfl rfl

/-- Leaving a run is a sedate move. -/
theorem leaveRun (value : Value) : MovesSedately may (Machine.leaveRun value) := by
  refine bind fun _ => bind fun world => ?_
  split
  · exact beginClose value value
  · exact give rfl

/-- Giving the loop up is a sedate move. -/
theorem giveUp : MovesSedately may Machine.giveUp := by
  refine bind fun world => bind fun _ => ?_
  split
  · exact beginClose _ _
  · exact give rfl

/-- Ending a run is a sedate move. -/
theorem endRun (goal : Option TaskId) (result : Except Error Unit) :
    MovesSedately may (Machine.endRun goal result) := by
  refine bind fun value => ?_
  dsimp only
  split
  · exact bind fun _ => leaveRun value
  · exact leaveRun value

/-- Beginning a run is a sedate move where an iteration is allowed. -/
theorem beginRun (allowed : may) (goal : Option TaskId) : MovesSedately may (Machine.beginRun goal) := by
  refine bind fun world => ?_
  dsimp only
  split
  · exact endRun goal _
  · split
    · exact endRun goal _
    · exact bind fun _ => beginIteration allowed rfl

/-- Going on after an iteration of a run is a sedate move where an iteration is allowed. -/
theorem continueRun (allowed : may) (goal : Option TaskId) (result : Except Error Unit) :
    MovesSedately may (Machine.continueRun goal result) := by
  refine bind fun world => ?_
  dsimp only
  split
  · exact beginIteration allowed rfl
  · exact bind fun _ => endRun goal result

/-! ## Programs -/

/-- What becomes of a call that was begun or tried again is told by a sedate move. -/
theorem ofAnswer (answer : World.Answer) :
    MovesSedately may (Machine.give (Machine.ofAnswer answer)) := by
  cases answer with
  | ok => exact give rfl
  | error => exact give rfl

/-- Going on with an instruction that asks for something to hold is a sedate move. -/
theorem tryEnter (waiter : World.Waiter) (guard : Guard) (body : Body)
    (granted : Except Wait Bool) : MovesSedately may (Machine.tryEnter waiter guard body granted) := by
  unfold Machine.tryEnter
  split
  · exact give rfl
  · exact give rfl
  · exact bind fun _ => leave rfl rfl

/-- Beginning an instruction of a program is a sedate move. -/
theorem beginProgramInstruction (task : TaskId) (instruction : Instruction) :
    MovesSedately may (Machine.beginProgramInstruction task instruction) := by
  unfold Machine.beginProgramInstruction
  split
  · exact bind fun _ => bind ofAnswer
  · refine bind fun waiter => bind fun guard => ?_
    split
    · exact give rfl
    · exact bind fun granted => tryEnter waiter _ _ granted
  · exact bind fun _ => bind ofAnswer
  · split
    · exact give rfl
    · exact leave rfl rfl
  · exact give rfl
  · exact give rfl
  · exact give rfl
  · exact bind fun _ => give rfl

/-- Beginning an instruction is a sedate move. -/
theorem beginInstruction (allowed : may) (runner : Runner) (instruction : Instruction) :
    MovesSedately may (Machine.beginInstruction runner instruction) := by
  unfold Machine.beginInstruction
  split
  · split
    · exact give rfl
    · exact bind fun _ => beginIteration allowed rfl
  · exact bind fun _ => beginRun allowed none
  · refine bind fun _ => bind fun task => bind fun world => ?_
    dsimp only
    split
    · exact bind fun _ => beginRun allowed (some task)
    · exact beginRun allowed (some task)
  · exact beginClose _ _
  · exact giveUp
  · split
    · exact beginProgramInstruction _ _
    · exact bind fun _ => give rfl

/-- Going on with a program is a sedate move. -/
theorem stepProgram (allowed : may) (task : TaskId) (last : Value) (body : Body) :
    MovesSedately may (Machine.stepProgram task last body) := by
  unfold Machine.stepProgram
  split
  · exact give rfl
  · exact give rfl
  · split
    · exact give rfl
    · exact give rfl
  · exact onto (beginInstruction allowed _ _) rfl

/-- Going on with a script is a sedate move. -/
theorem stepScript (allowed : may) (actor : Actor) (body : Body) :
    MovesSedately may (Machine.stepScript actor body) := by
  unfold Machine.stepScript
  split
  · exact give rfl
  · exact onto (beginInstruction allowed _ _) rfl

/-- Going on with a join is a sedate move. -/
theorem stepJoin (task : TaskId) (before after : List Branch) :
    MovesSedately may (Machine.stepJoin task before after) := by
  unfold Machine.stepJoin
  split
  · dsimp only
    split
    · exact give rfl
    · exact give rfl
  · exact give rfl
  · exact leave rfl rfl

/-- Going on with a selection is a sedate move. -/
theorem stepSelect (task : TaskId) (before after : List Activity) :
    MovesSedately may (Machine.stepSelect task before after) := by
  unfold Machine.stepSelect
  split
  · exact give rfl
  · exact leave rfl rfl

/-- Trying an instruction that waits again is a sedate move. -/
theorem stepRetry (task : TaskId) (pending : Pending) :
    MovesSedately may (Machine.stepRetry task pending) := by
  unfold Machine.stepRetry
  split
  · exact bind fun _ => bind ofAnswer
  · exact bind fun waiter => bind fun granted => tryEnter waiter _ _ granted
  · exact leave rfl rfl
  · exact leave rfl rfl
  · exact give rfl
  · exact give rfl

/-- Putting a program back into its task is a sedate move. -/
theorem endPoll (task : TaskId) (activity : Activity) :
    MovesSedately may (Machine.endPoll task activity) := by
  refine bind fun result => ?_
  split
  · exact give rfl
  · exact bind fun _ => bind fun _ => give rfl

/-- A signal that neither runs a callback nor goes on with a script or a program begins no iteration. -/
theorem actAside {signal : Signal} {step : WorldM Move} (acts : Machine.act? signal = some step)
    (other : signal.isCall = false) (script : ∀ actor body, signal ≠ .script actor body)
    (program : ∀ task last body, signal ≠ .program task last body) : MovesSedately may step := by
  cases signal with
  | proceed | answer | iterated | ended | returned | suspended | waiting => cases acts
  | call callback => cases other
  | script actor rest => exact absurd rfl (script actor rest)
  | program task last rest => exact absurd rfl (program task last rest)
  | resume task activity =>
    cases acts
    split
    · exact give rfl
    · exact leave rfl rfl
  | retry task pending =>
    cases acts
    exact stepRetry task pending
  | join task before after =>
    cases acts
    exact stepJoin task before after
  | select task before after =>
    cases acts
    exact stepSelect task before after

/-- A signal that asks for something else than a callback makes a sedate move. -/
theorem act (allowed : may) {signal : Signal} {step : WorldM Move}
    (acts : Machine.act? signal = some step) (other : signal.isCall = false) :
    MovesSedately may step := by
  cases signal with
  | script actor rest =>
    cases acts
    exact stepScript allowed actor rest
  | program task last rest =>
    cases acts
    exact stepProgram allowed task last rest
  | _ => exact actAside acts other nofun nofun

/-! ## Frames -/

/-- Going on with a frame is a sedate move, unless it is an iteration. -/
theorem proceedWith (frame : Frame) (other : ∀ left, frame ≠ .iteration left) :
    MovesSedately may (Machine.proceedWith frame) := by
  cases frame with
  | iteration left => exact absurd rfl (other left)
  | letGo | afterData | afterEnd | afterLoss | closing => exact bind fun _ => give rfl
  | script | program | repeated | running | poll | holding | rounds | joining | selecting =>
    exact give rfl

/-- Handing a value to a frame is a sedate move. -/
theorem answerTo (value : Value) (frame : Frame) : MovesSedately may (Machine.answerTo value frame) := by
  unfold Machine.answerTo
  split
  · exact bind fun _ => give rfl
  · exact bind fun _ => bind fun _ => give rfl
  · exact give rfl

/-- Handing the end of an iteration to a frame is a sedate move where an iteration is allowed. -/
theorem iteratedTo (result : Except Error Unit) {frame : Frame} (allowed : frame.isRun = true → may) :
    MovesSedately may (Machine.iteratedTo result frame) := by
  unfold Machine.iteratedTo
  split
  · split
    · exact leaveRun _
    · exact leaveRun _
    · exact beginIteration (allowed rfl) rfl
  · exact continueRun (allowed rfl) _ result
  · exact give rfl

/-- Handing the end of a program to a frame is a sedate move. -/
theorem endedTo (early : Bool) (value : Value) (frame : Frame) :
    MovesSedately may (Machine.endedTo early value frame) := by
  have either (early : Bool) :
      MovesSedately may (Machine.give (if early then .returned value else .answer value)) := by
    cases early with
    | true => exact give rfl
    | false => exact give rfl
  unfold Machine.endedTo
  split
  · exact give rfl
  · exact bind fun _ => bind fun _ => bind fun _ => give rfl
  · exact bind fun _ => either early
  · split
    · exact give rfl
    · split
      · exact give rfl
      · exact leave rfl rfl
  · exact give rfl
  · exact bind fun _ => bind fun _ => give rfl
  · exact give rfl

/-- Handing a program that waits to a frame is a sedate move. -/
theorem suspendedTo (activity : Activity) (frame : Frame) :
    MovesSedately may (Machine.suspendedTo activity frame) := by
  unfold Machine.suspendedTo
  split
  · exact endPoll _ activity
  · exact give rfl
  · exact give rfl
  · exact give rfl
  · exact give rfl
  · exact give rfl

/-- Handing an instruction that waits to a frame is a sedate move. -/
theorem waitingTo (pending : Pending) (frame : Frame) :
    MovesSedately may (Machine.waitingTo pending frame) := by
  unfold Machine.waitingTo
  split
  · exact give rfl
  · exact give rfl

/-- A frame other than that of an iteration makes a sedate move, and only that of a run begins an
iteration. -/
theorem deliver {signal : Signal} {frame : Frame} (done : Machine.act? signal = none)
    (other : ∀ left, frame ≠ .iteration left) (allowed : frame.isRun = true → may) :
    MovesSedately may (Machine.deliver signal frame) := by
  cases signal with
  | call | script | program | resume | retry | join | select => cases done
  | answer value => exact answerTo value frame
  | iterated result => exact iteratedTo result allowed
  | ended value => exact endedTo false value frame
  | returned value => exact endedTo true value frame
  | suspended activity => exact suspendedTo activity frame
  | waiting pending => exact waitingTo pending frame
  | proceed => exact proceedWith frame other

end MovesSedately

end EventLoop
