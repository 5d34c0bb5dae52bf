import EventLoop.Proofs.Machine.Move
import EventLoop.Proofs.Machine.Sedate
import EventLoop.Proofs.Transport.Overseen

/-!
# The errands of the machine

A callback that is about to run and frames that wait for a protocol are errands for transports. Only a
callback that deals with a transport leaves such a frame, and only an iteration takes a callback from
the loop: all other moves are quiet.
-/
namespace EventLoop

open Net (Outlook)
open Script (Instruction)

/-- Whether a frame waits while the protocol of a transport is handed data. -/
def Frame.isAfterData (id : TransportId) : Frame → Bool
  | afterData transport => transport == id
  | script .. | program .. | repeated _ | running _ | iteration _ | letGo _ | afterEnd _ | afterLoss _
  | poll _ | holding .. | rounds .. | joining .. | selecting .. | closing _ => false

/-- Whether a frame waits while the protocol of a transport is told that the connection is lost. -/
def Frame.isAfterLoss (id : TransportId) : Frame → Bool
  | afterLoss transport => transport == id
  | script .. | program .. | repeated _ | running _ | iteration _ | letGo _ | afterData _ | afterEnd _
  | poll _ | holding .. | rounds .. | joining .. | selecting .. | closing _ => false

/-- Whether a frame waits for a protocol with which something of a transport goes on. -/
def Frame.attends : Frame → Bool
  | afterData _ | afterLoss _ => true
  | script .. | program .. | repeated _ | running _ | iteration _ | letGo _ | afterEnd _ | poll _
  | holding .. | rounds .. | joining .. | selecting .. | closing _ => false

/-- What a callback that is about to run is to bring to a transport. -/
def Callback.errand (callback : Callback) (id : TransportId) : Outlook where
  stirs := [callback].filter (·.stirs id)
  receipts := [callback].filterMap (·.replyTo? (Reaction.isReceipt id))
  dispatches := [callback].filterMap (·.replyTo? (Reaction.isDispatch id))

/-- What a signal is to bring to a transport. -/
def Signal.errand (signal : Signal) (id : TransportId) : Outlook :=
  match signal with
  | call callback => callback.errand id
  | _ => {}

/-- What a signal and the frames below it are to bring to transports. -/
def errandsOf (signal : Signal) (frames : List Frame) (id : TransportId) : Outlook :=
  { signal.errand id with
    handing := frames.countP (·.isAfterData id)
    losing := frames.countP (·.isAfterLoss id) }

/-- What the machine is to bring to transports. -/
def Machine.errands (machine : Machine) : TransportId → Outlook :=
  errandsOf machine.signal machine.frames

/-- A callback that is about no transport brings nothing to any. -/
theorem Callback.errand_of_apart {callback : Callback} (apart : callback.transport? = none)
    (id : TransportId) : callback.errand id = {} := by
  unfold errand
  rw [List.filterMap_cons_none (replyTo?_of_common (Reaction.concerns_isReceipt id) apart),
    List.filterMap_cons_none (replyTo?_of_common (Reaction.concerns_isDispatch id) apart),
    List.filter_cons_of_neg (ne_true_of_eq_false (stirs_of_apart apart id))]
  rfl

/-- The errands of a signal that brings nothing to transports are those of the frames. -/
theorem errandsOf_of_idle {signal : Signal} {above below : List Frame}
    (idle : ∀ id, signal.errand id = {}) (quiet : ∀ frame ∈ above, frame.attends = false) :
    errandsOf signal (above ++ below) = errandsOf .proceed below := by
  have data (id : TransportId) : above.countP (·.isAfterData id) = 0 := by
    refine List.countP_eq_zero.mpr fun frame member => ?_
    have away := quiet frame member
    cases frame with
    | afterData | afterLoss => cases away
    | _ => exact Bool.false_ne_true
  have loss (id : TransportId) : above.countP (·.isAfterLoss id) = 0 := by
    refine List.countP_eq_zero.mpr fun frame member => ?_
    have away := quiet frame member
    cases frame with
    | afterData | afterLoss => cases away
    | _ => exact Bool.false_ne_true
  funext id
  unfold errandsOf
  rw [idle, List.countP_append, List.countP_append, data, loss, Nat.zero_add, Nat.zero_add]
  rfl

/-! ## Quiet moves -/

/-- A signal that is no callback brings nothing to transports. -/
theorem Signal.errand_of_not_call {signal : Signal} (other : signal.isCall = false)
    (id : TransportId) : signal.errand id = {} := by
  cases signal with
  | call => cases other
  | _ => rfl

/-- A move leaves neither a callback that is about to run nor a frame that waits for a protocol. -/
structure Move.Quiet (move : Move) : Prop where
  /-- No frame waits for a protocol. -/
  frames : ∀ frame ∈ move.1, frame.attends = false
  /-- No callback is about to run. -/
  signal : move.2.isCall = false

/-- The errands after a quiet move are those of the frames below. -/
theorem Move.Quiet.errands {move : Move} (quiet : move.Quiet) (below : List Frame) :
    errandsOf move.2 (move.1 ++ below) = errandsOf .proceed below :=
  errandsOf_of_idle (Signal.errand_of_not_call quiet.signal) quiet.frames

/-- A step makes a quiet move. -/
def MovesQuietly (step : WorldM Move) : Prop := ∀ world, (step world).1.Quiet

namespace MovesQuietly

variable {α : Type}

/-- A quiet move may be returned. -/
theorem pure {move : Move} (quiet : move.Quiet) : MovesQuietly (pure move) := fun _ => quiet

/-- Something is done first. -/
theorem bind {step : WorldM α} {next : α → WorldM Move} (each : ∀ value, MovesQuietly (next value)) :
    MovesQuietly (step >>= next) := fun world => each (step world).1 (step world).2

/-- Giving a signal is quiet, unless a callback is to run. -/
theorem give {signal : Signal} (other : signal.isCall = false) :
    MovesQuietly (Machine.give signal) :=
  pure ⟨fun _ member => (nomatch member), other⟩

/-- One frame is left. -/
theorem leave {frame : Frame} {signal : Signal} (idle : frame.attends = false)
    (other : signal.isCall = false) :
    MovesQuietly (Pure.pure ([frame], signal)) :=
  pure ⟨fun _ member => List.mem_singleton.mp member ▸ idle, other⟩

/-- A sedate move is quiet. -/
theorem of_sedate {may : Prop} {step : WorldM Move} (sedate : MovesSedately may step) : MovesQuietly step := by
  have idle {frame : Frame} (plain : frame.isPlain = true) : frame.attends = false := by
    cases frame with
    | afterData | afterLoss => cases plain
    | _ => rfl
  intro world
  cases sedate world with
  | plain frames signal => exact ⟨fun frame member => idle (frames frame member), signal⟩
  | counted allowed earlier below frames rest signal =>
    refine ⟨fun frame member => ?_, by rw [signal]; rfl⟩
    rw [frames] at member
    rcases List.mem_cons.mp member with rfl | member
    · rfl
    · exact idle (rest frame member)

/-- Beginning an instruction is quiet, whoever runs it. -/
theorem beginInstruction (runner : Runner) (instruction : Instruction) :
    MovesQuietly (Machine.beginInstruction runner instruction) :=
  of_sedate (.beginInstruction trivial runner instruction)

/-- Taking the program out of a task is quiet. -/
theorem beginPoll (task : TaskId) : MovesQuietly (Machine.beginPoll task) := by
  refine bind fun result => ?_
  split
  · exact give rfl
  · refine bind fun _ => ?_
    split
    · exact bind fun _ => bind fun _ => leave rfl rfl
    · exact leave rfl rfl

/-! ### Callbacks and frames -/

/-- Callbacks that are about no transport move quietly. -/
theorem runCallback {callback : Callback} (apart : callback.transport? = none) :
    MovesQuietly (Machine.runCallback callback) := by
  cases callback with
  | connectionMade | startReading | connectionLost => cases apart
  | script => exact bind fun _ => give rfl
  | step task => exact beginPoll task
  | readPipe | resolve | expire | startAccepting => exact bind fun _ => give rfl
  | done future reaction =>
    cases reaction with
    | received | sent => cases apart
    | script => exact bind fun _ => bind fun _ => give rfl
    | wake | stopLoop | pipeRead | accepted => exact bind fun _ => give rfl

/-- Signals that ask for nothing about a transport move quietly. -/
theorem act {signal : Signal} {step : WorldM Move} (acts : Machine.act? signal = some step)
    (apart : ∀ callback, signal = .call callback → callback.transport? = none) : MovesQuietly step := by
  cases signal with
  | call callback =>
    cases acts
    exact runCallback (apart callback rfl)
  | _ => exact of_sedate (.act trivial acts rfl)

/-- Frames that do not take what waits move quietly. -/
theorem deliver {signal : Signal} {frame : Frame} (done : Machine.act? signal = none)
    (apart : IsApart frame.aspects) : MovesQuietly (Machine.deliver signal frame) := by
  refine of_sedate (.deliver done (fun left same => ?_) fun _ => trivial)
  rw [same] at apart
  exact absurd List.mem_cons_self apart.2.1

end MovesQuietly

end EventLoop
