import EventLoop.Proofs.Machine.Attendance
import EventLoop.Proofs.Sync.Doing

/-!
# What moves leave

A move leaves frames that fit and a signal that they can receive, attends to whatever waits there, and
has at stake what was at stake before. A callback that is about to run resolves no future of a queue.
-/
namespace EventLoop

open Script (Station Activity)
open World (Performs Ends Settled Engaged Deeds Parking leaving moving expiring trafficking hosting revoking
  requesting halting iterating notifying polling turning turningIf shelter)

/-! ## What moves may change -/

/-- Whether a loop begins an iteration when it is asked to run. -/
def Loop.isFree (loop : Loop) : Bool := !loop.closed && !loop.running

/-- Whether an instruction begins an iteration of a loop. -/
def Script.Instruction.iterates (loop : Loop) : Script.Instruction → Bool
  | runOnce times => times != 0
  | runForever | runUntilComplete .. => loop.isFree
  | _ => false

/-- Whether an instruction may close the loop. -/
def Script.Instruction.halts : Script.Instruction → Bool
  | loop .close | loop .giveUp | runForever | runUntilComplete .. => true
  | _ => false

/-- The aspects that change when an instruction is begun. -/
def Script.Instruction.aspects (loop : Loop) (instruction : Script.Instruction) : List Aspect :=
  if instruction.iterates loop then iterating
  else if instruction.halts then halting else instruction.base

/-- The aspects that change when a body goes on with its first instruction. -/
def bodyAspects (loop : Loop) : Script.Body → List Aspect
  | [] => moving
  | instruction :: _ => instruction.aspects loop

/-- The aspects that change when a reaction happens. -/
def Reaction.aspects : Reaction → List Aspect
  | received _ | sent _ => trafficking
  | accepted _ => hosting
  | script .. | wake _ | stopLoop | pipeRead => moving

/-- The aspects that change when a callback is run. -/
def Callback.aspects : Callback → List Aspect
  | step _ => polling
  | done _ reaction => reaction.aspects
  | connectionMade _ | startReading _ | connectionLost .. => trafficking
  | startAccepting _ => hosting
  | expire _ => expiring
  | script .. | readPipe | resolve _ => moving

/-- The aspects that change when a signal is acted on that asks for no turn at a gate. -/
def Signal.base (loop : Loop) : Signal → List Aspect
  | call callback => callback.aspects
  | script _ body | program _ _ body => bodyAspects loop body
  | _ => moving

/-- Whether an instruction of a program asks for a turn at a gate. -/
def Script.Instruction.asks : Script.Instruction → Bool
  | wait instruction => instruction.asks
  | guarded .. => true
  | _ => false

/-- Whether a program that waits asks for a turn at a gate when it is polled. -/
def Script.Pending.asks : Script.Pending → Bool
  | leaf waits => waits.asks
  | entering .. => true
  | holding .. | repeating .. | joining _ | selecting _ => false

/-- Whether a program is about to ask for a turn at a gate. -/
def Signal.asks : Signal → Bool
  | program _ _ (instruction :: _) => instruction.asks
  | retry _ pending => pending.asks
  | _ => false

/-- The aspects that change when a signal is acted on. -/
def Signal.aspects (loop : Loop) (signal : Signal) : List Aspect :=
  if signal.asks then turning else signal.base loop

/-- The aspects that a frame changes when it goes on. -/
def Frame.aspects : Frame → List Aspect
  | iteration _ => .taking :: moving
  | closing _ => .closing :: moving
  | poll _ => polling
  | repeated _ | running _ => iterating
  | afterData _ | afterEnd _ | afterLoss _ => trafficking
  | script .. | program .. | letGo _ | holding .. | rounds .. | joining .. | selecting .. => moving

/-- An instruction may change what most moves change. -/
theorem Script.Instruction.moving_subset (loop : Loop) (instruction : Script.Instruction) :
    moving ⊆ instruction.aspects loop := by
  unfold aspects
  split
  · exact World.moving_subset_iterating
  · split
    · exact List.subset_cons_self _ _
    · exact instruction.moving_subset_base

/-- Whatever moves change, a script or a program may change. -/
theorem moving_subset_bodyAspects (loop : Loop) (body : Script.Body) :
    moving ⊆ bodyAspects loop body := by
  cases body with
  | nil => exact List.Subset.refl _
  | cons instruction => exact instruction.moving_subset loop

/-- What holds of the aspects of each sort of callback holds of those of any. -/
theorem Callback.of_aspects {holds : List Aspect → Prop} (callback : Callback)
    (polls : ∀ task, callback = .step task → holds polling) (deals : holds trafficking)
    (serves : holds hosting) (expires : holds expiring) (otherwise : holds moving) :
    holds callback.aspects := by
  cases callback with
  | step task => exact polls task rfl
  | connectionMade | startReading | connectionLost => exact deals
  | startAccepting => exact serves
  | done _ reaction =>
    cases reaction with
    | received | sent => exact deals
    | accepted => exact serves
    | script | wake | stopLoop | pipeRead => exact otherwise
  | expire => exact expires
  | script | readPipe | resolve => exact otherwise

/-- A callback may change what most moves change. -/
theorem Callback.moving_subset (callback : Callback) : moving ⊆ callback.aspects :=
  @of_aspects (moving ⊆ ·) callback (fun _ _ => List.subset_cons_self _ _) (List.subset_cons_self _ _)
    (List.subset_cons_self _ _) (List.subset_cons_self _ _) (List.Subset.refl _)

/-- A signal with which a caller asks for its turn changes what callers do. -/
theorem Signal.aspects_of_asks {loop : Loop} {signal : Signal} (asks : signal.asks = true) :
    signal.aspects loop = turning := if_pos asks

/-- Any other signal changes what its base says. -/
theorem Signal.aspects_of_plain {loop : Loop} {signal : Signal} (plain : signal.asks = false) :
    signal.aspects loop = signal.base loop := by
  rw [aspects, plain]
  rfl

/-- What is tried again changes what callers do only if it asks for a turn. -/
theorem Signal.aspects_retry (loop : Loop) (task : TaskId) (pending : Script.Pending) :
    (Signal.retry task pending).aspects loop = turningIf pending.asks := by
  cases asks : pending.asks with
  | true => exact aspects_of_asks asks
  | false => exact aspects_of_plain asks

/-- What holds of the aspects that a turn changes and of those that other signals change holds of those
that all signals change. -/
theorem Signal.of_base {holds : List Aspect → Prop} {loop : Loop} {signal : Signal}
    (turns : holds turning) (base : holds (signal.base loop)) : holds (signal.aspects loop) := by
  unfold aspects
  split
  · exact turns
  · exact base

/-- What holds of all that callers change and of the base of a signal holds of all that the signal
changes. -/
theorem Signal.forall_aspects {holds : Aspect → Prop} {loop : Loop} {signal : Signal}
    (turns : ∀ aspect ∈ turning, holds aspect) (base : ∀ aspect ∈ signal.base loop, holds aspect) :
    ∀ aspect ∈ signal.aspects loop, holds aspect :=
  @of_base (fun aspects => ∀ aspect ∈ aspects, holds aspect) loop signal turns base

/-- What a turn does not change is changed by signals that ask for none. -/
theorem Signal.mem_base {loop : Loop} {signal : Signal} {aspect : Aspect}
    (member : aspect ∈ signal.aspects loop) (other : aspect ∉ turning) :
    aspect ∈ signal.base loop := by
  unfold aspects at member
  split at member
  · exact absurd member other
  · exact member

/-- A signal may change what most moves change. -/
theorem Signal.moving_subset (loop : Loop) (signal : Signal) : moving ⊆ signal.aspects loop := by
  refine of_base (List.subset_cons_self _ _) ?_
  cases signal with
  | call callback => exact callback.moving_subset
  | script _ body | program _ _ body => exact moving_subset_bodyAspects loop body
  | _ => exact List.Subset.refl _

/-- A frame may change what most moves change. -/
theorem Frame.moving_subset (frame : Frame) : moving ⊆ frame.aspects := by
  cases frame with
  | repeated | running => exact World.moving_subset_iterating
  | iteration | closing | poll | afterData | afterEnd | afterLoss => exact List.subset_cons_self _ _
  | _ => exact List.Subset.refl _

/-- What holds of the aspects of each sort of instruction holds of those of any. -/
theorem Script.Instruction.of_aspects {holds : List Aspect → Prop} (loop : Loop)
    (instruction : Script.Instruction) (iterates : holds iterating) (halts : holds halting)
    (deals : holds trafficking) (serves : holds hosting) (cancels : holds revoking)
    (requests : holds requesting) (notifies : holds notifying) (otherwise : holds moving) :
    holds (instruction.aspects loop) := by
  unfold aspects
  split
  · exact iterates
  · split
    · exact halts
    · exact of_base instruction deals serves cancels requests notifies otherwise

/-- What holds of each aspect that each sort of instruction changes holds of those that any changes. -/
theorem Script.Instruction.forall_aspects {holds : Aspect → Prop} (loop : Loop)
    (instruction : Script.Instruction) (iterates : ∀ aspect ∈ iterating, holds aspect)
    (halts : ∀ aspect ∈ halting, holds aspect) (deals : ∀ aspect ∈ trafficking, holds aspect)
    (serves : ∀ aspect ∈ hosting, holds aspect) (cancels : ∀ aspect ∈ revoking, holds aspect)
    (requests : ∀ aspect ∈ requesting, holds aspect) (notifies : ∀ aspect ∈ notifying, holds aspect)
    (otherwise : ∀ aspect ∈ moving, holds aspect) : ∀ aspect ∈ instruction.aspects loop, holds aspect :=
  @of_aspects (fun aspects => ∀ aspect ∈ aspects, holds aspect) loop instruction iterates halts deals
    serves cancels requests notifies otherwise

/-- What most moves change, and perhaps one thing more. -/
def IsPlain (aspects : List Aspect) : Prop :=
  aspects = moving ∨ aspects = trafficking ∨ aspects = hosting ∨ aspects = iterating ∨
    aspects = polling ∨ aspects = revoking ∨ aspects = requesting ∨ aspects = halting ∨
      aspects = expiring ∨ aspects = notifying

/-- Moving is plain. -/
theorem isPlain_moving : IsPlain moving := Or.inl rfl

/-- What has to do with transports is plain. -/
theorem isPlain_trafficking : IsPlain trafficking := Or.inr (Or.inl rfl)

/-- What is asked of the host is plain. -/
theorem isPlain_hosting : IsPlain hosting := Or.inr (Or.inr (Or.inl rfl))

/-- What an iteration does is plain. -/
theorem isPlain_iterating : IsPlain iterating := Or.inr (Or.inr (Or.inr (Or.inl rfl)))

/-- What polling does is plain. -/
theorem isPlain_polling : IsPlain polling := Or.inr (Or.inr (Or.inr (Or.inr (Or.inl rfl))))

/-- What is revoked is plain. -/
theorem isPlain_revoking : IsPlain revoking :=
  Or.inr (Or.inr (Or.inr (Or.inr (Or.inr (Or.inl rfl)))))

/-- What is asked on behalf of another thread is plain. -/
theorem isPlain_requesting : IsPlain requesting :=
  Or.inr (Or.inr (Or.inr (Or.inr (Or.inr (Or.inr (Or.inl rfl))))))

/-- What is done when the loop is to return is plain. -/
theorem isPlain_halting : IsPlain halting :=
  Or.inr (Or.inr (Or.inr (Or.inr (Or.inr (Or.inr (Or.inr (Or.inl rfl)))))))

/-- What is done when a time is up is plain. -/
theorem isPlain_expiring : IsPlain expiring :=
  Or.inr (Or.inr (Or.inr (Or.inr (Or.inr (Or.inr (Or.inr (Or.inr (Or.inl rfl))))))))

/-- What notifications do is plain. -/
theorem isPlain_notifying : IsPlain notifying :=
  Or.inr (Or.inr (Or.inr (Or.inr (Or.inr (Or.inr (Or.inr (Or.inr (Or.inr rfl))))))))

/-- What a script or a program does is plain. -/
theorem isPlain_bodyAspects (loop : Loop) (body : Script.Body) : IsPlain (bodyAspects loop body) := by
  cases body with
  | nil => exact isPlain_moving
  | cons instruction =>
    exact instruction.of_aspects loop isPlain_iterating isPlain_halting isPlain_trafficking
      isPlain_hosting isPlain_revoking isPlain_requesting isPlain_notifying isPlain_moving

/-- What a callback does is plain. -/
theorem Callback.isPlain_aspects (callback : Callback) : IsPlain callback.aspects :=
  callback.of_aspects (fun _ _ => isPlain_polling) isPlain_trafficking isPlain_hosting isPlain_expiring
    isPlain_moving

/-- A signal that asks for no turn changes what most moves change, and perhaps one thing more. -/
theorem Signal.isPlain_base (loop : Loop) (signal : Signal) : IsPlain (signal.base loop) := by
  cases signal with
  | call callback => exact callback.isPlain_aspects
  | script _ rest | program _ _ rest => exact isPlain_bodyAspects loop rest
  | _ => exact isPlain_moving

/-- No signal takes a callback or lets go of what waits when it is acted on. -/
theorem Signal.steady (loop : Loop) (signal : Signal) :
    Aspect.taking ∉ signal.aspects loop ∧ Aspect.closing ∉ signal.aspects loop := by
  have steady : Aspect.taking ∉ signal.base loop ∧ Aspect.closing ∉ signal.base loop := by
    rcases signal.isPlain_base loop with
      same | same | same | same | same | same | same | same | same | same
    all_goals
      rw [same]
      decide
  exact ⟨fun taking => steady.1 (mem_base taking (by decide)),
    fun closing => steady.2 (mem_base closing (by decide))⟩

/-! ## Who asks for a turn -/

/-- What most moves change, and perhaps one thing more, is no turn. -/
theorem IsPlain.turns_not_mem {aspects : List Aspect} (plain : IsPlain aspects) : .turns ∉ aspects := by
  rcases plain with rfl | rfl | rfl | rfl | rfl | rfl | rfl | rfl | rfl | rfl
  all_goals decide

/-- No frame takes a turn. -/
theorem Frame.turns_not_mem (frame : Frame) : .turns ∉ frame.aspects := by
  cases frame with
  | iteration => exact (by decide : Aspect.turns ∉ (.taking :: moving : List Aspect))
  | closing => exact (by decide : Aspect.turns ∉ (.closing :: moving : List Aspect))
  | poll => exact (by decide : Aspect.turns ∉ polling)
  | repeated | running => exact (by decide : Aspect.turns ∉ iterating)
  | afterData | afterEnd | afterLoss => exact (by decide : Aspect.turns ∉ trafficking)
  | script | program | letGo | holding | rounds | joining | selecting =>
    exact (by decide : Aspect.turns ∉ moving)

/-- Nobody who is released takes a turn. -/
theorem Ref.turns_not_mem (ref : Ref) : .turns ∉ ref.aspects := by
  cases ref with
  | future => exact (by decide : Aspect.turns ∉ (.deserting :: moving : List Aspect))
  | task | socket | transport | server => exact (by decide : Aspect.turns ∉ moving)

/-! ## What moves leave -/

/-- The stations of what a move leaves. -/
def Move.stations (move : Move) : List Station := move.2.stations ++ move.1.flatMap Frame.stations

/-- What a move leaves, on top of frames that can receive something and belong to a task. -/
structure Moved (held : List Ref) (strict : Prop) (down : Demand) (owner : Option TaskId)
    (rest : Multiset Stake) (move : Move) (left : Multiset Stake) (reached : World) : Prop where
  /-- What was at stake is at stake. -/
  stakes : left = stakesOf move.stations + rest
  /-- The frames fit. -/
  leads : Leads move.2.demand move.1 down
  /-- What the frames hold is attended to. -/
  frames : ∀ frame ∈ move.1, frame.Attended strict reached.loop
  /-- What the signal holds is attended to. -/
  signal : move.2.Attended strict reached.loop (ownerOver move.1 owner)
  /-- A callback that is about to run resolves no future of a queue. -/
  call : ∀ callback, move.2 = .call callback → reached.loop.dropped = [] ∧
    ∀ future ∈ callback.resolves?,
      reached.loop.Knows (shelter held (placesOf (left + reached.loop.stakes)) reached).known future

/-- A step makes a move. -/
def Moves (held : List Ref) (aspects : List Aspect) (strict : Prop) (down : Demand)
    (owner : Option TaskId) (own rest : Multiset Stake) (world : World) (step : WorldM Move) : Prop :=
  Ends held aspects own world step (Moved held strict down owner rest)
    (Moved held strict down owner rest)

/-- A signal that holds nothing of a program. -/
def Signal.isPlain : Signal → Bool
  | .proceed | .answer _ | .iterated _ | .script .. | .ended _ | .returned _ => true
  | .call _ | .program .. | .resume .. | .retry .. | .join .. | .select .. | .suspended _
  | .waiting _ => false

variable {held : List Ref} {aspects : List Aspect} {strict : Prop} {down : Demand}
variable {owner : Option TaskId} {own rest : Multiset Stake} {world reached : World}

namespace Moved

/-- A plain signal is given down. -/
theorem plain {frames : List Frame} {signal : Signal} (isPlain : signal.isPlain = true)
    (empty : frames.flatMap Frame.stations = []) (leads : Leads signal.demand frames down)
    (attended : ∀ frame ∈ frames, frame.Attended strict reached.loop) :
    Moved held strict down owner rest (frames, signal) rest reached := by
  cases signal with
  | proceed | answer | iterated | script | ended | returned =>
    refine ⟨?_, leads, attended, trivial, fun callback same => nomatch same⟩
    rw [Move.stations, empty]
    exact (zero_add rest).symm
  | call | program | resume | retry | join | select | suspended | waiting => cases isPlain

/-- A plain signal is given down and no frame is left. -/
theorem give {signal : Signal} (isPlain : signal.isPlain = true) (le : signal.demand ≤ down) :
    Moved held strict down owner rest ([], signal) rest reached :=
  plain isPlain rfl le fun _ member => nomatch member

/-- A frame below that holds nothing of a program. -/
theorem append {middle : Demand} {frames : List Frame} {frame : Frame} {signal : Signal}
    {left : Multiset Stake}
    (moved : Moved held strict middle frame.task? rest (frames, signal) left reached)
    (takes : frame.Takes middle) (le : frame.demand ≤ down) (empty : frame.stations = [])
    (attended : frame.Attended strict reached.loop) :
    Moved held strict down owner rest (frames ++ [frame], signal) left reached := by
  have further : Leads middle [frame] down := ⟨takes, le⟩
  refine ⟨?_, moved.leads.append further, ?_, ?_, moved.call⟩
  · rw [moved.stakes, Move.stations, Move.stations, List.flatMap_append, List.flatMap_singleton,
      empty, List.append_nil]
  · intro other member
    rcases List.mem_append.mp member with above | last
    · exact moved.frames other above
    · rw [List.mem_singleton.mp last]
      exact attended
  · have signal := moved.signal
    cases frames with
    | nil => exact signal
    | cons first others => exact signal

end Moved

namespace Moves

/-- Nothing more is done. -/
theorem pure {move : Move} (moved : Moved held strict down owner rest move own world) :
    Moves held aspects strict down owner own rest world (pure move) := (Performs.pure moved).ends

/-- A plain signal is given down. -/
theorem give {signal : Signal} (isPlain : signal.isPlain = true) (le : signal.demand ≤ down) :
    Moves held aspects strict down owner rest rest world (Machine.give signal) :=
  pure (.give isPlain le)

/-- Something is done first. -/
theorem following {α : Type} {step : WorldM α} {next : α → WorldM Move}
    {middle : α → Multiset Stake → World → Prop} (first : Performs held aspects own world step middle)
    (second : ∀ value left reached, middle value left reached →
      Moves held aspects strict down owner left rest reached (next value)) :
    Moves held aspects strict down owner own rest world (step >>= next) :=
  Ends.following first second

/-- Something is done first that leaves the stakes alone. -/
theorem after {α : Type} {step : WorldM α} {next : α → WorldM Move}
    (first : Performs held aspects own world step (leaving own))
    (second : ∀ value reached, world.Grows reached →
      Moves held aspects strict down owner own rest reached (next value)) :
    Moves held aspects strict down owner own rest world (step >>= next) := by
  refine following first.growing ?_
  rintro value _ reached ⟨rfl, grows⟩
  exact second value reached grows

/-- The state is read. -/
theorem get {next : World → WorldM Move}
    (rest' : Moves held aspects strict down owner own rest world (next world)) :
    Moves held aspects strict down owner own rest world (get >>= next) := Ends.get rest'

/-- Something is read. -/
theorem read {α : Type} {step : WorldM α} {next : α → WorldM Move} (same : (step world).2 = world)
    (rest' : Moves held aspects strict down owner own rest world (next (step world).1)) :
    Moves held aspects strict down owner own rest world (step >>= next) := Ends.read same rest'

/-- What moves by some aspects moves by more. -/
theorem mono {more : List Aspect} (fewer : aspects ⊆ more)
    (moves : Moves held aspects strict down owner own rest world step) :
    Moves held more strict down owner own rest world step := Ends.mono fewer moves

/-- A frame goes below what a step leaves. -/
theorem onto {middle : Demand} {frame : Frame} {step : WorldM Move}
    (first : Moves held aspects strict middle frame.task? own rest world step)
    (takes : frame.Takes middle) (le : frame.demand ≤ down) (empty : frame.stations = [])
    (attended : ∀ reached, world.Grows reached → frame.Attended strict reached.loop) :
    Moves held aspects strict down owner own rest world (do
      let (frames, signal) ← step
      return (frames ++ [frame], signal)) := by
  refine Ends.bind first.growing ?_ ?_
  · rintro move left reached ⟨moved, grows⟩
    exact pure (moved.append takes le empty (attended reached grows))
  · rintro move left reached ⟨moved, grows⟩
    exact ⟨rfl, moved.append takes le empty (attended reached grows)⟩

end Moves

end EventLoop
